import CodeReport.Command.Run

/-!
# The program in the real world

Gives a run access to the real files and to the standard streams, and ends with
its exit code.
-/

namespace CodeReport

/-- The fault that an error of the operating system is. -/
def FileFault.ofError : IO.Error → FileFault
  | .noFileOrDirectory .. => .notFound
  | error => .other (toString error)

/-- What an action brings, or its fault. -/
def FileFault.catching {α : Type} (action : IO α) : IO (Except FileFault α) := do
  match ← action.toBaseIO with
  | .ok value => return .ok value
  | .error error => return .error (.ofError error)

/-- Access to the real world. -/
def realAccess : Access IO where
  contains path := do
    return (← FileFault.catching (IO.FS.realPath path)).toBool
  read path := FileFault.catching do
    return (← IO.FS.readBinFile path).toList
  write path bytes := FileFault.catching (IO.FS.writeBinFile path (ByteArray.mk bytes.toArray))
  print text := do
    let output ← IO.getStdout
    output.putStr text
    output.flush

/-- The environment variables that a run looks at. -/
def realVariables : IO Command.Variables := do
  let names := (Command.Parameter.standIn? .endpoint).toList ++ Command.Screen.variableNames
  names.filterMapM fun name => do
    return (← IO.getEnv name).map fun value => (name, value)

end CodeReport

/-- Run the program with the words of its command line. -/
def main (words : List String) : IO UInt32 := do
  let environment ← CodeReport.realVariables
  let terminal ← (← IO.getStdout).isTty
  let setting : CodeReport.Command.Setting :=
    ⟨environment, .ofVariables environment terminal, .disconnected⟩
  let ending ← CodeReport.Command.run CodeReport.realAccess setting words
  let errors ← IO.getStderr
  let emphasis := CodeReport.Command.Screen.wantsEmphasis environment (← errors.isTty)
  errors.putStr (ending.complaint emphasis)
  return UInt32.ofNat ending.code
