import CodeReport.Text.Lines

/-!
# Paths

A path is a text whose segments are divided by slashes. Empty segments and the
segment `.` lead nowhere, so they are left out. The extension is what follows
the last point of the last segment; a name that has no other point than one at
its start has none.
-/

namespace CodeReport.Path

/-- The segments of a path that lead somewhere. -/
def segments (path : String) : List String :=
  ((Text.split '/' path.toList).map String.ofList).filter fun segment =>
    segment != "" && segment != "."

/-- The name of the file that a path leads to, unless it leads upwards at its end. -/
def fileName? (path : String) : Option String :=
  (segments path).getLast?.filter (· != "..")

/-- The extension of a name. -/
def extensionOf? (name : String) : Option String :=
  let reversed := name.toList.reverse
  match reversed.dropWhile (· != '.') with
  | _ :: _ :: _ => some (String.ofList (reversed.takeWhile (· != '.')).reverse)
  | _ => none

/-- The extension of the file that a path leads to. -/
def extension? (path : String) : Option String :=
  (fileName? path).bind extensionOf?

end CodeReport.Path
