import CodeReport.Files.Tree

/-!
# Access to files

What a command may do: ask whether a path leads to something, read and write
whole files, and print. A command is written for any access. What it does is
stated for a world that is a value, a tree of files and the text that was
printed; the program gives it access to the real one.
-/

namespace CodeReport

/-- What a command may do in a world whose effects are those of `m`. -/
structure Access (m : Type → Type) where
  /-- Whether a path leads to something. -/
  contains : String → m Bool
  /-- The bytes of a file. -/
  read : String → m (Except FileFault Bytes)
  /-- Put bytes into a file, new or not. -/
  write : String → Bytes → m (Except FileFault Unit)
  /-- Print a text. -/
  print : String → m Unit

/-- A world as a value. -/
structure World where
  files : FileTree
  printed : String
  deriving Repr, DecidableEq

namespace World

/-- A world with files in which nothing was printed. -/
def ofFiles (files : FileTree) : World := ⟨files, ""⟩

/-- The world after a text was printed. -/
def print (world : World) (text : String) : World :=
  { world with printed := world.printed ++ text }

/-- What writing to a path brings, and the world after it; a fault leaves the world as it was. -/
def write (world : World) (path : String) (bytes : Bytes) : Except FileFault Unit × World :=
  match world.files.write path bytes with
  | .ok files => (.ok (), { world with files })
  | .error fault => (.error fault, world)

/-- Access to a world as a value. -/
def access : Access (StateM World) where
  contains path := fun world => (world.files.contains path, world)
  read path := fun world => (world.files.read path, world)
  write path bytes := fun world => world.write path bytes
  print text := fun world => ((), world.print text)

end World

end CodeReport
