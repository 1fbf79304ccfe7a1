import CodeReport.Files.Path

/-!
# File trees

A tree of files and directories below one root. Files are listed with their contents, by
the segments that lead to them from the root. What leads to a file or to a listed
directory is a directory too, and so is the root. A path is followed segment by segment:
an absolute one from the root on, any other one from the working directory.

The tree has no links, and everything in it may be read and written. A path is refused
for one of a few causes, which are worded as an operating system words them, and in the
order in which it notices them.
-/

namespace CodeReport

/-- The bytes of a file. -/
abbrev Bytes := List UInt8

/-- Why a file is not read or written. -/
inductive FileFault where
  | notFound
  | notADirectory
  | isADirectory
  | nameTooLong
  /-- The name holds a character that no name may hold. -/
  | nameWithZero
  /-- The bytes are no UTF-8. -/
  | notText
  /-- A cause that the operating system words itself. -/
  | other (wording : String)
  deriving Repr, DecidableEq

/-- The wording of a fault. -/
def FileFault.message : FileFault → String
  | .notFound => "No such file or directory (os error 2)"
  | .notADirectory => "Not a directory (os error 20)"
  | .isADirectory => "Is a directory (os error 21)"
  | .nameTooLong => "File name too long (os error 36)"
  | .nameWithZero => "file name contained an unexpected NUL byte"
  | .notText => "stream did not contain valid UTF-8"
  | .other wording => wording

/-- Files and directories by the segments that lead to them from the root. -/
structure FileTree where
  files : List (List String × Bytes)
  /-- Directories, also those that hold nothing. -/
  directories : List (List String)
  /-- The directory that relative paths begin at. -/
  working : List String
  deriving Repr, DecidableEq

namespace FileTree

/-- The greatest number of bytes of a segment. -/
def longestSegment : Nat := 255

/-- The greatest number of bytes of a path. -/
def longestPath : Nat := 4095

/-- What a path leads to. -/
inductive Node where
  | file (location : List String) (bytes : Bytes)
  | directory (location : List String)
  deriving Repr

/-- Whether a location is a directory: it leads to the working directory, to a listed one or to a
    file below it. The root leads everywhere. -/
def isDirectory (tree : FileTree) (location : List String) : Bool :=
  location.isPrefixOf tree.working || tree.directories.any location.isPrefixOf ||
    tree.files.any fun file => location.isPrefixOf file.1 && location.length < file.1.length

/-- What lies at a location. -/
def at? (tree : FileTree) (location : List String) : Option Node :=
  match tree.files.lookup location with
  | some bytes => some (.file location bytes)
  | none => if tree.isDirectory location then some (.directory location) else none

/-- Follow the segments of a path from a node on. The root lies above itself. -/
def follow (tree : FileTree) : Node → List String → Except FileFault Node
  | node, [] => .ok node
  | .file .., _ :: _ => .error .notADirectory
  | .directory location, segment :: rest =>
    if segment = "" || segment = "." then tree.follow (.directory location) rest
    else if segment = ".." then tree.follow (.directory location.dropLast) rest
    else if longestSegment < segment.utf8ByteSize then .error .nameTooLong
    else
      match tree.at? (location ++ [segment]) with
      | some node => tree.follow node rest
      | none => .error .notFound

/-- The directory that a path begins at, and the segments that are followed from there, also those
    that lead nowhere. -/
def course (tree : FileTree) (path : String) : Except FileFault (List String × List String) :=
  if path.toList.contains '\x00' then .error .nameWithZero
  else if path.isEmpty then .error .notFound
  else if longestPath < path.utf8ByteSize then .error .nameTooLong
  else
    match (Text.split '/' path.toList).map String.ofList with
    | "" :: segments => .ok ([], segments)
    | segments => .ok (tree.working, segments)

/-- What a path leads to. -/
def resolve (tree : FileTree) (path : String) : Except FileFault Node :=
  match tree.course path with
  | .error fault => .error fault
  | .ok (start, segments) => tree.follow (.directory start) segments

/-- Whether a path leads to something. -/
def contains (tree : FileTree) (path : String) : Bool :=
  match tree.resolve path with
  | .ok _ => true
  | .error _ => false

/-- The bytes of the file that a path leads to. -/
def read (tree : FileTree) (path : String) : Except FileFault Bytes :=
  match tree.resolve path with
  | .error fault => .error fault
  | .ok (.directory _) => .error .isADirectory
  | .ok (.file _ bytes) => .ok bytes

/-- Put bytes under a location, in the place of the file that is there. -/
def put (location : List String) (bytes : Bytes) :
    List (List String × Bytes) → List (List String × Bytes)
  | [] => [(location, bytes)]
  | file :: rest =>
    if file.1 = location then (location, bytes) :: rest else file :: put location bytes rest

/-- Where a file is written: at an existing file, or under a new name in an existing directory. The
    name is the last segment; a path that ends with a slash names no file. -/
def target (tree : FileTree) (path : String) : Except FileFault (List String) :=
  match tree.course path with
  | .error fault => .error fault
  | .ok (start, segments) =>
    match segments.reverse.dropWhile (· == "") with
    | [] => .error .isADirectory
    | name :: before =>
      match tree.follow (.directory start) before.reverse with
      | .error fault => .error fault
      | .ok (.file ..) => .error .notADirectory
      | .ok (.directory location) =>
        if name = "." || name = ".." || segments.getLast? = some "" then .error .isADirectory
        else if longestSegment < name.utf8ByteSize then .error .nameTooLong
        else if tree.isDirectory (location ++ [name]) then .error .isADirectory
        else .ok (location ++ [name])

/-- The tree after bytes were written to a path. -/
def write (tree : FileTree) (path : String) (bytes : Bytes) : Except FileFault FileTree :=
  (tree.target path).map fun location => { tree with files := put location bytes tree.files }

end FileTree

/-- The bytes of a text in UTF-8. -/
def bytesOfText (text : String) : Bytes :=
  text.toUTF8.toList

/-- The text that some bytes are in UTF-8. -/
def textOfBytes (bytes : Bytes) : Except FileFault String :=
  match String.fromUTF8? (ByteArray.mk bytes.toArray) with
  | some text => .ok text
  | none => .error .notText

end CodeReport
