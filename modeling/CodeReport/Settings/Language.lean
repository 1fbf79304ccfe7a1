import CodeReport.Files.Path
import CodeReport.Text.Letters

/-!
# Languages of source files

The language of a file is told from the extension of its name, in any letter
case. What is not listed has no language.
-/

namespace CodeReport.Language

/-- The language that is assumed of a file without one. -/
def assumed : String := "python"

/-- The languages with the extensions of their files. -/
def extensions : List (String × List String) :=
  [ ("python", ["py", "pyw"]),
    ("javascript", ["js", "mjs", "cjs", "jsx"]),
    ("typescript", ["ts", "mts", "cts", "tsx"]),
    ("java", ["java"]),
    ("cpp", ["cpp", "cc", "cxx", "hpp", "hh", "hxx"]),
    ("c", ["c", "h"]),
    ("csharp", ["cs"]),
    ("go", ["go"]),
    ("rust", ["rs"]),
    ("ruby", ["rb"]),
    ("php", ["php"]),
    ("swift", ["swift"]),
    ("kotlin", ["kt", "kts"]),
    ("scala", ["scala"]),
    ("bash", ["sh", "bash"]),
    ("sql", ["sql"]) ]

/-- The language of files with an extension. -/
def ofExtension? (extension : String) : Option String :=
  (extensions.find? fun language => language.2.contains (Text.lowerCase extension)).map Prod.fst

/-- The language of the file that a path leads to. -/
def ofPath? (path : String) : Option String :=
  (Path.extension? path).bind ofExtension?

end CodeReport.Language
