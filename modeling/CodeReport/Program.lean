/-!
# The program

Its name and version, as pages and the command line show them.
-/

namespace CodeReport.Program

/-- The name of the program. -/
def name : String := "bugscope"

/-- The version of the program. -/
def version : String := "0.8.14"

end CodeReport.Program
