import CodeReport.Json.Printer
import CodeReport.Report.Mode

/-!
# Requests to the analysis service

A request sends code, the name of its language and a mode. Each mode has a
route of its own below the address of the service, whose slashes at the end do
not count.
-/

namespace CodeReport

/-- What is sent for an analysis. -/
structure Request where
  code : String
  language : String
  mode : Mode
  deriving Repr, DecidableEq

/-- The written form of a request. -/
def Request.toJson (request : Request) : Json.Value :=
  .object [("code", .string request.code), ("language", .string request.language),
    ("mode", .string request.mode.name)]

/-- The address of an analysis service, without slashes at its end. -/
structure ServiceAddress where
  base : String
  deriving Repr, DecidableEq

namespace ServiceAddress

/-- The address that a text writes. -/
def ofText (text : String) : ServiceAddress :=
  ⟨String.ofList (text.toList.reverse.dropWhile (· == '/')).reverse⟩

/-- The name of a mode's route. -/
def route : Mode → String
  | .analysis => "analyze"
  | .debug => "debug"

/-- The address to which a request in a mode is sent. -/
def url (address : ServiceAddress) (mode : Mode) : String :=
  address.base ++ "/api/" ++ route mode

end ServiceAddress

end CodeReport
