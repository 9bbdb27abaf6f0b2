import Galley.Config
import Galley.Disk
import Galley.Json.Parser

/-! Reading a configuration from a file: it must be a text, a JSON record, and pass the check. -/
namespace Galley.Config

/-- Why no configuration comes from a file. -/
inductive LoadError where
  | unreadable (path : String) (cause : IoError)
  | malformed (path : String)
  | invalid (cause : Invalid)

/-- The causes of an error, outermost first. -/
def LoadError.messages : LoadError → List String
  | unreadable path cause => ["Failed to read config " ++ path ++ ": " ++ cause.message, cause.message]
  | malformed path => ["Failed to parse config " ++ path ++ ": not a configuration", "not a configuration"]
  | invalid cause => [cause.message]

/-- The configuration a file holds. -/
def load (d : Disk) (path : String) : Except LoadError Config :=
  match d.readText path with
  | .error cause => .error (.unreadable path cause)
  | .ok text =>
    match (Json.ofBytes? text.toUTF8).bind ofJson? with
    | none => .error (.malformed path)
    | some c =>
      match c.check with
      | .error cause => .error (.invalid cause)
      | .ok () => .ok c

end Galley.Config
