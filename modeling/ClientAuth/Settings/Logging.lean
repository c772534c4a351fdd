import ClientAuth.Settings.Basic
import ClientAuth.Text.Upper

/-! The configuration of log output. -/
namespace ClientAuth.Logging

/-- The form of a log line. -/
def lineFormat : String := "%(asctime)s - %(name)s - %(levelname)s - %(message)s"

/-- The level of a name that is used when the name is not known. -/
def defaultLevel : Json := .int 20

/-- The levels by name. The name of the basic line form is found among them. -/
def levels : List (String × Json) :=
  [("CRITICAL", .int 50), ("FATAL", .int 50), ("ERROR", .int 40), ("WARNING", .int 30),
   ("WARN", .int 30), ("INFO", .int 20), ("DEBUG", .int 10), ("NOTSET", .int 0),
   ("BASIC_FORMAT", .text "%(levelname)s:%(name)s:%(message)s")]

/-- The level that a name of either case stands for. -/
def level (name : String) : Json :=
  (Json.lookup? (Text.upper name) levels).getD defaultLevel

/-- What log output is configured with. -/
structure Configuration where
  level : Json
  format : String

/-- The configuration that settings ask for. -/
def configure (settings : Settings) : Configuration := ⟨level settings.logLevel, lineFormat⟩

end ClientAuth.Logging
