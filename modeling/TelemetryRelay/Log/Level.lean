import TelemetryRelay.Text.Blank
import TelemetryRelay.Text.Lowercase

/-! # Log levels -/

namespace TelemetryRelay

namespace Log

/-- How severe a log line is. -/
inductive Level where
  | error
  | warn
  | info
  | debug
  | trace
deriving DecidableEq, Repr, Inhabited

namespace Level

/-- The level used where none is chosen. -/
def standard : Level := .info

/-- The level as log lines name it. -/
def name : Level → String
  | .error => "ERROR"
  | .warn => "WARN"
  | .info => "INFO"
  | .debug => "DEBUG"
  | .trace => "TRACE"

/-- The level as settings name it. -/
def directive : Level → String
  | .error => "error"
  | .warn => "warn"
  | .info => "info"
  | .debug => "debug"
  | .trace => "trace"

/-- How verbose a level is. -/
def rank : Level → Nat
  | .error => 1
  | .warn => 2
  | .info => 3
  | .debug => 4
  | .trace => 5

/-- Whether lines of a level are written when `threshold` is the least severe
    level wanted; without a threshold nothing is. -/
def shownAt (level : Level) (threshold : Option Level) : Bool :=
  match threshold with
  | some threshold => level.rank ≤ threshold.rank
  | none => false

/-- The level of this directive. -/
def ofDirective? : String → Option Level
  | "error" => some .error
  | "warn" | "warning" => some .warn
  | "info" => some .info
  | "debug" => some .debug
  | "trace" => some .trace
  | _ => none

/-- The level a setting asks for, in any letter case and with blanks around. -/
def parse? (text : String) : Option Level :=
  ofDirective? (Text.lower (Text.trim text))

/-- The message about a setting that names no level. -/
def invalidMessage (text : String) : String :=
  "Invalid log level: '" ++ text ++
    "'. Valid levels are: error, warn, info, debug, trace"

end Level

end Log

end TelemetryRelay
