import TelemetryRelay.Text.Blank
import TelemetryRelay.Text.Utf8

/-! # The environment of the process

    Settings come from environment variables. Their values are octets; a value
    that is not UTF-8 counts as unset everywhere, and most readers treat a blank
    value as unset too.
-/

namespace TelemetryRelay

/-- The octets of each variable that is set. -/
abbrev Environment := String → Option Bytes

namespace Environment

/-- The text of a variable. -/
def text? (environment : Environment) (name : String) : Option String :=
  (environment name).bind Utf8.decode

/-- The text of a variable that is not blank. -/
def filled? (environment : Environment) (name : String) : Option String :=
  (environment.text? name).filter fun value => !Text.allBlank value

/-- A blank variable reads like an unset one. -/
theorem filled?_blank (environment : Environment) (name value : String)
    (ht : environment.text? name = some value) (hb : Text.allBlank value = true) :
    environment.filled? name = none := by
  simp [filled?, ht, hb]

end Environment

end TelemetryRelay
