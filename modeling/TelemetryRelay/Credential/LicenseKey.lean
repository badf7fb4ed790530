import TelemetryRelay.Http.Exchange
import TelemetryRelay.Json.Shape

/-! # License keys and the secrets that hold them

    A license key is either given by a setting or kept in a secret. The secret is
    doubly encoded: its value is a text that is JSON again and holds the key.
-/

namespace TelemetryRelay

namespace Credential

/-- Why there is no license key. -/
inductive KeyError where
  | transport (error : Http.TransportError)
  | status (code : Nat) (body : String)
  | decode (fault : Json.Fault)
  | missing
deriving DecidableEq, Repr

/-- The message of a key error. -/
def KeyError.message : KeyError → String
  | .transport error => "failed to reach the secrets cache: " ++ error.message
  | .status code body =>
    "secrets cache answered [" ++ Http.statusText code ++ "] " ++ body
  | .decode fault => "failed to decode secret: " ++ fault.message
  | .missing => "secret does not contain a LicenseKey"

/-- A field of a shape with one text. -/
def textField (name : String) (mayLack : Bool) : Json.Field (Option String) where
  name := name
  isRead state := state.isSome
  read _ _ octets := do
    let (text, rest) ← Json.expectString octets
    .ok (some text, rest)
  mayLack := mayLack

/-- The value of a secret, as the cache answers it. -/
def secretShape : Json.Shape (Option String) String where
  name := "SecretValue"
  fields := [textField "SecretString" false]
  start := none
  finish
    | some text => .ok text
    | none => .error (.missingField "SecretString")

/-- The text of a secret that holds a license key; without one it is empty. -/
def licenseKeyShape : Json.Shape (Option String) String where
  name := "LicenseKeySecret"
  fields := [textField "LicenseKey" true]
  start := none
  finish state := .ok (state.getD "")

/-- The license key in the text of a secret. -/
def decodeLicenseKey (secret : Bytes) : Except KeyError String :=
  match licenseKeyShape.decode secret with
  | .error fault => .error (.decode fault)
  | .ok key => if key = "" then .error .missing else .ok key

end Credential

end TelemetryRelay
