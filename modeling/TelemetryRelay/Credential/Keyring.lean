import TelemetryRelay.Credential.LicenseKey

/-! # Keeping the license key

    A key that has to be looked up is looked up when it is first needed, and kept
    once it is found. A lookup that fails is not kept: the next need asks again.
-/

namespace TelemetryRelay

namespace Credential

/-- Where the key comes from. -/
inductive Source where
  | fixed (key : String)
  /-- Looked up: the outcome of each lookup, counted from 0. -/
  | lookup (outcome : Nat → Except KeyError String)

/-- A source of keys with what is known of it: the key that was found, and how
    often a lookup was made. -/
structure Keyring where
  source : Source
  found : Option String
  asked : Nat

namespace Keyring

/-- A key that is known. -/
def ofKey (key : String) : Keyring := ⟨.fixed key, none, 0⟩

/-- A key that has to be looked up. -/
def ofLookup (outcome : Nat → Except KeyError String) : Keyring := ⟨.lookup outcome, none, 0⟩

/-- A keyring before anything is known of a key that is looked up elsewhere. -/
def unasked : Keyring := ofLookup fun _ => .error .missing

/-- The key, and the keyring after asking for it. -/
def obtain (keyring : Keyring) : Except KeyError String × Keyring :=
  match keyring.source with
  | .fixed key => (.ok key, keyring)
  | .lookup outcome =>
    match keyring.found with
    | some key => (.ok key, keyring)
    | none =>
      let result := outcome keyring.asked
      (result, { keyring with found := result.toOption, asked := keyring.asked + 1 })

end Keyring

end Credential

end TelemetryRelay
