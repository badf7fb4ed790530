/-! # Powers of two and ten -/

namespace TelemetryRelay

/-- Two to the power of a number. -/
abbrev twoTo (n : Nat) : Nat := Nat.pow 2 n

/-- Ten to the power of a number. -/
abbrev tenTo (n : Nat) : Nat := Nat.pow 10 n

end TelemetryRelay
