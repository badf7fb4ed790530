/-! # Kinds of telemetry

    Each kind is built, split and sent on its own, to its own address.
-/

namespace TelemetryRelay

/-- A kind of telemetry. -/
inductive Signal where
  | logging
  | metrics
  | events
  | traces
deriving DecidableEq, Repr, Inhabited

namespace Signal

/-- The name of a kind in messages. -/
def name : Signal → String
  | .logging => "logging"
  | .metrics => "metrics"
  | .events => "events"
  | .traces => "traces"

/-- The kinds in the order they are prepared for sending. -/
def all : List Signal := [.logging, .metrics, .events, .traces]

theorem mem_all (signal : Signal) : signal ∈ all := by
  cases signal <;> decide

end Signal

end TelemetryRelay
