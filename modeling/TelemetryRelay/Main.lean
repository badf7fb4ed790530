import TelemetryRelay.Session.Run

/-! # The program

    Runs the relay with the environment of the process, prints what it reports
    and exits with its code. The program itself has no way out to a network:
    every request it makes is lost, so a run that gets past its settings ends
    with the first request.
-/

open TelemetryRelay

/-- The environment of the process, as far as a run looks at it. -/
def readEnvironment : IO Environment := do
  let mut held : List (String × Bytes) := []
  for name in Session.readVariables do
    if let some value ← IO.getEnv name then
      held := (name, Bytes.ofText value) :: held
  return fun name => held.lookup name

/-- The world of a process that reaches nothing. -/
def isolated (environment : Environment) : Session.World where
  environment := environment
  network := fun _ _ => .lost
  ids := toString
  ticks := 0
  refusal := fun _ => none
  rounds := []

/-- How times are shown. No notice of an isolated run tells a time it took. -/
def plainFace : Log.ClockFace := ⟨"0ns", "0", Timestamp.text⟩

/-- Runs the relay. -/
def main : IO UInt32 := do
  let world := isolated (← readEnvironment)
  for line in world.lines plainFace do
    IO.println line
  return UInt32.ofNat (world.run.code.getD 0)
