import TelemetryRelay.Log.Notice

/-! # Computations that report

    A computation returns its notices beside its result. They are there whether
    it succeeds or fails, and never influence what it does.
-/

namespace TelemetryRelay

namespace Log

/-- A result with the notices given on the way to it. -/
structure Logged (ε α : Type) where
  notices : List Notice
  result : Except ε α

namespace Logged

variable {ε α β : Type}

/-- A result without notices. -/
def ok (x : α) : Logged ε α := ⟨[], .ok x⟩

/-- A failure without notices. -/
def fail (e : ε) : Logged ε α := ⟨[], .error e⟩

/-- A notice by itself. -/
def note (notice : Notice) : Logged ε Unit := ⟨[notice], .ok ()⟩

/-- Goes on with the result of a computation, unless it failed. -/
def andThen (x : Logged ε α) (f : α → Logged ε β) : Logged ε β :=
  match x.result with
  | .error e => ⟨x.notices, .error e⟩
  | .ok a => ⟨x.notices ++ (f a).notices, (f a).result⟩

instance : Monad (Logged ε) where
  pure := ok
  bind := andThen

/-- A result that comes without notices, with another kind of failure. -/
def lift {ε' : Type} (wrap : ε' → ε) (x : Except ε' α) : Logged ε α :=
  match x with
  | .ok a => ok a
  | .error e => fail (wrap e)

theorem result_andThen (x : Logged ε α) (f : α → Logged ε β) :
    (x.andThen f).result = x.result.bind fun a => (f a).result := by
  cases h : x.result <;> simp [andThen, h, Except.bind]

@[simp] theorem result_ok (x : α) : (ok x : Logged ε α).result = .ok x := rfl

@[simp] theorem result_fail (e : ε) : (fail e : Logged ε α).result = .error e := rfl

end Logged

end Log

end TelemetryRelay
