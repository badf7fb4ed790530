import TelemetryRelay.Http.Target
import TelemetryRelay.Log.Notice

/-! # The listener

    The host pushes telemetry to a listener beside the function. The body of
    every push is put in a queue before it is answered, and the collector takes
    bodies out of the queue in their order. The queue has limited room: a push
    that finds none is held, unanswered, until a body is taken out.
-/

namespace TelemetryRelay

namespace Session

/-- A request at the listener. A body that cannot be read is none. -/
structure Push where
  method : String
  target : String
  body : Option Bytes
deriving DecidableEq, Repr

/-- What becomes of a push. -/
inductive Verdict where
  | answered (status : Nat)
  /-- It waits for room in the queue. -/
  | held
  /-- Its connection broke. -/
  | broken
deriving DecidableEq, Repr

/-- The listener with its queue. -/
structure Listener where
  /-- Bodies in the queue. -/
  queue : List Bytes
  /-- Bodies of pushes that are held. -/
  held : List Bytes
  /-- Whether bodies are still taken out of the queue. -/
  isOpen : Bool
deriving DecidableEq, Repr

namespace Listener

/-- The number of bodies the queue has room for. -/
def capacity : Nat := 64

/-- A listener before any push. -/
def fresh : Listener := ⟨[], [], true⟩

/-- What a push leads to. -/
structure Reception where
  listener : Listener
  verdict : Verdict
  notices : List Log.Notice

/-- Receives a body that is to be queued. -/
def enqueue (listener : Listener) (body : Bytes) : Reception :=
  if !listener.isOpen then ⟨listener, .answered 200, [.queueClosed body.length]⟩
  else if listener.queue.length < capacity then
    ⟨{ listener with queue := listener.queue ++ [body] }, .answered 200, []⟩
  else ⟨{ listener with held := listener.held ++ [body] }, .held, []⟩

/-- Receives a push whose request line can be read. Only `POST` is allowed, and an
    empty body is not queued. -/
def accept (listener : Listener) (method : Bytes) (body : Option Bytes) : Reception :=
  if method ≠ Bytes.ofText "POST" then ⟨listener, .answered 405, []⟩
  else match body with
    | none => ⟨listener, .broken, []⟩
    | some body =>
      if body.isEmpty then ⟨listener, .answered 200, []⟩ else listener.enqueue body

/-- Receives a push. -/
def receive (listener : Listener) (push : Push) : Reception :=
  match Http.readLine (Http.requestLine push.method push.target) with
  | .error fault => ⟨listener, .answered fault.status, [.connectionFailed fault.message]⟩
  | .ok method => listener.accept method push.body

/-- Takes the next body out of the queue, which makes room for one that is held. -/
def take? (listener : Listener) : Option (Bytes × Listener) :=
  match listener.queue with
  | [] => none
  | body :: rest =>
    some (body, { listener with
      queue := rest ++ listener.held.take 1
      held := listener.held.drop 1 })

/-- No body is taken out any more. Pushes that are held are answered, and their
    bodies are lost. -/
def close (listener : Listener) : Listener × List Log.Notice :=
  ({ listener with held := [], isOpen := false },
    listener.held.map fun body => .queueClosed body.length)

/-- All bodies that wait, in the order in which they would be taken out. -/
def pending (listener : Listener) : List Bytes := listener.queue ++ listener.held

/-- Taking a body out takes the first one that waits. -/
theorem take?_pending (listener : Listener) (body : Bytes) (rest : Listener)
    (h : listener.take? = some (body, rest)) : listener.pending = body :: rest.pending := by
  obtain ⟨queue, held, isOpen⟩ := listener
  cases queue with
  | nil => simp [take?] at h
  | cons first queue =>
    simp only [take?, Option.some.injEq, Prod.mk.injEq] at h
    obtain ⟨rfl, rfl⟩ := h
    cases held <;> simp [pending]

end Listener

end Session

end TelemetryRelay
