import TelemetryRelay.Log.Notice

/-! # Telemetry by invocation

    Chunks are kept undecoded under the invocation they belong to, in the order
    of their arrival. A harvest takes everything at once, and leaves nothing
    behind but the id of the latest invocation. Each operation is one step of a
    state, so that operations that happen at the same time are a sequence in
    some order.
-/

namespace TelemetryRelay

namespace Telemetry

open Timestamp (Instant)

/-! ## Section 1: State -/

/-- What is known of one run of the function. -/
structure Invocation where
  requestId : String
  start : Instant
  chunks : List Bytes
deriving DecidableEq, Repr

/-- The number of octets held for an invocation. -/
def Invocation.octets (invocation : Invocation) : Nat :=
  invocation.chunks.foldr (fun chunk total => chunk.length + total) 0

/-- Appends a chunk to an invocation. -/
def Invocation.push (chunk : Bytes) (invocation : Invocation) : Invocation :=
  { invocation with chunks := invocation.chunks ++ [chunk] }

/-- What the clocks show: the instant, and the milliseconds of a clock that only
    goes forward. -/
structure Reading where
  now : Instant
  ticks : Nat
deriving DecidableEq, Repr

/-- When a harvest is due without being forced. -/
structure Thresholds where
  octets : Nat
  interval : Nat
deriving DecidableEq, Repr

/-- Invocations since the last harvest. `index` holds the place of each id in
    `invocations`. -/
structure Batch where
  invocations : List Invocation
  index : List (String × Nat)
  octets : Nat
  lastHarvest : Nat
  latest : Option String
deriving DecidableEq, Repr

namespace Batch

/-- A batch without invocations, created when the clock showed `ticks`. -/
def fresh (ticks : Nat) : Batch := ⟨[], [], 0, ticks, none⟩

/-- The place of an id. -/
def place? (batch : Batch) (requestId : String) : Option Nat :=
  batch.index.lookup requestId

/-- The batch with a place for an id, and that place. An invocation that is not
    known yet starts at `start`. -/
def slot (batch : Batch) (requestId : String) (start : Instant) : Batch × Nat :=
  match batch.place? requestId with
  | some place => (batch, place)
  | none =>
    let place := batch.invocations.length
    ({ batch with
        invocations := batch.invocations ++ [⟨requestId, start, []⟩]
        index := batch.index ++ [(requestId, place)] }, place)

/-- Appends a chunk under an id, which gets a place if it has none. -/
def append (batch : Batch) (requestId : String) (now : Instant) (chunk : Bytes) : Batch :=
  let (batch, place) := batch.slot requestId now
  { batch with
    invocations := batch.invocations.modify place (Invocation.push chunk)
    octets := batch.octets + chunk.length }

/-- Whether a harvest is due. -/
def isReady (thresholds : Thresholds) (batch : Batch) (ticks : Nat) : Bool :=
  thresholds.octets < batch.octets || thresholds.interval < ticks - batch.lastHarvest

/-! ## Section 2: Operations -/

/-- What is done to a batch. -/
inductive Operation where
  /-- An invocation starts. It becomes the latest one. -/
  | addInvocation (requestId : String) (start : Instant)
  /-- A chunk arrives for an invocation. -/
  | addTelemetry (requestId : String) (chunk : Bytes)
  /-- A chunk arrives for the latest invocation. -/
  | addToLatest (chunk : Bytes)
  /-- Everything is taken, if it is forced or due. -/
  | harvest (force : Bool)
deriving DecidableEq, Repr

/-- What an operation leads to: the batch after it, what was taken, and what is
    reported. -/
structure Outcome where
  batch : Batch
  taken : List Invocation
  notices : List Log.Notice

/-- Registers an invocation. -/
def addInvocation (batch : Batch) (requestId : String) (start : Instant) : Batch :=
  { (batch.slot requestId start).1 with latest := some requestId }

/-- The id of the latest invocation, or the empty id before any. -/
def latestId (batch : Batch) : String := batch.latest.getD ""

/-- The earliest start of some invocations. -/
def earliest : List Invocation → Option Instant
  | [] => none
  | invocation :: rest =>
    some (match earliest rest with
      | some start => min invocation.start start
      | none => invocation.start)

/-- Takes everything, if it is forced or due. -/
def harvest (thresholds : Thresholds) (batch : Batch) (reading : Reading) (force : Bool) :
    Outcome :=
  if force || batch.isReady thresholds reading.ticks then
    let notices := (earliest batch.invocations).map fun oldest =>
      .harvested batch.invocations.length batch.octets oldest force
    ⟨{ batch with invocations := [], index := [], octets := 0, lastHarvest := reading.ticks },
      batch.invocations, notices.toList⟩
  else ⟨batch, [], []⟩

/-- Carries out an operation. -/
def step (thresholds : Thresholds) (batch : Batch) (reading : Reading) :
    Operation → Outcome
  | .addInvocation requestId start => ⟨batch.addInvocation requestId start, [], []⟩
  | .addTelemetry requestId chunk =>
    ⟨batch.append requestId reading.now chunk, [],
      if (batch.place? requestId).isSome then [] else [.placeholderAdded requestId]⟩
  | .addToLatest chunk => ⟨batch.append batch.latestId reading.now chunk, [], []⟩
  | .harvest force => batch.harvest thresholds reading force

/-- Carries out operations in order: the batch after them, and what each one
    took. -/
def run (thresholds : Thresholds) :
    Batch → List (Reading × Operation) → Batch × List (List Invocation)
  | batch, [] => (batch, [])
  | batch, (reading, operation) :: rest =>
    let outcome := batch.step thresholds reading operation
    let (final, taken) := run thresholds outcome.batch rest
    (final, outcome.taken :: taken)

/-! ## Section 3: First consequences -/

/-- A harvest that is neither forced nor due changes nothing. -/
theorem harvest_not_due (thresholds : Thresholds) (batch : Batch) (reading : Reading)
    (h : batch.isReady thresholds reading.ticks = false) :
    batch.harvest thresholds reading false = ⟨batch, [], []⟩ := by
  simp [harvest, h]

end Batch

end Telemetry

end TelemetryRelay
