import TelemetryRelay.Ingest.Dispatch

/-! # From the queue to the ingest

    The harvester moves chunks from the queue into the batch, under the latest
    invocation, and hands what a harvest takes to the dispatcher. What a harvest
    took is never put back. Where collecting is switched off the queue is emptied
    all the same, and its chunks are dropped.
-/

namespace TelemetryRelay

namespace Ingest

open Telemetry (Batch Identity Invocation Reading Thresholds)

/-- How telemetry is harvested. -/
structure Harvester where
  dispatcher : Dispatcher
  thresholds : Thresholds
  /-- Whether telemetry is kept at all. -/
  collects : Bool

/-- What changes in the course of a run. -/
structure HarvestState where
  batch : Batch
  keyring : Credential.Keyring
  drawn : Nat

/-- The state a run starts with. -/
def HarvestState.start (keyring : Credential.Keyring) (ticks : Nat) : HarvestState :=
  ⟨.fresh ticks, keyring, 0⟩

namespace Harvester

/-- Moves a chunk from the queue into the batch, or drops it. -/
def collect (harvester : Harvester) (batch : Batch) (reading : Reading) (chunk : Bytes) :
    Batch × List Log.Notice :=
  if harvester.collects then
    ((batch.step harvester.thresholds reading (.addToLatest chunk)).batch, [])
  else (batch, [.chunkDropped chunk.length])

/-- Moves several chunks from the queue into the batch, in order. -/
def collectAll (harvester : Harvester) (reading : Reading) :
    Batch → List Bytes → Batch × List Log.Notice
  | batch, [] => (batch, [])
  | batch, chunk :: rest =>
    let (batch, notices) := harvester.collect batch reading chunk
    let (batch, more) := collectAll harvester reading batch rest
    (batch, notices ++ more)

/-- What a harvest and its dispatch lead to. -/
structure Run where
  state : HarvestState
  /-- What the harvest took. -/
  taken : List Invocation
  cycle : Cycle

/-- Harvests, and dispatches what was taken. -/
def dispatch (harvester : Harvester) (state : HarvestState) (reading : Reading)
    (network : Http.Network) (history : List Http.Request) (cancellation : Cancellation)
    (ids : Nat → String) (identity : Identity) (force : Bool) : Run :=
  let harvest := state.batch.harvest harvester.thresholds reading force
  let context : Context :=
    ⟨network, history, cancellation, state.keyring, ids, state.drawn⟩
  let cycle :=
    if harvest.taken.isEmpty then context.stop harvest.notices (.ok .empty)
    else
      let cycle := harvester.dispatcher.dispatch context identity harvest.taken
      { cycle with
        notices := harvest.notices ++ [.dispatching harvest.taken.length force]
          ++ cycle.notices }
  ⟨⟨harvest.batch, cycle.keyring, cycle.drawn⟩, harvest.taken, cycle⟩

/-- Dropped chunks leave the batch as it was. -/
theorem collect_off (harvester : Harvester) (batch : Batch) (reading : Reading)
    (chunk : Bytes) (h : harvester.collects = false) :
    (harvester.collect batch reading chunk).1 = batch := by
  simp [collect, h]

end Harvester

end Ingest

end TelemetryRelay
