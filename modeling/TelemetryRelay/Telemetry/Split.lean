import TelemetryRelay.Log.Logged

/-! # Splitting a payload into bodies

    The ingest limits the size of a compressed body. Items are encoded and
    compressed together if the result fits, and otherwise halved by number and
    split again, the first half first. A single item that does not fit is sent
    anyway, and left for the ingest to refuse.
-/

namespace TelemetryRelay

namespace Telemetry

open Log (Logged)

/-- The limit where none is chosen. -/
def standardPayloadLimit : Nat := 1000000

/-- Why a payload could not be split. -/
inductive SplitError where
  | encode (cause : String)
  | compress (cause : String)
deriving DecidableEq, Repr

/-- The message of a split error. -/
def SplitError.message : SplitError → String
  | .encode cause => "failed to serialize payload: " ++ cause
  | .compress cause => "failed to compress payload: " ++ cause

/-- A compressed body, with the items from `first` up to before `last`. -/
structure Chunk where
  first : Nat
  last : Nat
  body : Bytes
deriving DecidableEq, Repr

/-- How items become a body: by writing them out, and compressing that. -/
structure Encoder (α : Type) where
  encode : List α → Except String Bytes
  compress : Bytes → Except String Bytes

/-- The body of some items. -/
def Encoder.body {α : Type} (encoder : Encoder α) (items : List α) :
    Except SplitError Bytes :=
  match encoder.encode items with
  | .error cause => .error (.encode cause)
  | .ok text =>
    match encoder.compress text with
    | .error cause => .error (.compress cause)
    | .ok body => .ok body

/-- Splits items of which the first has number `first`. Halving ends after fewer
    rounds than there are items, so their number is fuel enough. -/
def splitFrom {α : Type} (encoder : Encoder α) (limit : Nat) :
    Nat → Nat → List α → Logged SplitError (List Chunk)
  | 0, _, _ => .ok []
  | fuel + 1, first, items =>
    (Logged.lift id (encoder.body items)).andThen fun body =>
      let whole : List Chunk := [⟨first, first + items.length, body⟩]
      if body.length ≤ limit then .ok whole
      else if items.length ≤ 1 then
        (Logged.note (.recordOversized first body.length limit)).andThen fun () => .ok whole
      else
        let half := items.length / 2
        (Logged.note
          (.rangeBisected first (first + items.length) body.length (first + half))).andThen
        fun () =>
        (splitFrom encoder limit fuel first (items.take half)).andThen fun left =>
        (splitFrom encoder limit fuel (first + half) (items.drop half)).andThen fun right =>
          .ok (left ++ right)

/-- Splits items into compressed bodies. Without items there are none. -/
def split {α : Type} (encoder : Encoder α) (limit : Nat) (items : List α) :
    Logged SplitError (List Chunk) :=
  if items.isEmpty then .ok [] else splitFrom encoder limit items.length 0 items

end Telemetry

end TelemetryRelay
