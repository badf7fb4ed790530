import TelemetryRelay.Json.Shape

/-! # Events of the host

    The host tells the relay when the function is invoked and when it is about to
    shut down. Such an event is an object whose `eventType` says of which kind it
    is, and which fields it must have; other fields are passed over. The kind may
    stand anywhere among the fields, so these are read first and looked at once
    the kind is known. An array that starts with the kind and goes on with the
    fields in order is an event as well.
-/

namespace TelemetryRelay

namespace Host

open Json (Fault Reader Value)

/-! ## Section 1: Events -/

/-- What the host tells. Deadlines are in milliseconds since 1970. -/
inductive Event where
  | invoke (deadline : Int) (requestId arn : String)
  | shutdown (reason : String) (deadline : Int)
deriving DecidableEq, Repr

/-- An event as log messages show it. -/
def Event.describe : Event → String
  | .invoke deadline requestId arn =>
    "Invoke \x7b deadline_ms: " ++ toString deadline
      ++ ", request_id: " ++ Text.quoted requestId
      ++ ", invoked_function_arn: " ++ Text.quoted arn ++ " \x7d"
  | .shutdown reason deadline =>
    "Shutdown \x7b shutdown_reason: " ++ Text.quoted reason
      ++ ", deadline_ms: " ++ toString deadline ++ " \x7d"

/-- The kind of an event. -/
inductive EventKind where
  | invoke
  | shutdown
deriving DecidableEq, Repr

/-- A field of an event. -/
inductive EventField where
  | deadline
  | requestId
  | arn
  | reason
deriving DecidableEq, Repr

/-- The name of a field. -/
def EventField.name : EventField → String
  | .deadline => "deadlineMs"
  | .requestId => "requestId"
  | .arn => "invokedFunctionArn"
  | .reason => "shutdownReason"

namespace EventKind

/-- The field that holds the kind. -/
def tag : String := "eventType"

/-- The kind as events name it. -/
def name : EventKind → String
  | .invoke => "INVOKE"
  | .shutdown => "SHUTDOWN"

/-- All kinds. -/
def all : List EventKind := [.invoke, .shutdown]

/-- The kind of this name. -/
def parse (text : String) : Except Fault EventKind :=
  match all.find? fun kind => kind.name == text with
  | some kind => .ok kind
  | none => .error (.unknownVariant text (all.map name))

/-- The fields an event of a kind must have. -/
def fields : EventKind → List EventField
  | .invoke => [.deadline, .requestId, .arn]
  | .shutdown => [.reason, .deadline]

/-- How messages name the kind with its number of fields. -/
def describe (kind : EventKind) : String :=
  (match kind with
    | .invoke => "struct variant NextEvent::Invoke"
    | .shutdown => "struct variant NextEvent::Shutdown")
    ++ " with " ++ toString kind.fields.length ++ " elements"

end EventKind

/-! ## Section 2: Fields of a known kind -/

/-- An event that is being put together. -/
structure EventDraft where
  deadline : Option Int
  requestId : Option String
  arn : Option String
  reason : Option String
deriving DecidableEq, Repr

namespace EventDraft

/-- Nothing known yet. -/
def empty : EventDraft := ⟨none, none, none, none⟩

/-- Whether a field is known. -/
def knows (draft : EventDraft) : EventField → Bool
  | .deadline => draft.deadline.isSome
  | .requestId => draft.requestId.isSome
  | .arn => draft.arn.isSome
  | .reason => draft.reason.isSome

/-- The text of a value. -/
def textOf : Value → Except Fault String
  | .string s => .ok s
  | value => .error (.wrongType value.found "a string")

/-- The greatest integer a deadline may be. -/
def maxDeadline : Int := 0x7FFFFFFFFFFFFFFF

/-- The deadline a value gives. -/
def deadlineOf : Value → Except Fault Int
  | .number (.integer i) =>
    if i ≤ maxDeadline then .ok i
    else .error (.wrongValue (.number (.integer i)) "i64")
  | value => .error (.wrongType value.found "i64")

/-- Takes the value of a field. -/
def learn (draft : EventDraft) (value : Value) : EventField → Except Fault EventDraft
  | .deadline => (deadlineOf value).map fun i => { draft with deadline := some i }
  | .requestId => (textOf value).map fun s => { draft with requestId := some s }
  | .arn => (textOf value).map fun s => { draft with arn := some s }
  | .reason => (textOf value).map fun s => { draft with reason := some s }

/-- Takes named values in order. Names that are no field are passed over. -/
def learnFields (kind : EventKind) :
    EventDraft → List (String × Value) → Except Fault EventDraft
  | draft, [] => .ok draft
  | draft, (name, value) :: rest =>
    match kind.fields.find? fun field => field.name == name with
    | none => learnFields kind draft rest
    | some field =>
      if draft.knows field then .error (.duplicateField name)
      else match draft.learn value field with
        | .error fault => .error fault
        | .ok draft => learnFields kind draft rest

/-- Takes values in the order of the fields; `count` have been taken. -/
def learnItems (kind : EventKind) :
    List EventField → Nat → EventDraft → List Value → Except Fault EventDraft
  | [], _, draft, [] => .ok draft
  | [], count, _, extra =>
    .error (.wrongLength (count + extra.length) (toString count ++ " elements in sequence"))
  | _ :: _, count, _, [] => .error (.wrongLength count kind.describe)
  | field :: fields, count, draft, value :: rest =>
    match draft.learn value field with
    | .error fault => .error fault
    | .ok draft => learnItems kind fields (count + 1) draft rest

/-- The first field of a kind that is not known. -/
def missing? (kind : EventKind) (draft : EventDraft) : Option EventField :=
  kind.fields.find? fun field => !draft.knows field

/-- The event a draft amounts to. -/
def finish (kind : EventKind) (draft : EventDraft) : Except Fault Event :=
  match draft.missing? kind with
  | some field => .error (.missingField field.name)
  | none =>
    let deadline := draft.deadline.getD 0
    .ok (match kind with
      | .invoke => .invoke deadline (draft.requestId.getD "") (draft.arn.getD "")
      | .shutdown => .shutdown (draft.reason.getD "") deadline)

end EventDraft

/-! ## Section 3: Reading events -/

/-- Reads a kind. -/
def readKind : Reader EventKind := fun octets =>
  match Json.skipSpace octets with
  | [] => .error .endOfValue
  | b :: rest =>
    if b == 34 then do
      let (text, rest) ← Json.string rest
      let kind ← EventKind.parse text
      .ok (kind, rest)
    else .error (Json.mismatch "variant identifier" (b :: rest))

/-- The kind of an event, if it is known, and the other fields, last first. -/
abbrev Gathered := Option EventKind × List (String × Value)

/-- Continues after the name of a field. -/
def gatherField (levels : Nat) (gathered : Gathered) (name : String) : Reader Gathered :=
  fun octets =>
  if name = EventKind.tag then
    if gathered.1.isSome then .error (.duplicateField name)
    else do
      let ((), rest) ← Json.colon octets
      let (kind, rest) ← readKind rest
      .ok ((some kind, gathered.2), rest)
  else do
    let ((), rest) ← Json.colon octets
    let (value, rest) ← Json.value levels rest
    .ok ((gathered.1, (name, value) :: gathered.2), rest)

/-- Reads the object form after its opening bracket. -/
def readEventObject (levels : Nat) : Reader Event := fun octets => do
  let (gathered, rest) ← Json.openFields (gatherField levels) (none, []) octets
  match gathered.1 with
  | none => .error (.missingField EventKind.tag)
  | some kind =>
    let ((), rest) ← Json.closeObject rest
    let draft ← EventDraft.learnFields kind .empty gathered.2.reverse
    let event ← draft.finish kind
    .ok (event, rest)

/-- Reads the array form after its opening bracket. -/
def readEventArray (levels : Nat) : Reader Event := fun octets =>
  match Json.nextItem true octets with
  | .error fault => .error fault
  | .ok (.closing _) => .error (.missingField EventKind.tag)
  | .ok (.more rest) => do
    let (kind, rest) ← readKind rest
    let (values, rest) ←
      Json.itemsFrom (Json.value levels) (0 :: rest) false [] rest
    let ((), rest) ← Json.closeList rest
    let draft ← EventDraft.learnItems kind kind.fields 0 .empty values
    let event ← draft.finish kind
    .ok (event, rest)

/-- Reads an event. -/
def readEvent (levels : Nat) : Reader Event := fun octets =>
  match Json.skipSpace octets with
  | [] => .error .endOfValue
  | b :: rest =>
    if b == 91 then
      match levels with
      | 0 => .error .recursionLimit
      | levels + 1 => readEventArray levels rest
    else if b == 123 then
      match levels with
      | 0 => .error .recursionLimit
      | levels + 1 => readEventObject levels rest
    else .error (Json.mismatch "internally tagged enum NextEvent" (b :: rest))

/-- The event in the body of an answer. -/
def Event.decode (octets : Bytes) : Except Fault Event :=
  Json.document (readEvent Json.nestingLimit) octets

/-! ## Section 4: First consequences -/

theorem EventKind.parse_name (kind : EventKind) : EventKind.parse kind.name = .ok kind := by
  cases kind <;> rfl

end Host

end TelemetryRelay
