import Mathlib.Logic.Function.Basic
import Mathlib.Tactic.SplitIfs
import TelemetryRelay.Host.Event

/-! # Fields of events

    Once the kind of an event is known, its fields are taken from values with names, in the
    order in which these come. The order does not matter: values make an event exactly if
    each field of the kind has one value under its name, and this value is of its type.
-/

namespace TelemetryRelay

namespace Host

open Json (Value)

/-! ## Section 1: Fields of events and drafts -/

/-- The kind of an event. -/
def Event.kind : Event → EventKind
  | .invoke _ _ _ => .invoke
  | .shutdown _ _ => .shutdown

/-- The value of a field of an event. Events of the other kind may have none. -/
def Event.value? : Event → EventField → Option Value
  | .invoke deadline _ _, .deadline => some (.number (.integer deadline))
  | .invoke _ requestId _, .requestId => some (.string requestId)
  | .invoke _ _ arn, .arn => some (.string arn)
  | .invoke _ _ _, .reason => none
  | .shutdown _ deadline, .deadline => some (.number (.integer deadline))
  | .shutdown reason _, .reason => some (.string reason)
  | .shutdown _ _, .requestId => none
  | .shutdown _ _, .arn => none

/-- The value of a field that is known. -/
def EventDraft.value? (draft : EventDraft) : EventField → Option Value
  | .deadline => draft.deadline.map fun i => .number (.integer i)
  | .requestId => draft.requestId.map .string
  | .arn => draft.arn.map .string
  | .reason => draft.reason.map .string

/-- The values a field may have. -/
def EventField.Accepts : EventField → Value → Prop
  | .deadline, v => ∃ i, i ≤ EventDraft.maxDeadline ∧ v = .number (.integer i)
  | .requestId, v | .arn, v | .reason, v => ∃ s, v = .string s

namespace EventDraft

variable {draft draft' : EventDraft} {v : Value}

theorem knows_eq_isSome (field : EventField) : draft.knows field = (draft.value? field).isSome := by
  cases field <;> simp [knows, value?]

/-- A draft is what it knows. -/
theorem ext_value? (h : ∀ field, draft.value? field = draft'.value? field) : draft = draft' := by
  have hinteger : Function.Injective fun i : Int => Value.number (.integer i) := by
    intro i j heq
    simpa using heq
  have hstring : Function.Injective Value.string := by
    intro s t heq
    simpa using heq
  obtain ⟨deadline, requestId, arn, reason⟩ := draft
  obtain ⟨deadline', requestId', arn', reason'⟩ := draft'
  have hdeadline := Option.map_injective hinteger (h .deadline)
  have hrequestId := Option.map_injective hstring (h .requestId)
  have harn := Option.map_injective hstring (h .arn)
  have hreason := Option.map_injective hstring (h .reason)
  simp only at hdeadline hrequestId harn hreason
  rw [hdeadline, hrequestId, harn, hreason]

/-- A value of its type is taken as the value of a field, and nothing else changes. -/
theorem exists_learn (draft : EventDraft) {field : EventField} (h : field.Accepts v) : ∃ draft',
    draft.learn v field = .ok draft' ∧
      ∀ other, draft'.value? other = if other = field then some v else draft.value? other := by
  cases field with
  | deadline =>
    obtain ⟨i, hi, rfl⟩ := h
    refine ⟨{ draft with deadline := some i }, ?_, ?_⟩
    · rw [learn, deadlineOf, if_pos hi]
      rfl
    · intro other
      cases other <;> rfl
  | requestId | arn | reason =>
    obtain ⟨s, rfl⟩ := h
    refine ⟨_, rfl, ?_⟩
    intro other
    cases other <;> rfl

theorem accepts_of_learn {field : EventField} (h : draft.learn v field = .ok draft') :
    field.Accepts v := by
  have htext : ∀ set : String → EventDraft, (textOf v).map set = .ok draft' →
      ∃ s, v = .string s := by
    intro set hmap
    cases v with
    | string s => exact ⟨s, rfl⟩
    | _ => cases hmap
  cases field with
  | deadline =>
    rw [learn] at h
    unfold deadlineOf at h
    split at h
    · next i =>
      split_ifs at h with hi
      · exact ⟨i, hi, rfl⟩
      · cases h
    · cases h
  | requestId | arn | reason => exact htext _ h

end EventDraft

/-! ## Section 2: Taking the fields of a kind -/

theorem EventField.name_injective : Function.Injective EventField.name := by
  intro field field' h
  cases field <;> cases field' <;> first | rfl | exact absurd h (by decide)

/-- The values under the name of a field, if it is one of the kind. -/
def taken (kind : EventKind) (pairs : List (String × Value)) (field : EventField) :
    List (String × Value) :=
  if field ∈ kind.fields then pairs.filter fun pair => pair.1 == field.name else []

/-- **Becoming**: a field stays as it was, or is given its only value. -/
inductive Becomes (field : EventField) (before after : Option Value) :
    List (String × Value) → Prop where
  | kept : after = before → Becomes field before after []
  | given (name : String) (v : Value) : before = none → field.Accepts v → after = some v →
      Becomes field before after [(name, v)]

section Taking

variable {kind : EventKind} {field : EventField} {before after : Option Value} {name : String}
  {v : Value} {rest : List (String × Value)}

theorem becomes_nil_iff : Becomes field before after [] ↔ after = before := by
  constructor
  · intro h
    cases h with
    | kept h => exact h
  · exact .kept

/-- A field that is given a value must not have had one, nor be given another. -/
theorem becomes_cons_iff : Becomes field before after ((name, v) :: rest) ↔
    before = none ∧ field.Accepts v ∧ Becomes field (some v) after rest := by
  constructor
  · intro h
    cases h with
    | given _ _ hbefore hv hafter => exact ⟨hbefore, hv, .kept hafter⟩
  · rintro ⟨hbefore, hv, hrest⟩
    cases hrest with
    | kept hafter => exact .given name v hbefore hv hafter
    | given _ _ hnone => cases hnone

theorem taken_cons_of_eq (h : field ∈ kind.fields) :
    taken kind ((field.name, v) :: rest) field = (field.name, v) :: taken kind rest field := by
  rw [taken, taken, if_pos h, if_pos h]
  exact List.filter_cons_of_pos (beq_self_eq_true field.name)

theorem taken_cons_of_ne (h : field ∈ kind.fields → name ≠ field.name) :
    taken kind ((name, v) :: rest) field = taken kind rest field := by
  unfold taken
  split
  · next hmem => exact List.filter_cons_of_neg (by simpa using h hmem)
  · rfl

/-- One more pair for a field of the kind: the field must not be known yet, takes the value,
    and has it when the rest is taken. -/
theorem forall_becomes_cons_iff (hfield : field ∈ kind.fields)
    {before after : EventField → Option Value} :
    (∀ other, Becomes other (before other) (after other)
      (taken kind ((field.name, v) :: rest) other)) ↔
    before field = none ∧ field.Accepts v ∧
      ∀ other, Becomes other (if other = field then some v else before other) (after other)
        (taken kind rest other) := by
  have hother : ∀ other, other ≠ field →
      taken kind ((field.name, v) :: rest) other = taken kind rest other := by
    intro other hne
    apply taken_cons_of_ne
    intro _ heq
    exact hne (EventField.name_injective heq).symm
  constructor
  · intro h
    have hgiven := h field
    rw [taken_cons_of_eq hfield, becomes_cons_iff] at hgiven
    obtain ⟨hnone, haccepts, hrest⟩ := hgiven
    refine ⟨hnone, haccepts, ?_⟩
    intro other
    split
    · next heq => exact heq ▸ hrest
    · next hne => exact hother other hne ▸ h other
  · rintro ⟨hnone, haccepts, hrest⟩ other
    have hnext := hrest other
    by_cases heq : other = field
    · subst heq
      rw [if_pos rfl] at hnext
      rw [taken_cons_of_eq hfield, becomes_cons_iff]
      exact ⟨hnone, haccepts, hnext⟩
    · rw [if_neg heq] at hnext
      rw [hother other heq]
      exact hnext

/-- **Fields in any order**: what is known after all fields is, for each field of the kind,
    its only value. -/
theorem learnFields_eq_ok_iff {draft' : EventDraft} : ∀ {pairs : List (String × Value)}
    {draft : EventDraft}, EventDraft.learnFields kind draft pairs = .ok draft' ↔
      ∀ field, Becomes field (draft.value? field) (draft'.value? field)
        (taken kind pairs field) := by
  intro pairs
  induction pairs with
  | nil =>
    intro draft
    have hnil : ∀ field, taken kind [] field = [] := fun field => by
      unfold taken
      split <;> rfl
    simp only [hnil, becomes_nil_iff]
    constructor
    · intro h field
      cases h
      rfl
    · intro h
      exact congrArg Except.ok (EventDraft.ext_value? fun field => (h field).symm)
  | cons pair rest ih =>
    intro draft
    obtain ⟨name, v⟩ := pair
    rw [EventDraft.learnFields]
    cases hfind : kind.fields.find? fun field => field.name == name with
    | none =>
      -- a name of no field of the kind changes nothing
      have hother : ∀ field, taken kind ((name, v) :: rest) field = taken kind rest field := by
        intro field
        apply taken_cons_of_ne
        intro hmem heq
        have := List.find?_eq_none.mp hfind field hmem
        simp [heq] at this
      simp only [hother]
      exact ih
    | some field =>
      -- a field of the kind must not be known yet, and takes a value of its type
      have hmem : field ∈ kind.fields := List.mem_of_find?_eq_some hfind
      obtain rfl : field.name = name := by simpa using List.find?_some hfind
      rw [forall_becomes_cons_iff hmem]
      simp only [EventDraft.knows_eq_isSome]
      cases hknown : draft.value? field with
      | some known => simp
      | none =>
        by_cases haccepts : field.Accepts v
        · obtain ⟨next, hlearn, hvalue⟩ := draft.exists_learn haccepts
          simp only [hlearn, Option.isSome_none, Bool.false_eq_true, if_false, ih, hvalue,
            haccepts, true_and]
        · cases hlearn : draft.learn v field with
          | ok next => exact absurd (EventDraft.accepts_of_learn hlearn) haccepts
          | error fault => simp [haccepts]

end Taking

/-! ## Section 3: Finished events -/

/-- A field is known where an event has it. -/
theorem isSome_value? {event : Event} {field : EventField} (h : field ∈ event.kind.fields) :
    ∃ v, event.value? field = some v := by
  cases event <;> cases field <;>
    first | exact ⟨_, rfl⟩ | exact absurd h (by simp [Event.kind, EventKind.fields])

/-- A draft is finished to the event that has its values. -/
theorem finish_eq_ok_iff {kind : EventKind} {draft : EventDraft} {event : Event} :
    draft.finish kind = .ok event ↔
      event.kind = kind ∧ ∀ field ∈ kind.fields, draft.value? field = event.value? field := by
  unfold EventDraft.finish
  cases hmissing : draft.missing? kind with
  | some field =>
    -- every event of the kind has a value where the draft has none
    have hmem : field ∈ kind.fields := List.mem_of_find?_eq_some hmissing
    have hunknown : draft.value? field = none := by
      simpa [EventDraft.knows_eq_isSome] using List.find?_some hmissing
    simp only [reduceCtorEq, false_iff, not_and]
    rintro rfl hvalues
    obtain ⟨v, hv⟩ := isSome_value? hmem
    rw [← hvalues field hmem, hunknown] at hv
    cases hv
  | none =>
    have hknown : ∀ field ∈ kind.fields, draft.knows field = true := by
      intro field hmem
      simpa using List.find?_eq_none.mp hmissing field hmem
    obtain ⟨deadline, requestId, arn, reason⟩ := draft
    cases kind with
    | invoke =>
      simp only [EventKind.fields, List.forall_mem_cons, EventDraft.knows,
        Option.isSome_iff_exists] at hknown
      obtain ⟨⟨i, rfl⟩, ⟨s, rfl⟩, ⟨t, rfl⟩, -⟩ := hknown
      cases event <;> simp [Event.kind, EventKind.fields, EventDraft.value?, Event.value?]
    | shutdown =>
      simp only [EventKind.fields, List.forall_mem_cons, EventDraft.knows,
        Option.isSome_iff_exists] at hknown
      obtain ⟨⟨s, rfl⟩, ⟨i, rfl⟩, -⟩ := hknown
      cases event <;> simp [Event.kind, EventKind.fields, EventDraft.value?, Event.value?]

/-- A draft that knows what an event has. -/
def EventDraft.ofEvent : Event → EventDraft
  | .invoke deadline requestId arn => ⟨some deadline, some requestId, some arn, none⟩
  | .shutdown reason deadline => ⟨some deadline, none, none, some reason⟩

theorem value?_ofEvent (event : Event) (field : EventField) :
    (EventDraft.ofEvent event).value? field = event.value? field := by
  cases event <;> cases field <;> rfl

theorem value?_of_notMem {event : Event} {field : EventField} (h : field ∉ event.kind.fields) :
    event.value? field = none := by
  cases event <;> cases field <;>
    first | rfl | exact absurd (by simp [Event.kind, EventKind.fields]) h

theorem value?_empty (field : EventField) : EventDraft.empty.value? field = none := by
  cases field <;> rfl

/-- **Taken**: gathered values make an event exactly if each field of its kind has its value
    there, once. -/
theorem learnFields_finish_iff {kind : EventKind} {pairs : List (String × Value)}
    {event : Event} :
    (∃ draft, EventDraft.learnFields kind .empty pairs = .ok draft ∧
      draft.finish kind = .ok event) ↔
    event.kind = kind ∧ ∀ field ∈ kind.fields, ∃ v, field.Accepts v ∧
      event.value? field = some v ∧
      pairs.filter (fun pair => pair.1 == field.name) = [(field.name, v)] := by
  simp only [learnFields_eq_ok_iff, finish_eq_ok_iff, value?_empty]
  constructor
  · rintro ⟨draft, hbecomes, rfl, hvalues⟩
    refine ⟨rfl, ?_⟩
    intro field hmem
    obtain ⟨v, hv⟩ := isSome_value? hmem
    have hfield := hbecomes field
    rw [hvalues field hmem, hv, taken, if_pos hmem] at hfield
    generalize hfilter : pairs.filter (fun pair => pair.1 == field.name) = given at hfield
    cases hfield with
    | kept h => cases h
    | given name v' _ haccepts hsame =>
      obtain rfl : v = v' := Option.some.inj hsame
      have hname : name = field.name := by
        have hpair : (name, v) ∈ pairs.filter fun pair => pair.1 == field.name := by
          rw [hfilter]
          exact List.mem_singleton.mpr rfl
        simpa using (List.mem_filter.mp hpair).2
      exact ⟨v, haccepts, hv, by rw [hname]⟩
  · rintro ⟨rfl, hfields⟩
    refine ⟨EventDraft.ofEvent event, ?_, rfl, fun field _ => value?_ofEvent event field⟩
    intro field
    rw [value?_ofEvent]
    by_cases hmem : field ∈ event.kind.fields
    · obtain ⟨v, haccepts, hv, hfilter⟩ := hfields field hmem
      rw [taken, if_pos hmem, hfilter]
      exact .given field.name v rfl haccepts hv
    · rw [taken, if_neg hmem]
      exact .kept (value?_of_notMem hmem)

end Host

end TelemetryRelay
