import TelemetryRelay.Proofs.Payload.FanOut
import TelemetryRelay.Proofs.Payload.SpanIds
import TelemetryRelay.Proofs.Payload.Spans
import TelemetryRelay.Proofs.Text.Encoding

/-! # The order of the fields of a span

    The attributes of a span are kept by name, and the fields of a span object are taken as
    they come. This module says what of their order can be seen:

    - the names of the attributes are those of the fields, but for the start, which is
      none, and the duration, which has another; two more are always there,
    - attributes stand in the order of the octets of their names, one of each name, and
      each of them can be traced to a field or to the relay,
    - fields in another order make the same span or the same error, unless two of them
      write to the duration. No other two fields of an object meet.
-/

namespace TelemetryRelay

/-- The names of fields, in their order. -/
def Json.Fields.names (fields : Json.Fields) : List String := fields.map Prod.fst

theorem Json.Fields.mem_names {fields : Json.Fields} {name : String} :
    name ∈ fields.names ↔ ∃ value, (name, value) ∈ fields := by
  simp [names]

namespace Telemetry

open Timestamp (Instant)

/-! ## Section 1: Attributes in order -/

variable {attributes attributes' : Attributes} {name : String} {value : AttributeValue}

/-- An attribute is found by its name. -/
theorem Attributes.Ordered.find?_eq_some_iff (h : attributes.Ordered) :
    attributes.find? name = some value ↔ (name, value) ∈ attributes := by
  induction attributes with
  | nil => simp [Attributes.find?]
  | cons head rest ih =>
    obtain ⟨hhead, hrest⟩ := List.pairwise_cons.mp h
    rw [Attributes.find?_cons, List.mem_cons]
    by_cases hname : head.1 = name
    · -- the other attributes have greater names
      have hother : (name, value) ∉ rest := by
        intro hmem
        have hlt : head.1 < name := hhead (name, value) hmem
        rw [hname] at hlt
        exact String.lt_irrefl name hlt
      rw [if_pos hname, or_iff_left hother, Option.some_inj, Prod.ext_iff, eq_comm (a := name)]
      exact ⟨fun hvalue => ⟨hname, hvalue.symm⟩, fun heq => heq.2.symm⟩
    · rw [if_neg hname, ih hrest]
      refine ⟨.inr, fun hmem => hmem.resolve_left ?_⟩
      rintro rfl
      exact hname rfl

/-- **Extensionality**: attributes in order are determined by what is found under each name. -/
theorem Attributes.Ordered.ext (h : attributes.Ordered) (h' : attributes'.Ordered)
    (hfind : ∀ name, attributes.find? name = attributes'.find? name) :
    attributes = attributes' := by
  have hmem (pair : String × AttributeValue) : pair ∈ attributes ↔ pair ∈ attributes' := by
    rw [← h.find?_eq_some_iff, ← h'.find?_eq_some_iff, hfind]
  have hnodup {attributes : Attributes} (h : attributes.Ordered) : attributes.Nodup := by
    refine h.imp ?_
    rintro first second hlt rfl
    exact String.lt_irrefl _ hlt
  refine List.Perm.eq_of_pairwise ?_ h h' ((List.perm_ext_iff_of_nodup (hnodup h) (hnodup h')).mpr
    hmem)
  intro first second _ _ hlt hgt
  exact absurd (String.lt_trans hlt hgt) (String.lt_irrefl _)

/-! ## Section 2: Where attributes come from -/

/-- **Text of a field**: a text as it is, and anything else as compact JSON. -/
inductive Rendered : Json.Value → String → Prop
  | verbatim (text : String) : Rendered (.string text) text
  | compact (value : Json.Value) : value.text? = none → Rendered value value.text

theorem rendered_renderBody (value : Json.Value) : Rendered value (renderBody value) := by
  cases value with
  | string text => exact .verbatim text
  | _ => exact .compact _ rfl

/-- **Source**: what an attribute of a span may be. Only the duration may be a number. -/
inductive Sourced (recordType : String) (fields : Json.Fields) : String → AttributeValue → Prop
  /-- The type of the record, unless a field goes by this name. -/
  | event : eventAttribute ∉ fields.names →
      Sourced recordType fields eventAttribute (.text recordType)
  /-- The name of the relay, unless a field goes by this name. -/
  | service : serviceAttribute ∉ fields.names →
      Sourced recordType fields serviceAttribute (.text relayName)
  /-- A duration that is a number. -/
  | number (n : Json.Number) : (durationField, .number n) ∈ fields →
      Sourced recordType fields durationAttribute (.number n.toBinary64)
  /-- A duration that is not. -/
  | duration (value : Json.Value) (text : String) : (durationField, value) ∈ fields →
      (∀ n, value ≠ .number n) → Rendered value text →
      Sourced recordType fields durationAttribute (.text text)
  /-- Any other field but the start. -/
  | field (name : String) (value : Json.Value) (text : String) : (name, value) ∈ fields →
      name ≠ startField → name ≠ durationField → Rendered value text →
      Sourced recordType fields name (.text text)

/-- **Exact**: attributes that say what the fields of a span object say, and no more. -/
structure Exact (recordType : String) (fields : Json.Fields) (attributes : Attributes) :
    Prop where
  names : ∀ name, name ∈ attributes.map Prod.fst ↔
    name = eventAttribute ∨ name = serviceAttribute ∨
      (name = durationAttribute ∧ durationField ∈ fields.names) ∨
      (name ∈ fields.names ∧ name ≠ startField ∧ name ≠ durationField)
  increasing : attributes.Pairwise fun first second =>
    Bytes.ofText first.1 < Bytes.ofText second.1
  distinct : (attributes.map Prod.fst).Nodup
  numeric : ∀ name number, (name, .number number) ∈ attributes → name = durationAttribute
  sourced : ∀ pair ∈ attributes, Sourced recordType fields pair.1 pair.2

/-- What is picked last is picked from a field. -/
theorem exists_of_last? {α : Type} {pick : String × Json.Value → Option α}
    {fields : Json.Fields} {picked : α} (h : fields.last? pick = some picked) :
    ∃ field ∈ fields, pick field = some picked :=
  List.mem_filterMap.mp (List.mem_of_getLast? h)

theorem last?_eq_none_iff {α : Type} {pick : String × Json.Value → Option α}
    {fields : Json.Fields} : fields.last? pick = none ↔ ∀ field ∈ fields, pick field = none := by
  unfold Json.Fields.last?
  rw [List.getLast?_eq_none_iff, List.filterMap_eq_nil_iff]

/-- What a field writes can be traced to it. -/
theorem sourced_of_written {recordType : String} {fields : Json.Fields}
    {field : String × Json.Value} (hmem : field ∈ fields) (h : written? name field = some value) :
    Sourced recordType fields name value := by
  obtain ⟨fieldName, fieldValue⟩ := field
  unfold written? at h
  split_ifs at h with hstart hduration hname hname
  · cases h
    simp only at hduration
    subst hname hduration
    cases fieldValue with
    | number n => exact .number n hmem
    | _ => exact .duration _ _ hmem nofun (rendered_renderBody _)
  · cases h
    subst hname
    exact .field _ _ _ hmem hstart hduration (rendered_renderBody _)

/-- The fields that write to an attribute, by their names. -/
theorem isSome_written?_iff {field : String × Json.Value} :
    (written? name field).isSome = true ↔
      (name = durationAttribute ∧ field.1 = durationField) ∨
      (field.1 = name ∧ field.1 ≠ startField ∧ field.1 ≠ durationField) := by
  have hapart : durationField ≠ startField := by decide
  unfold written?
  split_ifs with hstart hduration hname hname
  · simp [hstart, hapart.symm]
  · simp [hduration, hname]
  · simp [hduration, Ne.symm hname]
  · subst hname
    simp [hstart, hduration]
  · simp [hduration, hname]

/-- An attribute of the relay has one of two names. -/
theorem isSome_reserved?_iff {recordType : String} :
    (reserved? recordType name).isSome = true ↔
      name = eventAttribute ∨ name = serviceAttribute := by
  unfold reserved?
  split_ifs with hservice hevent
  · simp [hservice]
  · simp [hevent]
  · simp [Ne.symm hservice, Ne.symm hevent]

/-- Attributes that hold what was last written can be traced. -/
theorem AttributesOf.sourced {recordType : String} {fields : Json.Fields}
    (h : AttributesOf recordType fields attributes) (hmem : (name, value) ∈ attributes) :
    Sourced recordType fields name value := by
  have hfound := h.ordered.find?_eq_some_iff.mpr hmem
  rw [h.found] at hfound
  cases hlast : fields.last? (written? name) with
  | some written =>
    rw [hlast] at hfound
    obtain rfl := Option.some.inj hfound
    obtain ⟨field, hfield, hwritten⟩ := exists_of_last? hlast
    exact sourced_of_written hfield hwritten
  | none =>
    rw [hlast, Option.none_or] at hfound
    -- no field goes by a name that is still as the relay set it
    have hfree (hstart : name ≠ startField) (hduration : name ≠ durationField) :
        name ∉ fields.names := by
      intro hname
      obtain ⟨other, hother⟩ := Json.Fields.mem_names.mp hname
      have hnone := last?_eq_none_iff.mp hlast _ hother
      have hsome := isSome_written?_iff.mpr (.inr ⟨rfl, hstart, hduration⟩ :
        (name = durationAttribute ∧ (name, other).1 = durationField) ∨ _)
      rw [hnone] at hsome
      exact absurd hsome Bool.false_ne_true
    unfold reserved? at hfound
    split_ifs at hfound with hservice hevent
    · cases hfound
      subst hservice
      exact .service (hfree (by decide) (by decide))
    · cases hfound
      subst hevent
      exact .event (hfree (by decide) (by decide))

/-- They say what the fields say. -/
theorem AttributesOf.exact {recordType : String} {fields : Json.Fields}
    (h : AttributesOf recordType fields attributes) : Exact recordType fields attributes where
  names name := by
    have hmem : name ∈ attributes.map Prod.fst ↔ (attributes.find? name).isSome = true := by
      rw [List.mem_map, Option.isSome_iff_exists]
      constructor
      · rintro ⟨⟨_, value⟩, hmem, rfl⟩
        exact ⟨value, h.ordered.find?_eq_some_iff.mpr hmem⟩
      · rintro ⟨value, hvalue⟩
        exact ⟨(name, value), h.ordered.find?_eq_some_iff.mp hvalue, rfl⟩
    have hwritten : (fields.last? (written? name)).isSome = true ↔
        ∃ field ∈ fields, (written? name field).isSome = true := by
      rw [← Option.ne_none_iff_isSome, Ne, last?_eq_none_iff]
      simp only [not_forall, exists_prop, ← Ne.eq_def, Option.ne_none_iff_isSome]
    rw [hmem, h.found, Option.isSome_or, Bool.or_eq_true, hwritten, isSome_reserved?_iff]
    simp only [isSome_written?_iff, Json.Fields.mem_names]
    constructor
    · rintro (⟨⟨_, value⟩, hfield, ⟨rfl, rfl⟩ | ⟨rfl, hstart, hduration⟩⟩ | rfl | rfl)
      · exact .inr (.inr (.inl ⟨rfl, value, hfield⟩))
      · exact .inr (.inr (.inr ⟨⟨value, hfield⟩, hstart, hduration⟩))
      · exact .inl rfl
      · exact .inr (.inl rfl)
    · rintro (rfl | rfl | ⟨rfl, value, hfield⟩ | ⟨⟨value, hfield⟩, hstart, hduration⟩)
      · exact .inr (.inl rfl)
      · exact .inr (.inr rfl)
      · exact .inl ⟨_, hfield, .inl ⟨rfl, rfl⟩⟩
      · exact .inl ⟨_, hfield, .inr ⟨rfl, hstart, hduration⟩⟩
  increasing := h.ordered.imp Utf8.ofText_lt_ofText
  distinct := by
    refine List.pairwise_map.mpr (h.ordered.imp ?_)
    rintro first second hlt heq
    rw [heq] at hlt
    exact String.lt_irrefl _ hlt
  numeric name number hmem := by
    cases h.sourced hmem with
    | number => rfl
  sourced pair hmem := h.sourced hmem

/-! ## Section 3: Fields in another order -/

/-- What is picked from at most one of the fields is the same in every order of them. -/
theorem filterMap_eq_of_perm {α β : Type} {pick : α → Option β} {fields fields' : List α}
    (hperm : fields'.Perm fields)
    (hone : fields.Pairwise fun first second => pick first = none ∨ pick second = none) :
    fields'.filterMap pick = fields.filterMap pick := by
  have hnone {fields : List α}
      (h : fields.Pairwise fun first second => pick first = none ∨ pick second = none) :
      (fields.filterMap pick).Pairwise fun _ _ => False := by
    refine List.pairwise_filterMap.mpr (h.imp ?_)
    rintro first second (hfirst | hsecond) _ hpicked _ hpicked'
    · rw [hfirst] at hpicked
      cases hpicked
    · rw [hsecond] at hpicked'
      cases hpicked'
  have hone' := (hperm.pairwise_iff fun h => h.symm).mpr hone
  exact (hperm.filterMap pick).eq_of_pairwise (fun _ _ _ _ h => h.elim) (hnone hone') (hnone hone)

/-- Of fields with names of their own, two write to the same attribute only if they are the
    two that write to the duration. -/
theorem pairwise_written? {fields : Json.Fields} (hnames : fields.names.Nodup)
    (hduration : durationField ∉ fields.names ∨ durationAttribute ∉ fields.names) (name : String) :
    fields.Pairwise fun first second =>
      written? name first = none ∨ written? name second = none := by
  refine (List.pairwise_map.mp hnames).imp_of_mem ?_
  rintro ⟨first, _⟩ ⟨second, _⟩ hfirst hsecond hne
  by_contra hboth
  obtain ⟨hone, hother⟩ := not_or.mp hboth
  have hname := isSome_written?_iff.mp (Option.ne_none_iff_isSome.mp hone)
  have hname' := isSome_written?_iff.mp (Option.ne_none_iff_isSome.mp hother)
  have hmem := Json.Fields.mem_names.mpr ⟨_, hfirst⟩
  have hmem' := Json.Fields.mem_names.mpr ⟨_, hsecond⟩
  simp only at hname hname' hne
  rcases hname with ⟨rfl, rfl⟩ | ⟨rfl, -, -⟩
  · rcases hname' with ⟨-, rfl⟩ | ⟨rfl, -, -⟩
    · exact hne rfl
    · exact hduration.elim (fun h => h hmem) fun h => h hmem'
  · rcases hname' with ⟨rfl, rfl⟩ | ⟨rfl, -, -⟩
    · exact hduration.elim (fun h => h hmem') fun h => h hmem
    · exact hne rfl

/-- Of fields with names of their own, one at most goes by a name. -/
theorem pairwise_of_named {α : Type} {pick : String × Json.Value → Option α} {name : String}
    {fields : Json.Fields} (hnames : fields.names.Nodup)
    (hnamed : ∀ field : String × Json.Value, field.1 ≠ name → pick field = none) :
    fields.Pairwise fun first second => pick first = none ∨ pick second = none := by
  refine (List.pairwise_map.mp hnames).imp ?_
  intro first second hne
  by_cases hfirst : first.1 = name
  · refine .inr (hnamed second ?_)
    rw [← hfirst]
    exact Ne.symm hne
  · exact .inl (hnamed first hfirst)

/-- The start of a span is determined by its fields and the time it is given. -/
theorem StartsAt.unique {fields fields' : Json.Fields} {time start start' : Instant}
    (h : StartsAt time fields start) (h' : StartsAt time fields' start')
    (hlast : fields'.last? (valueAt? startField) = fields.last? (valueAt? startField)) :
    start' = start := by
  unfold StartsAt at h h'
  rw [hlast] at h'
  cases hvalue : fields.last? (valueAt? startField) with
  | none =>
    rw [hvalue] at h h'
    rw [h, h']
  | some value =>
    rw [hvalue] at h h'
    obtain ⟨text, htext, hparse⟩ := h
    obtain ⟨text', htext', hparse'⟩ := h'
    rw [htext] at htext'
    cases htext'
    rw [hparse] at hparse'
    exact (Except.ok.inj hparse').symm

/-- **Order**: fields in another order are taken into the same start and attributes, or fail
    with the same error. -/
theorem spanFrom_eq_of_perm {recordType : String} {fields fields' : Json.Fields} {time : Instant}
    (hperm : fields'.Perm fields) (hnames : fields.names.Nodup)
    (hduration : durationField ∉ fields.names ∨ durationAttribute ∉ fields.names)
    (hordered : attributes.Ordered) :
    spanFrom recordType fields' time attributes = spanFrom recordType fields time attributes := by
  have hstarts : fields'.last? (valueAt? startField) = fields.last? (valueAt? startField) :=
    congrArg List.getLast? (filterMap_eq_of_perm hperm
      (pairwise_of_named hnames fun field hname => if_neg hname))
  have hwritten (name : String) : fields'.last? (written? name) = fields.last? (written? name) :=
    congrArg List.getLast? (filterMap_eq_of_perm hperm (pairwise_written? hnames hduration name))
  have hfaults : fields'.filterMap (startFault? recordType)
      = fields.filterMap (startFault? recordType) :=
    filterMap_eq_of_perm hperm (pairwise_of_named hnames fun field hname => if_neg hname)
  have herror : errorOf (spanFrom recordType fields' time attributes)
      = errorOf (spanFrom recordType fields time attributes) := by
    rw [errorOf_spanFrom, errorOf_spanFrom, hfaults]
  cases hmade : spanFrom recordType fields time attributes with
  | error e =>
    rw [hmade] at herror
    cases hmade' : spanFrom recordType fields' time attributes with
    | error e' =>
      rw [hmade'] at herror
      rw [Option.some.inj herror]
    | ok made' =>
      rw [hmade'] at herror
      cases herror
  | ok made =>
    rw [hmade] at herror
    cases hmade' : spanFrom recordType fields' time attributes with
    | error e' =>
      rw [hmade'] at herror
      cases herror
    | ok made' =>
      -- both are what was last written, and the last of one field is the same in every order
      have htaken := taken_spanFrom recordType hmade
      have htaken' := taken_spanFrom recordType hmade'
      have hstart : made'.1 = made.1 := htaken.start.unique htaken'.start hstarts
      have hattributes : made'.2 = made.2 := by
        refine (htaken'.ordered hordered).ext (htaken.ordered hordered) ?_
        intro name
        rw [htaken'.found, htaken.found, hwritten]
      rw [Prod.ext hstart hattributes]

/-- **Attributes and order**: the attributes of a span say what its fields say, in the order
    of the octets of their names. If the names of the fields are distinct, as those of an
    object are, fields in another order make the same span but for its id, or fail with the
    same error, unless there are both a `durationMs` and a `duration.ms` among them. -/
theorem span_ignores_order_of_fields (entry : Entry) (traceId : String) (time : Instant)
    (fields : Json.Fields) :
    (∀ id item, spanItem entry traceId id time fields = .ok item →
      Exact entry.record.recordType fields item.attributes) ∧
    (fields.names.Nodup →
      ¬ (durationField ∈ fields.names ∧ durationAttribute ∈ fields.names) →
      ∀ fields', fields'.Perm fields → ∀ id id',
        (spanItem entry traceId id' time fields').map SpanItem.withoutId
          = (spanItem entry traceId id time fields).map SpanItem.withoutId) := by
  constructor
  · intro id item hitem
    exact (attributesOf_taken (taken_spanItem hitem)).exact
  · intro hnames hboth fields' hperm id id'
    have hordered := ordered_initialAttributes entry.record.recordType
    rw [spanItem_withoutId, spanItem_withoutId, spanItem, spanItem,
      spanFrom_eq_of_perm hperm hnames (Decidable.not_and_iff_not_or_not.mp hboth) hordered]

/-- A span with a start, a duration and a list. -/
def timedSpan : Json.Fields :=
  [("start", .string "2024-01-01T00:00:00Z"), ("durationMs", .number (.integer 5)),
    ("tags", .array [.bool true])]

/-- A span whose duration is written twice. -/
def doublySpan : Json.Fields :=
  [("durationMs", .number (.integer 5)), ("duration.ms", .string "7")]

/-- The fields of one span may be turned around. Those of the other may not, since both of
    them write to its duration. -/
theorem span_turned_around :
    (spanItem twoSpans "r" "i" 0 timedSpan.reverse).map SpanItem.withoutId
      = (spanItem twoSpans "r" "j" 0 timedSpan).map SpanItem.withoutId ∧
    spanItem twoSpans "r" "i" 0 doublySpan.reverse ≠ spanItem twoSpans "r" "i" 0 doublySpan := by
  refine ⟨?_, ?_⟩
  · exact (span_ignores_order_of_fields twoSpans "r" 0 timedSpan).2 (by decide) (by decide)
      timedSpan.reverse (List.reverse_perm timedSpan) "j" "i"
  · decide

end Telemetry

end TelemetryRelay
