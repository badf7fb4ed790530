import TelemetryRelay.Proofs.Host.Fields
import TelemetryRelay.Proofs.Json.Members
import TelemetryRelay.Proofs.Json.Readable

/-! # Events by the names of their fields

    The fields of an event are gathered as they come, and taken once the kind is known. So
    it does not matter where in the object the kind stands: an object is an event exactly
    if it names a kind once and has each field of this kind once, with a value of its type.
    Whatever else is in the object only has to be readable.
-/

namespace TelemetryRelay

namespace Host

open Json (Value)

/-! ## Section 1: Gathering fields -/

open Results (exists_of_bind bind_eq)

theorem eq_name_of_parse {text : String} {kind : EventKind}
    (h : EventKind.parse text = .ok kind) : text = kind.name := by
  unfold EventKind.parse at h
  split at h
  · next found hfind =>
    cases h
    have hname := List.find?_some hfind
    exact (beq_iff_eq.mp hname).symm
  · cases h

theorem readKind_append {kind : EventKind} {literal gap rest : Bytes}
    (h : Json.StringText kind.name literal) (hgap : Json.IsBlank gap) :
    readKind (gap ++ (literal ++ rest)) = .ok (kind, rest) := by
  obtain ⟨body, hbody, rfl⟩ := h
  have hread : Json.string (body ++ 34 :: rest) = .ok (kind.name, rest) :=
    Json.string_eq_ok_iff.mpr ⟨body, hbody, rfl⟩
  simp only [List.cons_append, List.append_assoc, List.nil_append]
  rw [readKind, Json.skipSpace_append_cons hgap (by decide)]
  simp only [beq_self_eq_true, if_true]
  rw [bind_eq hread]
  exact bind_eq kind.parse_name _

/-- A kind is read from nothing but a literal of its name. -/
theorem exists_of_readKind {kind : EventKind} {octets rest : Bytes}
    (h : readKind octets = .ok (kind, rest)) : ∃ gap literal, Json.IsBlank gap ∧
      Json.StringText kind.name literal ∧ octets = gap ++ (literal ++ rest) := by
  unfold readKind at h
  split at h
  · cases h
  · next b more hskip =>
    obtain ⟨gap, hgap, rfl⟩ := Json.exists_gap_of_skipSpace hskip
    split_ifs at h with hquote
    obtain ⟨⟨text, after⟩, hstring, hparse⟩ := exists_of_bind h
    obtain ⟨found, hfound, hend⟩ := exists_of_bind hparse
    cases hend
    obtain rfl := eq_name_of_parse hfound
    obtain ⟨body, hbody, rfl⟩ := Json.string_eq_ok_iff.mp hstring
    exact ⟨gap, _, hgap, ⟨body, hbody, rfl⟩, by rw [beq_iff_eq.mp hquote]; simp⟩

/-- **Gathering**: what one field does. The kind is taken once, and anything else is kept. -/
inductive Gathers : Gathered → String × Value → Gathered → Prop where
  | tag (kind : EventKind) (others : List (String × Value)) :
      Gathers (none, others) (EventKind.tag, .string kind.name) (some kind, others)
  | other (found : Option EventKind) (others : List (String × Value)) (name : String)
      (v : Value) : name ≠ EventKind.tag →
      Gathers (found, others) (name, v) (found, (name, v) :: others)

theorem takes_gatherField (levels : Nat) :
    Json.Takes (gatherField levels) (Json.Denotes levels) Gathers := by
  intro s name v s' text between after rest hstep hbetween hafter htext hrest
  cases hstep with
  | tag kind others =>
    have hliteral : Json.StringText kind.name text := htext.1.2
    rw [gatherField, if_pos rfl, if_neg (by simp), bind_eq (Json.colon_append hbetween _)]
    exact bind_eq (readKind_append hliteral hafter) _
  | other found others _ _ hname =>
    rw [gatherField, if_neg hname, bind_eq (Json.colon_append hbetween _)]
    exact bind_eq (htext.2 after rest hafter hrest) _

theorem takesOnly_gatherField (levels : Nat) :
    Json.TakesOnly (gatherField levels) Json.Written Gathers := by
  intro s name octets s' rest h
  unfold gatherField at h
  split_ifs at h with hname hfound
  · obtain ⟨⟨u, more⟩, hcolon, hkind⟩ := exists_of_bind h
    obtain ⟨⟨kind, after⟩, hkind, hend⟩ := exists_of_bind hkind
    cases hend
    obtain ⟨between, hbetween, rfl⟩ := Json.exists_of_colon hcolon
    obtain ⟨gap, literal, hgap, hliteral, hmore⟩ := exists_of_readKind hkind
    obtain ⟨found, others⟩ := s
    obtain rfl : found = none := by simpa using hfound
    refine ⟨.string kind.name, between, gap, literal, hbetween, hgap,
      ⟨hliteral.isValue, hliteral⟩, ?_, congrArg (between ++ 58 :: ·) hmore⟩
    rw [hname]
    exact .tag kind others
  · obtain ⟨⟨u, more⟩, hcolon, hvalue⟩ := exists_of_bind h
    obtain ⟨⟨v, after⟩, hvalue, hend⟩ := exists_of_bind hvalue
    cases hend
    obtain ⟨between, hbetween, rfl⟩ := Json.exists_of_colon hcolon
    obtain ⟨gap, text, hgap, hwritten, hmore⟩ := Json.readsOnly_written levels _ _ _ hvalue
    exact ⟨v, between, gap, text, hbetween, hgap, hwritten, .other s.1 s.2 name v hname,
      congrArg (between ++ 58 :: ·) hmore⟩

section Gathered

variable {values others gathered : List (String × Value)} {kind : EventKind}
  {found : Option EventKind}

/-- The fields besides the one that holds the kind. -/
def untagged (values : List (String × Value)) : List (String × Value) :=
  values.filter fun value => value.1 != EventKind.tag

/-- Once the kind is known, all that follows must be other fields. -/
theorem through_gathers_known_iff :
    Json.Through Gathers (some kind, others) values (found, gathered) ↔
      found = some kind ∧ Json.Lacks values EventKind.tag ∧
        gathered = values.reverse ++ others := by
  induction values generalizing others with
  | nil =>
    constructor
    · intro h
      cases h
      exact ⟨rfl, rfl, rfl⟩
    · rintro ⟨rfl, -, rfl⟩
      exact .nil _
  | cons value values ih =>
    rw [Json.lacks_cons, List.reverse_cons, List.append_assoc]
    constructor
    · intro h
      cases h with
      | cons _ _ _ _ _ hstep hrest =>
        cases hstep with
        | other _ _ name v hname =>
          obtain ⟨hfound, hlacks, hgathered⟩ := ih.mp hrest
          exact ⟨hfound, ⟨hname, hlacks⟩, hgathered⟩
    · rintro ⟨hfound, ⟨hname, hlacks⟩, hgathered⟩
      exact .cons _ _ _ _ _ (.other _ _ value.1 value.2 hname) (ih.mpr ⟨hfound, hlacks, hgathered⟩)

theorem untagged_of_lacks (h : Json.Lacks values EventKind.tag) : untagged values = values := by
  unfold Json.Lacks at h
  rw [List.filter_eq_nil_iff] at h
  unfold untagged
  rw [List.filter_eq_self]
  intro value hmem
  simpa using h value hmem

/-- **Gathered**: the kind is known in the end if one field names it, and all other fields are
    there in their order. -/
theorem through_gathers_iff :
    Json.Through Gathers (none, others) values (some kind, gathered) ↔
      values.filter (fun value => value.1 == EventKind.tag)
          = [(EventKind.tag, .string kind.name)] ∧
        gathered = (untagged values).reverse ++ others := by
  induction values generalizing others with
  | nil =>
    constructor
    · intro h
      cases h
    · rintro ⟨h, -⟩
      cases h
  | cons value values ih =>
    obtain ⟨name, v⟩ := value
    by_cases hname : name = EventKind.tag
    · subst hname
      rw [List.filter_cons_of_pos (by simp)]
      have huntagged : untagged ((EventKind.tag, v) :: values) = untagged values :=
        List.filter_cons_of_neg (by simp)
      rw [huntagged]
      constructor
      · intro h
        cases h with
        | cons _ _ _ _ _ hstep hrest =>
          cases hstep with
          | tag found =>
            -- from here on the kind is known, and no second one may come
            obtain ⟨hfound, hlacks, hgathered⟩ := through_gathers_known_iff.mp hrest
            cases hfound
            rw [untagged_of_lacks hlacks]
            exact ⟨congrArg _ hlacks, hgathered⟩
          | other _ _ _ _ hne => exact absurd rfl hne
      · rintro ⟨hfilter, hgathered⟩
        obtain ⟨hhead, hlacks⟩ := List.cons.inj hfilter
        rw [untagged_of_lacks hlacks] at hgathered
        rw [hhead]
        exact .cons _ _ _ _ _ (.tag kind others)
          (through_gathers_known_iff.mpr ⟨rfl, hlacks, hgathered⟩)
    · have huntagged : untagged ((name, v) :: values) = (name, v) :: untagged values :=
        List.filter_cons_of_pos (by simpa using hname)
      rw [List.filter_cons_of_neg (by simpa using hname), huntagged, List.reverse_cons,
        List.append_assoc]
      constructor
      · intro h
        cases h with
        | cons _ _ _ _ _ hstep hrest =>
          cases hstep with
          | tag => exact absurd rfl hname
          | other => exact ih.mp hrest
      · intro h
        exact .cons _ _ _ _ _ (.other none others name v hname) (ih.mpr h)

end Gathered

/-! ## Section 2: Objects -/

/-- **Making**: values with names that name the kind of an event once and have each of its
    fields once. -/
structure Makes (values : List (String × Value)) (event : Event) : Prop where
  tag : values.filter (fun value => value.1 == EventKind.tag)
    = [(EventKind.tag, .string event.kind.name)]
  fields : ∀ field ∈ event.kind.fields, ∃ v, field.Accepts v ∧ event.value? field = some v ∧
    values.filter (fun value => value.1 == field.name) = [(field.name, v)]

/-- The kind does not stand in the way of the fields. -/
theorem filter_untagged (values : List (String × Value)) (field : EventField) :
    (untagged values).filter (fun value => value.1 == field.name)
      = values.filter fun value => value.1 == field.name := by
  have hname : field.name ≠ EventKind.tag := by cases field <;> decide
  unfold untagged
  rw [List.filter_filter]
  apply List.filter_congr
  intro value _
  by_cases hvalue : value.1 = field.name
  · simp [hvalue, hname]
  · simp [hvalue]

theorem readEventObject_append {levels : Nat} {values : List (String × Value)} {inner : Bytes}
    {event : Event} (h : Json.Elements (Json.Member (Json.Denotes levels)) values inner)
    (hmakes : Makes values event) (rest : Bytes) :
    readEventObject levels (inner ++ 125 :: rest) = .ok (event, rest) := by
  have hthrough : Json.Through Gathers (none, []) values
      (some event.kind, (untagged values).reverse) :=
    through_gathers_iff.mpr ⟨hmakes.tag, (List.append_nil _).symm⟩
  have hfields := hmakes.fields
  simp only [← filter_untagged values] at hfields
  obtain ⟨draft, hlearn, hfinish⟩ := learnFields_finish_iff.mpr ⟨rfl, hfields⟩
  have hopen := Json.openFields_append (takes_gatherField levels) h hthrough rest
  have hclose : Json.closeObject (125 :: rest) = .ok ((), rest) :=
    Json.closeObject_append Json.isBlank_nil rest
  rw [readEventObject, bind_eq hopen]
  dsimp only
  rw [bind_eq hclose, List.reverse_reverse, bind_eq hlearn, bind_eq hfinish]

/-- Nothing else is read as an object. -/
theorem exists_of_readEventObject {levels : Nat} {octets rest : Bytes} {event : Event}
    (h : readEventObject levels octets = .ok (event, rest)) :
    ∃ values inner, Json.Elements (Json.Member Json.Written) values inner ∧
      Makes values event ∧ octets = inner ++ 125 :: rest := by
  obtain ⟨⟨⟨found, gathered⟩, after⟩, hopen, hend⟩ := exists_of_bind h
  obtain ⟨values, inner, tail, hinner, hthrough, rfl, rfl⟩ :=
    Json.exists_of_openFields (takesOnly_gatherField levels) hopen
  cases found with
  | none => cases hend
  | some kind =>
    have hclose : Json.closeObject (125 :: tail) = .ok ((), tail) :=
      Json.closeObject_append Json.isBlank_nil tail
    dsimp only at hend
    rw [bind_eq hclose] at hend
    obtain ⟨draft, hlearn, hend⟩ := exists_of_bind hend
    obtain ⟨made, hfinish, hend⟩ := exists_of_bind hend
    cases hend
    obtain ⟨htag, hgathered⟩ := through_gathers_iff.mp hthrough
    rw [List.append_nil] at hgathered
    rw [hgathered, List.reverse_reverse] at hlearn
    obtain ⟨rfl, hfields⟩ := learnFields_finish_iff.mp ⟨draft, hlearn, hfinish⟩
    simp only [filter_untagged] at hfields
    exact ⟨values, inner, hinner, ⟨htag, hfields⟩, rfl⟩

theorem readEvent_object {gap : Bytes} (hgap : Json.IsBlank gap) (levels : Nat)
    (rest : Bytes) : readEvent (levels + 1) (gap ++ 123 :: rest) = readEventObject levels rest := by
  rw [readEvent, Json.skipSpace_append_cons hgap (by decide)]
  rfl

/-- The texts of objects whose values make an event. -/
def MadeFrom (levels : Nat) (event : Event) (text : Bytes) : Prop :=
  ∃ values inner, Json.Elements (Json.Member (Json.Denotes levels)) values inner ∧
    Makes values event ∧ text = 123 :: (inner ++ [125])

theorem reads_madeFrom (levels : Nat) :
    Json.Reads (readEvent (levels + 1)) (MadeFrom levels) := by
  rintro event _ gap rest hgap ⟨values, inner, hinner, hmakes, rfl⟩ _
  simp only [List.cons_append, List.append_assoc, List.nil_append]
  rw [readEvent_object hgap]
  exact readEventObject_append hinner hmakes rest

/-- An object that is read as an event has members with the values that make it. -/
theorem exists_values_of_decode {members : List (String × Bytes)} {octets : Bytes}
    {event : Event} (hobject : Json.Document Json.ObjectText members octets)
    (h : Event.decode octets = .ok event) :
    ∃ values, Makes values event ∧ List.Forall₂ (fun value member =>
      member.1 = value.1 ∧ Json.Written value.2 member.2) values members := by
  obtain ⟨⟨made, rest⟩, hread, hend⟩ := exists_of_bind h
  have hblank : Json.IsBlank rest ∧ made = event := by
    simp only at hend
    split at hend
    · next hskip =>
      cases hend
      obtain ⟨gap, hgap, rfl⟩ := Json.exists_gap_of_skipSpace hskip
      rw [List.append_nil]
      exact ⟨hgap, rfl⟩
    · cases hend
  obtain ⟨hblank, rfl⟩ := hblank
  have hdocument := hobject
  obtain ⟨before, _, after, hbefore, ⟨inner, hinner, rfl⟩, hafter, rfl⟩ := hobject
  simp only [List.cons_append, List.append_assoc, List.nil_append] at hread
  rw [Json.nestingLimit, readEvent_object hbefore] at hread
  obtain ⟨values, inner', hvalues, hmakes, heq⟩ := exists_of_readEventObject hread
  obtain ⟨members', hrelated, hmembers'⟩ := hvalues.exists_members
    Json.Written Json.Verbatim
    fun _ _ text htext => ⟨text, htext, rfl, htext.1⟩
  -- the values stand where the members do, and one text has one list of members
  have hsame : members' = members := by
    refine Json.members_unique ⟨before, _, rest, hbefore, ⟨inner', hmembers', rfl⟩, hblank, ?_⟩
      hdocument
    simp only [List.cons_append, List.append_assoc, List.nil_append]
    rw [heq]
  exact ⟨values, hmakes, hsame ▸ hrelated⟩

/-! ## Section 3: Events by their members -/

/-- The numeral of an integer. -/
def NumeralText (i : Int) (text : Bytes) : Prop := text = Bytes.ofText (toString i)

/-- Integers of 64 bits with a sign. -/
def IsDeadline (i : Int) : Prop := -0x8000000000000000 ≤ i ∧ i ≤ 0x7FFFFFFFFFFFFFFF

/-- The deadline of an event. -/
def Event.deadline : Event → Int
  | .invoke deadline _ _ => deadline
  | .shutdown _ deadline => deadline

/-- **Held**: members that name the kind of an event once, and each of its fields once with a
    text of its value. Nothing is said of other members. -/
def Event.HeldBy (members : List (String × Bytes)) : Event → Prop
  | .invoke deadline requestId arn =>
    Json.Holds members "eventType" Json.StringText "INVOKE" ∧
      Json.Holds members "deadlineMs" NumeralText deadline ∧
      Json.Holds members "requestId" Json.StringText requestId ∧
      Json.Holds members "invokedFunctionArn" Json.StringText arn
  | .shutdown reason deadline =>
    Json.Holds members "eventType" Json.StringText "SHUTDOWN" ∧
      Json.Holds members "shutdownReason" Json.StringText reason ∧
      Json.Holds members "deadlineMs" NumeralText deadline

/-- The texts of the type of a field. -/
def EventField.Typed : EventField → Bytes → Prop
  | .deadline, text => ∃ i, IsDeadline i ∧ NumeralText i text
  | .requestId, text | .arn, text | .reason, text => ∃ s, Json.StringText s text

theorem IsDeadline.fitsWord {i : Int} (h : IsDeadline i) : Json.FitsWord i :=
  ⟨h.1, Int.lt_of_le_of_lt h.2 (by decide)⟩

theorem typed_of_written {field : EventField} {v : Value} {text : Bytes}
    (haccepts : field.Accepts v) (h : Json.Written v text) : field.Typed text := by
  cases field with
  | deadline =>
    obtain ⟨i, hi, rfl⟩ := haccepts
    obtain ⟨-, hfits, htext⟩ := h
    exact ⟨i, ⟨hfits.1, hi⟩, htext⟩
  | requestId | arn | reason =>
    obtain ⟨s, rfl⟩ := haccepts
    exact ⟨s, h.2⟩

section Members

variable {members : List (String × Bytes)} {name : String} {event : Event}

/-- What holds an event holds the values of its fields. -/
theorem Event.HeldBy.denotes (h : event.HeldBy members) (hdeadline : IsDeadline event.deadline)
    (levels : Nat) :
    Json.Holds members EventKind.tag (Json.Denotes levels) (.string event.kind.name) ∧
      ∀ field ∈ event.kind.fields, ∃ v, field.Accepts v ∧ event.value? field = some v ∧
        Json.Holds members field.name (Json.Denotes levels) v := by
  have hstring : ∀ {name s : String}, Json.Holds members name Json.StringText s →
      Json.Holds members name (Json.Denotes levels) (.string s) :=
    fun hs => hs.imp fun _ htext => Json.denotes_string htext levels
  have hinteger : ∀ {name : String} {i : Int}, IsDeadline i →
      Json.Holds members name NumeralText i →
      Json.Holds members name (Json.Denotes levels) (.number (.integer i)) := by
    intro name i hi hholds
    refine hholds.imp ?_
    rintro _ rfl
    exact Json.denotes_integer hi.fitsWord levels
  cases event with
  | invoke deadline requestId arn =>
    obtain ⟨htag, hd, hr, ha⟩ := h
    refine ⟨hstring htag, ?_⟩
    simp only [Event.kind, EventKind.fields, List.forall_mem_cons]
    exact ⟨⟨_, ⟨deadline, hdeadline.2, rfl⟩, rfl, hinteger hdeadline hd⟩,
      ⟨_, ⟨requestId, rfl⟩, rfl, hstring hr⟩, ⟨_, ⟨arn, rfl⟩, rfl, hstring ha⟩,
      fun _ hnone => absurd hnone List.not_mem_nil⟩
  | shutdown reason deadline =>
    obtain ⟨htag, hr, hd⟩ := h
    refine ⟨hstring htag, ?_⟩
    simp only [Event.kind, EventKind.fields, List.forall_mem_cons]
    exact ⟨⟨_, ⟨reason, rfl⟩, rfl, hstring hr⟩,
      ⟨_, ⟨deadline, hdeadline.2, rfl⟩, rfl, hinteger hdeadline hd⟩,
      fun _ hnone => absurd hnone List.not_mem_nil⟩

/-- Values that are written as members make an event that the members hold. -/
theorem heldBy_of_makes {values : List (String × Value)} (hmakes : Makes values event)
    (hwritten : List.Forall₂ (fun value member =>
      member.1 = value.1 ∧ Json.Written value.2 member.2) values members) :
    Json.Holds members EventKind.tag Json.StringText event.kind.name ∧
      (∀ field ∈ event.kind.fields, ∃ v, field.Accepts v ∧ event.value? field = some v ∧
        Json.Holds members field.name Json.Written v) ∧
      event.HeldBy members := by
  obtain ⟨tagText, htagText, htag⟩ := Json.filter_eq_singleton hwritten hmakes.tag
  have htagged : Json.Holds members EventKind.tag Json.StringText event.kind.name :=
    ⟨tagText, htagText.2, htag⟩
  have hfields : ∀ field ∈ event.kind.fields, ∃ v, field.Accepts v ∧
      event.value? field = some v ∧ Json.Holds members field.name Json.Written v := by
    intro field hmem
    obtain ⟨v, haccepts, hv, hfilter⟩ := hmakes.fields field hmem
    obtain ⟨text, htext, hmembers⟩ := Json.filter_eq_singleton hwritten hfilter
    exact ⟨v, haccepts, hv, text, htext, hmembers⟩
  refine ⟨htagged, hfields, ?_⟩
  -- where the event has a value, the field is one of its kind
  have hvalue : ∀ field v, event.value? field = some v →
      Json.Holds members field.name Json.Written v := by
    intro field v hv
    have hmem : field ∈ event.kind.fields := by
      by_contra hnot
      rw [value?_of_notMem hnot] at hv
      cases hv
    obtain ⟨v', -, hv', hholds⟩ := hfields field hmem
    rw [hv] at hv'
    cases hv'
    exact hholds
  have hstring : ∀ {name s : String}, Json.Holds members name Json.Written (.string s) →
      Json.Holds members name Json.StringText s :=
    fun hs => hs.imp fun _ htext => htext.2
  have hinteger : ∀ {name : String} {i : Int},
      Json.Holds members name Json.Written (.number (.integer i)) →
      Json.Holds members name NumeralText i :=
    fun hs => hs.imp fun _ htext => htext.2.2
  cases event with
  | invoke deadline requestId arn =>
    exact ⟨htagged, hinteger (hvalue .deadline _ rfl), hstring (hvalue .requestId _ rfl),
      hstring (hvalue .arn _ rfl)⟩
  | shutdown reason deadline =>
    exact ⟨htagged, hstring (hvalue .reason _ rfl), hinteger (hvalue .deadline _ rfl)⟩

/-- One member names one kind. -/
theorem kind_eq_of_holds {kind kind' : EventKind}
    (h : Json.Holds members name Json.StringText kind.name)
    (h' : Json.Holds members name Json.StringText kind'.name) : kind = kind' := by
  obtain ⟨text, htext, hfilter⟩ := h
  obtain ⟨text', htext', hfilter'⟩ := h'
  rw [hfilter] at hfilter'
  cases hfilter'
  have hname := (Json.denotes_string htext 0).unique (Json.denotes_string htext' 0)
  cases kind <;> cases kind' <;> first | rfl | exact absurd hname (by simp [EventKind.name])

/-- **Complete**: an object that holds an event among readable members is read as the event. -/
theorem decode_of_heldBy {octets : Bytes} (hobject : Json.Document Json.ObjectText members octets)
    (hheld : event.HeldBy members) (hdeadline : IsDeadline event.deadline)
    (hothers : ∀ member ∈ members, member.1 ≠ EventKind.tag →
      (∀ field ∈ event.kind.fields, member.1 ≠ field.name) →
      Json.IsReadable (Json.nestingLimit - 1) member.2) :
    Event.decode octets = .ok event := by
  obtain ⟨htag, hfields⟩ := hheld.denotes hdeadline (Json.nestingLimit - 1)
  -- every member is read: the kind, a field, or anything else
  have hread : ∀ member ∈ members, ∃ v, Json.Denotes (Json.nestingLimit - 1) v member.2 := by
    rintro ⟨name, text⟩ hmem
    by_cases hname : name = EventKind.tag
    · subst hname
      exact ⟨_, htag.form_of_mem hmem⟩
    · by_cases hfield : ∀ field ∈ event.kind.fields, name ≠ field.name
      · exact Json.exists_denotes (hothers _ hmem hname hfield)
      · push Not at hfield
        obtain ⟨field, hin, rfl⟩ := hfield
        obtain ⟨v, -, -, hholds⟩ := hfields field hin
        exact ⟨v, hholds.form_of_mem hmem⟩
  obtain ⟨before, _, after, hbefore, ⟨inner, hinner, rfl⟩, hafter, rfl⟩ := hobject
  obtain ⟨values, hvalues, hinner'⟩ := hinner.exists_members
    (fun text v => Json.Denotes (Json.nestingLimit - 1) v text)
    (Json.Denotes (Json.nestingLimit - 1)) fun member hmem octets hoctets => by
      obtain ⟨v, hv⟩ := hread member hmem
      exact ⟨v, hv, hoctets.1 ▸ hv⟩
  have hfilter : ∀ {name : String} {v : Value},
      Json.Holds members name (Json.Denotes (Json.nestingLimit - 1)) v →
      values.filter (fun value => value.1 == name) = [(name, v)] := by
    rintro name v ⟨text, htext, hfilter⟩
    obtain ⟨v', hv', hvalues'⟩ := Json.filter_eq_singleton
      (R := fun text v => Json.Denotes (Json.nestingLimit - 1) v text) hvalues hfilter
    rw [hvalues', htext.unique hv']
  have hmakes : Makes values event := by
    refine ⟨hfilter htag, ?_⟩
    intro field hmem
    obtain ⟨v, haccepts, hv, hholds⟩ := hfields field hmem
    exact ⟨v, haccepts, hv, hfilter hholds⟩
  exact Json.document_of_reads (reads_madeFrom (Json.nestingLimit - 1))
    ⟨before, _, after, hbefore, ⟨values, inner, hinner', hmakes, rfl⟩, hafter, rfl⟩

end Members

/-- **Events are read by the names of their fields**: an object that holds an event, in any
    order and among any other readable members, is read as this event. An object is not read
    where its kind is missing, repeated or none there is, or where a field of its kind is
    missing, repeated or of another type. Whatever is read from an object is held by it. -/
theorem events_are_read_by_name :
    (∀ (event : Event) (members : List (String × Bytes)) (octets : Bytes),
      IsDeadline event.deadline → Json.Document Json.ObjectText members octets →
      event.HeldBy members →
      (∀ member ∈ members, member.1 ≠ EventKind.tag →
        (∀ field ∈ event.kind.fields, member.1 ≠ field.name) →
        Json.IsReadable (Json.nestingLimit - 1) member.2) →
      Event.decode octets = .ok event) ∧
    (∀ (members : List (String × Bytes)) (octets : Bytes),
      Json.Document Json.ObjectText members octets →
      Json.Amiss members EventKind.tag
        (fun text => ∃ kind : EventKind, Json.StringText kind.name text) →
      ∃ fault, Event.decode octets = .error fault) ∧
    (∀ (kind : EventKind) (field : EventField) (members : List (String × Bytes))
        (octets : Bytes),
      Json.Document Json.ObjectText members octets →
      Json.Holds members EventKind.tag Json.StringText kind.name → field ∈ kind.fields →
      Json.Amiss members field.name field.Typed →
      ∃ fault, Event.decode octets = .error fault) ∧
    (∀ (event : Event) (members : List (String × Bytes)) (octets : Bytes),
      Json.Document Json.ObjectText members octets → Event.decode octets = .ok event →
      event.HeldBy members) := by
  -- what is read has its kind and its fields in order
  have hsound : ∀ {event : Event} {members : List (String × Bytes)} {octets : Bytes},
      Json.Document Json.ObjectText members octets → Event.decode octets = .ok event →
      Json.Holds members EventKind.tag Json.StringText event.kind.name ∧
        (∀ field ∈ event.kind.fields, ∃ v, field.Accepts v ∧ event.value? field = some v ∧
          Json.Holds members field.name Json.Written v) ∧
        event.HeldBy members := by
    intro event members octets hobject hdecode
    obtain ⟨values, hmakes, hwritten⟩ := exists_values_of_decode hobject hdecode
    exact heldBy_of_makes hmakes hwritten
  refine ⟨?_, ?_, ?_, ?_⟩
  · intro event members octets hdeadline hobject hheld hothers
    exact decode_of_heldBy hobject hheld hdeadline hothers
  · intro members octets hobject hamiss
    cases hdecode : Event.decode octets with
    | error fault => exact ⟨fault, rfl⟩
    | ok event =>
      obtain ⟨htag, -, -⟩ := hsound hobject hdecode
      exact absurd hamiss (htag.not_amiss fun text htext => ⟨event.kind, htext⟩)
  · intro kind field members octets hobject hkind hfield hamiss
    cases hdecode : Event.decode octets with
    | error fault => exact ⟨fault, rfl⟩
    | ok event =>
      obtain ⟨htag, hfields, -⟩ := hsound hobject hdecode
      obtain rfl : event.kind = kind := kind_eq_of_holds htag hkind
      obtain ⟨v, haccepts, -, hholds⟩ := hfields field hfield
      exact absurd hamiss (hholds.not_amiss fun text htext => typed_of_written haccepts htext)
  · intro event members octets hobject hdecode
    exact (hsound hobject hdecode).2.2

/-- An invocation with the least deadline there is. -/
def scattered : Event := .invoke (-9223372036854775808) "\"" "arn"

/-- Its members in an order of their own, among them one of the other kind and one that is
    unknown. -/
def scatteredMembers : List (String × String) :=
  [("deadlineMs", toString (-9223372036854775808 : Int)), ("shutdownReason", "null"),
    ("requestId", Json.stringText "\""), ("eventType", Json.stringText "INVOKE"),
    ("sampling", "[-1.5e-3]"), ("invokedFunctionArn", Json.stringText "arn")]

/-- The octets of an object with these members. -/
def objectOctets (members : List (String × String)) : Bytes := Bytes.ofText (Json.objectText members)

/-- The number of the unknown member is neither an integer nor out of range. -/
theorem isReadable_sampling (levels : Nat) :
    Json.IsReadable (levels + 1) (Bytes.ofText "[-1.5e-3]") := by
  have hdigit : ∀ b, Bytes.isDigit b = true → Json.IsDigits [b] :=
    fun b hb => ⟨List.cons_ne_nil b [], by simpa using hb⟩
  have hunsigned : Json.IsUnsigned [49, 46, 53, 101, 45, 51] :=
    ⟨[49], [46, 53], [101, 45, 51], .inr ⟨hdigit 49 rfl, fun _ h => nomatch h⟩,
      .some [53] (hdigit 53 rfl), .some 101 [45] [51] (.inl rfl) (.inr (.inr rfl)) (hdigit 51 rfl),
      rfl⟩
  have hnumber : Json.IsFlat [45, 49, 46, 53, 101, 45, 51] := .negative _ hunsigned nofun
  exact .inr (.inl ⟨[_], _, .some [] _ _ [] [] Json.isBlank_nil ⟨rfl, hnumber.isReadable levels⟩
    (.none [] Json.isBlank_nil), by decide⟩)

theorem isValue_scattered : ∀ member ∈ scatteredMembers, Json.IsValue (Bytes.ofText member.2) := by
  have hstring : ∀ s, Json.IsValue (Bytes.ofText (Json.stringText s)) :=
    fun s => (Json.stringText_spells s).isValue
  simp only [scatteredMembers, List.forall_mem_cons]
  exact ⟨Json.isValue_integer _, .null, hstring _, hstring _, (isReadable_sampling 0).isValue,
    hstring _, fun _ h => absurd h List.not_mem_nil⟩

theorem isReadable_scattered : ∀ member ∈ Json.octetMembers scatteredMembers,
    member.1 ≠ EventKind.tag → (∀ field ∈ scattered.kind.fields, member.1 ≠ field.name) →
      Json.IsReadable (Json.nestingLimit - 1) member.2 := by
  have hlevels : Json.nestingLimit - 1 = 125 + 1 := rfl
  rw [hlevels]
  simp only [Json.octetMembers, scatteredMembers, List.map_cons, List.map_nil,
    List.forall_mem_cons]
  refine ⟨?_, ?_, ?_, ?_, ?_, ?_, fun _ h => absurd h List.not_mem_nil⟩
  · exact fun _ hfields => absurd rfl (hfields .deadline (by decide))
  · exact fun _ _ => Json.IsFlat.null.isReadable _
  · exact fun _ hfields => absurd rfl (hfields .requestId (by decide))
  · exact fun htag _ => absurd rfl htag
  · exact fun _ _ => isReadable_sampling 125
  · exact fun _ hfields => absurd rfl (hfields .arn (by decide))

/-- The object is read as the event. With the kind or a field of it once more in front, it is
    not read. -/
theorem scattered_is_read :
    IsDeadline scattered.deadline ∧
      Json.Document Json.ObjectText (Json.octetMembers scatteredMembers)
        (objectOctets scatteredMembers) ∧
      scattered.HeldBy (Json.octetMembers scatteredMembers) ∧
      Event.decode (objectOctets scatteredMembers) = .ok scattered ∧
      (∃ fault, Event.decode
        (objectOctets (("eventType", Json.stringText "SHUTDOWN") :: scatteredMembers))
          = .error fault) ∧
      ∃ fault, Event.decode (objectOctets (("requestId", Json.stringText "") :: scatteredMembers))
        = .error fault := by
  have hdeadline : IsDeadline scattered.deadline := ⟨by decide, by decide⟩
  have hobject := Json.document_objectText isValue_scattered
  have hpreceded : ∀ name text, Json.Document Json.ObjectText
      (Json.octetMembers ((name, Json.stringText text) :: scatteredMembers))
      (objectOctets ((name, Json.stringText text) :: scatteredMembers)) := fun name text =>
    Json.document_objectText (List.forall_mem_cons.mpr
      ⟨(Json.stringText_spells text).isValue, isValue_scattered⟩)
  have htag : Json.Holds (Json.octetMembers scatteredMembers) EventKind.tag Json.StringText
      EventKind.invoke.name := ⟨_, Json.stringText_spells "INVOKE", rfl⟩
  have hheld : scattered.HeldBy (Json.octetMembers scatteredMembers) :=
    ⟨htag, ⟨_, rfl, rfl⟩, ⟨_, Json.stringText_spells "\"", rfl⟩,
      ⟨_, Json.stringText_spells "arn", rfl⟩⟩
  have hdecode : Event.decode (objectOctets scatteredMembers) = .ok scattered :=
    events_are_read_by_name.1 scattered _ _ hdeadline hobject hheld isReadable_scattered
  refine ⟨hdeadline, hobject, events_are_read_by_name.2.2.2 scattered _ _ hobject hdecode, hdecode,
    ?_, ?_⟩
  · exact events_are_read_by_name.2.1 _ _ (hpreceded "eventType" "SHUTDOWN")
      (.inr (.inl (by decide)))
  · exact events_are_read_by_name.2.2.1 .invoke .requestId _ _ (hpreceded "requestId" "")
      ⟨_, Json.stringText_spells "INVOKE", rfl⟩ (by decide) (.inr (.inl (by decide)))

end Host

end TelemetryRelay
