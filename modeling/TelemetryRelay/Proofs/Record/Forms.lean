import TelemetryRelay.Ingest.Dispatch
import TelemetryRelay.Proofs.Record.Renderings

/-! # What is taken as records

    A chunk is taken as a whole or not at all. This module says what is taken: an array, of
    which every element is either an object with one time and one type, or an array that
    holds them in order. A chunk of anything else adds no record to a harvest.
-/

namespace TelemetryRelay

namespace Telemetry

namespace RawRecord

/-! ## Section 1: The forms of a record -/

/-- A text that is JSON, as it stands. -/
def Inside (text octets : Bytes) : Prop := octets = text ∧ Json.IsValue text

/-- The only member of this name among members with their texts is a literal of the text. -/
def HasText (members : List (String × Bytes)) (name text : String) : Prop :=
  ∃ literal, Json.StringText text literal ∧
    members.filter (fun member => member.1 == name) = [(name, literal)]

/-- The **object form**: one time, one type, and one body at most, among other members. -/
def ObjectForm (record : RawRecord) (text : Bytes) : Prop :=
  ∃ members inner, Json.Elements (Json.Member Inside) members inner ∧
    text = 123 :: (inner ++ [125]) ∧ HasText members "time" record.time ∧
    HasText members "type" record.recordType ∧
    (members.filter fun member => member.1 == "record").length ≤ 1

/-- The **list form**: the time, the type and perhaps a body, in this order. -/
def ListForm (record : RawRecord) (text : Bytes) : Prop :=
  ∃ time recordType body inner, Json.Elements Inside (time :: recordType :: body) inner ∧
    text = 91 :: (inner ++ [93]) ∧ Json.StringText record.time time ∧
    Json.StringText record.recordType recordType ∧ body.length ≤ 1

/-! ## Section 2: Objects -/

/-- What a member that is read has added to a draft. -/
inductive Adds : Draft → String × Bytes → Draft → Prop
  | time (draft : Draft) (s : String) (literal : Bytes) : draft.time = none →
      Json.StringText s literal → Adds draft ("time", literal) { draft with time := some s }
  | type (draft : Draft) (s : String) (literal : Bytes) : draft.recordType = none →
      Json.StringText s literal → Adds draft ("type", literal) { draft with recordType := some s }
  | body (draft : Draft) (v : Option Json.Value) (text : Bytes) : draft.body = none →
      Adds draft ("record", text) { draft with body := some v }
  | other (draft : Draft) (name : String) (text : Bytes) : name ∉ names →
      Adds draft (name, text) draft

/-- What is read for a field is put into the draft. -/
theorem exists_of_field {α : Type} {reader : Json.Reader α} {form : α → Bytes → Prop}
    (honly : Json.ReadsOnly reader form) (set : Draft → α → Draft) {draft draft' : Draft}
    {octets rest : Bytes}
    (h : (reader octets >>= fun result => .ok (set draft result.1, result.2))
      = .ok (draft', rest)) :
    ∃ gap x text, Json.IsBlank gap ∧ form x text ∧ octets = gap ++ (text ++ rest) ∧
      draft' = set draft x := by
  obtain ⟨⟨x, after⟩, hread, hset⟩ := Results.exists_of_bind h
  cases hset
  obtain ⟨gap, text, hgap, htext, rfl⟩ := honly _ _ _ hread
  exact ⟨gap, x, text, hgap, htext, rfl, rfl⟩

/-- Nothing is read after a name but a value, and it is put where the name says. -/
theorem takesOnly_afterName (levels : Nat) :
    Json.TakesOnly (shape.afterName levels) Inside Adds := by
  intro draft name octets draft' rest h
  obtain ⟨between, more, hbetween, rfl, ⟨field, hfind, hnew, hread⟩ | ⟨hfind, rfl, hskip⟩⟩ :=
    Json.Shape.exists_of_afterName h
  · rw [find?_fields] at hfind
    split_ifs at hfind with htime htype hbody
    · cases hfind
      subst htime
      obtain ⟨gap, s, literal, hgap, hliteral, rfl, rfl⟩ := exists_of_field
        Json.readsOnly_expectString (fun draft s => { draft with time := some s }) hread
      exact ⟨literal, between, gap, literal, hbetween, hgap, ⟨rfl, hliteral.isValue⟩,
        .time _ s literal (by simpa [timeField] using hnew) hliteral, rfl⟩
    · cases hfind
      subst htype
      obtain ⟨gap, s, literal, hgap, hliteral, rfl, rfl⟩ := exists_of_field
        Json.readsOnly_expectString (fun draft s => { draft with recordType := some s }) hread
      exact ⟨literal, between, gap, literal, hbetween, hgap, ⟨rfl, hliteral.isValue⟩,
        .type _ s literal (by simpa [typeField] using hnew) hliteral, rfl⟩
    · cases hfind
      subst hbody
      obtain ⟨gap, v, text, hgap, ⟨htext, -⟩, rfl, rfl⟩ := exists_of_field
        (Json.readsOnly_optional levels) (fun draft v => { draft with body := some v }) hread
      exact ⟨text, between, gap, text, hbetween, hgap, ⟨rfl, htext⟩,
        .body _ v text (by simpa [bodyField] using hnew), rfl⟩
  · rw [find?_fields] at hfind
    split_ifs at hfind with htime htype hbody
    obtain ⟨gap, text, hgap, htext, rfl⟩ := Json.exists_of_skipValue hskip
    exact ⟨text, between, gap, text, hbetween, hgap, ⟨rfl, htext⟩,
      .other _ name text (by simp [names, htime, htype, hbody]), rfl⟩

/-- A part of a draft that only members of one name set, and that they set once. -/
def SetOnce {α : Type} (name : String) (part : Draft → Option α) (form : α → Bytes → Prop) : Prop :=
  ∀ draft member draft', Adds draft member draft' →
    (member.1 ≠ name ∧ part draft' = part draft) ∨
      (member.1 = name ∧ part draft = none ∧ ∃ x, part draft' = some x ∧ form x member.2)

theorem ne_of_notMem_names {name name' : String} (h : name ∉ names) (h' : name' ∈ names) :
    name ≠ name' := fun heq => h (heq ▸ h')

theorem setOnce_time : SetOnce "time" Draft.time Json.StringText := by
  intro draft member draft' h
  cases h with
  | time s literal hnone hliteral => exact .inr ⟨rfl, hnone, s, rfl, hliteral⟩
  | type => exact .inl ⟨by simp, rfl⟩
  | body => exact .inl ⟨by simp, rfl⟩
  | other name text hname => exact .inl ⟨ne_of_notMem_names hname (by decide), rfl⟩

theorem setOnce_type : SetOnce "type" Draft.recordType Json.StringText := by
  intro draft member draft' h
  cases h with
  | time => exact .inl ⟨by simp, rfl⟩
  | type s literal hnone hliteral => exact .inr ⟨rfl, hnone, s, rfl, hliteral⟩
  | body => exact .inl ⟨by simp, rfl⟩
  | other name text hname => exact .inl ⟨ne_of_notMem_names hname (by decide), rfl⟩

theorem setOnce_body : SetOnce "record" Draft.body fun _ _ => True := by
  intro draft member draft' h
  cases h with
  | time => exact .inl ⟨by simp, rfl⟩
  | type => exact .inl ⟨by simp, rfl⟩
  | body v text hnone => exact .inr ⟨rfl, hnone, v, rfl, trivial⟩
  | other name text hname => exact .inl ⟨ne_of_notMem_names hname (by decide), rfl⟩

/-- What is set once is set by the only member of its name. -/
theorem SetOnce.through {α : Type} {name : String} {part : Draft → Option α}
    {form : α → Bytes → Prop} (hset : SetOnce name part form) {draft draft' : Draft}
    {members : List (String × Bytes)} (h : Json.Through Adds draft members draft') :
    (members.filter (fun member => member.1 == name) = [] ∧ part draft' = part draft) ∨
      (part draft = none ∧ ∃ x text, part draft' = some x ∧ form x text ∧
        members.filter (fun member => member.1 == name) = [(name, text)]) := by
  induction h with
  | nil draft => exact .inl ⟨rfl, rfl⟩
  | cons draft middle draft' member members hadds _ ih =>
    rcases hset _ _ _ hadds with ⟨hother, hsame⟩ | ⟨hname, hnone, x, hx, hform⟩
    · rw [List.filter_cons_of_neg (by simpa using hother), ← hsame]
      exact ih
    · rw [List.filter_cons_of_pos (by simpa using hname)]
      rcases ih with ⟨hrest, hsame⟩ | ⟨hagain, -⟩
      · exact .inr ⟨hnone, x, member.2, hsame.trans hx, hform, by rw [hrest, ← hname]⟩
      · rw [hx] at hagain
        cases hagain

/-- What a finished draft is made of. -/
theorem draft_of_ofDraft {draft : Draft} {record : RawRecord} (h : ofDraft draft = .ok record) :
    draft.time = some record.time ∧ draft.recordType = some record.recordType := by
  obtain ⟨time, recordType, body⟩ := draft
  cases time with
  | none => cases h
  | some time =>
    cases recordType with
    | none => cases h
    | some recordType =>
      cases h
      exact ⟨rfl, rfl⟩

/-- Nothing is read as an object but the object form. -/
theorem exists_of_readObject {levels : Nat} {octets rest : Bytes} {record : RawRecord}
    (h : shape.readObject levels octets = .ok (record, rest)) :
    ∃ inner, record.ObjectForm (123 :: (inner ++ [125])) ∧ octets = inner ++ 125 :: rest := by
  obtain ⟨⟨draft, more⟩, hfields, hend⟩ := Results.exists_of_bind h
  obtain ⟨found, hfinish, hclose⟩ := Results.exists_of_bind hend
  obtain ⟨members, inner, after, hinner, hthrough, rfl, rfl⟩ :=
    Json.exists_of_openFields (takesOnly_afterName levels) hfields
  have hlast : Except.ok (found, after) = .ok (record, rest) := hclose
  cases hlast
  obtain ⟨htime, htype⟩ := draft_of_ofDraft hfinish
  have hone := setOnce_time.through hthrough
  have htwo := setOnce_type.through hthrough
  have hthree := setOnce_body.through hthrough
  rcases hone with ⟨-, hnone⟩ | ⟨-, s, literal, hs, hliteral, hfilter⟩
  · rw [htime] at hnone
    cases hnone
  rcases htwo with ⟨-, hnone⟩ | ⟨-, s', literal', hs', hliteral', hfilter'⟩
  · rw [htype] at hnone
    cases hnone
  rw [htime] at hs
  rw [htype] at hs'
  cases hs
  cases hs'
  refine ⟨inner, ⟨members, inner, hinner, rfl, ⟨literal, hliteral, hfilter⟩,
    ⟨literal', hliteral', hfilter'⟩, ?_⟩, rfl⟩
  rcases hthree with ⟨hnone, -⟩ | ⟨-, _, _, -, -, hsingle⟩
  · rw [hnone]
    exact Nat.zero_le _
  · rw [hsingle]
    exact Nat.le_refl _

/-! ## Section 3: Arrays in place of objects -/

/-- A field that takes a text is not missing from an array. -/
theorem exists_of_textItem {levels count : Nat} {field : Json.Field Draft}
    {fields : List (Json.Field Draft)} {first : Bool} {draft draft' : Draft}
    {octets rest : Bytes} (set : Draft → String → Draft) (hlack : field.mayLack = false)
    (hfield : ∀ octets, field.read levels draft octets =
      Json.expectString octets >>= fun result => .ok (set draft result.1, result.2))
    (h : shape.readItems levels (field :: fields) count first draft octets = .ok (draft', rest)) :
    ∃ gap before s literal tail, Json.IsBlank gap ∧ Json.IsBlank before ∧
      Json.StringText s literal ∧
      octets = (if first then [] else gap ++ [44]) ++ (before ++ (literal ++ tail)) ∧
      shape.readItems levels fields (count + 1) false (set draft s) tail = .ok (draft', rest) := by
  rcases Json.Shape.exists_of_readItems h with
    ⟨_, _, -, -, hmay, -⟩ | ⟨gap, front, _, _, _, hgap, hfront, rfl, hread, hrest⟩
  · rw [hlack] at hmay
    cases hmay
  · rw [hfield] at hread
    obtain ⟨before, s, literal, hbefore, hliteral, rfl, rfl⟩ :=
      exists_of_field Json.readsOnly_expectString set hread
    exact ⟨gap, front ++ before, s, literal, _, hgap, hfront.append hbefore, hliteral, by simp,
      hrest⟩

/-- The body may be missing, and nothing follows it. -/
theorem exists_of_bodyItem {levels count : Nat} {draft draft' : Draft} {octets rest : Bytes}
    (h : shape.readItems levels [bodyField] count false draft octets = .ok (draft', rest)) :
    ∃ body more, Json.More Inside body more ∧ body.length ≤ 1 ∧ octets = more ++ rest ∧
      ∃ v, draft' = { draft with body := v } := by
  rcases Json.Shape.exists_of_readItems h with
    ⟨gap, after, hgap, rfl, -, hrest⟩ | ⟨gap, front, _, _, _, hgap, hfront, rfl, hread, hrest⟩
  · cases hrest
    exact ⟨[], gap, .none gap hgap, Nat.zero_le _, rfl, draft.body, rfl⟩
  · cases hrest
    obtain ⟨before, v, text, hbefore, ⟨htext, -⟩, rfl, rfl⟩ := exists_of_field
      (Json.readsOnly_optional levels) (fun draft v => { draft with body := some v }) hread
    refine ⟨[text], _, .some gap (front ++ before) text text [] [] hgap (hfront.append hbefore)
      ⟨rfl, htext⟩ (.none [] Json.isBlank_nil), Nat.le_refl _, ?_, some v, rfl⟩
    simp

/-- Nothing is read as an array but the list form. -/
theorem exists_of_readArray {levels : Nat} {octets rest : Bytes} {record : RawRecord}
    (h : shape.readArray levels octets = .ok (record, rest)) :
    ∃ inner, record.ListForm (91 :: (inner ++ [93])) ∧ octets = inner ++ 93 :: rest := by
  obtain ⟨⟨draft, more⟩, hitems, hend⟩ := Results.exists_of_bind h
  obtain ⟨found, hfinish, hclosing⟩ := Results.exists_of_bind hend
  obtain ⟨⟨u, after⟩, hclose, hlast⟩ := Results.exists_of_bind hclosing
  cases hlast
  obtain ⟨gap, hgap, rfl⟩ := Json.exists_of_closeList hclose
  obtain ⟨_, before, s, time, tail, -, hbefore, htime, rfl, htypes⟩ :=
    exists_of_textItem (fun draft s => { draft with time := some s }) rfl
      (fun _ => rfl) hitems
  obtain ⟨front, before', s', recordType, tail', hfront, hbefore', htype, rfl, hbodies⟩ :=
    exists_of_textItem (fun draft s => { draft with recordType := some s }) rfl
      (fun _ => rfl) htypes
  obtain ⟨body, inner, hbody, hlength, rfl, v, rfl⟩ := exists_of_bodyItem hbodies
  cases hfinish
  have hinner : Json.Elements Inside (time :: recordType :: body) _ :=
    .some before time time _ _ hbefore ⟨rfl, htime.isValue⟩
      (.some front before' recordType recordType body _ hfront hbefore' ⟨rfl, htype.isValue⟩
        (hbody.append_blank hgap))
  refine ⟨_, ⟨time, recordType, body, _, hinner, rfl, htime, htype, hlength⟩, ?_⟩
  simp

/-! ## Section 4: Chunks -/

/-- The two forms of a record. -/
def EitherForm (record : RawRecord) (text : Bytes) : Prop :=
  record.ObjectForm text ∨ record.ListForm text

theorem readsOnly_shape (levels : Nat) :
    Json.ReadsOnly (shape.read (levels + 1)) EitherForm := by
  intro octets record rest h
  obtain ⟨gap, more, hgap, ⟨rfl, hread⟩ | ⟨rfl, hread⟩⟩ := Json.Shape.exists_of_read _ h
  · obtain ⟨inner, hform, rfl⟩ := exists_of_readObject hread
    exact ⟨gap, _, hgap, .inl hform, by simp⟩
  · obtain ⟨inner, hform, rfl⟩ := exists_of_readArray hread
    exact ⟨gap, _, hgap, .inr hform, by simp⟩

end RawRecord

/-- **Arrays of records** in one of their forms, with blanks around the array. -/
def ArrayOf (form : RawRecord → Bytes → Prop) (records : List RawRecord) (chunk : Bytes) : Prop :=
  Json.Document (Json.ListText form) records chunk

/-- Nothing is read as a chunk but an array of records. -/
theorem arrayOf_of_decodeChunk {chunk : Bytes} {records : List RawRecord}
    (h : decodeChunk chunk = .ok records) : ArrayOf RawRecord.EitherForm records chunk :=
  Json.exists_of_document (Json.readsOnly_expectList (RawRecord.readsOnly_shape _)) h

end Telemetry

namespace Ingest

open Telemetry (Invocation RawRecord ArrayOf)

/-- A chunk that cannot be read adds nothing to the records of a harvest. -/
theorem flatten_refused {chunk : Bytes} {fault : Json.Fault}
    (h : Telemetry.decodeChunk chunk = .error fault) (invocation : Invocation)
    (front back : List Bytes) (before after : List Invocation) :
    flatten (before ++ { invocation with chunks := front ++ chunk :: back } :: after)
      = flatten (before ++ { invocation with chunks := front ++ back } :: after) := by
  have hnone : entriesOf invocation.requestId chunk = .error fault := by rw [entriesOf, h]; rfl
  simp only [flatten, filedChunks, entriesOfChunks, List.flatMap_append, List.flatMap_cons,
    List.map_append, List.map_cons, hnone]
  rfl

/-- **What a chunk adds**: it is an array of records in one of their forms, and is read as
    these records, or it is refused as a whole, and the harvest it stands in has the records
    that it has without it. -/
theorem chunk_is_taken_or_refused (chunk : Bytes) :
    (∃ records, Telemetry.decodeChunk chunk = .ok records ∧
        ArrayOf RawRecord.EitherForm records chunk) ∨
      (∃ fault, Telemetry.decodeChunk chunk = .error fault) ∧
        ∀ (invocation : Invocation) (front back : List Bytes) (before after : List Invocation),
          flatten (before ++ { invocation with chunks := front ++ chunk :: back } :: after)
            = flatten (before ++ { invocation with chunks := front ++ back } :: after) := by
  cases hdecode : Telemetry.decodeChunk chunk with
  | ok records => exact .inl ⟨records, rfl, Telemetry.arrayOf_of_decodeChunk hdecode⟩
  | error fault => exact .inr ⟨⟨fault, rfl⟩, flatten_refused hdecode⟩

/-- An array of arrays, which holds no object. -/
def arrayOfArrays : Bytes := Bytes.ofText "[[\"garbage\",\"function\"]]"

/-- A harvest in which it stands before a record. -/
def spoiledHarvest : List Invocation :=
  [⟨"r1", 0, [arrayOfArrays,
    Bytes.ofText (Telemetry.chunkText [⟨"2024-01-01T00:00:00Z", "function", none⟩])]⟩]

theorem not_arrayOf_objects :
    ¬ ∃ records, ArrayOf RawRecord.ObjectForm records arrayOfArrays := by
  rintro ⟨records, before, _, after, hbefore, ⟨inner, hinner, rfl⟩, -, heq⟩
  have hoctets : ∃ rest, arrayOfArrays = 91 :: 91 :: rest := ⟨_, rfl⟩
  obtain ⟨rest, hrest⟩ := hoctets
  rw [hrest] at heq
  have hblank : ¬ Json.isSpace 91 = true := by decide
  cases before with
  | cons b before => exact hblank ((List.cons.inj heq).1 ▸ hbefore b List.mem_cons_self)
  | nil =>
    have hsecond : 91 :: rest = inner ++ 93 :: after := by simpa using heq
    -- neither a blank nor an object begins as an array does, nor does the closing bracket
    cases hinner with
    | none _ hgap =>
      cases inner with
      | nil => cases hsecond
      | cons b inner => exact hblank ((List.cons.inj hsecond).1 ▸ hgap b List.mem_cons_self)
    | some front record text records more hfront hform =>
      obtain ⟨members, object, -, rfl, -⟩ := hform
      cases front with
      | nil => cases hsecond
      | cons b front => exact hblank ((List.cons.inj hsecond).1 ▸ hfront b List.mem_cons_self)

/-- **Arrays are taken as records**: what is no array of objects is not refused. The record
    that it is read as has no time, which ends the dispatch for all records beside it. -/
theorem arrays_are_taken_as_records :
    Telemetry.decodeChunk arrayOfArrays = .ok [⟨"garbage", "function", none⟩] ∧
      (¬ ∃ records, ArrayOf RawRecord.ObjectForm records arrayOfArrays) ∧
      ∀ (dispatcher : Dispatcher) (context : Context) (identity : Telemetry.Identity),
        let cycle := dispatcher.dispatch context identity spoiledHarvest
        cycle.made = [] ∧
          cycle.result = .error (.build (.recordTime "function" "garbage" .tooShort)) := by
  refine ⟨rfl, not_arrayOf_objects, fun dispatcher context identity => ?_⟩
  have hsome : (flatten spoiledHarvest).isEmpty = false := rfl
  have hbuild : Telemetry.buildFrom context.ids identity context.drawn (flatten spoiledHarvest)
      = .error (.recordTime "function" "garbage" .tooShort) := rfl
  simp only [Dispatcher.dispatch, hsome, hbuild, Bool.false_eq_true, if_false]
  exact ⟨rfl, rfl⟩

end Ingest

end TelemetryRelay
