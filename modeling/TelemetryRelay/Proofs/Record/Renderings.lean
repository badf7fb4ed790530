import TelemetryRelay.Proofs.Json.Compact
import TelemetryRelay.Proofs.Json.Shapes
import TelemetryRelay.Telemetry.Record

/-! # Records and their renderings

    A host may write one and the same list of records in many ways: with blanks, with
    escapes, with the members of a record in any order and among others, with or without a
    member for a body that is absent. This module shows that all of them are read alike, as
    the list they were written from. The compact text is one of them.
-/

namespace TelemetryRelay

namespace Telemetry

namespace RawRecord

/-! ## Section 1: Renderings -/

/-- The names of the members that say something about a record. -/
def names : List String := ["time", "type", "record"]

/-- A member of an object: a name with what is written after it, which for a name that says
    nothing is any JSON. -/
abbrev Content := String × Option Json.Value

/-- What is written after a name. -/
def ContentText : Option Json.Value → Bytes → Prop
  | some v, text => Json.Renders v text
  | none, text => Json.IsValue text

/-- What says which body a record has. -/
inductive BodyContents : Option Json.Value → List Content → Prop
  /-- An absent body can be left out. -/
  | absent : BodyContents none []
  /-- An absent body can be written as `null`. -/
  | null : BodyContents none [("record", some .null)]
  | present (v : Json.Value) : BodyContents (some v) [("record", some v)]

/-- **Contents**: what is written about a record, with other members, in any order. -/
inductive Contents (record : RawRecord) : List Content → Prop
  | mk (body others contents : List Content) : BodyContents record.body body →
      (∀ other ∈ others, other.1 ∉ names ∧ other.2 = none) →
      contents.Perm (("time", some (.string record.time))
        :: ("type", some (.string record.recordType)) :: (body ++ others)) →
      Contents record contents

/-- **Renderings** of a record. -/
def Rendering (record : RawRecord) (text : Bytes) : Prop :=
  ∃ contents inner, Contents record contents ∧
    Json.Elements (Json.Member ContentText) contents inner ∧ text = 123 :: (inner ++ [125])

/-- The brackets that a body may open: one is open around the records, and one around
    the members of the record. -/
def bodyLevels : Nat := Json.nestingLimit - 2

/-- A record whose body, if there is one, can be told from `null` and is portable. -/
def Portable (record : RawRecord) : Prop :=
  ∀ v, record.body = some v → v ≠ .null ∧ Json.Portable bodyLevels v

/-! ## Section 2: Members are read into a draft -/

/-- What a member adds to a draft. -/
inductive Fills (levels : Nat) : Draft → Content → Draft → Prop
  | time (draft : Draft) (s : String) : draft.time = none →
      Fills levels draft ("time", some (.string s)) { draft with time := some s }
  | type (draft : Draft) (s : String) : draft.recordType = none →
      Fills levels draft ("type", some (.string s)) { draft with recordType := some s }
  | body (draft : Draft) (v : Option Json.Value) : draft.body = none →
      (∀ w, v = some w → w ≠ .null ∧ Json.Portable levels w) →
      Fills levels draft ("record", some (v.getD .null)) { draft with body := some v }
  | other (draft : Draft) (name : String) : name ∉ names → Fills levels draft (name, none) draft

/-- The field of a name. -/
theorem find?_fields (name : String) : shape.fields.find? (fun field => field.name == name) =
    if name = "time" then some timeField else if name = "type" then some typeField
    else if name = "record" then some bodyField else none := by
  split_ifs with htime htype hbody
  · subst htime
    rfl
  · subst htype
    rfl
  · subst hbody
    rfl
  · refine List.find?_eq_none.mpr fun field hmem => ?_
    simp only [shape, List.mem_cons, List.not_mem_nil, or_false] at hmem
    rcases hmem with rfl | rfl | rfl
    · simpa [timeField] using Ne.symm htime
    · simpa [typeField] using Ne.symm htype
    · simpa [bodyField] using Ne.symm hbody

theorem optionText_getD {levels : Nat} {v : Option Json.Value} {text : Bytes}
    (hv : ∀ w, v = some w → w ≠ .null ∧ Json.Portable levels w)
    (h : Json.Renders (v.getD .null) text) : Json.OptionText levels v text := by
  cases v with
  | none =>
    cases h
    rfl
  | some w => exact ⟨(hv w rfl).1, (hv w rfl).2, h⟩

/-- Each member is read as what it adds. -/
theorem takes_afterName (levels : Nat) :
    Json.Takes (shape.afterName levels) ContentText (Fills levels) := by
  intro draft name content draft' text between after rest hfills hbetween hafter htext hrest
  cases hfills with
  | time s hnone =>
    cases htext with
    | string _ _ hliteral =>
      rw [Json.Shape.afterName_known (find?_fields _) (by simp [timeField, hnone]) hbetween]
      exact Results.bind_eq (Json.reads_expectString s text after rest hafter hliteral hrest) _
  | type s hnone =>
    cases htext with
    | string _ _ hliteral =>
      rw [Json.Shape.afterName_known (find?_fields _) (by simp [typeField, hnone]) hbetween]
      exact Results.bind_eq (Json.reads_expectString s text after rest hafter hliteral hrest) _
  | body v hnone hv =>
    rw [Json.Shape.afterName_known (find?_fields _) (by simp [bodyField, hnone]) hbetween]
    exact Results.bind_eq (Json.reads_optional levels v text after rest hafter
      (optionText_getD hv htext) hrest) _
  | other _ hname =>
    have hfind := find?_fields name
    simp only [names, List.mem_cons, List.not_mem_nil, or_false, not_or] at hname
    rw [if_neg hname.1, if_neg hname.2.1, if_neg hname.2.2] at hfind
    exact Json.Shape.afterName_unknown hfind hbetween hafter htext hrest

/-- The draft of a record after members of these names. -/
def draftOf (record : RawRecord) (seen : List String) : Draft where
  time := if "time" ∈ seen then some record.time else none
  recordType := if "type" ∈ seen then some record.recordType else none
  body := if "record" ∈ seen then some record.body else none

theorem draftOf_append (record : RawRecord) (seen : List String) (name : String) :
    draftOf record (seen ++ [name]) =
      { time := if name = "time" then some record.time else (draftOf record seen).time
        recordType := if name = "type" then some record.recordType
          else (draftOf record seen).recordType
        body := if name = "record" then some record.body else (draftOf record seen).body } := by
  simp only [draftOf, List.mem_append, List.mem_singleton, Draft.mk.injEq, eq_comm (b := name)]
  refine ⟨?_, ?_, ?_⟩ <;> split_ifs <;> simp_all

theorem Contents.cases_mem {record : RawRecord} {contents : List Content}
    (h : Contents record contents) {content : Content} (hmem : content ∈ contents) :
    content = ("time", some (.string record.time)) ∨
      content = ("type", some (.string record.recordType)) ∨
      content = ("record", some (record.body.getD .null)) ∨
      content.1 ∉ names ∧ content.2 = none := by
  obtain ⟨time, recordType, recordBody⟩ := record
  obtain ⟨body, others, _, hbody, hothers, hperm⟩ := h
  rcases List.mem_cons.mp (hperm.subset hmem) with rfl | hmore
  · exact .inl rfl
  rcases List.mem_cons.mp hmore with rfl | hrest
  · exact .inr (.inl rfl)
  rcases List.mem_append.mp hrest with hin | hin
  · refine .inr (.inr (.inl ?_))
    cases hbody with
    | absent => exact absurd hin List.not_mem_nil
    | null => exact List.mem_singleton.mp hin
    | present v => exact List.mem_singleton.mp hin
  · exact .inr (.inr (.inr (hothers content hin)))

/-- No name that says something occurs twice. -/
theorem Contents.count_le {record : RawRecord} {contents : List Content}
    (h : Contents record contents) {name : String} (hname : name ∈ names) :
    (contents.map Prod.fst).count name ≤ 1 := by
  obtain ⟨time, recordType, recordBody⟩ := record
  obtain ⟨body, others, _, hbody, hothers, hperm⟩ := h
  have hnone : (others.map Prod.fst).count name = 0 := by
    refine List.count_eq_zero.mpr fun hmem => ?_
    obtain ⟨other, hother, rfl⟩ := List.mem_map.mp hmem
    exact (hothers other hother).1 hname
  have hrecord : body.map Prod.fst = [] ∨ body.map Prod.fst = ["record"] := by
    cases hbody with
    | absent => exact .inl rfl
    | null => exact .inr rfl
    | present v => exact .inr rfl
  rw [(hperm.map Prod.fst).count_eq]
  simp only [List.map_cons, List.map_append, List.count_cons, List.count_append, hnone]
  simp only [names, List.mem_cons, List.not_mem_nil, or_false] at hname
  rcases hrecord with hbody | hbody <;> rw [hbody] <;> rcases hname with rfl | rfl | rfl <;> decide

/-- Members whose names have come up are not taken again. -/
theorem Contents.notMem_of_split {record : RawRecord} {front back : List Content}
    {content : Content} (h : Contents record (front ++ content :: back))
    (hname : content.1 ∈ names) : content.1 ∉ front.map Prod.fst := by
  have hcount := h.count_le hname
  rw [List.map_append, List.map_cons, List.count_append, List.count_cons_self] at hcount
  exact List.count_eq_zero.mp (by omega)

/-- **One member** takes the draft of those before it to the draft with it. -/
theorem Contents.fills {record : RawRecord} (hportable : record.Portable)
    {front back : List Content} {content : Content}
    (h : Contents record (front ++ content :: back)) :
    Fills bodyLevels (draftOf record (front.map Prod.fst)) content
      (draftOf record (front.map Prod.fst ++ [content.1])) := by
  have hnew : content.1 ∈ names → content.1 ∉ front.map Prod.fst := h.notMem_of_split
  have hcases := h.cases_mem (List.mem_append_right _ List.mem_cons_self)
  rw [draftOf_append]
  generalize front.map Prod.fst = seen at hnew
  rcases hcases with rfl | rfl | rfl | ⟨hother, hnone⟩
  · have hseen : "time" ∉ seen := hnew List.mem_cons_self
    exact .time _ record.time (if_neg hseen)
  · have hseen : "type" ∉ seen := hnew (by simp [names])
    exact .type _ record.recordType (if_neg hseen)
  · have hseen : "record" ∉ seen := hnew (by simp [names])
    exact .body _ record.body (if_neg hseen) hportable
  · obtain ⟨name, v⟩ := content
    cases hnone
    have hnames := hother
    simp only [names, List.mem_cons, List.not_mem_nil, or_false, not_or] at hnames
    simp only [hnames, if_false]
    exact .other _ name hother

/-- **All members** take the empty draft to that of the record. -/
theorem Contents.through {record : RawRecord} (hportable : record.Portable)
    (back : List Content) : ∀ front : List Content, Contents record (front ++ back) →
      Json.Through (Fills bodyLevels) (draftOf record (front.map Prod.fst)) back
        (draftOf record ((front ++ back).map Prod.fst)) := by
  induction back with
  | nil =>
    intro front _
    rw [List.append_nil]
    exact .nil _
  | cons content back ih =>
    intro front h
    have hfills := h.fills hportable
    have happend : front ++ content :: back = (front ++ [content]) ++ back := by simp
    rw [happend] at h ⊢
    have hthrough := ih _ h
    rw [List.map_append, List.map_singleton] at hthrough
    exact .cons _ _ _ _ _ hfills hthrough

/-- The draft of all members amounts to the record. -/
theorem Contents.ofDraft_eq {record : RawRecord} {contents : List Content}
    (h : Contents record contents) :
    ofDraft (draftOf record (contents.map Prod.fst)) = .ok record := by
  obtain ⟨time, recordType, recordBody⟩ := record
  obtain ⟨body, others, _, hbody, hothers, hperm⟩ := h
  have hnames := hperm.map Prod.fst
  have htime : "time" ∈ contents.map Prod.fst := hnames.mem_iff.mpr (by simp)
  have htype : "type" ∈ contents.map Prod.fst := hnames.mem_iff.mpr (by simp)
  have hfound : (if "record" ∈ contents.map Prod.fst then some recordBody else none).join
      = recordBody := by
    cases hbody with
    | absent => split_ifs <;> rfl
    | null => split_ifs <;> rfl
    | present v => rw [if_pos (hnames.mem_iff.mpr (by simp))]; rfl
  simp only [ofDraft, draftOf, if_pos htime, if_pos htype, hfound]

/-! ## Section 3: Records are read from their renderings -/

/-- The renderings of the records that come through. -/
def PortableRendering (record : RawRecord) (text : Bytes) : Prop :=
  record.Portable ∧ record.Rendering text

theorem visible_portableRendering : Json.Visible PortableRendering := by
  rintro record _ ⟨-, contents, inner, -, -, rfl⟩
  exact ⟨123, _, rfl, Json.begins_of_const (by decide)⟩

/-- **Records** are read from their renderings. -/
theorem reads_shape : Json.Reads (shape.read (bodyLevels + 1)) PortableRendering := by
  rintro record _ gap rest hgap ⟨hportable, contents, inner, hcontents, hinner, rfl⟩ _
  have hthrough : Json.Through (Fills bodyLevels) shape.start contents
      (draftOf record (contents.map Prod.fst)) := hcontents.through hportable contents []
  have hread := Json.openFields_append (takes_afterName bodyLevels) hinner hthrough rest
  have hfinish : shape.finish (draftOf record (contents.map Prod.fst)) = .ok record :=
    hcontents.ofDraft_eq
  simp only [List.cons_append, List.append_assoc, List.nil_append]
  rw [Json.Shape.read_object _ hgap, Json.Shape.readObject, Results.bind_eq hread]
  simp only
  rw [Results.bind_eq hfinish]
  rfl

/-! ## Section 4: What is written for a record -/

/-- The contents that are written for a record. -/
def ownContents (record : RawRecord) : List Content :=
  ("time", some (.string record.time)) :: ("type", some (.string record.recordType))
    :: (record.body.map fun v => ("record", some v)).toList

theorem contents_ownContents (record : RawRecord) : Contents record record.ownContents := by
  obtain ⟨time, recordType, body⟩ := record
  cases body with
  | none =>
    exact .mk [] [] _ .absent (fun _ hmem => absurd hmem List.not_mem_nil) (.refl _)
  | some v =>
    exact .mk [("record", some v)] [] _ (.present v)
      (fun _ hmem => absurd hmem List.not_mem_nil) (.refl _)

/-- What is written for one of them. -/
def writeContent (content : Content) : String :=
  Json.stringText content.1 ++ ":" ++ (content.2.elim "" Json.Value.text)

theorem member_writeContent {record : RawRecord} (h : record.Portable) {content : Content}
    (hmem : content ∈ record.ownContents) :
    Json.Member ContentText content (Bytes.ofText (writeContent content)) := by
  have hwritten : ∀ name v, Json.Portable bodyLevels v →
      Json.Member ContentText (name, some v) (Bytes.ofText (writeContent (name, some v))) :=
    fun name v hv => Json.member_written name (Json.renders_text hv)
  rcases List.mem_cons.mp hmem with rfl | hmem'
  · exact hwritten _ _ (.string _ _)
  rcases List.mem_cons.mp hmem' with rfl | hbody
  · exact hwritten _ _ (.string _ _)
  · obtain ⟨v, hv, rfl⟩ := Option.map_eq_some_iff.mp (Option.mem_toList.mp hbody)
    exact hwritten _ v (h v hv).2

/-- **Compact texts**: what is written for a record is one of its renderings. -/
theorem rendering_text {record : RawRecord} (h : record.Portable) :
    record.Rendering (Bytes.ofText record.toValue.text) := by
  refine ⟨record.ownContents, _, contents_ownContents record,
    Json.elements_commas fun content hmem => member_writeContent h hmem, ?_⟩
  rw [toValue, Json.ofText_object]
  obtain ⟨time, recordType, body⟩ := record
  cases body <;> rfl

end RawRecord

/-! ## Section 5: Chunks -/

/-- **Renderings of a list of records**: an array of their renderings, with blanks wherever
    there may be some. -/
def ChunkRendering (records : List RawRecord) (chunk : Bytes) : Prop :=
  Json.Document (Json.ListText RawRecord.Rendering) records chunk

/-- **Renderings do not matter**: if bodies are absent or portable, a list of records is read
    from each of its renderings. The text that is written for it is one of them, so that
    reading undoes writing, and what has been read is written as it was. -/
theorem decodeChunk_of_rendering (records : List RawRecord)
    (h : ∀ record ∈ records, record.Portable) :
    (∀ chunk, ChunkRendering records chunk → decodeChunk chunk = .ok records) ∧
      ChunkRendering records (Bytes.ofText (chunkText records)) ∧
      decodeChunk (Bytes.ofText (chunkText records)) = .ok records ∧
      (decodeChunk (Bytes.ofText (chunkText records))).map chunkText = .ok (chunkText records) := by
  have hread : ∀ chunk, ChunkRendering records chunk → decodeChunk chunk = .ok records := by
    rintro chunk ⟨before, text, after, hbefore, ⟨inner, hinner, rfl⟩, hafter, rfl⟩
    refine Json.document_of_reads
      (Json.reads_expectList RawRecord.reads_shape RawRecord.visible_portableRendering)
      ⟨before, _, after, hbefore, ⟨inner, ?_, rfl⟩, hafter, rfl⟩
    exact hinner.imp fun record hmem _ hrendering => ⟨h record hmem, hrendering⟩
  have hcompact : ChunkRendering records (Bytes.ofText (chunkText records)) := by
    refine ⟨[], _, [], Json.isBlank_nil, ⟨_, Json.elements_commas fun record hmem =>
      RawRecord.rendering_text (h record hmem), rfl⟩, Json.isBlank_nil, ?_⟩
    rw [chunkText, Json.ofText_arrayText, List.nil_append, List.append_nil]
  have hundo := hread _ hcompact
  refine ⟨hread, hcompact, hundo, ?_⟩
  rw [hundo]
  rfl

/-- A record without a body, and one with several values in it. -/
def mixedRecords : List RawRecord :=
  [⟨"2024-01-01T00:00:00Z", "function", none⟩,
    ⟨"", "platform.report", some (.object [("b", .array [.number (.integer (-9)), .null]),
      ("a", .string "\n\"\u0000")])⟩]

theorem portable_mixedRecords : ∀ record ∈ mixedRecords, record.Portable := by
  intro record hmem
  rcases List.mem_cons.mp hmem with rfl | hmem'
  · exact fun v hv => nomatch hv
  · rw [List.mem_singleton.mp hmem']
    rintro v hv
    cases hv
    refine ⟨nofun, .object _ _ (by decide) (List.forall_mem_cons.mpr ⟨?_, ?_⟩)⟩
    · have hfits : Json.FitsWord (-9) := by
        unfold Json.FitsWord
        decide
      exact .array _ _ (List.forall_mem_cons.mpr ⟨.integer _ _ hfits,
        List.forall_mem_singleton.mpr (.null _)⟩)
    · exact List.forall_mem_singleton.mpr (.string _ _)

theorem decodeChunk_mixedRecords :
    (∀ record ∈ mixedRecords, record.Portable) ∧
      (∀ chunk, ChunkRendering mixedRecords chunk → decodeChunk chunk = .ok mixedRecords) ∧
      decodeChunk (Bytes.ofText (chunkText mixedRecords)) = .ok mixedRecords := by
  have hmixed := decodeChunk_of_rendering mixedRecords portable_mixedRecords
  exact ⟨portable_mixedRecords, hmixed.1, hmixed.2.2.1⟩

/-- An escaped letter, a member in between and `null` for an absent body. -/
example : decodeChunk (Bytes.ofText
    "[ \x7b\"record\":null, \"type\":\"\\u0066unction\",\"n\":[1e999],\"time\":\"now\"\x7d ]")
      = .ok [⟨"now", "function", none⟩] := by
  rfl

end Telemetry

end TelemetryRelay
