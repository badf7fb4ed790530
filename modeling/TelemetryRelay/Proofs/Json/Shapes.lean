import TelemetryRelay.Json.Shape
import TelemetryRelay.Proofs.Json.Skipping
import TelemetryRelay.Proofs.Json.Values

/-! # Reading what is expected

    A field of a known shape is read by a reader of its own: a string where only a string
    is expected, a value or `null`, an array. This module says of each of them from which
    texts it reads, and of a shape where its two forms begin and how it continues after the
    name of a field.
-/

namespace TelemetryRelay

namespace Json

open Results (exists_of_bind bind_eq)

/-! ## Section 1: Strings and optional values -/

theorem reads_expectString : Reads expectString StringText := by
  rintro s _ gap rest hgap ⟨body, hbody, rfl⟩ _
  have hread : string (body ++ 34 :: rest) = .ok (s, rest) :=
    string_eq_ok_iff.mpr ⟨body, hbody, rfl⟩
  simp only [List.cons_append, List.append_assoc, List.nil_append]
  rw [expectString, skipSpace_append_cons hgap (by decide)]
  exact hread

theorem readsOnly_expectString : ReadsOnly expectString StringText := by
  intro octets s rest h
  unfold expectString at h
  split at h
  · cases h
  · next b more hskip =>
    obtain ⟨gap, hgap, rfl⟩ := exists_gap_of_skipSpace hskip
    split_ifs at h with hquote
    obtain ⟨body, hbody, rfl⟩ := string_eq_ok_iff.mp h
    refine ⟨gap, _, hgap, ⟨body, hbody, rfl⟩, ?_⟩
    rw [beq_iff_eq.mp hquote]
    simp

/-- A literal of a text is JSON. -/
theorem StringText.isValue {s : String} {literal : Bytes} (h : StringText s literal) :
    IsValue literal := by
  obtain ⟨body, hbody, rfl⟩ := h
  exact .string body hbody.isBody

/-- The text of `null`. -/
def nullText : Bytes := [110, 117, 108, 108]

/-- Only `null` begins with its letter. -/
theorem exists_cons_of_renders {v : Value} {text : Bytes} (h : Renders v text) (hv : v ≠ .null) :
    ∃ b more, text = b :: more ∧ Begins b ∧ b ≠ 110 := by
  obtain ⟨b, more, htext, hb⟩ := visible_renders v text h
  refine ⟨b, more, htext, hb, ?_⟩
  rintro rfl
  cases h with
  | null => exact hv rfl
  | true => cases htext
  | false => cases htext
  | integer i =>
    cases i with
    | ofNat n =>
      obtain ⟨c, _, hcons, hdigit⟩ := exists_cons_toString n
      obtain rfl : 110 = c := (List.cons.inj (htext.symm.trans hcons)).1
      exact absurd hdigit (by decide)
    | negSucc n =>
      rw [ofText_negSucc] at htext
      cases htext
  | string _ _ hliteral =>
    obtain ⟨body, -, rfl⟩ := hliteral
    cases htext
  | array => cases htext
  | object => cases htext

/-- The texts of an optional value: `null` for none. -/
def OptionText (levels : Nat) : Option Value → Bytes → Prop
  | none, text => text = nullText
  | some v, text => v ≠ .null ∧ PortableText levels v text

theorem reads_optional (levels : Nat) : Reads (optional levels) (OptionText levels) := by
  intro v text gap rest hgap htext hrest
  cases v with
  | none =>
    rw [show text = nullText from htext, nullText, optional]
    simp only [List.cons_append]
    rw [skipSpace_append_cons hgap (by decide)]
    rfl
  | some v =>
    obtain ⟨hv, htext⟩ := htext
    obtain ⟨b, more, rfl, hb, hnull⟩ := exists_cons_of_renders htext.2 hv
    have hread := reads_value levels v _ [] rest isBlank_nil htext hrest
    simp only [List.nil_append, List.cons_append] at hread ⊢
    rw [optional, skipSpace_append_cons hgap hb.1]
    simp only [beq_eq_false_iff_ne.mpr hnull, Bool.false_eq_true, if_false]
    rw [bind_eq hread]

/-- What may stand for an optional value. -/
def SomeText (v : Option Value) (text : Bytes) : Prop :=
  IsValue text ∧ (v = none → text = nullText)

theorem readsOnly_optional (levels : Nat) : ReadsOnly (optional levels) SomeText := by
  intro octets v rest h
  unfold optional at h
  split at h
  · cases h
  · next b more hskip =>
    obtain ⟨gap, hgap, rfl⟩ := exists_gap_of_skipSpace hskip
    split_ifs at h with hnull
    · obtain ⟨⟨u, after⟩, hword, hend⟩ := exists_of_bind h
      cases hend
      refine ⟨gap, nullText, hgap, ⟨.null, fun _ => rfl⟩, ?_⟩
      rw [beq_iff_eq.mp hnull, eq_of_ident hword]
      rfl
    · obtain ⟨⟨v, after⟩, hvalue, hend⟩ := exists_of_bind h
      cases hend
      obtain ⟨gap', text, hgap', htext, hoctets⟩ := readsOnly_value levels _ _ _ hvalue
      refine ⟨gap ++ gap', text, hgap.append hgap', ⟨htext, fun hnone => nomatch hnone⟩, ?_⟩
      rw [hoctets, List.append_assoc]

/-! ## Section 2: Arrays and whole texts -/

section Documents

variable {α : Type} {form : α → Bytes → Prop}

/-- **Arrays** of elements, with their brackets. -/
def ListText (form : α → Bytes → Prop) (xs : List α) (text : Bytes) : Prop :=
  ∃ inner, Elements form xs inner ∧ text = 91 :: (inner ++ [93])

theorem reads_expectList {levels : Nat} {item : Nat → Reader α} (hitem : Reads (item levels) form)
    (hvisible : Visible form) : Reads (expectList (levels + 1) item) (ListText form) := by
  rintro xs _ gap rest hgap ⟨inner, hinner, rfl⟩ _
  simp only [List.cons_append, List.append_assoc, List.nil_append]
  rw [expectList, skipSpace_append_cons hgap (by decide)]
  exact list_append hitem hvisible hinner rest

theorem readsOnly_expectList {levels : Nat} {item : Nat → Reader α}
    (hitem : ReadsOnly (item levels) form) :
    ReadsOnly (expectList (levels + 1) item) (ListText form) := by
  intro octets xs rest h
  unfold expectList at h
  split at h
  · cases h
  · next b more hskip =>
    obtain ⟨gap, hgap, rfl⟩ := exists_gap_of_skipSpace hskip
    split_ifs at h with hopen
    obtain ⟨inner, hinner, rfl⟩ := exists_of_list hitem h
    refine ⟨gap, _, hgap, ⟨inner, hinner, rfl⟩, ?_⟩
    rw [beq_iff_eq.mp hopen]
    simp

/-- The end of an array comes after blanks. -/
theorem exists_of_closeList {octets rest : Bytes} {u : Unit}
    (h : closeList octets = .ok (u, rest)) : ∃ gap, IsBlank gap ∧ octets = gap ++ 93 :: rest := by
  unfold closeList at h
  split at h
  · cases h
  · next b more hskip =>
    obtain ⟨gap, hgap, rfl⟩ := exists_gap_of_skipSpace hskip
    split_ifs at h with hclosing
    · cases h
      exact ⟨gap, hgap, by rw [beq_iff_eq.mp hclosing]⟩
    · split at h
      · split_ifs at h
      · cases h

/-- **Whole texts**: one value with blanks around it. -/
def Document (form : α → Bytes → Prop) (x : α) (octets : Bytes) : Prop :=
  ∃ before text after, IsBlank before ∧ form x text ∧ IsBlank after ∧
    octets = before ++ (text ++ after)

theorem delimited_blank {gap : Bytes} (h : IsBlank gap) : Delimited gap :=
  fun b _ heq => .inl (h b (heq ▸ List.mem_cons_self))

theorem document_of_reads {reader : Reader α} (h : Reads reader form) {x : α} {octets : Bytes}
    (hx : Document form x octets) : document reader octets = .ok x := by
  obtain ⟨before, text, after, hbefore, htext, hafter, rfl⟩ := hx
  have hskip : skipSpace after = [] := by
    rw [← List.append_nil after, skipSpace_append hafter]
    rfl
  rw [document, bind_eq (h x text before after hbefore htext (delimited_blank hafter))]
  simp only [hskip]

theorem closeList_append {gap : Bytes} (h : IsBlank gap) (rest : Bytes) :
    closeList (gap ++ 93 :: rest) = .ok ((), rest) := by
  rw [closeList, skipSpace_append_cons h (by decide)]
  rfl

theorem exists_of_document {reader : Reader α} (h : ReadsOnly reader form) {x : α}
    {octets : Bytes} (hread : document reader octets = .ok x) : Document form x octets := by
  obtain ⟨⟨y, rest⟩, hy, hend⟩ := exists_of_bind hread
  obtain ⟨before, text, hbefore, htext, rfl⟩ := h _ _ _ hy
  simp only at hend
  split at hend
  · next hskip =>
    cases hend
    obtain ⟨after, hafter, rfl⟩ := exists_gap_of_skipSpace hskip
    exact ⟨before, text, after, hbefore, htext, hafter, by rw [List.append_nil]⟩
  · cases hend

end Documents

/-! ## Section 3: Shapes -/

namespace Shape

variable {σ α : Type} (shape : Shape σ α)

theorem read_object {gap : Bytes} (hgap : IsBlank gap) (levels : Nat) (rest : Bytes) :
    shape.read (levels + 1) (gap ++ 123 :: rest) = shape.readObject levels rest := by
  rw [read, skipSpace_append_cons hgap (by decide)]
  rfl

/-- Only the two forms are read. -/
theorem exists_of_read {levels : Nat} {octets rest : Bytes} {x : α}
    (h : shape.read (levels + 1) octets = .ok (x, rest)) : ∃ gap more, IsBlank gap ∧
      ((octets = gap ++ 123 :: more ∧ shape.readObject levels more = .ok (x, rest)) ∨
        (octets = gap ++ 91 :: more ∧ shape.readArray levels more = .ok (x, rest))) := by
  unfold read at h
  split at h
  · cases h
  · next b more hskip =>
    obtain ⟨gap, hgap, rfl⟩ := exists_gap_of_skipSpace hskip
    refine ⟨gap, more, hgap, ?_⟩
    split_ifs at h with hlist hobject
    · exact .inr ⟨by rw [beq_iff_eq.mp hlist], h⟩
    · exact .inl ⟨by rw [beq_iff_eq.mp hobject], h⟩

variable {shape} {levels : Nat} {s : σ} {name : String}

/-- The name of a field leads to its reader, after a colon. -/
theorem afterName_known {field : Field σ}
    (hfind : shape.fields.find? (fun field => field.name == name) = some field)
    (hread : field.isRead s = false) {between : Bytes} (hbetween : IsBlank between)
    (rest : Bytes) :
    shape.afterName levels s name (between ++ 58 :: rest) = field.read levels s rest := by
  rw [afterName, hfind]
  simp only [hread, Bool.false_eq_true, if_false]
  rw [bind_eq (colon_append hbetween rest)]

/-- The value of any other name is passed over. -/
theorem afterName_unknown (hfind : shape.fields.find? (fun field => field.name == name) = none)
    {between after text rest : Bytes} (hbetween : IsBlank between) (hafter : IsBlank after)
    (htext : IsValue text) (hrest : Delimited rest) :
    shape.afterName levels s name (between ++ 58 :: (after ++ (text ++ rest)))
      = .ok (s, rest) := by
  rw [afterName, hfind]
  simp only
  rw [bind_eq (colon_append hbetween _)]
  simp only
  rw [bind_eq (skipValue_append hafter htext hrest)]

/-- How the reading continues after a name. -/
theorem exists_of_afterName {octets rest : Bytes} {s' : σ}
    (h : shape.afterName levels s name octets = .ok (s', rest)) :
    ∃ between more, IsBlank between ∧ octets = between ++ 58 :: more ∧
      ((∃ field, shape.fields.find? (fun field => field.name == name) = some field ∧
          field.isRead s = false ∧ field.read levels s more = .ok (s', rest)) ∨
        (shape.fields.find? (fun field => field.name == name) = none ∧ s' = s ∧
          skipValue more = .ok rest)) := by
  unfold afterName at h
  split at h
  · next field hfind =>
    split_ifs at h with hread
    obtain ⟨⟨u, more⟩, hcolon, hfield⟩ := exists_of_bind h
    obtain ⟨between, hbetween, rfl⟩ := exists_of_colon hcolon
    exact ⟨between, more, hbetween, rfl,
      .inl ⟨field, hfind, Bool.eq_false_iff.mpr hread, hfield⟩⟩
  · next hfind =>
    obtain ⟨⟨u, more⟩, hcolon, hskip⟩ := exists_of_bind h
    obtain ⟨after, hskip, hend⟩ := exists_of_bind hskip
    cases hend
    obtain ⟨between, hbetween, rfl⟩ := exists_of_colon hcolon
    exact ⟨between, more, hbetween, rfl, .inr ⟨hfind, rfl, hskip⟩⟩

/-- One more field of the array form: it is read, or the array ends before it. -/
theorem exists_of_readItems {field : Field σ} {fields : List (Field σ)} {count : Nat}
    {first : Bool} {octets rest : Bytes} {t : σ}
    (h : shape.readItems levels (field :: fields) count first s octets = .ok (t, rest)) :
    (∃ gap after, IsBlank gap ∧ octets = gap ++ 93 :: after ∧ field.mayLack = true ∧
        shape.readItems levels fields (count + 1) first s (93 :: after) = .ok (t, rest)) ∨
      ∃ gap before more s' tail, IsBlank gap ∧ IsBlank before ∧
        octets = (if first then [] else gap ++ [44]) ++ (before ++ more) ∧
        field.read levels s more = .ok (s', tail) ∧
        shape.readItems levels fields (count + 1) false s' tail = .ok (t, rest) := by
  rw [readItems] at h
  split at h
  · cases h
  · next closing hnext =>
    obtain ⟨gap, hgap, ⟨after, hclosing, rfl⟩ | ⟨-, _, hmore, -⟩ | ⟨-, _, _, _, hmore, -⟩⟩ :=
      exists_of_nextItem hnext
    · cases hclosing
      split_ifs at h with hlack
      exact .inl ⟨gap, after, hgap, rfl, hlack, h⟩
    · cases hmore
    · cases hmore
  · next more hnext =>
    split at h
    · cases h
    · next s' tail hread =>
      obtain ⟨gap, hgap, ⟨_, hclosing, -⟩ | ⟨rfl, _, hmore, rfl⟩ | ⟨rfl, before, _, hbefore, hmore,
        rfl⟩⟩ := exists_of_nextItem hnext
      · cases hclosing
      · cases hmore
        exact .inr ⟨[], gap, more, s', tail, isBlank_nil, hgap, rfl, hread, h⟩
      · cases hmore
        exact .inr ⟨gap, before, more, s', tail, hgap, hbefore, by simp, hread, h⟩

/-- Where an array ends before a field that may be absent, the rest of the fields are looked
    for. -/
theorem readItems_closing {field : Field σ} {fields : List (Field σ)} {count : Nat}
    {first : Bool} {gap : Bytes} (hgap : IsBlank gap) (hlack : field.mayLack = true)
    (rest : Bytes) :
    shape.readItems levels (field :: fields) count first s (gap ++ 93 :: rest)
      = shape.readItems levels fields (count + 1) first s (93 :: rest) := by
  rw [readItems, nextItem_closing hgap]
  simp only [hlack, if_true]

/-- The first field of an array is read where it begins. -/
theorem readItems_first {field : Field σ} {fields : List (Field σ)} {count : Nat}
    {gap text tail : Bytes} {b : UInt8} {s' : σ} (hgap : IsBlank gap) (hb : Begins b)
    (hread : field.read levels s (b :: text) = .ok (s', tail)) :
    shape.readItems levels (field :: fields) count true s (gap ++ b :: text)
      = shape.readItems levels fields (count + 1) false s' tail := by
  rw [readItems, nextItem_first hgap hb]
  simp only [hread]

theorem read_array {gap : Bytes} (hgap : IsBlank gap) (rest : Bytes) :
    shape.read (levels + 1) (gap ++ 91 :: rest) = shape.readArray levels rest := by
  rw [read, skipSpace_append_cons hgap (by decide)]
  rfl

end Shape

/-! ## Section 4: Members with their texts -/

/-- A text that is JSON, as it stands. -/
def Verbatim (text octets : Bytes) : Prop := octets = text ∧ IsValue text

/-- Members with their texts have one of this name, and its text is one of `x`. -/
def Holds {α : Type} (members : List (String × Bytes)) (name : String)
    (form : α → Bytes → Prop) (x : α) : Prop :=
  ∃ text, form x text ∧ members.filter (fun member => member.1 == name) = [(name, text)]

/-- Members have none of this name. -/
def Lacks {α : Type} (members : List (String × α)) (name : String) : Prop :=
  members.filter (fun member => member.1 == name) = []

theorem lacks_cons {α : Type} {members : List (String × α)} {member : String × α}
    {name : String} : Lacks (member :: members) name ↔ member.1 ≠ name ∧ Lacks members name := by
  unfold Lacks
  by_cases hname : member.1 = name <;> simp [hname]

/-- **Objects** with these members. -/
def ObjectText (members : List (String × Bytes)) (text : Bytes) : Prop :=
  ∃ inner, Elements (Member Verbatim) members inner ∧ text = 123 :: (inner ++ [125])

end Json

end TelemetryRelay
