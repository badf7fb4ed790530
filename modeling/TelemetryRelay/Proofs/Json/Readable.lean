import Mathlib.Data.List.Forall2
import TelemetryRelay.Proofs.Json.Literals
import TelemetryRelay.Proofs.Json.Shapes

/-! # Texts of any value

    A text of a value is readable if its strings are texts, its numbers are in range and its
    brackets are not nested too deep. Whatever is readable is read as some value, and this
    module says which texts are read as a string or as an integer.
-/

namespace TelemetryRelay

namespace Json

open Results (exists_of_bind bind_eq)

/-! ## Section 1: Readable texts -/

/-- Texts that open no bracket: words, numbers in range and literals of texts. -/
inductive IsFlat : Bytes → Prop
  | null : IsFlat nullText
  | true : IsFlat [116, 114, 117, 101]
  | false : IsFlat [102, 97, 108, 115, 101]
  | positive (text : Bytes) : IsUnsigned text → InRange false text → IsFlat text
  | negative (text : Bytes) : IsUnsigned text → InRange true text → IsFlat (45 :: text)
  | string (s : String) (literal : Bytes) : StringText s literal → IsFlat literal

/-- A text that is kept as it stands. -/
def Kept (P : Bytes → Prop) (text octets : Bytes) : Prop := octets = text ∧ P text

/-- **Readable** texts of values, with no more than `levels` brackets open at once. -/
def IsReadable : Nat → Bytes → Prop
  | 0, text => IsFlat text
  | levels + 1, text => IsFlat text ∨
      (∃ items inner, Elements (Kept (IsReadable levels)) items inner ∧
        text = 91 :: (inner ++ [93])) ∨
      (∃ members inner, Elements (Member (Kept (IsReadable levels))) members inner ∧
        text = 123 :: (inner ++ [125]))

theorem IsFlat.isReadable {text : Bytes} (h : IsFlat text) : ∀ levels, IsReadable levels text
  | 0 => h
  | _ + 1 => .inl h

/-! ## Section 2: What a value tells of its text -/

/-- **Written**: a text of a value, which is a literal of a text for a string and the numeral
    for an integer of 64 bits. -/
def Written (v : Value) (text : Bytes) : Prop :=
  IsValue text ∧
    match v with
    | .string s => StringText s text
    | .number (.integer i) => FitsWord i ∧ text = Bytes.ofText (toString i)
    | _ => True

/-- A string that is read as a scalar is a literal of it. -/
theorem exists_of_scalar_string {b : UInt8} {octets rest : Bytes} {s : String}
    (h : scalar b octets = .ok (.string s, rest)) :
    ∃ literal, StringText s literal ∧ b :: octets = literal ++ rest := by
  cases scalarRead_of_scalar h with
  | string _ hstring =>
    obtain ⟨body, hbody, rfl⟩ := string_eq_ok_iff.mp hstring
    exact ⟨_, ⟨body, hbody, rfl⟩, by simp⟩

/-- Values are read from nothing but what they tell of their texts. -/
theorem readsOnly_written (levels : Nat) : ReadsOnly (value levels) Written := by
  intro octets v rest h
  obtain ⟨gap, text, hgap, htext, hoctets⟩ := readsOnly_value levels _ _ _ h
  cases v with
  | string s =>
    obtain ⟨gap', tail, hgap', rfl, hread⟩ := exists_valueRead h
    cases hread with
    | scalar _ b more _ hscalar =>
      obtain ⟨literal, hliteral, hmore⟩ := exists_of_scalar_string hscalar
      exact ⟨gap', literal, hgap', ⟨hliteral.isValue, hliteral⟩, by rw [hmore]⟩
  | number n =>
    cases n with
    | real x => exact ⟨gap, text, hgap, ⟨htext, trivial⟩, hoctets⟩
    | integer i =>
      obtain ⟨gap', tail, hgap', rfl, hread⟩ := exists_valueRead h
      cases hread with
      | scalar _ b more _ hscalar =>
        obtain ⟨hfits, hmore⟩ := eq_of_scalar_integer hscalar
        exact ⟨gap', _, hgap', ⟨isValue_integer i, hfits, rfl⟩, by rw [hmore]⟩
  | null | bool _ | array _ | object _ =>
    exact ⟨gap, text, hgap, ⟨htext, trivial⟩, hoctets⟩

/-! ## Section 3: Elements that are made into others -/

section Elements

variable {α β : Type} {form : α → Bytes → Prop} (R : α → β → Prop) (form' : β → Bytes → Prop)

theorem More.exists_imp {xs : List α} {more : Bytes} (h : More form xs more) :
    (∀ x ∈ xs, ∀ text, form x text → ∃ y, R x y ∧ form' y text) →
      ∃ ys, List.Forall₂ R xs ys ∧ More form' ys more := by
  induction h with
  | none gap hgap => exact fun _ => ⟨[], .nil, .none gap hgap⟩
  | some gap before x text xs more hgap hbefore htext _ ih =>
    intro himp
    obtain ⟨hhead, htail⟩ := List.forall_mem_cons.mp himp
    obtain ⟨y, hy, htext'⟩ := hhead text htext
    obtain ⟨ys, hys, hmore⟩ := ih htail
    exact ⟨y :: ys, .cons hy hys, .some gap before y text ys more hgap hbefore htext' hmore⟩

/-- Texts of elements are texts of what each of them is made into. -/
theorem Elements.exists_imp {xs : List α} {inner : Bytes} (h : Elements form xs inner)
    (himp : ∀ x ∈ xs, ∀ text, form x text → ∃ y, R x y ∧ form' y text) :
    ∃ ys, List.Forall₂ R xs ys ∧ Elements form' ys inner := by
  cases h with
  | none gap hgap => exact ⟨[], .nil, .none inner hgap⟩
  | some before x text xs more hbefore htext hmore =>
    obtain ⟨hhead, htail⟩ := List.forall_mem_cons.mp himp
    obtain ⟨y, hy, htext'⟩ := hhead text htext
    obtain ⟨ys, hys, hmore'⟩ := hmore.exists_imp R form' htail
    exact ⟨y :: ys, .cons hy hys, .some before y text ys more hbefore htext' hmore'⟩

/-- Members keep their names where their values are made into others. -/
theorem Elements.exists_members {xs : List (String × α)} {inner : Bytes}
    (h : Elements (Member form) xs inner)
    (himp : ∀ x ∈ xs, ∀ text, form x.2 text → ∃ y, R x.2 y ∧ form' y text) :
    ∃ ys, List.Forall₂ (fun x y => y.1 = x.1 ∧ R x.2 y.2) xs ys ∧
      Elements (Member form') ys inner := by
  refine h.exists_imp _ _ ?_
  intro x hmem text hmember
  obtain ⟨name, literal, between, after, v, text, hname, hbetween, hafter, htext⟩ := hmember
  obtain ⟨y, hy, htext'⟩ := himp _ hmem text htext
  exact ⟨(name, y), ⟨rfl, hy⟩, .mk name literal between after y text hname hbetween hafter htext'⟩

end Elements

/-! ## Section 4: Readable texts are read -/

/-- **Denotation**: a text that is read as a value, whatever stands around it. -/
def Denotes (levels : Nat) (v : Value) (text : Bytes) : Prop :=
  Written v text ∧ ∀ gap rest, IsBlank gap → Delimited rest →
    value levels (gap ++ (text ++ rest)) = .ok (v, rest)

theorem reads_denotes (levels : Nat) : Reads (value levels) (Denotes levels) :=
  fun _ _ gap rest hgap h hrest => h.2 gap rest hgap hrest

/-- A text denotes one value. -/
theorem Denotes.unique {levels : Nat} {v v' : Value} {text : Bytes} (h : Denotes levels v text)
    (h' : Denotes levels v' text) : v = v' := by
  have hend : Delimited [] := fun _ _ hnil => nomatch hnil
  have hread := h.2 [] [] isBlank_nil hend
  rw [h'.2 [] [] isBlank_nil hend] at hread
  cases hread
  rfl

theorem visible_denotes (levels : Nat) : Visible (Denotes levels) :=
  fun _ _ h => h.1.1.exists_cons

/-- What is read from a value is written there. -/
theorem denotes_of_read {levels : Nat} {v : Value} {text : Bytes} (htext : IsValue text)
    (hread : ∀ gap rest, IsBlank gap → Delimited rest →
      value levels (gap ++ (text ++ rest)) = .ok (v, rest)) : Denotes levels v text := by
  refine ⟨?_, hread⟩
  have halone := hread [] [] isBlank_nil fun _ _ hnil => nomatch hnil
  obtain ⟨gap, text', hgap, hwritten, heq⟩ := readsOnly_written levels _ _ _ halone
  obtain ⟨b, more, rfl, hb⟩ := htext.exists_cons
  rw [List.nil_append, List.append_nil, List.append_nil] at heq
  cases gap with
  | nil =>
    rw [heq]
    exact hwritten
  | cons c gap =>
    -- no blank stands in front of a value
    obtain ⟨rfl, -⟩ := List.cons.inj heq
    have hspace := hgap b List.mem_cons_self
    rw [hb.1] at hspace
    cases hspace

theorem denotes_string {s : String} {literal : Bytes} (h : StringText s literal) (levels : Nat) :
    Denotes levels (.string s) literal :=
  denotes_of_read h.isValue fun _ _ hgap _ => value_string h hgap levels

theorem denotes_integer {i : Int} (h : FitsWord i) (levels : Nat) :
    Denotes levels (.number (.integer i)) (Bytes.ofText (toString i)) :=
  denotes_of_read (isValue_integer i) fun _ _ hgap hrest => value_integer h hgap hrest levels

/-- Flat texts are read on every level. -/
theorem exists_denotes_flat {text : Bytes} (h : IsFlat text) (levels : Nat) :
    ∃ v, Denotes levels v text := by
  cases h with
  | null =>
    exact ⟨.null, denotes_of_read .null fun _ rest hgap _ =>
      value_scalar hgap (by decide) (by decide) (by decide) levels _⟩
  | true =>
    exact ⟨.bool true, denotes_of_read .true fun _ rest hgap _ =>
      value_scalar hgap (by decide) (by decide) (by decide) levels _⟩
  | false =>
    exact ⟨.bool false, denotes_of_read .false fun _ rest hgap _ =>
      value_scalar hgap (by decide) (by decide) (by decide) levels _⟩
  | positive _ htext hrange =>
    obtain ⟨n, hnumber⟩ := exists_number htext hrange
    refine ⟨.number n, denotes_of_read (.positive _ htext) ?_⟩
    intro gap rest hgap hrest
    have hread := hnumber rest hrest
    obtain ⟨b, more, rfl, hb⟩ := htext.exists_cons
    rw [List.cons_append] at hread ⊢
    rw [value_scalar hgap (begins_of_isDigit hb).1 (ne_of_isDigit hb (by decide))
      (ne_of_isDigit hb (by decide)), scalar_digit hb hread]
  | negative digits htext hrange =>
    obtain ⟨n, hnumber⟩ := exists_number htext hrange
    refine ⟨.number n, denotes_of_read (.negative digits htext) ?_⟩
    intro gap rest hgap hrest
    rw [List.cons_append, value_scalar hgap (by decide) (by decide) (by decide)]
    exact bind_eq (hnumber rest hrest) _
  | string s _ hliteral => exact ⟨.string s, denotes_string hliteral levels⟩

theorem exists_through_writes (members : List (String × Value)) :
    ∀ fields : Fields, ∃ fields', Through Writes fields members fields' := by
  induction members with
  | nil => exact fun fields => ⟨fields, .nil fields⟩
  | cons member members ih =>
    intro fields
    obtain ⟨fields', h⟩ := ih (fields.write member.1 member.2)
    exact ⟨fields', .cons _ _ _ _ _ rfl h⟩

/-- **Readable texts** are read, as some value. -/
theorem exists_denotes {levels : Nat} : ∀ {text : Bytes}, IsReadable levels text →
    ∃ v, Denotes levels v text := by
  -- the induction is on the brackets that may still be opened
  induction levels with
  | zero =>
    intro text h
    exact exists_denotes_flat h 0
  | succ levels ih =>
    intro text h
    have hstep : ∀ (x octets : Bytes), Kept (IsReadable levels) x octets →
        ∃ v, True ∧ Denotes levels v octets := by
      rintro x octets ⟨rfl, hx⟩
      obtain ⟨v, hv⟩ := ih hx
      exact ⟨v, trivial, hv⟩
    obtain hflat | ⟨items, inner, hinner, rfl⟩ | ⟨members, inner, hinner, rfl⟩ := h
    · exact exists_denotes_flat hflat (levels + 1)
    · obtain ⟨values, -, hvalues⟩ := hinner.exists_imp (fun _ _ => True)
        (Denotes levels) fun x _ => hstep x
      refine ⟨.array values, denotes_of_read ?_ ?_⟩
      · exact (hvalues.imp fun _ _ _ hv => hv.1.1).isValue leads_list
      · intro gap rest hgap _
        have hread := list_append (reads_denotes levels) (visible_denotes levels) hvalues rest
        simp only [List.cons_append, List.append_assoc, List.nil_append]
        rw [value_list hgap, bind_eq hread]
    · obtain ⟨values, -, hvalues⟩ := hinner.exists_members (fun _ _ => True)
        (Denotes levels) fun x _ => hstep x.2
      obtain ⟨fields, hthrough⟩ := exists_through_writes values []
      refine ⟨.object fields, denotes_of_read ?_ ?_⟩
      · exact (hvalues.imp fun _ _ _ hmember => hmember.imp fun _ hv => hv.1.1).isValue leads_object
      · intro gap rest hgap _
        have hread := openFields_append (takes_valueField (reads_denotes levels)) hvalues
          hthrough rest
        simp only [List.cons_append, List.append_assoc, List.nil_append]
        rw [value_object hgap, bind_eq hread]
        rfl

theorem IsReadable.isValue {levels : Nat} {text : Bytes} (h : IsReadable levels text) :
    IsValue text := by
  obtain ⟨v, hv⟩ := exists_denotes h
  exact hv.1.1

end Json

end TelemetryRelay
