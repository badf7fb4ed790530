import TelemetryRelay.Proofs.Json.Values

/-! # Compact texts

    The relay writes JSON without blanks and escapes no more than it must. This module shows
    that what it writes for a text or a value is one of the texts of the grammar, so that it
    is read as what it was written from.
-/

namespace TelemetryRelay

namespace Json

/-! ## Section 1: String literals -/

/-- Octets that need no escape stand for themselves. -/
theorem spells_plain {octets body : Bytes} (h : Spells octets body) :
    ∀ {front : Bytes}, (∀ b ∈ front, 32 ≤ b ∧ b ≠ 34 ∧ b ≠ 92) →
      Spells (front ++ octets) (front ++ body) := by
  intro front
  induction front with
  | nil => exact fun _ => h
  | cons b front ih =>
    intro hfront
    obtain ⟨⟨hge, hquote, hslash⟩, hfront⟩ := List.forall_mem_cons.mp hfront
    exact .plain b _ _ hge hquote hslash (ih hfront)

/-- The octets of a character that is escaped neither for itself nor as a control. -/
theorem plain_of_mem_utf8EncodeChar {c : Char} (hquote : c ≠ '"') (hslash : c ≠ '\\')
    (hge : 32 ≤ c.toNat) {b : UInt8} (hmem : b ∈ String.utf8EncodeChar c) :
    32 ≤ b ∧ b ≠ 34 ∧ b ≠ 92 := by
  by_cases hsmall : c.toNat < 128
  · rw [Utf8.utf8EncodeChar_of_lt hsmall, List.mem_singleton] at hmem
    have hb : b.toNat = c.toNat := by rw [hmem, Utf8.toNat_ofNat (by omega)]
    refine ⟨UInt8.le_iff_toNat_le.mpr (by rw [hb]; exact hge), ?_, ?_⟩
    · rintro rfl
      exact hquote (Char.ext (UInt32.toNat_inj.mp hb.symm))
    · rintro rfl
      exact hslash (Char.ext (UInt32.toNat_inj.mp hb.symm))
  · have hlarge := Utf8.le_of_mem_utf8EncodeChar (by omega) hmem
    refine ⟨UInt8.le_iff_toNat_le.mpr (by simp; omega), ?_, ?_⟩
    · rintro rfl
      exact absurd hlarge (by decide)
    · rintro rfl
      exact absurd hlarge (by decide)

/-- A short escape stands for its octet. -/
theorem spells_short {c letter : Char} (b octet : UInt8) (hmem : (b, octet) ∈ shortForms)
    (hc : c.toNat = octet.toNat) (hsmall : octet.toNat < 128)
    (hletter : String.utf8EncodeChar letter = [b]) {octets body : Bytes}
    (h : Spells octets body) : Spells (String.utf8EncodeChar c ++ octets)
      ((shortEscape letter).flatMap String.utf8EncodeChar ++ body) := by
  have hescape : (shortEscape letter).flatMap String.utf8EncodeChar = [92, b] := by
    rw [shortEscape, List.flatMap_cons, List.flatMap_singleton, hletter]
    rfl
  rw [hescape, Utf8.utf8EncodeChar_of_lt (hc ▸ hsmall), hc, UInt8.ofNat_toNat]
  exact .short b octet octets body hmem h

/-- The octet of a hexadecimal digit. -/
def hexOctet (d : Nat) : UInt8 := .ofNat (Nat.digitChar d).toNat

theorem hexOctet_spec (n : Fin 32) :
    hexQuad? 48 48 (hexOctet (n / 16)) (hexOctet (n % 16)) = some n.val ∧
      isLeading n = false ∧ isTrailing n = false ∧ (Nat.digitChar (n / 16)).toNat < 128 ∧
      (Nat.digitChar (n % 16)).toNat < 128 := by
  revert n
  decide

/-- The digits of a control stand for it. -/
theorem spells_control {c : Char} (hc : c.toNat < 32) {octets body : Bytes}
    (h : Spells octets body) : Spells (String.utf8EncodeChar c ++ octets)
      (['\\', 'u', '0', '0', Nat.digitChar (c.toNat / 16), Nat.digitChar (c.toNat % 16)].flatMap
        String.utf8EncodeChar ++ body) := by
  obtain ⟨hquad, hlead, htrail, hhigh, hlow⟩ := hexOctet_spec ⟨c.toNat, hc⟩
  have hoctets : octetsOf c.toNat = String.utf8EncodeChar c := by rw [octetsOf, Char.ofNat_toNat]
  have hescape : ['\\', 'u', '0', '0', Nat.digitChar (c.toNat / 16),
      Nat.digitChar (c.toNat % 16)].flatMap String.utf8EncodeChar
        = 92 :: 117 :: [48, 48, hexOctet (c.toNat / 16), hexOctet (c.toNat % 16)] := by
    simp only [List.flatMap_cons, List.flatMap_nil, Utf8.utf8EncodeChar_of_lt hhigh,
      Utf8.utf8EncodeChar_of_lt hlow]
    rfl
  rw [hescape, ← hoctets]
  exact .code c.toNat _ octets body ⟨48, 48, _, _, rfl, hquad⟩ hlead htrail h

/-- **Escapes**: what is written for a character stands for it. -/
theorem spells_escapeChar (c : Char) {octets body : Bytes} (h : Spells octets body) :
    Spells (String.utf8EncodeChar c ++ octets)
      ((escapeChar c).flatMap String.utf8EncodeChar ++ body) := by
  unfold escapeChar
  by_cases hquote : c = '"'
  · rw [if_pos hquote]
    subst hquote
    exact .short 34 34 _ _ (by decide) h
  rw [if_neg hquote]
  by_cases hslash : c = '\\'
  · rw [if_pos hslash]
    subst hslash
    exact .short 92 92 _ _ (by decide) h
  rw [if_neg hslash]
  by_cases hplain : 32 ≤ c.toNat
  · rw [if_pos hplain, List.flatMap_singleton]
    exact spells_plain h fun b hmem => plain_of_mem_utf8EncodeChar hquote hslash hplain hmem
  rw [if_neg hplain]
  by_cases hback : c.toNat = 8
  · rw [if_pos hback]
    exact spells_short 98 8 (by decide) hback (by decide) (by decide) h
  rw [if_neg hback]
  by_cases htab : c.toNat = 9
  · rw [if_pos htab]
    exact spells_short 116 9 (by decide) htab (by decide) (by decide) h
  rw [if_neg htab]
  by_cases hline : c.toNat = 10
  · rw [if_pos hline]
    exact spells_short 110 10 (by decide) hline (by decide) (by decide) h
  rw [if_neg hline]
  by_cases hfeed : c.toNat = 12
  · rw [if_pos hfeed]
    exact spells_short 102 12 (by decide) hfeed (by decide) (by decide) h
  rw [if_neg hfeed]
  by_cases hreturn : c.toNat = 13
  · rw [if_pos hreturn]
    exact spells_short 114 13 (by decide) hreturn (by decide) (by decide) h
  rw [if_neg hreturn]
  exact spells_control (by omega) h

theorem spells_escaped (chars : List Char) :
    Spells (chars.flatMap String.utf8EncodeChar)
      ((chars.flatMap escapeChar).flatMap String.utf8EncodeChar) := by
  induction chars with
  | nil => exact .nil
  | cons c chars ih =>
    rw [List.flatMap_cons, List.flatMap_cons, List.flatMap_append]
    exact spells_escapeChar c ih

/-- What is written for a text is one of its literals. -/
theorem stringText_spells (s : String) : StringText s (Bytes.ofText (stringText s)) := by
  refine ⟨(s.toList.flatMap escapeChar).flatMap String.utf8EncodeChar, ?_, ?_⟩
  · rw [Bytes.ofText_eq_flatMap]
    exact spells_escaped s.toList
  · rw [Bytes.ofText_eq_flatMap, stringText, String.toList_ofList, List.flatMap_cons,
      List.flatMap_append]
    rfl

/-! ## Section 2: Elements -/

section Commas

variable {α : Type} {form : α → Bytes → Prop} {write : α → String}

/-- A comma comes before every element but the first. -/
theorem ofText_commas (xs : List α) : ∀ x, Bytes.ofText (commas (write x :: xs.map write))
    = Bytes.ofText (write x) ++ xs.flatMap fun x => 44 :: Bytes.ofText (write x) := by
  induction xs with
  | nil =>
    intro x
    rw [commas, List.map_nil, String.intercalate_singleton, List.flatMap_nil, List.append_nil]
  | cons x' xs ih =>
    intro x
    have hcomma : Bytes.ofText "," = [44] := by decide
    simp only [commas] at ih ⊢
    rw [List.map_cons, String.intercalate_cons_cons, Bytes.ofText_append, Bytes.ofText_append,
      hcomma, ih x', List.flatMap_cons, List.append_assoc]
    rfl

theorem more_written {xs : List α} (h : ∀ x ∈ xs, form x (Bytes.ofText (write x))) :
    More form xs (xs.flatMap fun x => 44 :: Bytes.ofText (write x)) := by
  induction xs with
  | nil => exact .none [] isBlank_nil
  | cons x xs ih =>
    obtain ⟨hhead, htail⟩ := List.forall_mem_cons.mp h
    rw [List.flatMap_cons]
    exact .some [] [] x _ xs _ isBlank_nil isBlank_nil hhead (ih htail)

/-- What is written with commas between them are elements. -/
theorem elements_commas {xs : List α} (h : ∀ x ∈ xs, form x (Bytes.ofText (write x))) :
    Elements form xs (Bytes.ofText (commas (xs.map write))) := by
  cases xs with
  | nil => exact .none _ isBlank_nil
  | cons x xs =>
    obtain ⟨hhead, htail⟩ := List.forall_mem_cons.mp h
    rw [List.map_cons, ofText_commas]
    exact .some [] x _ xs _ isBlank_nil hhead (more_written htail)

end Commas

/-- The octets of an array. -/
theorem ofText_arrayText (texts : List String) :
    Bytes.ofText (arrayText texts) = 91 :: (Bytes.ofText (commas texts) ++ [93]) := by
  rw [arrayText, Bytes.ofText_append, Bytes.ofText_append]
  rfl

/-- What is written for a field of an object. -/
def memberText (field : String × Value) : String := stringText field.1 ++ ":" ++ field.2.text

theorem fieldTexts_eq_map (fields : Fields) :
    fieldTexts fields = fields.map fun field => (field.1, field.2.text) := by
  induction fields with
  | nil => rfl
  | cons field fields ih => rw [fieldTexts, ih, List.map_cons]

/-- The octets of an object. -/
theorem ofText_object (fields : Fields) : Bytes.ofText (Value.object fields).text
    = 123 :: (Bytes.ofText (commas (fields.map memberText)) ++ [125]) := by
  rw [Value.text, objectText, fieldTexts_eq_map, List.map_map, Bytes.ofText_append,
    Bytes.ofText_append]
  rfl

/-- What is written for a field is one of its texts, if this is so of its value. -/
theorem member_written {α : Type} {form : α → Bytes → Prop} (name : String) {x : α}
    {text : String} (h : form x (Bytes.ofText text)) :
    Member form (name, x) (Bytes.ofText (stringText name ++ ":" ++ text)) := by
  rw [Bytes.ofText_append, Bytes.ofText_append, List.append_assoc]
  exact .mk name _ [] [] x _ (stringText_spells name) isBlank_nil isBlank_nil h

/-! ## Section 3: Values -/

/-- **Compact texts**: what is written for a value is one of its texts. -/
theorem renders_text {levels : Nat} {v : Value} (h : Portable levels v) :
    Renders v (Bytes.ofText v.text) := by
  induction h with
  | null => exact .null
  | bool levels b => cases b with
    | true => exact .true
    | false => exact .false
  | integer levels i => exact .integer i
  | string levels s => exact .string s _ (stringText_spells s)
  | array levels items _ ih =>
    rw [Value.text, itemTexts_eq_map, ofText_arrayText]
    exact .array items _ (elements_commas ih)
  | object levels fields _ _ ih =>
    rw [ofText_object]
    exact .object fields _
      (elements_commas fun field hmem => member_written field.1 (ih field hmem))

end Json

end TelemetryRelay
