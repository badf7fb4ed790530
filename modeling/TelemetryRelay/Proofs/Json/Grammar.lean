import Mathlib.Tactic.SplitIfs
import TelemetryRelay.Json.Reader
import TelemetryRelay.Json.Skip

/-! # What is JSON

    The readers go through a text octet by octet and stop at the first fault. This module
    says beside them what they read, as a grammar:

    - `Spells` and `StringText` are the string literals, with the text they stand for,
    - `IsValue` are the texts of values, whatever they stand for; nothing is asked of the
      octets of their strings but that they are no controls, and nothing of the size of
      their numbers,
    - `Renders` are the texts of a value that has no doubles in it,
    - `Elements` are what stands between brackets: texts with commas between them.

    Blanks may stand around every token.
-/

namespace TelemetryRelay

namespace Json

/-! ## Section 1: Blanks -/

/-- Blanks, of which there may be none. -/
def IsBlank (gap : Bytes) : Prop := ∀ b ∈ gap, isSpace b = true

theorem isBlank_nil : IsBlank [] := fun _ h => absurd h List.not_mem_nil

theorem IsBlank.append {gap gap' : Bytes} (h : IsBlank gap) (h' : IsBlank gap') :
    IsBlank (gap ++ gap') := fun b hmem =>
  (List.mem_append.mp hmem).elim (h b) (h' b)

theorem skipSpace_append {gap : Bytes} (h : IsBlank gap) (rest : Bytes) :
    skipSpace (gap ++ rest) = skipSpace rest := by
  induction gap with
  | nil => rfl
  | cons b gap ih =>
    rw [List.cons_append, skipSpace, if_pos (h b List.mem_cons_self)]
    exact ih fun c hmem => h c (List.mem_cons_of_mem _ hmem)

theorem skipSpace_cons {b : UInt8} (h : isSpace b = false) (rest : Bytes) :
    skipSpace (b :: rest) = b :: rest := by
  rw [skipSpace, if_neg (by simp [h])]

/-- After blanks comes an octet that is none. -/
theorem skipSpace_append_cons {gap : Bytes} {b : UInt8} (hgap : IsBlank gap)
    (hb : isSpace b = false) (rest : Bytes) : skipSpace (gap ++ b :: rest) = b :: rest := by
  rw [skipSpace_append hgap, skipSpace_cons hb]

/-- What is skipped are blanks. -/
theorem exists_gap (octets : Bytes) :
    ∃ gap, IsBlank gap ∧ octets = gap ++ skipSpace octets := by
  induction octets with
  | nil => exact ⟨[], isBlank_nil, rfl⟩
  | cons b rest ih =>
    by_cases hb : isSpace b = true
    · obtain ⟨gap, hgap, hrest⟩ := ih
      refine ⟨b :: gap, List.forall_mem_cons.mpr ⟨hb, hgap⟩, ?_⟩
      rw [skipSpace, if_pos hb, List.cons_append, ← hrest]
    · refine ⟨[], isBlank_nil, ?_⟩
      rw [skipSpace, if_neg hb, List.nil_append]

/-- What is read after blanks comes after them in the text. -/
theorem exists_gap_of_skipSpace {octets rest : Bytes} (h : skipSpace octets = rest) :
    ∃ gap, IsBlank gap ∧ octets = gap ++ rest := by
  obtain ⟨gap, hgap, hoctets⟩ := exists_gap octets
  exact ⟨gap, hgap, h ▸ hoctets⟩

/-! ## Section 2: String literals -/

/-- The letters after a backslash, each with the octet it stands for. -/
def shortForms : List (UInt8 × UInt8) :=
  [(34, 34), (92, 92), (47, 47), (98, 8), (102, 12), (110, 10), (114, 13), (116, 9)]

/-- Four hexadecimal digits of a number. -/
def Quad (n : Nat) (digits : Bytes) : Prop :=
  ∃ a b c d, digits = [a, b, c, d] ∧ hexQuad? a b c d = some n

/-- The code point of the halves of a pair. -/
def pairCode (lead trail : Nat) : Nat := 0x10000 + (lead - 0xD800) * 0x400 + (trail - 0xDC00)

/-- **Spelling**: the inside of a string literal, with the octets it stands for. A character
    past U+FFFF may be escaped as the two halves of a pair. -/
inductive Spells : Bytes → Bytes → Prop
  | nil : Spells [] []
  | plain (b : UInt8) (octets body : Bytes) : 32 ≤ b → b ≠ 34 → b ≠ 92 →
      Spells octets body → Spells (b :: octets) (b :: body)
  | short (b octet : UInt8) (octets body : Bytes) : (b, octet) ∈ shortForms →
      Spells octets body → Spells (octet :: octets) (92 :: b :: body)
  | code (n : Nat) (digits octets body : Bytes) : Quad n digits → isLeading n = false →
      isTrailing n = false → Spells octets body →
      Spells (octetsOf n ++ octets) (92 :: 117 :: (digits ++ body))
  | pair (lead trail : Nat) (digits digits' octets body : Bytes) : Quad lead digits →
      Quad trail digits' → isLeading lead = true → isTrailing trail = true →
      Spells octets body →
      Spells (octetsOf (pairCode lead trail) ++ octets)
        (92 :: 117 :: (digits ++ 92 :: 117 :: (digits' ++ body)))

/-- **String literals** of a text. -/
def StringText (text : String) (literal : Bytes) : Prop :=
  ∃ body, Spells (Bytes.ofText text) body ∧ literal = 34 :: (body ++ [34])

/-- The inside of a string literal, whatever it stands for. The halves of pairs need not
    match, and octets need not be UTF-8. -/
inductive IsBody : Bytes → Prop
  | nil : IsBody []
  | plain (b : UInt8) (body : Bytes) : 32 ≤ b → b ≠ 34 → b ≠ 92 → IsBody body →
      IsBody (b :: body)
  | short (b octet : UInt8) (body : Bytes) : (b, octet) ∈ shortForms → IsBody body →
      IsBody (92 :: b :: body)
  | code (n : Nat) (digits body : Bytes) : Quad n digits → IsBody body →
      IsBody (92 :: 117 :: (digits ++ body))

theorem Spells.isBody {octets body : Bytes} (h : Spells octets body) : IsBody body := by
  induction h with
  | nil => exact .nil
  | plain b _ _ hge hquote hslash _ ih => exact .plain b _ hge hquote hslash ih
  | short b octet _ _ hmem _ ih => exact .short b octet _ hmem ih
  | code n digits _ _ hquad _ _ _ ih => exact .code n digits _ hquad ih
  | pair lead trail digits digits' _ _ hquad hquad' _ _ _ ih =>
    exact .code lead digits _ hquad (.code trail digits' _ hquad' ih)

/-! ## Section 3: Numbers -/

/-- Digits, of which there is one at least. -/
def IsDigits (digits : Bytes) : Prop := digits ≠ [] ∧ ∀ b ∈ digits, Bytes.isDigit b = true

/-- Digits that do not start with a zero, or a zero alone. -/
def IsWhole (digits : Bytes) : Prop :=
  digits = [48] ∨ IsDigits digits ∧ ∀ rest, digits ≠ 48 :: rest

/-- Decimals after a point, which may be missing. -/
inductive IsFraction : Bytes → Prop
  | none : IsFraction []
  | some (digits : Bytes) : IsDigits digits → IsFraction (46 :: digits)

/-- An exponent after its letter, which may be missing. -/
inductive IsExponent : Bytes → Prop
  | none : IsExponent []
  | some (letter : UInt8) (sign digits : Bytes) : letter = 101 ∨ letter = 69 →
      sign = [] ∨ sign = [43] ∨ sign = [45] → IsDigits digits →
      IsExponent (letter :: (sign ++ digits))

/-- A number without a sign. -/
def IsUnsigned (text : Bytes) : Prop :=
  ∃ whole fraction exponent, IsWhole whole ∧ IsFraction fraction ∧ IsExponent exponent ∧
    text = whole ++ (fraction ++ exponent)

/-! ## Section 4: Values -/

/-- The octet that opens a bracket. -/
def Bracket.opener : Bracket → UInt8
  | .list => 91
  | .object => 123

/-- What comes before a value inside a bracket: in an object, the name of the field. -/
inductive Lead : Bracket → Bytes → Prop
  | list (gap : Bytes) : IsBlank gap → Lead .list gap
  | object (before body between after : Bytes) : IsBlank before → IsBody body →
      IsBlank between → IsBlank after →
      Lead .object (before ++ 34 :: (body ++ 34 :: (between ++ 58 :: after)))

/-- A part of a text. -/
inductive Part where
  /-- A whole value. -/
  | value
  /-- What follows a value inside a bracket, up to where it closes. -/
  | tail (bracket : Bracket)

/-- **Grammar**: the texts of the parts. -/
inductive Derives : Part → Bytes → Prop
  | null : Derives .value [110, 117, 108, 108]
  | true : Derives .value [116, 114, 117, 101]
  | false : Derives .value [102, 97, 108, 115, 101]
  | positive (text : Bytes) : IsUnsigned text → Derives .value text
  | negative (text : Bytes) : IsUnsigned text → Derives .value (45 :: text)
  | string (body : Bytes) : IsBody body → Derives .value (34 :: (body ++ [34]))
  | empty (bracket : Bracket) (gap : Bytes) : IsBlank gap →
      Derives .value (bracket.opener :: (gap ++ [bracket.closer]))
  | bracket (bracket : Bracket) (lead text tail : Bytes) : Lead bracket lead →
      Derives .value text → Derives (.tail bracket) tail →
      Derives .value (bracket.opener :: (lead ++ (text ++ (tail ++ [bracket.closer]))))
  | last (bracket : Bracket) (gap : Bytes) : IsBlank gap → Derives (.tail bracket) gap
  | next (bracket : Bracket) (gap lead text tail : Bytes) : IsBlank gap → Lead bracket lead →
      Derives .value text → Derives (.tail bracket) tail →
      Derives (.tail bracket) (gap ++ 44 :: (lead ++ (text ++ tail)))

/-- **Values**: the texts that are JSON. -/
abbrev IsValue (text : Bytes) : Prop := Derives .value text

/-! ## Section 5: Elements -/

/-- Elements after the first one, each after a comma. What each of them looks like is told by
    `form`. -/
inductive More {α : Type} (form : α → Bytes → Prop) : List α → Bytes → Prop
  | none (gap : Bytes) : IsBlank gap → More form [] gap
  | some (gap before : Bytes) (x : α) (text : Bytes) (xs : List α) (more : Bytes) :
      IsBlank gap → IsBlank before → form x text → More form xs more →
      More form (x :: xs) (gap ++ 44 :: (before ++ (text ++ more)))

/-- **Elements**: what stands between brackets. -/
inductive Elements {α : Type} (form : α → Bytes → Prop) : List α → Bytes → Prop
  | none (gap : Bytes) : IsBlank gap → Elements form [] gap
  | some (before : Bytes) (x : α) (text : Bytes) (xs : List α) (more : Bytes) :
      IsBlank before → form x text → More form xs more →
      Elements form (x :: xs) (before ++ (text ++ more))

/-- A field of an object: its name, a colon and its value. -/
inductive Member {α : Type} (form : α → Bytes → Prop) : String × α → Bytes → Prop
  | mk (name : String) (literal between after : Bytes) (x : α) (text : Bytes) :
      StringText name literal → IsBlank between → IsBlank after → form x text →
      Member form (name, x) (literal ++ (between ++ 58 :: (after ++ text)))

/-- **Rendering**: the texts of a value. Objects keep the order of their fields. A literal
    with a point or an exponent, or of minus zero, is that of a double, and there are none
    of those here. -/
inductive Renders : Value → Bytes → Prop
  | null : Renders .null [110, 117, 108, 108]
  | true : Renders (.bool true) [116, 114, 117, 101]
  | false : Renders (.bool false) [102, 97, 108, 115, 101]
  | integer (i : Int) : Renders (.number (.integer i)) (Bytes.ofText (toString i))
  | string (s : String) (literal : Bytes) : StringText s literal → Renders (.string s) literal
  | array (items : List Value) (inner : Bytes) : Elements Renders items inner →
      Renders (.array items) (91 :: (inner ++ [93]))
  | object (fields : Fields) (inner : Bytes) : Elements (Member Renders) fields inner →
      Renders (.object fields) (123 :: (inner ++ [125]))

/-! ## Section 6: The first octets of a value -/

/-- An octet that is a digit is not one that is none. -/
theorem ne_of_isDigit {b c : UInt8} (h : Bytes.isDigit b = true)
    (hc : Bytes.isDigit c = false) : b ≠ c := by
  rintro rfl
  rw [h] at hc
  cases hc

/-- A number begins with a digit. -/
theorem IsUnsigned.exists_cons {text : Bytes} (h : IsUnsigned text) :
    ∃ b more, text = b :: more ∧ Bytes.isDigit b = true := by
  obtain ⟨whole, fraction, exponent, hwhole, -, -, rfl⟩ := h
  rcases hwhole with rfl | ⟨⟨hne, hdigits⟩, -⟩
  · exact ⟨48, fraction ++ exponent, rfl, rfl⟩
  · obtain ⟨b, more, rfl⟩ := List.exists_cons_of_ne_nil hne
    exact ⟨b, more ++ (fraction ++ exponent), rfl, hdigits b List.mem_cons_self⟩

/-- An octet with which a value may begin. -/
def Begins (b : UInt8) : Prop :=
  isSpace b = false ∧ b ≠ 44 ∧ ∀ bracket : Bracket, b ≠ bracket.closer

theorem begins_of_isDigit {b : UInt8} (h : Bytes.isDigit b = true) : Begins b := by
  have hne : ∀ c, Bytes.isDigit c = false → b ≠ c := fun c hc => ne_of_isDigit h hc
  refine ⟨?_, hne 44 (by decide), fun bracket => hne _ (by cases bracket <;> decide)⟩
  simp [isSpace, hne 32 (by decide), hne 10 (by decide), hne 9 (by decide), hne 13 (by decide)]

theorem begins_of_const {b : UInt8}
    (h : b ∈ ([110, 116, 102, 45, 34, 91, 123] : Bytes)) : Begins b := by
  simp only [List.mem_cons, List.not_mem_nil, or_false] at h
  rcases h with rfl | rfl | rfl | rfl | rfl | rfl | rfl <;>
    exact ⟨rfl, by decide, fun bracket => by cases bracket <;> decide⟩

theorem begins_opener (bracket : Bracket) : Begins bracket.opener :=
  begins_of_const (by cases bracket <;> decide)

/-- No blank stands in front of a value, and it is no token of a bracket. -/
theorem IsValue.exists_cons {text : Bytes} (h : IsValue text) :
    ∃ b more, text = b :: more ∧ Begins b := by
  cases h with
  | null => exact ⟨110, _, rfl, begins_of_const (by decide)⟩
  | true => exact ⟨116, _, rfl, begins_of_const (by decide)⟩
  | false => exact ⟨102, _, rfl, begins_of_const (by decide)⟩
  | positive _ hnumber =>
    obtain ⟨b, more, rfl, hb⟩ := hnumber.exists_cons
    exact ⟨b, more, rfl, begins_of_isDigit hb⟩
  | negative => exact ⟨45, _, rfl, begins_of_const (by decide)⟩
  | string => exact ⟨34, _, rfl, begins_of_const (by decide)⟩
  | empty bracket => exact ⟨bracket.opener, _, rfl, begins_opener bracket⟩
  | bracket bracket => exact ⟨bracket.opener, _, rfl, begins_opener bracket⟩

/-! ## Section 7: What follows a value -/

/-- What may follow a number: nothing that could belong to it. -/
def Delimited (rest : Bytes) : Prop :=
  ∀ b more, rest = b :: more → isSpace b = true ∨ b = 44 ∨ b = 93 ∨ b = 125

/-- Where a comma or a closing bracket comes next, a value has ended. -/
theorem delimited_of_token {gap : Bytes} {c : UInt8} (hgap : IsBlank gap)
    (hc : c ∈ ([44, 93, 125] : Bytes)) (rest : Bytes) : Delimited (gap ++ c :: rest) := by
  intro b more heq
  cases gap with
  | nil =>
    rw [← (List.cons.inj heq).1]
    exact .inr (by simpa using hc)
  | cons d gap => exact .inl ((List.cons.inj heq).1 ▸ hgap d List.mem_cons_self)

/-! ## Section 8: Readers of tokens -/

/-- A word that is read stands there. -/
theorem eq_of_ident {word octets rest : Bytes} {u : Unit}
    (h : ident word octets = .ok (u, rest)) : octets = word ++ rest := by
  induction word generalizing octets with
  | nil =>
    rw [ident] at h
    exact congrArg Prod.snd (Except.ok.inj h)
  | cons w word ih =>
    cases octets with
    | nil => cases h
    | cons b octets =>
      rw [ident] at h
      split_ifs at h with hw
      rw [ih h, beq_iff_eq.mp hw, List.cons_append]

theorem colon_append {gap : Bytes} (h : IsBlank gap) (rest : Bytes) :
    colon (gap ++ 58 :: rest) = .ok ((), rest) := by
  rw [colon, skipSpace_append_cons h (by decide)]
  rfl

/-- A colon that is read comes after blanks. -/
theorem exists_of_colon {octets rest : Bytes} {u : Unit} (h : colon octets = .ok (u, rest)) :
    ∃ gap, IsBlank gap ∧ octets = gap ++ 58 :: rest := by
  unfold colon at h
  split at h
  · cases h
  · next b more hskip =>
    split_ifs at h with hb
    obtain ⟨gap, hgap, hoctets⟩ := exists_gap_of_skipSpace hskip
    refine ⟨gap, hgap, ?_⟩
    rw [hoctets, beq_iff_eq.mp hb, (Prod.mk.inj (Except.ok.inj h)).2]

end Json

end TelemetryRelay
