import TelemetryRelay.Decimal.Integer
import TelemetryRelay.Proofs.Results

/-! # Numerals

    An integer is read digit by digit, and given up as soon as it becomes too large. This
    module says what that accepts: `Numeral` and `SignedNumeral` are the texts that stand for
    a number in the usual way, whatever its size, and a reader takes exactly those of them
    whose number is in its range.
-/

namespace TelemetryRelay

namespace Decimal

open Results (map_eq_ok_iff)

variable {chars : List Char} {text : String} {limit bound m n : Nat}

/-! ## Section 1: Numerals -/

/-- **Digits**: at least one of them, and nothing else. -/
structure Digits (chars : List Char) : Prop where
  nonempty : chars ≠ []
  digit : ∀ c ∈ chars, c.isDigit = true

/-- **Numeral**: digits, after a plus sign if there is one, and the number they stand for. -/
inductive Numeral (text : String) : Nat → Prop
  | plain : Digits text.toList → Numeral text (Nat.ofDigitChars 10 text.toList 0)
  | plus (digits : List Char) : text.toList = '+' :: digits → Digits digits →
      Numeral text (Nat.ofDigitChars 10 digits 0)

/-- **Signed numeral**: a numeral, or digits after a minus sign. -/
inductive SignedNumeral (text : String) : Int → Prop
  | unsigned (n : Nat) : Numeral text n → SignedNumeral text n
  | minus (digits : List Char) : text.toList = '-' :: digits → Digits digits →
      SignedNumeral text (-Int.ofNat (Nat.ofDigitChars 10 digits 0))

/-- Neither sign is a digit. -/
theorem not_digits_of_sign {sign : Char} {rest : List Char} (hsign : sign.isDigit = false)
    (h : chars = sign :: rest) : ¬ Digits chars := by
  intro hdigits
  have hdigit := hdigits.digit sign (h ▸ List.mem_cons_self)
  rw [hsign] at hdigit
  cases hdigit

/-! ## Section 2: Digits up to a limit -/

/-- More digits do not make a number smaller. -/
theorem le_ofDigitChars : ∀ (chars : List Char) (n : Nat), n ≤ Nat.ofDigitChars 10 chars n
  | [], n => Nat.le_of_eq Nat.ofDigitChars_nil.symm
  | c :: rest, n => by
    rw [Nat.ofDigitChars_cons]
    have hrest := le_ofDigitChars rest (10 * n + (c.toNat - '0'.toNat))
    omega

/-- **Digits**: digits are read exactly if the number they make is within the limit. It is
    enough to look at the whole number, since the first ones make a smaller one. -/
theorem digitsUpTo_eq_ok_iff {overflow : Fault} :
    ∀ (chars : List Char) (n : Nat), n ≤ limit →
      (digitsUpTo limit overflow n chars = .ok m ↔
        (∀ c ∈ chars, c.isDigit = true) ∧ Nat.ofDigitChars 10 chars n = m ∧ m ≤ limit)
  | [], n, hn => by
    rw [digitsUpTo, Nat.ofDigitChars_nil, Except.ok.injEq]
    constructor
    · rintro rfl
      exact ⟨List.forall_mem_nil _, rfl, hn⟩
    · rintro ⟨-, rfl, -⟩
      rfl
  | c :: rest, n, hn => by
    have hnext : n * 10 + (c.toNat - 48) = 10 * n + (c.toNat - '0'.toNat) := by
      rw [Nat.mul_comm]
      rfl
    rw [digitsUpTo, Nat.ofDigitChars_cons, List.forall_mem_cons, hnext]
    by_cases hdigit : c.isDigit = true
    · rw [if_pos hdigit]
      by_cases hle : 10 * n + (c.toNat - '0'.toNat) ≤ limit
      · simp only [hle, if_true, hdigit, true_and]
        exact digitsUpTo_eq_ok_iff rest _ hle
      · simp only [hle, if_false]
        constructor
        · intro h
          cases h
        · rintro ⟨-, rfl, hm⟩
          exact absurd (Nat.le_trans (le_ofDigitChars rest _) hm) hle
    · rw [if_neg hdigit]
      constructor
      · intro h
        cases h
      · rintro ⟨⟨h, -⟩, -⟩
        exact absurd h hdigit

theorem someDigits_eq_ok_iff {overflow : Fault} :
    someDigits limit overflow chars = .ok m ↔
      Digits chars ∧ Nat.ofDigitChars 10 chars 0 = m ∧ m ≤ limit := by
  unfold someDigits
  cases chars with
  | nil =>
    constructor
    · nofun
    · rintro ⟨hdigits, -⟩
      exact absurd rfl hdigits.nonempty
  | cons c rest =>
    rw [List.isEmpty_cons, if_neg Bool.false_ne_true, digitsUpTo_eq_ok_iff _ 0 (Nat.zero_le _)]
    constructor
    · rintro ⟨hdigit, h⟩
      exact ⟨⟨List.cons_ne_nil c rest, hdigit⟩, h⟩
    · rintro ⟨hdigits, h⟩
      exact ⟨hdigits.digit, h⟩

/-! ## Section 3: Readers -/

/-- **Unsigned**: the numerals within the limit are read. -/
theorem parseUnsigned_eq_ok_iff :
    parseUnsigned limit text = .ok n ↔ Numeral text n ∧ n ≤ limit := by
  unfold parseUnsigned
  split
  · next hnone =>
    constructor
    · nofun
    · rintro ⟨hnumeral, -⟩
      cases hnumeral with
      | plain hdigits => exact absurd hnone hdigits.nonempty
      | plus digits hplus _ =>
        rw [hnone] at hplus
        cases hplus
  · next digits hplus =>
    rw [someDigits_eq_ok_iff]
    constructor
    · rintro ⟨hdigits, rfl, hle⟩
      exact ⟨.plus digits hplus hdigits, hle⟩
    · rintro ⟨hnumeral, hle⟩
      cases hnumeral with
      | plain hdigits => exact absurd hdigits (not_digits_of_sign rfl hplus)
      | plus others hplus' hdigits =>
        obtain rfl : others = digits := (List.cons.inj (hplus'.symm.trans hplus)).2
        exact ⟨hdigits, rfl, hle⟩
  · next hnot =>
    rw [someDigits_eq_ok_iff]
    constructor
    · rintro ⟨hdigits, rfl, hle⟩
      exact ⟨.plain hdigits, hle⟩
    · rintro ⟨hnumeral, hle⟩
      cases hnumeral with
      | plain hdigits => exact ⟨hdigits, rfl, hle⟩
      | plus digits hplus _ => exact absurd hplus (hnot digits)

/-- A numeral stands for one number. -/
theorem Numeral.unique (h : Numeral text m) (h' : Numeral text n) : m = n := by
  have hm := parseUnsigned_eq_ok_iff.mpr ⟨h, Nat.le_max_left m n⟩
  rw [parseUnsigned_eq_ok_iff.mpr ⟨h', Nat.le_max_right m n⟩] at hm
  exact (Except.ok.inj hm).symm

/-- Without a minus sign a signed number is read as an unsigned one. -/
theorem parseSigned_of_not_minus (h : ∀ digits, text.toList ≠ '-' :: digits) :
    parseSigned bound text = (parseUnsigned (bound - 1) text).map Int.ofNat := by
  unfold parseSigned parseUnsigned
  generalize text.toList = chars at h ⊢
  cases chars with
  | nil => rfl
  | cons c rest =>
    by_cases hplus : c = '+'
    · subst hplus
      rfl
    · simp [hplus]

/-- After a minus sign come the digits of its opposite. -/
theorem parseSigned_of_minus {digits : List Char} (h : text.toList = '-' :: digits) :
    parseSigned bound text =
      (someDigits bound .tooSmall digits).map fun n => -Int.ofNat n := by
  unfold parseSigned
  rw [h]
  rfl

/-- **Signed**: the signed numerals in the range are read. -/
theorem parseSigned_eq_ok_iff {level : Int} (hbound : 0 < bound) :
    parseSigned bound text = .ok level ↔
      SignedNumeral text level ∧ -(bound : Int) ≤ level ∧ level < bound := by
  by_cases hminus : ∃ digits, text.toList = '-' :: digits
  · obtain ⟨digits, hminus⟩ := hminus
    rw [parseSigned_of_minus hminus, map_eq_ok_iff]
    constructor
    · rintro ⟨n, hread, rfl⟩
      obtain ⟨hdigits, rfl, hle⟩ := someDigits_eq_ok_iff.mp hread
      refine ⟨.minus digits hminus hdigits, ?_, ?_⟩ <;> simp only [Int.ofNat_eq_natCast] <;> omega
    · rintro ⟨hnumeral, hlow, -⟩
      cases hnumeral with
      | unsigned n hnumeral =>
        cases hnumeral with
        | plain hdigits => exact absurd hdigits (not_digits_of_sign rfl hminus)
        | plus _ hplus _ =>
          rw [hminus] at hplus
          cases hplus
      | minus others hminus' hdigits =>
        obtain rfl : others = digits := (List.cons.inj (hminus'.symm.trans hminus)).2
        have hle : Nat.ofDigitChars 10 others 0 ≤ bound := by
          simp only [Int.ofNat_eq_natCast] at hlow
          omega
        exact ⟨_, someDigits_eq_ok_iff.mpr ⟨hdigits, rfl, hle⟩, rfl⟩
  · have hnot : ∀ digits, text.toList ≠ '-' :: digits := fun digits h => hminus ⟨digits, h⟩
    rw [parseSigned_of_not_minus hnot, map_eq_ok_iff]
    constructor
    · rintro ⟨n, hread, rfl⟩
      obtain ⟨hnumeral, hle⟩ := parseUnsigned_eq_ok_iff.mp hread
      refine ⟨.unsigned n hnumeral, ?_, ?_⟩ <;> simp only [Int.ofNat_eq_natCast] <;> omega
    · rintro ⟨hnumeral, -, hhigh⟩
      cases hnumeral with
      | unsigned n hnumeral =>
        exact ⟨n, parseUnsigned_eq_ok_iff.mpr ⟨hnumeral, by omega⟩, rfl⟩
      | minus digits hminus' _ => exact absurd hminus' (hnot digits)

end Decimal

end TelemetryRelay
