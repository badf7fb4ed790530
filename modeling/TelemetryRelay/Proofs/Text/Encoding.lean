import Mathlib.Data.String.Basic
import Mathlib.Tactic.IntervalCases
import TelemetryRelay.Text.Utf8

/-! # Texts and their octets

    `Utf8.decode` takes octets one at a time, and `Bytes.ofText` goes character by
    character. This module relates the two to one table of how characters are encoded:

    - octets are read as a text exactly if they are the octets of this text,
    - octets between two texts are read as they are by themselves,
    - texts are ordered as their octets are.
-/

namespace TelemetryRelay

/-- The octets of a text are those of its characters. -/
theorem Bytes.ofText_eq_flatMap (text : String) :
    Bytes.ofText text = text.toList.flatMap String.utf8EncodeChar := by
  unfold Bytes.ofText String.toUTF8
  rw [← String.utf8Encode_toList]
  exact List.toList_data_toByteArray

theorem Bytes.ofText_append (front back : String) :
    Bytes.ofText (front ++ back) = Bytes.ofText front ++ Bytes.ofText back := by
  rw [ofText_eq_flatMap, ofText_eq_flatMap, ofText_eq_flatMap, String.toList_append,
    List.flatMap_append]

namespace Utf8

/-! ## Section 1: The table of encodings -/

/-- **Encoding**: the octets of a code point, which is not one of the surrogates. -/
inductive Encodes : Nat → Bytes → Prop
  | one (n : Nat) : n < 0x80 → Encodes n [.ofNat n]
  | two (n : Nat) : 0x80 ≤ n → n < 0x800 →
      Encodes n [.ofNat (192 + n / 64), .ofNat (128 + n % 64)]
  | three (n : Nat) : 0x800 ≤ n → n < 0x10000 → n < 0xD800 ∨ 0xDFFF < n →
      Encodes n [.ofNat (224 + n / 4096), .ofNat (128 + n / 64 % 64), .ofNat (128 + n % 64)]
  | four (n : Nat) : 0x10000 ≤ n → n < 0x110000 →
      Encodes n [.ofNat (240 + n / 262144), .ofNat (128 + n / 4096 % 64),
        .ofNat (128 + n / 64 % 64), .ofNat (128 + n % 64)]

theorem toNat_ofNat {n : Nat} (h : n < 256) : (UInt8.ofNat n).toNat = n := by
  rw [UInt8.toNat_ofNat']
  exact Nat.mod_eq_of_lt h

/-- The table says how characters are encoded. -/
theorem encodes_utf8EncodeChar (c : Char) : Encodes c.toNat (String.utf8EncodeChar c) := by
  have hvalid : c.toNat < 0xD800 ∨ 0xDFFF < c.toNat ∧ c.toNat < 0x110000 := c.valid
  have hunfold : String.utf8EncodeChar c = (let n := c.toNat
    if n ≤ 127 then [.ofNat n]
    else if n ≤ 2047 then [.ofNat (n / 64 % 32 + 192), .ofNat (n % 64 + 128)]
    else if n ≤ 65535 then
      [.ofNat (n / 4096 % 16 + 224), .ofNat (n / 64 % 64 + 128), .ofNat (n % 64 + 128)]
    else [.ofNat (n / 262144 % 8 + 240), .ofNat (n / 4096 % 64 + 128),
      .ofNat (n / 64 % 64 + 128), .ofNat (n % 64 + 128)]) := rfl
  rw [hunfold]
  generalize c.toNat = n at hvalid ⊢
  simp only
  -- what is masked in the first octet is within the mask already
  split
  · exact .one n (by omega)
  split
  · rw [show n / 64 % 32 + 192 = 192 + n / 64 by omega, Nat.add_comm (n % 64)]
    exact .two n (by omega) (by omega)
  split
  · rw [show n / 4096 % 16 + 224 = 224 + n / 4096 by omega, Nat.add_comm (n / 64 % 64),
      Nat.add_comm (n % 64)]
    exact .three n (by omega) (by omega) (by omega)
  · rw [show n / 262144 % 8 + 240 = 240 + n / 262144 by omega, Nat.add_comm (n / 4096 % 64),
      Nat.add_comm (n / 64 % 64), Nat.add_comm (n % 64)]
    exact .four n (by omega) (by omega)

/-- A code point has one encoding. -/
theorem Encodes.unique {n : Nat} {octets octets' : Bytes} (h : Encodes n octets)
    (h' : Encodes n octets') : octets = octets' := by
  cases h <;> cases h' <;> first | rfl | omega

/-- What is encoded is a character. -/
theorem Encodes.toNat_ofNat {n : Nat} {octets : Bytes} (h : Encodes n octets) :
    (Char.ofNat n).toNat = n := by
  have hvalid : n.isValidChar := by
    cases h with
    | one hn => exact .inl (by omega)
    | two _ hn => exact .inl (by omega)
    | three _ hn hno => exact hno.imp id fun hgt => ⟨hgt, by omega⟩
    | four hge hn => exact .inr ⟨by omega, hn⟩
  rw [Char.ofNat, dif_pos hvalid]
  rfl

/-- The octets of a character are what its code point is encoded as. -/
theorem Encodes.utf8EncodeChar_eq {n : Nat} {octets : Bytes} (h : Encodes n octets) :
    String.utf8EncodeChar (Char.ofNat n) = octets := by
  have hchar := encodes_utf8EncodeChar (Char.ofNat n)
  rw [h.toNat_ofNat] at hchar
  exact hchar.unique h

/-- A character that is ASCII is one octet, its code. -/
theorem utf8EncodeChar_of_lt {c : Char} (h : c.toNat < 128) :
    String.utf8EncodeChar c = [UInt8.ofNat c.toNat] :=
  (encodes_utf8EncodeChar c).unique (.one _ h)

/-- Any other is made of octets that are none. -/
theorem le_of_mem_utf8EncodeChar {c : Char} (h : 128 ≤ c.toNat) {b : UInt8}
    (hmem : b ∈ String.utf8EncodeChar c) : 128 ≤ b.toNat := by
  have hall : ∀ {n : Nat} {octets : Bytes}, Encodes n octets → 128 ≤ n →
      ∀ b ∈ octets, 128 ≤ b.toNat := by
    intro n octets hencodes hge b hb
    cases hencodes with
    | one hn => omega
    | two _ hn =>
      simp only [List.mem_cons, List.not_mem_nil, or_false] at hb
      rcases hb with rfl | rfl <;> (rw [toNat_ofNat (by omega)]; omega)
    | three _ hn _ =>
      simp only [List.mem_cons, List.not_mem_nil, or_false] at hb
      rcases hb with rfl | rfl | rfl <;> (rw [toNat_ofNat (by omega)]; omega)
    | four _ hn =>
      simp only [List.mem_cons, List.not_mem_nil, or_false] at hb
      rcases hb with rfl | rfl | rfl | rfl <;> (rw [toNat_ofNat (by omega)]; omega)
  exact hall (encodes_utf8EncodeChar c) h b hmem

/-! ## Section 2: Order -/

theorem ofNat_cons_lt {m n : Nat} (hm : m < 256) (hn : n < 256) {rest more : Bytes} :
    UInt8.ofNat m :: rest < UInt8.ofNat n :: more ↔ m < n ∨ m = n ∧ rest < more := by
  rw [List.cons_lt_cons_iff, UInt8.lt_iff_toNat_lt, ← UInt8.toNat_inj, toNat_ofNat hm,
    toNat_ofNat hn]

/-- The encoding of a smaller code point is smaller, whatever follows it. -/
theorem Encodes.lt_append {m n : Nat} {octets octets' : Bytes} (h : Encodes m octets)
    (h' : Encodes n octets') (hlt : m < n) (rest more : Bytes) :
    octets ++ rest < octets' ++ more := by
  -- the first octets differ unless both encodings are of the same length
  cases h <;> cases h' <;> try omega
  all_goals
    simp (disch := omega) only [List.cons_append, List.nil_append, ofNat_cons_lt]
    omega

/-- **Order**: the octets of texts are in the order of the texts. -/
theorem ofText_lt_ofText {s t : String} (h : s < t) : Bytes.ofText s < Bytes.ofText t := by
  have hchars : ∀ {front back : List Char}, List.Lex (· < ·) front back →
      front.flatMap String.utf8EncodeChar < back.flatMap String.utf8EncodeChar := by
    intro front back hlt
    induction hlt with
    | @nil c back =>
      have hpos := c.utf8Size_pos
      rw [List.flatMap_nil, List.flatMap_cons]
      cases hc : String.utf8EncodeChar c with
      | nil =>
        rw [← String.length_utf8EncodeChar, hc] at hpos
        exact absurd hpos (Nat.lt_irrefl 0)
      | cons b rest => exact .nil
    | @rel c front d back hcd =>
      rw [List.flatMap_cons, List.flatMap_cons]
      exact (encodes_utf8EncodeChar c).lt_append (encodes_utf8EncodeChar d)
        (UInt32.lt_iff_toNat_lt.mp hcd) _ _
    | @cons c front back _ ih =>
      rw [List.flatMap_cons, List.flatMap_cons]
      exact List.append_left_lt ih
  rw [Bytes.ofText_eq_flatMap, Bytes.ofText_eq_flatMap]
  exact hchars (String.lt_iff_toList_lt.mp h)

/-! ## Section 3: Reading -/

/-- **Completion**: the octets a sequence under way waits for, with the code point they
    make. -/
inductive Completes : Pending → Bytes → Nat → Prop
  | last (p : Pending) (b : UInt8) : p.due ≤ 1 → p.low ≤ b → b ≤ p.high →
      Completes p [b] (p.bits * 64 + b.toNat % 64)
  | more (p : Pending) (b : UInt8) (rest : Bytes) (n : Nat) : 1 < p.due → p.low ≤ b →
      b ≤ p.high → Completes ⟨p.bits * 64 + b.toNat % 64, p.due - 1, 128, 191⟩ rest n →
      Completes p (b :: rest) n

/-- What completes a sequence makes a character. -/
theorem Completes.piecesFrom {p : Pending} {tail : Bytes} {n : Nat} (h : Completes p tail n)
    (rest : Bytes) (acc : List (Option Char)) :
    piecesFrom (tail ++ rest) (some p) acc = piecesFrom rest none (some (Char.ofNat n) :: acc) := by
  induction h with
  | last p b hdue hlow hhigh =>
    simp [Utf8.piecesFrom, hlow, hhigh, hdue]
  | more p b tail n hdue hlow hhigh _ ih =>
    have hnot : ¬ p.due ≤ 1 := Nat.not_le.mpr hdue
    simp [Utf8.piecesFrom, hlow, hhigh, hnot, ih]

/-- Pieces that have been found stay. -/
theorem mem_piecesFrom {piece : Option Char} : ∀ {octets : Bytes} {pending : Option Pending}
    {acc : List (Option Char)}, piece ∈ acc → piece ∈ piecesFrom octets pending acc
  | [], none, acc, h => List.mem_reverse.mpr h
  | [], some _, acc, h => List.mem_reverse.mpr (List.mem_cons_of_mem _ h)
  | b :: rest, none, acc, h => by
    rw [piecesFrom]
    split
    · exact mem_piecesFrom (List.mem_cons_of_mem _ h)
    · exact mem_piecesFrom h
    · exact mem_piecesFrom (List.mem_cons_of_mem _ h)
  | b :: rest, some p, acc, h => by
    rw [piecesFrom]
    split
    · simp only
      split
      · exact mem_piecesFrom (List.mem_cons_of_mem _ h)
      · exact mem_piecesFrom h
    · split
      · exact mem_piecesFrom (List.mem_cons_of_mem _ (List.mem_cons_of_mem _ h))
      · exact mem_piecesFrom (List.mem_cons_of_mem _ h)
      · exact mem_piecesFrom (List.mem_cons_of_mem _ (List.mem_cons_of_mem _ h))

/-- Without a malformed stretch, a sequence under way is completed. -/
theorem exists_completes : ∀ {octets : Bytes} {p : Pending} {acc : List (Option Char)},
    none ∉ piecesFrom octets (some p) acc →
    ∃ tail rest n, octets = tail ++ rest ∧ Completes p tail n
  | [], p, acc, h => by
    exact absurd (by simp [piecesFrom]) h
  | b :: rest, p, acc, h => by
    rw [piecesFrom] at h
    by_cases hin : p.low ≤ b ∧ b ≤ p.high
    · simp only [hin, decide_true, Bool.and_self, if_true] at h
      split at h
      · next hdue => exact ⟨[b], rest, _, rfl, .last p b hdue hin.1 hin.2⟩
      · next hdue =>
        obtain ⟨tail, more, n, rfl, htail⟩ := exists_completes h
        exact ⟨b :: tail, more, n, rfl, .more p b tail n (Nat.lt_of_not_le hdue) hin.1 hin.2 htail⟩
    · have hcond : (decide (p.low ≤ b) && decide (b ≤ p.high)) = false := by simpa using hin
      simp only [hcond, Bool.false_eq_true, if_false] at h
      split at h
      · exact absurd (mem_piecesFrom (by simp)) h
      · exact absurd (mem_piecesFrom (by simp)) h
      · exact absurd (mem_piecesFrom (by simp)) h

/-- The role of an octet, by its number. -/
theorem opening_ofNat {m : Nat} (hm : m < 256) : opening (.ofNat m) =
    if m < 128 then .whole (Char.ofNat m)
    else if 194 ≤ m ∧ m ≤ 223 then .begins ⟨m % 32, 1, 128, 191⟩
    else if m = 224 then .begins ⟨0, 2, 160, 191⟩
    else if m = 237 then .begins ⟨13, 2, 128, 159⟩
    else if 225 ≤ m ∧ m ≤ 239 then .begins ⟨m % 16, 2, 128, 191⟩
    else if m = 240 then .begins ⟨0, 3, 144, 191⟩
    else if 241 ≤ m ∧ m ≤ 243 then .begins ⟨m % 8, 3, 128, 191⟩
    else if m = 244 then .begins ⟨4, 3, 128, 143⟩
    else .malformed := by
  simp [opening, UInt8.lt_iff_toNat_lt, UInt8.le_iff_toNat_le, ← UInt8.toNat_inj,
    toNat_ofNat hm]

theorem opening_whole {m : Nat} (h : m < 128) : opening (.ofNat m) = .whole (Char.ofNat m) := by
  rw [opening_ofNat (by omega), if_pos h]

theorem opening_two {m : Nat} (h : 194 ≤ m ∧ m ≤ 223) :
    opening (.ofNat m) = .begins ⟨m % 32, 1, 128, 191⟩ := by
  rw [opening_ofNat (by omega), if_neg (by omega), if_pos h]

/-- The range of the second of three octets leaves out overlong forms and surrogates. -/
theorem opening_three {bits : Nat} (h : bits < 16) : opening (.ofNat (224 + bits)) =
    .begins ⟨bits, 2, if bits = 0 then 160 else 128, if bits = 13 then 159 else 191⟩ := by
  interval_cases bits <;> rfl

/-- The range of the second of four octets leaves out overlong forms and what lies past the
    last code point. -/
theorem opening_four {bits : Nat} (h : bits < 5) : opening (.ofNat (240 + bits)) =
    .begins ⟨bits, 3, if bits = 0 then 144 else 128, if bits = 4 then 143 else 191⟩ := by
  interval_cases bits <;> rfl

theorem opening_malformed {m : Nat} (h : 128 ≤ m ∧ m < 194 ∨ 245 ≤ m ∧ m < 256) :
    opening (.ofNat m) = .malformed := by
  rw [opening_ofNat (by omega), if_neg (by omega), if_neg (by omega), if_neg (by omega),
    if_neg (by omega), if_neg (by omega), if_neg (by omega), if_neg (by omega), if_neg (by omega)]

/-- An octet is a character, begins one of several octets, or is malformed. -/
theorem octet_cases {m : Nat} (hm : m < 256) :
    m < 128 ∨ (194 ≤ m ∧ m ≤ 223) ∨ (∃ bits < 16, m = 224 + bits) ∨ (∃ bits < 5, m = 240 + bits) ∨
      (128 ≤ m ∧ m < 194 ∨ 245 ≤ m ∧ m < 256) := by
  by_cases hthree : 224 ≤ m ∧ m ≤ 239
  · exact .inr (.inr (.inl ⟨m - 224, by omega, by omega⟩))
  by_cases hfour : 240 ≤ m ∧ m ≤ 244
  · exact .inr (.inr (.inr (.inl ⟨m - 240, by omega, by omega⟩)))
  omega

/-- An octet that is a character by itself encodes it. -/
theorem utf8EncodeChar_of_whole {m : Nat} {c : Char} (hm : m < 256)
    (h : opening (.ofNat m) = .whole c) : String.utf8EncodeChar c = [.ofNat m] := by
  rcases octet_cases hm with hone | htwo | ⟨bits, hbits, rfl⟩ | ⟨bits, hbits, rfl⟩ | hno
  · rw [opening_whole hone] at h
    cases h
    exact (Encodes.one m hone).utf8EncodeChar_eq
  · rw [opening_two htwo] at h
    cases h
  · rw [opening_three hbits] at h
    cases h
  · rw [opening_four hbits] at h
    cases h
  · rw [opening_malformed hno] at h
    cases h

/-- A sequence of which one octet is due is completed by an octet in its range. -/
theorem completes_last_iff {bits : Nat} {low high : UInt8} {tail : Bytes} {n : Nat} :
    Completes ⟨bits, 1, low, high⟩ tail n ↔ ∃ m, (low.toNat ≤ m ∧ m ≤ high.toNat) ∧
      tail = [.ofNat m] ∧ n = bits * 64 + m % 64 := by
  constructor
  · intro h
    cases h with
    | last _ b _ hlow hhigh =>
      exact ⟨b.toNat, ⟨UInt8.le_iff_toNat_le.mp hlow, UInt8.le_iff_toNat_le.mp hhigh⟩,
        by rw [UInt8.ofNat_toNat], rfl⟩
    | more _ _ _ _ hdue => exact absurd hdue (Nat.lt_irrefl 1)
  · rintro ⟨m, ⟨hlow, hhigh⟩, rfl, rfl⟩
    have hm : (UInt8.ofNat m).toNat = m :=
      toNat_ofNat (Nat.lt_of_le_of_lt hhigh high.toNat_lt)
    have h := Completes.last ⟨bits, 1, low, high⟩ (.ofNat m) (Nat.le_refl 1)
      (UInt8.le_iff_toNat_le.mpr (by rwa [hm])) (UInt8.le_iff_toNat_le.mpr (by rwa [hm]))
    rwa [hm] at h

/-- A sequence of which more octets are due goes on with an octet in its range. -/
theorem completes_more_iff {bits due : Nat} {low high : UInt8} {tail : Bytes} {n : Nat} :
    Completes ⟨bits, due + 2, low, high⟩ tail n ↔ ∃ m rest,
      (low.toNat ≤ m ∧ m ≤ high.toNat) ∧ tail = .ofNat m :: rest ∧
      Completes ⟨bits * 64 + m % 64, due + 1, 128, 191⟩ rest n := by
  constructor
  · intro h
    cases h with
    | last _ _ hdue => exact absurd hdue (by simp)
    | more _ b rest _ _ hlow hhigh hrest =>
      exact ⟨b.toNat, rest, ⟨UInt8.le_iff_toNat_le.mp hlow, UInt8.le_iff_toNat_le.mp hhigh⟩,
        by rw [UInt8.ofNat_toNat], hrest⟩
  · rintro ⟨m, rest, ⟨hlow, hhigh⟩, rfl, hrest⟩
    have hm : (UInt8.ofNat m).toNat = m :=
      toNat_ofNat (Nat.lt_of_le_of_lt hhigh high.toNat_lt)
    refine .more _ _ _ _ (by simp) (UInt8.le_iff_toNat_le.mpr (by rwa [hm]))
      (UInt8.le_iff_toNat_le.mpr (by rwa [hm])) ?_
    rw [hm]
    exact hrest

section Sequences

variable {m n bits : Nat} {tail : Bytes}

/-- Two octets encode a character. -/
theorem encodes_of_due_one (hm : 194 ≤ m ∧ m ≤ 223)
    (h : Completes ⟨m % 32, 1, 128, 191⟩ tail n) : Encodes n (.ofNat m :: tail) := by
  obtain ⟨j, hj, rfl, rfl⟩ := completes_last_iff.mp h
  simp only [UInt8.reduceToNat] at hj
  have hencodes := Encodes.two (m % 32 * 64 + j % 64) (by omega) (by omega)
  rwa [show 192 + (m % 32 * 64 + j % 64) / 64 = m by omega,
    show 128 + (m % 32 * 64 + j % 64) % 64 = j by omega] at hencodes

/-- Three octets encode a character. -/
theorem encodes_of_due_two (hbits : bits < 16) (h : Completes
      ⟨bits, 2, if bits = 0 then 160 else 128, if bits = 13 then 159 else 191⟩ tail n) :
    Encodes n (.ofNat (224 + bits) :: tail) := by
  obtain ⟨j, rest, hj, rfl, hrest⟩ := completes_more_iff.mp h
  obtain ⟨k, hk, rfl, hn⟩ := completes_last_iff.mp hrest
  simp only [UInt8.reduceToNat] at hk
  have hrange : 128 ≤ j ∧ j ≤ 191 ∧ (bits = 0 → 160 ≤ j) ∧ (bits = 13 → j ≤ 159) := by
    split_ifs at hj <;> simp only [UInt8.reduceToNat] at hj <;> omega
  have hencodes := Encodes.three n (by omega) (by omega) (by omega)
  rwa [show n / 4096 = bits by omega, show 128 + n / 64 % 64 = j by omega,
    show 128 + n % 64 = k by omega] at hencodes

/-- Four octets encode a character. -/
theorem encodes_of_due_three (hbits : bits < 5) (h : Completes
      ⟨bits, 3, if bits = 0 then 144 else 128, if bits = 4 then 143 else 191⟩ tail n) :
    Encodes n (.ofNat (240 + bits) :: tail) := by
  obtain ⟨j, rest, hj, rfl, hrest⟩ := completes_more_iff.mp h
  obtain ⟨k, more, hk, rfl, hmore⟩ := completes_more_iff.mp hrest
  obtain ⟨l, hl, rfl, hn⟩ := completes_last_iff.mp hmore
  simp only [UInt8.reduceToNat] at hk hl
  have hrange : 128 ≤ j ∧ j ≤ 191 ∧ (bits = 0 → 144 ≤ j) ∧ (bits = 4 → j ≤ 143) := by
    split_ifs at hj <;> simp only [UInt8.reduceToNat] at hj <;> omega
  have hencodes := Encodes.four n (by omega) (by omega)
  rwa [show n / 262144 = bits by omega, show 128 + n / 4096 % 64 = j by omega,
    show 128 + n / 64 % 64 = k by omega, show 128 + n % 64 = l by omega] at hencodes

end Sequences

/-- An octet that begins a sequence encodes a character with what completes it. -/
theorem encodes_of_begins {m : Nat} {p : Pending} {tail : Bytes} {n : Nat} (hm : m < 256)
    (h : opening (.ofNat m) = .begins p) (htail : Completes p tail n) :
    Encodes n (.ofNat m :: tail) := by
  rcases octet_cases hm with hone | htwo | ⟨bits, hbits, rfl⟩ | ⟨bits, hbits, rfl⟩ | hno
  · rw [opening_whole hone] at h
    cases h
  · rw [opening_two htwo] at h
    cases h
    exact encodes_of_due_one htwo htail
  · rw [opening_three hbits] at h
    cases h
    exact encodes_of_due_two hbits htail
  · rw [opening_four hbits] at h
    cases h
    exact encodes_of_due_three hbits htail
  · rw [opening_malformed hno] at h
    cases h

/-- The last octet of a sequence lies in the range of continuation octets. -/
theorem completes_last {bits n : Nat} (h : n / 64 = bits) :
    Completes ⟨bits, 1, 128, 191⟩ [.ofNat (128 + n % 64)] n := by
  refine completes_last_iff.mpr ⟨_, ?_, rfl, by omega⟩
  simp only [UInt8.reduceToNat]
  omega

/-- The encoding of a character that is not ASCII begins a sequence, and completes it. -/
theorem Encodes.exists_begins {n : Nat} {octets : Bytes} (h : Encodes n octets)
    (hn : 128 ≤ n) : ∃ m p tail, m < 256 ∧ octets = .ofNat m :: tail ∧
      opening (.ofNat m) = .begins p ∧ Completes p tail n := by
  cases h with
  | one hlt => omega
  | two hge hlt =>
    exact ⟨_, _, _, by omega, rfl, opening_two (by omega), completes_last (by omega)⟩
  | three hge hlt hno =>
    refine ⟨_, _, _, by omega, rfl, opening_three (by omega), completes_more_iff.mpr
      ⟨_, _, ?_, rfl, completes_last (by omega)⟩⟩
    constructor <;> split_ifs <;> simp only [UInt8.reduceToNat] <;> omega
  | four hge hlt =>
    refine ⟨_, _, _, by omega, rfl, opening_four (by omega), completes_more_iff.mpr
      ⟨_, _, ?_, rfl, completes_more_iff.mpr ⟨_, _, ?_, rfl, completes_last (by omega)⟩⟩⟩
    · constructor <;> split_ifs <;> simp only [UInt8.reduceToNat] <;> omega
    · simp only [UInt8.reduceToNat]
      omega

/-! ## Section 4: Strict reading -/

/-- The octets of a character are read as this character. -/
theorem piecesFrom_utf8EncodeChar (c : Char) (rest : Bytes) (acc : List (Option Char)) :
    piecesFrom (String.utf8EncodeChar c ++ rest) none acc
      = piecesFrom rest none (some c :: acc) := by
  by_cases hascii : c.toNat < 128
  · rw [utf8EncodeChar_of_lt hascii, List.singleton_append, piecesFrom, opening_whole hascii]
    simp only [Char.ofNat_toNat]
  · obtain ⟨m, p, tail, hm, hoctets, hopening, htail⟩ :=
      (encodes_utf8EncodeChar c).exists_begins (Nat.not_lt.mp hascii)
    rw [hoctets, List.cons_append, piecesFrom, hopening]
    simp only
    rw [htail.piecesFrom, Char.ofNat_toNat]

/-- Pieces of which one is malformed are not whole. -/
theorem none_notMem_of_wholeFrom {chars : List Char} : ∀ {pieces : List (Option Char)}
    {acc : List Char}, wholeFrom pieces acc = some chars → none ∉ pieces
  | [], _, _ => List.not_mem_nil
  | some c :: rest, acc, h => by
    rw [wholeFrom] at h
    simpa using none_notMem_of_wholeFrom h

theorem wholeFrom_map_some : ∀ chars acc : List Char,
    wholeFrom (chars.map some) acc = some (acc.reverse ++ chars)
  | [], acc => congrArg some (List.append_nil _).symm
  | c :: rest, acc => by
    rw [List.map_cons, wholeFrom, wholeFrom_map_some rest]
    simp

/-- The octets of characters are read as these characters, whatever follows them. -/
theorem piecesFrom_flatMap (rest : Bytes) : ∀ (chars : List Char) (acc : List (Option Char)),
    piecesFrom (chars.flatMap String.utf8EncodeChar ++ rest) none acc =
      piecesFrom rest none ((chars.map some).reverse ++ acc)
  | [], _ => rfl
  | c :: chars, acc => by
    rw [List.flatMap_cons, List.append_assoc, piecesFrom_utf8EncodeChar,
      piecesFrom_flatMap rest chars, List.map_cons, List.reverse_cons, List.append_assoc]
    rfl

/-- What is read without a malformed stretch are octets of characters. -/
theorem exists_chars (octets : Bytes) : ∀ acc : List (Option Char),
    none ∉ piecesFrom octets none acc →
    ∃ chars : List Char, octets = chars.flatMap String.utf8EncodeChar := by
  -- the induction is on the number of octets, since a sequence takes several of them
  induction hlen : octets.length using Nat.strong_induction_on generalizing octets with
  | _ k ih =>
    intro acc h
    cases octets with
    | nil => exact ⟨[], rfl⟩
    | cons b rest =>
      have hlt : b.toNat < 256 := b.toNat_lt
      rw [piecesFrom] at h
      rw [← UInt8.ofNat_toNat (x := b)] at h ⊢
      split at h
      · next c hopening =>
        obtain ⟨chars, rfl⟩ := ih rest.length (by simp only [← hlen, List.length_cons]; omega) rest
          rfl _ h
        refine ⟨c :: chars, ?_⟩
        rw [List.flatMap_cons, utf8EncodeChar_of_whole hlt hopening]
        rfl
      · next p hopening =>
        obtain ⟨tail, more, n, rfl, htail⟩ := exists_completes h
        rw [htail.piecesFrom] at h
        obtain ⟨chars, rfl⟩ := ih more.length
          (by simp only [← hlen, List.length_cons, List.length_append]; omega) more rfl _ h
        refine ⟨Char.ofNat n :: chars, ?_⟩
        rw [List.flatMap_cons, (encodes_of_begins hlt hopening htail).utf8EncodeChar_eq]
        rfl
      · exact absurd (mem_piecesFrom List.mem_cons_self) h

/-- **Reading**: octets are read as a text exactly if they are the octets of this text. -/
theorem decode_eq_some_iff {octets : Bytes} {text : String} :
    decode octets = some text ↔ octets = Bytes.ofText text := by
  have hread (text : String) : decode (Bytes.ofText text) = some text := by
    unfold decode pieces
    rw [Bytes.ofText_eq_flatMap, ← List.append_nil (text.toList.flatMap _), piecesFrom_flatMap,
      List.append_nil, piecesFrom, List.reverse_reverse, wholeFrom_map_some]
    simp
  constructor
  · intro h
    obtain ⟨found, hfound, -⟩ := Option.map_eq_some_iff.mp h
    have hwhole : none ∉ piecesFrom octets none [] := none_notMem_of_wholeFrom hfound
    obtain ⟨chars, rfl⟩ := exists_chars octets [] hwhole
    have hchars : Bytes.ofText (String.ofList chars) = chars.flatMap String.utf8EncodeChar := by
      rw [Bytes.ofText_eq_flatMap, String.toList_ofList]
    rw [← hchars, hread] at h
    rw [← hchars, Option.some.inj h]
  · rintro rfl
    exact hread text

/-! ## Section 5: Parts of texts -/

/-- A text ends, or a character of it begins, where the octets of another text do. -/
theorem isValid_of_append {octets : Bytes} {back text : String}
    (h : octets ++ Bytes.ofText back = Bytes.ofText text) :
    String.Pos.Raw.IsValid text ⟨octets.length⟩ := by
  rw [String.Pos.Raw.isValid_iff_isUTF8FirstByte]
  cases hback : back.toList with
  | nil =>
    left
    rw [Bytes.ofText_eq_flatMap back, hback, List.flatMap_nil, List.append_nil] at h
    exact String.Pos.Raw.ext (congrArg List.length h)
  | cons c rest =>
    right
    have hpos : 0 < (String.utf8EncodeChar c).length := by
      rw [String.length_utf8EncodeChar]
      exact c.utf8Size_pos
    have hbyte : (Bytes.ofText text)[octets.length]? = some (String.utf8EncodeChar c)[0] := by
      rw [← h, List.getElem?_append_right (Nat.le_refl _), Nat.sub_self,
        Bytes.ofText_eq_flatMap, hback, List.flatMap_cons, List.getElem?_append_left hpos,
        List.getElem?_eq_getElem hpos]
    obtain ⟨hlt, heq⟩ := List.getElem?_eq_some_iff.mp hbyte
    have hfirst : (Bytes.ofText text)[octets.length].IsUTF8FirstByte := by
      rw [heq]
      exact UInt8.isUTF8FirstByte_getElem_zero_utf8EncodeChar
    exact ⟨hlt, hfirst⟩

/-- What comes before the octets of a text, within those of another, is a text. -/
theorem exists_front {octets : Bytes} {back text : String}
    (h : octets ++ Bytes.ofText back = Bytes.ofText text) :
    ∃ front, octets = Bytes.ofText front := by
  obtain ⟨front, rest, rfl, hsize⟩ :=
    String.Pos.Raw.isValid_iff_exists_append.mp (isValid_of_append h)
  rw [Bytes.ofText_append] at h
  have hlength : octets.length = (Bytes.ofText front).length :=
    congrArg String.Pos.Raw.byteIdx hsize
  exact ⟨front, (List.append_inj h hlength).1⟩

/-- What comes after the octets of a text, within those of another, is a text. -/
theorem exists_back {front text : String} {octets : Bytes}
    (h : Bytes.ofText front ++ octets = Bytes.ofText text) :
    ∃ back, octets = Bytes.ofText back := by
  obtain ⟨found, hfound, -⟩ := Option.map_eq_some_iff.mp (decode_eq_some_iff.mpr h)
  have hwhole := none_notMem_of_wholeFrom hfound
  rw [pieces, Bytes.ofText_eq_flatMap, piecesFrom_flatMap] at hwhole
  obtain ⟨chars, rfl⟩ := exists_chars octets _ hwhole
  exact ⟨String.ofList chars, by rw [Bytes.ofText_eq_flatMap, String.toList_ofList]⟩

/-- **Surroundings**: octets between two texts are read as they are by themselves. -/
theorem decode_append (front back : String) (octets : Bytes) :
    decode (Bytes.ofText front ++ octets ++ Bytes.ofText back) =
      (decode octets).map fun text => front ++ text ++ back := by
  cases hoctets : decode octets with
  | some text =>
    rw [decode_eq_some_iff.mp hoctets, ← Bytes.ofText_append, ← Bytes.ofText_append]
    exact decode_eq_some_iff.mpr rfl
  | none =>
    cases hwhole : decode (Bytes.ofText front ++ octets ++ Bytes.ofText back) with
    | none => rfl
    | some whole =>
      -- both texts can be taken away from one that is read as a whole
      obtain ⟨start, hstart⟩ := exists_front (decode_eq_some_iff.mp hwhole)
      obtain ⟨middle, rfl⟩ := exists_back hstart
      rw [decode_eq_some_iff.mpr rfl] at hoctets
      cases hoctets

end Utf8

end TelemetryRelay
