import Mathlib.Tactic.SplitIfs
import TelemetryRelay.Proofs.Json.Grammar
import TelemetryRelay.Proofs.Text.Encoding

/-! # Reading numbers

    A number goes on for as long as octets can belong to it, so that what follows it
    matters: where it is `Delimited`, a number is read to its end. This module says:

    - `skipNumber` passes over whatever is a number, and over nothing else,
    - `number` accepts nothing that `skipNumber` does not accept,
    - the decimal text of an integer of 64 bits is read as this integer.
-/

namespace TelemetryRelay

namespace Json

/-! ## Section 1: Digits -/

theorem dropDigits_append {digits rest : Bytes} (h : ∀ b ∈ digits, Bytes.isDigit b = true)
    (hrest : digitAhead rest = false) :
    ∀ count, dropDigits count (digits ++ rest) = (count + digits.length, rest) := by
  induction digits with
  | nil =>
    intro count
    cases rest with
    | nil => rfl
    | cons b rest =>
      rw [digitAhead] at hrest
      rw [List.nil_append, dropDigits, if_neg (by simp [hrest])]
      rfl
  | cons b digits ih =>
    intro count
    rw [List.cons_append, dropDigits, if_pos (h b List.mem_cons_self),
      ih (fun c hmem => h c (List.mem_cons_of_mem _ hmem)), List.length_cons]
    congr 1
    omega

/-- What is dropped are digits. -/
theorem exists_digits (octets : Bytes) : ∀ count, ∃ digits,
    (∀ b ∈ digits, Bytes.isDigit b = true) ∧ octets = digits ++ (dropDigits count octets).2 := by
  induction octets with
  | nil => exact fun _ => ⟨[], fun _ h => absurd h List.not_mem_nil, rfl⟩
  | cons b octets ih =>
    intro count
    rw [dropDigits]
    split_ifs with hb
    · obtain ⟨digits, hdigits, hoctets⟩ := ih (count + 1)
      exact ⟨b :: digits, List.forall_mem_cons.mpr ⟨hb, hdigits⟩, congrArg (b :: ·) hoctets⟩
    · exact ⟨[], fun _ h => absurd h List.not_mem_nil, rfl⟩

/-- What follows the digits does not depend on how many came before. -/
theorem dropDigits_snd (octets : Bytes) :
    ∀ count count', (dropDigits count octets).2 = (dropDigits count' octets).2 := by
  induction octets with
  | nil => exact fun _ _ => rfl
  | cons b octets ih =>
    intro count count'
    rw [dropDigits, dropDigits]
    split_ifs with hb
    · exact ih _ _
    · rfl

/-- Digits are dropped after those that fit as if none had been read. -/
theorem dropDigits_digitsBelow (limit : Nat) (octets : Bytes) : ∀ n count,
    (dropDigits 0 (digitsBelow limit n count octets).2.2).2 = (dropDigits 0 octets).2 := by
  induction octets with
  | nil => exact fun _ _ => rfl
  | cons b octets ih =>
    intro n count
    rw [digitsBelow]
    split_ifs with hb
    · rw [ih, dropDigits, if_pos (Bool.and_eq_true _ _ ▸ hb).1]
      exact dropDigits_snd octets _ _
    · rfl

/-- Where no digit follows, there is nothing to drop. -/
theorem dropDigits_of_digitAhead {octets : Bytes} (h : digitAhead octets = false) :
    dropDigits 0 octets = (0, octets) := by
  have hnone : ∀ b ∈ ([] : Bytes), Bytes.isDigit b = true := fun _ h => absurd h List.not_mem_nil
  exact dropDigits_append hnone h 0

/-! ## Section 2: What may follow a number -/

section Delimited

variable {rest : Bytes}

/-- What may follow a number is none of the octets in it. -/
theorem Delimited.ahead (h : Delimited rest) : digitAhead rest = false ∧
    pointAhead rest = false ∧ exponentAhead rest = false := by
  cases rest with
  | nil => exact ⟨rfl, rfl, rfl⟩
  | cons b rest =>
    have hb := h b rest rfl
    simp only [isSpace, Bool.or_eq_true, beq_iff_eq] at hb
    rcases hb with (((rfl | rfl) | rfl) | rfl) | rfl | rfl | rfl <;> exact ⟨rfl, rfl, rfl⟩

/-- Only its letter begins an exponent. -/
theorem IsExponent.ahead {exponent : Bytes} (h : IsExponent exponent) (hrest : Delimited rest) :
    digitAhead (exponent ++ rest) = false ∧ pointAhead (exponent ++ rest) = false := by
  cases h with
  | none => exact ⟨hrest.ahead.1, hrest.ahead.2.1⟩
  | some letter sign digits hletter hsign hdigits =>
    rcases hletter with rfl | rfl <;> exact ⟨rfl, rfl⟩

/-- A fraction or an exponent does not begin with a digit. -/
theorem IsFraction.ahead {fraction exponent : Bytes} (h : IsFraction fraction)
    (hexponent : IsExponent exponent) (hrest : Delimited rest) :
    digitAhead (fraction ++ (exponent ++ rest)) = false := by
  cases h with
  | none => exact (hexponent.ahead hrest).1
  | some digits hdigits => rfl

end Delimited

/-! ## Section 3: Numbers that are passed over -/

theorem skipDigits_append {digits rest : Bytes} (h : IsDigits digits)
    (hrest : digitAhead rest = false) : skipDigits (digits ++ rest) = .ok rest := by
  obtain ⟨hne, hdigits⟩ := h
  cases digits with
  | nil => exact absurd rfl hne
  | cons b digits =>
    have hahead : digitAhead (b :: digits ++ rest) = true := hdigits b List.mem_cons_self
    rw [skipDigits, if_pos hahead, dropDigits_append hdigits hrest]

/-- Digits that are passed over. -/
theorem exists_of_skipDigits {octets rest : Bytes} (h : skipDigits octets = .ok rest) :
    ∃ digits, IsDigits digits ∧ octets = digits ++ rest := by
  unfold skipDigits at h
  split_ifs at h with hahead
  cases octets with
  | nil => cases hahead
  | cons b octets =>
    obtain ⟨digits, hdigits, hoctets⟩ := exists_digits octets 1
    have hrest : (dropDigits 1 octets).2 = rest := by
      rw [dropDigits, if_pos (show Bytes.isDigit b = true from hahead)] at h
      exact Except.ok.inj h
    rw [hrest] at hoctets
    exact ⟨b :: digits, ⟨List.cons_ne_nil _ _, List.forall_mem_cons.mpr ⟨hahead, hdigits⟩⟩,
      congrArg (b :: ·) hoctets⟩

theorem skipExponent_append {sign digits rest : Bytes}
    (hsign : sign = [] ∨ sign = [43] ∨ sign = [45]) (hdigits : IsDigits digits)
    (hrest : digitAhead rest = false) :
    skipExponent (sign ++ digits ++ rest) = .ok rest := by
  have hskip := skipDigits_append hdigits hrest
  rcases hsign with rfl | rfl | rfl
  · obtain ⟨b, more, rfl⟩ := List.exists_cons_of_ne_nil hdigits.1
    have hb : Bytes.isDigit b = true := hdigits.2 b List.mem_cons_self
    rw [List.nil_append, List.cons_append] at *
    rw [skipExponent.eq_3 _ (fun _ h => ?_) (fun _ h => ?_)]
    · exact hskip
    · rw [(List.cons.inj h).1] at hb
      exact absurd hb (by decide)
    · rw [(List.cons.inj h).1] at hb
      exact absurd hb (by decide)
  · exact hskip
  · exact hskip

/-- Signed digits that are passed over. -/
theorem exists_of_skipExponent {octets rest : Bytes} (h : skipExponent octets = .ok rest) :
    ∃ sign digits, (sign = [] ∨ sign = [43] ∨ sign = [45]) ∧ IsDigits digits ∧
      octets = sign ++ digits ++ rest := by
  unfold skipExponent at h
  split at h
  · obtain ⟨digits, hdigits, rfl⟩ := exists_of_skipDigits h
    exact ⟨[43], digits, .inr (.inl rfl), hdigits, rfl⟩
  · obtain ⟨digits, hdigits, rfl⟩ := exists_of_skipDigits h
    exact ⟨[45], digits, .inr (.inr rfl), hdigits, rfl⟩
  · obtain ⟨digits, hdigits, rfl⟩ := exists_of_skipDigits h
    exact ⟨[], digits, .inl rfl, hdigits, rfl⟩

theorem skipRealEnd_append {exponent rest : Bytes} (h : IsExponent exponent)
    (hrest : Delimited rest) : skipRealEnd (exponent ++ rest) = .ok rest := by
  cases h with
  | none => exact if_neg (by simp [hrest.ahead])
  | some letter sign digits hletter hsign hdigits =>
    have hahead : exponentAhead (letter :: (sign ++ digits) ++ rest) = true := by
      rcases hletter with rfl | rfl <;> rfl
    rw [skipRealEnd, if_pos hahead]
    exact skipExponent_append hsign hdigits hrest.ahead.1

/-- An exponent that is passed over. -/
theorem exists_of_skipRealEnd {octets rest : Bytes} (h : skipRealEnd octets = .ok rest) :
    ∃ exponent, IsExponent exponent ∧ octets = exponent ++ rest := by
  unfold skipRealEnd at h
  split_ifs at h with hahead
  · cases octets with
    | nil => cases hahead
    | cons letter octets =>
      obtain ⟨sign, digits, hsign, hdigits, hoctets⟩ := exists_of_skipExponent h
      simp only [exponentAhead, Bool.or_eq_true, beq_iff_eq] at hahead
      exact ⟨_, .some letter sign digits hahead hsign hdigits, congrArg (letter :: ·) hoctets⟩
  · exact ⟨[], .none, Except.ok.inj h⟩

theorem skipNumberEnd_append {fraction exponent rest : Bytes} (h : IsFraction fraction)
    (hexponent : IsExponent exponent) (hrest : Delimited rest) :
    skipNumberEnd (fraction ++ (exponent ++ rest)) = .ok rest := by
  have hend := skipRealEnd_append hexponent hrest
  cases h with
  | none =>
    rw [List.nil_append, skipNumberEnd, if_neg (by simp [hexponent.ahead hrest])]
    exact hend
  | some digits hdigits =>
    have hskip := skipDigits_append hdigits (hexponent.ahead hrest).1
    rw [List.cons_append, skipNumberEnd, if_pos (by rfl), List.tail_cons, hskip]
    exact hend

/-- What is passed over after the integer part. -/
theorem exists_of_skipNumberEnd {octets rest : Bytes} (h : skipNumberEnd octets = .ok rest) :
    ∃ fraction exponent, IsFraction fraction ∧ IsExponent exponent ∧
      octets = fraction ++ (exponent ++ rest) := by
  unfold skipNumberEnd at h
  split_ifs at h with hahead
  · cases octets with
    | nil => cases hahead
    | cons b octets =>
      cases hskip : skipDigits octets with
      | error fault =>
        rw [List.tail_cons, hskip] at h
        cases h
      | ok more =>
        rw [List.tail_cons, hskip] at h
        obtain ⟨digits, hdigits, rfl⟩ := exists_of_skipDigits hskip
        obtain ⟨exponent, hexponent, rfl⟩ := exists_of_skipRealEnd h
        rw [pointAhead, beq_iff_eq] at hahead
        exact ⟨46 :: digits, exponent, .some digits hdigits, hexponent, by rw [hahead]; rfl⟩
  · obtain ⟨exponent, hexponent, rfl⟩ := exists_of_skipRealEnd h
    exact ⟨[], exponent, .none, hexponent, rfl⟩

/-- **Numbers that are passed over**: a number is, up to where it ends. -/
theorem skipNumber_append {text rest : Bytes} (h : IsUnsigned text) (hrest : Delimited rest) :
    skipNumber (text ++ rest) = .ok rest := by
  obtain ⟨whole, fraction, exponent, hwhole, hfraction, hexponent, rfl⟩ := h
  have hend := skipNumberEnd_append hfraction hexponent hrest
  have hahead := hfraction.ahead hexponent hrest
  rw [List.append_assoc, List.append_assoc]
  rcases hwhole with rfl | ⟨⟨hne, hdigits⟩, hzero⟩
  · rw [List.cons_append, List.nil_append, skipNumber, if_pos (by rfl),
      if_neg (by rw [hahead]; decide)]
    exact hend
  · obtain ⟨b, digits, rfl⟩ := List.exists_cons_of_ne_nil hne
    have hb : ¬ (b == 48) = true := by
      rw [beq_iff_eq]
      rintro rfl
      exact hzero digits rfl
    obtain ⟨hdigit, hdigits⟩ := List.forall_mem_cons.mp hdigits
    rw [List.cons_append, skipNumber, if_neg hb, if_pos hdigit, dropDigits_append hdigits hahead]
    exact hend

/-- Nothing else is. -/
theorem exists_of_skipNumber {octets rest : Bytes} (h : skipNumber octets = .ok rest) :
    ∃ text, IsUnsigned text ∧ octets = text ++ rest := by
  cases octets with
  | nil => cases h
  | cons b octets =>
    rw [skipNumber] at h
    split_ifs at h with hzero hahead hdigit
    · obtain ⟨fraction, exponent, hfraction, hexponent, rfl⟩ := exists_of_skipNumberEnd h
      refine ⟨[48] ++ (fraction ++ exponent),
        ⟨[48], fraction, exponent, .inl rfl, hfraction, hexponent, rfl⟩, ?_⟩
      rw [beq_iff_eq.mp hzero, List.append_assoc, List.append_assoc]
      rfl
    · obtain ⟨digits, hdigits, hoctets⟩ := exists_digits octets 0
      obtain ⟨fraction, exponent, hfraction, hexponent, hend⟩ := exists_of_skipNumberEnd h
      rw [hend] at hoctets
      refine ⟨b :: digits ++ (fraction ++ exponent), ⟨b :: digits, fraction, exponent,
        .inr ⟨⟨List.cons_ne_nil _ _, List.forall_mem_cons.mpr ⟨hdigit, hdigits⟩⟩,
          fun rest heq => hzero ?_⟩, hfraction, hexponent, rfl⟩, ?_⟩
      · rw [(List.cons.inj heq).1]
        rfl
      · rw [hoctets, List.append_assoc, List.append_assoc]
        rfl

/-! ## Section 4: Numbers that are read -/

section Read

variable {negative down : Bool} {significand : Nat} {start : Int} {octets rest : Bytes}
  {n : Number}

/-- What follows a number is not touched where its double is made. -/
theorem rest_of_bind {made : Except Fault Number}
    (h : (made >>= fun number => .ok (number, octets)) = .ok (n, rest)) : octets = rest := by
  cases made with
  | error fault => cases h
  | ok number => exact congrArg Prod.snd (Except.ok.inj h)

theorem skipDigits_of_exponentDigits
    (h : exponentDigits negative significand start down octets = .ok (n, rest)) :
    skipDigits octets = .ok rest := by
  cases octets with
  | nil => cases h
  | cons b octets =>
    rw [exponentDigits] at h
    simp only at h
    have hskip : ∀ hdigit : Bytes.isDigit b = true, skipDigits (b :: octets)
        = .ok (dropDigits 0 (digitsBelow exponentLimit 0 0 (b :: octets)).2.2).2 := by
      intro hdigit
      rw [dropDigits_digitsBelow]
      exact if_pos hdigit
    split_ifs at h with hdigit hahead
    · cases h
      exact hskip (by simpa using hdigit)
    · rw [hskip (by simpa using hdigit),
        dropDigits_of_digitAhead (Bool.eq_false_iff.mpr hahead)]
      exact congrArg Except.ok (rest_of_bind h)
    · rw [hskip (by simpa using hdigit),
        dropDigits_of_digitAhead (Bool.eq_false_iff.mpr hahead)]
      exact congrArg Except.ok (rest_of_bind h)

theorem skipExponent_of_exponentPart
    (h : exponentPart negative significand start octets = .ok (n, rest)) :
    skipExponent octets = .ok rest := by
  unfold exponentPart at h
  split at h
  · exact skipDigits_of_exponentDigits h
  · exact skipDigits_of_exponentDigits h
  · rename_i hplus hminus
    rw [skipExponent.eq_3 _ hplus hminus]
    exact skipDigits_of_exponentDigits h

theorem skipRealEnd_of_realEnd
    (h : realEnd negative significand start octets = .ok (n, rest)) :
    skipRealEnd octets = .ok rest := by
  unfold realEnd at h
  unfold skipRealEnd
  split_ifs at h ⊢ with hahead
  · exact skipExponent_of_exponentPart h
  · exact congrArg Except.ok (rest_of_bind h)

/-- Decimals are dropped after those that fit. -/
theorem exists_of_decimals {before : Nat}
    (h : decimals negative significand before octets = .ok (n, rest)) :
    ∃ more, skipDigits octets = .ok more ∧ skipRealEnd more = .ok rest := by
  cases octets with
  | nil => cases h
  | cons b octets =>
    rw [decimals] at h
    simp only at h
    split_ifs at h with hdigit
    rw [dropDigits_digitsBelow] at h
    exact ⟨_, if_pos (by simpa [digitAhead] using hdigit), skipRealEnd_of_realEnd h⟩

theorem skipNumberEnd_of_numberEnd {dropped : Nat}
    (h : numberEnd negative significand dropped octets = .ok (n, rest)) :
    skipNumberEnd octets = .ok rest := by
  unfold numberEnd at h
  unfold skipNumberEnd
  by_cases hpoint : pointAhead octets = true
  · rw [if_pos hpoint] at h ⊢
    obtain ⟨more, hdigits, hend⟩ := exists_of_decimals h
    rw [hdigits]
    exact hend
  · rw [if_neg hpoint] at h ⊢
    unfold skipRealEnd
    split_ifs at h ⊢ with hexponent hfits
    · exact skipExponent_of_exponentPart h
    · exact congrArg Except.ok (congrArg Prod.snd (Except.ok.inj h))
    · exact congrArg Except.ok (rest_of_bind h)

/-- **Numbers that are read** are those that are passed over, if they are in range. -/
theorem skipNumber_of_number (h : number negative octets = .ok (n, rest)) :
    skipNumber octets = .ok rest := by
  cases octets with
  | nil => cases h
  | cons b octets =>
    rw [number] at h
    rw [skipNumber]
    simp only at h
    split_ifs at h ⊢ with hzero hahead hdigit
    · exact skipNumberEnd_of_numberEnd h
    · rw [dropDigits_digitsBelow, dropDigits, if_pos hdigit] at h
      rw [dropDigits_snd octets 0 1]
      exact skipNumberEnd_of_numberEnd h

/-- What is read as a number is one. -/
theorem exists_of_number (h : number negative octets = .ok (n, rest)) :
    ∃ text, IsUnsigned text ∧ octets = text ++ rest :=
  exists_of_skipNumber (skipNumber_of_number h)

end Read

/-! ## Section 5: Integers -/

/-- The number that digits make after those of `n`. -/
def valueFrom (n : Nat) (digits : Bytes) : Nat :=
  digits.foldl (fun n b => n * 10 + Bytes.digitValue b) n

theorem valueFrom_append (n : Nat) (front back : Bytes) :
    valueFrom n (front ++ back) = valueFrom (valueFrom n front) back :=
  List.foldl_append ..

theorem le_valueFrom (digits : Bytes) : ∀ n, n ≤ valueFrom n digits := by
  induction digits with
  | nil => exact fun n => Nat.le_refl n
  | cons b digits ih =>
    intro n
    have hstep : n ≤ n * 10 + Bytes.digitValue b := by omega
    exact Nat.le_trans hstep (ih _)

/-- Digits are read to their end where their number is below the limit. -/
theorem digitsBelow_append {limit : Nat} {digits rest : Bytes}
    (h : ∀ b ∈ digits, Bytes.isDigit b = true) (hrest : digitAhead rest = false) :
    ∀ n count, valueFrom n digits < limit → digitsBelow limit n count (digits ++ rest)
      = (valueFrom n digits, count + digits.length, rest) := by
  induction digits with
  | nil =>
    intro n count _
    cases rest with
    | nil => rfl
    | cons b rest =>
      rw [digitAhead] at hrest
      rw [List.nil_append, digitsBelow, if_neg (by simp [hrest])]
      rfl
  | cons b digits ih =>
    intro n count hlimit
    have hstep : n * 10 + Bytes.digitValue b < limit :=
      Nat.lt_of_le_of_lt (le_valueFrom digits _) hlimit
    rw [List.cons_append, digitsBelow, if_pos (by simp [h b List.mem_cons_self, hstep]),
      ih (fun c hmem => h c (List.mem_cons_of_mem _ hmem)) _ _ hlimit, List.length_cons,
      Nat.add_right_comm]
    rfl

/-- The octet of a digit. -/
def digitOctet (d : Nat) : UInt8 := .ofNat (48 + d)

theorem digitOctet_spec {d : Nat} (h : d < 10) : Bytes.isDigit (digitOctet d) = true ∧
    Bytes.digitValue (digitOctet d) = d ∧ (digitOctet d = 48 → d = 0) ∧
    String.utf8EncodeChar d.digitChar = [digitOctet d] := by
  have hall : ∀ d : Fin 10, Bytes.isDigit (digitOctet d) = true ∧
      Bytes.digitValue (digitOctet d) = d ∧ (digitOctet d = 48 → d.val = 0) ∧
      String.utf8EncodeChar d.val.digitChar = [digitOctet d] := by decide
  exact hall ⟨d, h⟩

/-- The last digit of a number comes after those of its tenth. -/
theorem ofText_toString (n : Nat) : Bytes.ofText (toString n) =
    if n < 10 then [digitOctet n]
    else Bytes.ofText (toString (n / 10)) ++ [digitOctet (n % 10)] := by
  rw [Bytes.ofText_eq_flatMap, Bytes.ofText_eq_flatMap, Nat.toString_eq_ofList_toDigits,
    Nat.toString_eq_ofList_toDigits, String.toList_ofList, String.toList_ofList,
    Nat.toDigits_eq_if (by decide)]
  split_ifs with hn
  · rw [List.flatMap_singleton, (digitOctet_spec hn).2.2.2]
  · rw [List.flatMap_append, List.flatMap_singleton,
      (digitOctet_spec (Nat.mod_lt n (by decide))).2.2.2]

/-- **Numerals**: the text of a number is its digits, of which the first is no zero unless
    the number is zero. -/
theorem ofText_toString_spec (n : Nat) : IsDigits (Bytes.ofText (toString n)) ∧
    valueFrom 0 (Bytes.ofText (toString n)) = n ∧
    ∀ rest, Bytes.ofText (toString n) = 48 :: rest → n = 0 := by
  -- the induction goes from a number to its tenth, as its text is written
  induction n using Nat.strong_induction_on with
  | _ n ih =>
    rw [ofText_toString]
    split_ifs with hn
    · obtain ⟨hdigit, hvalue, hzero, -⟩ := digitOctet_spec hn
      refine ⟨⟨List.cons_ne_nil _ _, List.forall_mem_singleton.mpr hdigit⟩, ?_, ?_⟩
      · rw [valueFrom, List.foldl_cons, List.foldl_nil, hvalue, Nat.zero_mul, Nat.zero_add]
      · intro rest heq
        exact hzero (List.cons.inj heq).1
    · obtain ⟨⟨hne, hdigits⟩, hvalue, hzero⟩ := ih (n / 10) (by omega)
      obtain ⟨hdigit, hlast, -, -⟩ := digitOctet_spec (Nat.mod_lt n (by decide : 0 < 10))
      refine ⟨⟨List.append_ne_nil_of_left_ne_nil hne _, ?_⟩, ?_, ?_⟩
      · intro b hmem
        rcases List.mem_append.mp hmem with hmem | hmem
        · exact hdigits b hmem
        · exact List.mem_singleton.mp hmem ▸ hdigit
      · rw [valueFrom_append, hvalue, valueFrom, List.foldl_cons, List.foldl_nil, hlast]
        omega
      · intro rest heq
        obtain ⟨b, more, hcons⟩ := List.exists_cons_of_ne_nil hne
        rw [hcons, List.cons_append] at heq
        have := hzero more (by rw [hcons, (List.cons.inj heq).1])
        omega

/-- A numeral begins with a digit. -/
theorem exists_cons_toString (n : Nat) :
    ∃ b more, Bytes.ofText (toString n) = b :: more ∧ Bytes.isDigit b = true := by
  obtain ⟨⟨hne, hdigits⟩, -, -⟩ := ofText_toString_spec n
  obtain ⟨b, more, hcons⟩ := List.exists_cons_of_ne_nil hne
  exact ⟨b, more, hcons, hdigits b (hcons ▸ List.mem_cons_self)⟩

/-- The text of a number is read as its integer. -/
theorem number_toString {negative : Bool} {n : Nat} {rest : Bytes} (h : n < wordLimit)
    (hrest : Delimited rest) : number negative (Bytes.ofText (toString n) ++ rest)
      = .ok (signedInteger negative n, rest) := by
  obtain ⟨⟨-, hdigits⟩, hvalue, hzero⟩ := ofText_toString_spec n
  obtain ⟨b, more, hcons, hdigit⟩ := exists_cons_toString n
  obtain ⟨hahead, hpoint, hexponent⟩ := hrest.ahead
  have hend : numberEnd negative n 0 rest = .ok (signedInteger negative n, rest) := by
    rw [numberEnd, if_neg (by simp [hpoint]), if_neg (by simp [hexponent]),
      if_pos (beq_self_eq_true 0)]
  have hread := digitsBelow_append hdigits hahead 0 0 (hvalue.symm ▸ h)
  rw [hvalue, hcons] at hread
  rw [hcons, List.cons_append, number]
  simp only
  by_cases hb : b = 48
  · subst hb
    have hn : n = 0 := hzero more hcons
    subst hn
    have hmore : more = [] := (List.cons.inj hcons).2.symm
    rw [if_pos (beq_self_eq_true 48), hmore, List.nil_append, if_neg (by simp [hahead])]
    exact hend
  · rw [if_neg (by simp [hb]), if_pos hdigit, ← List.cons_append, hread]
    simp only
    rw [dropDigits_of_digitAhead hahead]
    exact hend

end Json

end TelemetryRelay
