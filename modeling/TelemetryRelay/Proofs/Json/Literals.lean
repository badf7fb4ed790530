import Mathlib.Data.List.Induction
import TelemetryRelay.Proofs.Json.Values

/-! # Number literals

    A literal that is in range is read as a number, whatever follows it; this goes for
    doubles as well as for integers. Only the text of an integer of 64 bits, without a
    point or an exponent, is read as this integer.
-/

namespace TelemetryRelay

namespace Json

open Results (exists_of_bind bind_eq)

/-! ## Section 1: Literals by themselves -/

/-- **Settled**: a reader makes of a text what it makes of it before anything else that may
    follow: a number, or that it is out of range. -/
def Settles (reader : Reader Number) (text : Bytes) : Prop :=
  ∃ made : Except Fault Number, (∀ fault, made = .error fault → fault = .numberOutOfRange) ∧
    ∀ rest, Delimited rest → reader (text ++ rest) = made.map fun n => (n, rest)

/-- How far digits are read does not depend on what follows them. -/
theorem exists_digitsBelow_append (limit : Nat) {digits : Bytes}
    (h : ∀ b ∈ digits, Bytes.isDigit b = true) : ∀ n count, ∃ m k back,
      (∀ b ∈ back, Bytes.isDigit b = true) ∧ ∀ rest, digitAhead rest = false →
        digitsBelow limit n count (digits ++ rest) = (m, k, back ++ rest) := by
  induction digits with
  | nil =>
    intro n count
    refine ⟨n, count, [], h, ?_⟩
    intro rest hrest
    cases rest with
    | nil => rfl
    | cons b rest =>
      rw [digitAhead] at hrest
      rw [List.nil_append, digitsBelow, if_neg (by simp [hrest])]
  | cons b digits ih =>
    intro n count
    obtain ⟨hb, hdigits⟩ := List.forall_mem_cons.mp h
    by_cases hfits : n * 10 + Bytes.digitValue b < limit
    · obtain ⟨m, k, back, hback, hread⟩ := ih hdigits (n * 10 + Bytes.digitValue b) (count + 1)
      refine ⟨m, k, back, hback, ?_⟩
      intro rest hrest
      rw [List.cons_append, digitsBelow, if_pos (by simp [hb, hfits])]
      exact hread rest hrest
    · refine ⟨n, count, b :: digits, h, ?_⟩
      intro rest hrest
      rw [List.cons_append, digitsBelow, if_neg (by simp [hfits])]

theorem digitAhead_append {back rest : Bytes} (hrest : digitAhead rest = false) :
    digitAhead (back ++ rest) = digitAhead back := by
  cases back with
  | nil => exact hrest
  | cons b back => rfl

/-- A double is made, or it is out of range. -/
theorem fault_of_scaled : ∀ (fuel : Nat) (f : Binary64) (e : Int) {fault : Fault},
    scaled fuel f e = .error fault → fault = .numberOutOfRange := by
  intro fuel
  induction fuel with
  | zero =>
    intro f e fault h
    cases h
  | succ fuel ih =>
    intro f e fault h
    rw [scaled] at h
    simp only at h
    split_ifs at h
    · cases h; rfl
    · cases h; rfl
    · exact ih _ _ h

theorem fault_of_fromParts {negative : Bool} {significand : Nat} {e : Int} {fault : Fault}
    (h : fromParts negative significand e = .error fault) : fault = .numberOutOfRange := by
  unfold fromParts at h
  split at h
  · cases h
  · next other hscaled =>
    cases h
    exact fault_of_scaled _ _ _ hscaled

theorem bind_pair {made : Except Fault Number} (rest : Bytes) :
    (made >>= fun number => .ok (number, rest)) = made.map fun n => (n, rest) := by
  cases made <;> rfl

section Settles

variable (negative down : Bool) (significand : Nat) (start : Int)

theorem settles_exponentDigits {digits : Bytes} (h : IsDigits digits) :
    Settles (exponentDigits negative significand start down) digits := by
  obtain ⟨e, count, back, hback, hread⟩ :=
    exists_digitsBelow_append exponentLimit h.2 0 0
  -- an exponent with more digits than fit is settled by its sign alone
  refine ⟨if digitAhead back then
      if significand != 0 && !down then .error .numberOutOfRange
      else .ok (.real ((Binary64.zero).withSign negative))
    else fromParts negative significand
      (if down then start - Int.ofNat e else start + Int.ofNat e), ?_, ?_⟩
  · intro fault hfault
    split_ifs at hfault
    · cases hfault; rfl
    · exact fault_of_fromParts hfault
    · exact fault_of_fromParts hfault
  · intro rest hrest
    have hahead := hrest.ahead.1
    obtain ⟨b, more, rfl⟩ := List.exists_cons_of_ne_nil h.1
    have hb : Bytes.isDigit b = true := h.2 b List.mem_cons_self
    have hdigits := hread rest hahead
    rw [List.cons_append] at hdigits ⊢
    rw [exponentDigits]
    simp only [hb, Bool.not_true, Bool.false_eq_true, if_false, hdigits,
      digitAhead_append hahead, dropDigits_append hback hahead]
    by_cases hmore : digitAhead back = true
    · rw [if_pos hmore, if_pos hmore]
      split_ifs <;> rfl
    · -- all of the digits have been read
      have hnone : back = [] := by
        cases back with
        | nil => rfl
        | cons c back => exact absurd (hback c List.mem_cons_self) hmore
      rw [if_neg hmore, if_neg hmore, hnone]
      exact bind_pair rest

theorem settles_exponentPart {sign digits : Bytes}
    (hsign : sign = [] ∨ sign = [43] ∨ sign = [45]) (hdigits : IsDigits digits) :
    Settles (exponentPart negative significand start) (sign ++ digits) := by
  rcases hsign with rfl | rfl | rfl
  · obtain ⟨made, hfault, hread⟩ := settles_exponentDigits negative false
      significand start hdigits
    refine ⟨made, hfault, ?_⟩
    intro rest hrest
    obtain ⟨b, more, rfl⟩ := List.exists_cons_of_ne_nil hdigits.1
    have hb : Bytes.isDigit b = true := hdigits.2 b List.mem_cons_self
    rw [List.nil_append, List.cons_append]
    rw [exponentPart.eq_3 _ _ _ _ (fun _ h => ?_) (fun _ h => ?_)]
    · exact hread rest hrest
    · rw [(List.cons.inj h).1] at hb
      exact absurd hb (by decide)
    · rw [(List.cons.inj h).1] at hb
      exact absurd hb (by decide)
  · exact settles_exponentDigits _ _ _ _ hdigits
  · exact settles_exponentDigits _ _ _ _ hdigits

theorem settles_realEnd {exponent : Bytes} (h : IsExponent exponent) :
    Settles (realEnd negative significand start) exponent := by
  cases h with
  | none =>
    refine ⟨fromParts negative significand start, fun _ => fault_of_fromParts, ?_⟩
    intro rest hrest
    rw [List.nil_append, realEnd, if_neg (by simp [hrest.ahead])]
    exact bind_pair rest
  | some letter sign digits hletter hsign hdigits =>
    obtain ⟨made, hfault, hread⟩ := settles_exponentPart negative significand
      start hsign hdigits
    refine ⟨made, hfault, ?_⟩
    intro rest hrest
    have hahead : exponentAhead (letter :: (sign ++ digits) ++ rest) = true := by
      rcases hletter with rfl | rfl <;> rfl
    rw [realEnd, if_pos hahead]
    exact hread rest hrest

theorem settles_decimals (before : Nat) {digits exponent : Bytes} (h : IsDigits digits)
    (hexponent : IsExponent exponent) :
    Settles (decimals negative significand before) (digits ++ exponent) := by
  obtain ⟨m, count, back, hback, hread⟩ :=
    exists_digitsBelow_append wordLimit h.2 significand 0
  obtain ⟨made, hfault, hend⟩ := settles_realEnd negative m
    (Int.ofNat before - Int.ofNat count) hexponent
  refine ⟨made, hfault, ?_⟩
  intro rest hrest
  have hahead := (hexponent.ahead hrest).1
  obtain ⟨b, more, rfl⟩ := List.exists_cons_of_ne_nil h.1
  have hb : Bytes.isDigit b = true := h.2 b List.mem_cons_self
  have hdigits := hread (exponent ++ rest) hahead
  rw [List.append_assoc, List.cons_append] at *
  rw [decimals]
  simp only [hb, Bool.not_true, Bool.false_eq_true, if_false, hdigits,
    dropDigits_append hback hahead]
  exact hend rest hrest

theorem settles_numberEnd (dropped : Nat) {fraction exponent : Bytes}
    (h : IsFraction fraction) (hexponent : IsExponent exponent) :
    Settles (numberEnd negative significand dropped) (fraction ++ exponent) := by
  cases h with
  | some digits hdigits =>
    obtain ⟨made, hfault, hread⟩ := settles_decimals negative significand
      dropped hdigits hexponent
    exact ⟨made, hfault, hread⟩
  | none =>
    cases hexponent with
    | some letter sign digits hletter hsign hdigits =>
      obtain ⟨made, hfault, hread⟩ := settles_exponentPart negative significand
        (Int.ofNat dropped) hsign hdigits
      refine ⟨made, hfault, ?_⟩
      intro rest hrest
      have hahead : pointAhead (letter :: (sign ++ digits) ++ rest) = false ∧
          exponentAhead (letter :: (sign ++ digits) ++ rest) = true := by
        rcases hletter with rfl | rfl <;> exact ⟨rfl, rfl⟩
      rw [List.nil_append, numberEnd, if_neg (by rw [hahead.1]; decide), if_pos hahead.2]
      exact hread rest hrest
    | none =>
      refine ⟨if dropped == 0 then .ok (signedInteger negative significand)
        else fromParts negative significand (Int.ofNat dropped), ?_, ?_⟩
      · intro fault hfault
        split_ifs at hfault
        exact fault_of_fromParts hfault
      · intro rest hrest
        rw [List.append_nil, List.nil_append, numberEnd, if_neg (by simp [hrest.ahead]),
          if_neg (by simp [hrest.ahead])]
        split_ifs
        · rfl
        · exact bind_pair rest

/-- **Literals** settle what is made of them. -/
theorem settles_number {text : Bytes} (h : IsUnsigned text) : Settles (number negative) text := by
  obtain ⟨whole, fraction, exponent, hwhole, hfraction, hexponent, rfl⟩ := h
  rcases hwhole with rfl | ⟨⟨hne, hdigits⟩, hzero⟩
  · obtain ⟨made, hfault, hread⟩ := settles_numberEnd negative 0 0 hfraction
      hexponent
    refine ⟨made, hfault, ?_⟩
    intro rest hrest
    have hahead := hfraction.ahead hexponent hrest
    have hend := hread rest hrest
    rw [List.append_assoc] at hend
    simp only [List.cons_append, List.nil_append, List.append_assoc]
    rw [number]
    simp only [beq_self_eq_true, if_true, hahead, Bool.false_eq_true, if_false]
    exact hend
  · obtain ⟨m, count, back, hback, hbelow⟩ :=
      exists_digitsBelow_append wordLimit hdigits 0 0
    obtain ⟨made, hfault, hread⟩ := settles_numberEnd negative m back.length
      hfraction hexponent
    refine ⟨made, hfault, ?_⟩
    intro rest hrest
    have hahead := hfraction.ahead hexponent hrest
    have hend := hread rest hrest
    have hdigitsRead := hbelow _ hahead
    obtain ⟨b, more, rfl⟩ := List.exists_cons_of_ne_nil hne
    have hb : (b == 48) = false := by
      rw [beq_eq_false_iff_ne]
      rintro rfl
      exact hzero more rfl
    have hdigit : Bytes.isDigit b = true := hdigits b List.mem_cons_self
    rw [List.append_assoc] at hend
    simp only [List.cons_append, List.append_assoc] at hdigitsRead ⊢
    rw [number]
    simp only [hb, Bool.false_eq_true, if_false, hdigit, if_true, hdigitsRead,
      dropDigits_append hback hahead, Nat.zero_add]
    exact hend

end Settles

/-- **In range**: a literal that is not said to be out of range where it stands alone. -/
def InRange (negative : Bool) (text : Bytes) : Prop :=
  number negative text ≠ .error .numberOutOfRange

/-- A literal in range is read as its number, whatever follows it. -/
theorem exists_number {negative : Bool} {text : Bytes} (h : IsUnsigned text)
    (hrange : InRange negative text) :
    ∃ n, ∀ rest, Delimited rest → number negative (text ++ rest) = .ok (n, rest) := by
  obtain ⟨made, hfault, hread⟩ := settles_number negative h
  cases made with
  | ok n => exact ⟨n, hread⟩
  | error fault =>
    have halone := hread [] fun _ _ hnil => nomatch hnil
    rw [List.append_nil, hfault fault rfl] at halone
    exact absurd halone hrange

/-! ## Section 2: Literals of integers -/

section Integers

variable {negative down : Bool} {significand : Nat} {start : Int} {octets rest : Bytes}

/-- What is made after a number has been looked through is a double. -/
theorem real_of_bind {n : Number}
    (h : (fromParts negative significand start >>= fun number => .ok (number, octets))
      = .ok (n, rest)) : ∃ x, n = .real x := by
  unfold fromParts at h
  split at h
  · next f _ =>
    cases h
    exact ⟨_, rfl⟩
  · cases h

theorem real_of_exponentDigits {n : Number}
    (h : exponentDigits negative significand start down octets = .ok (n, rest)) :
    ∃ x, n = .real x := by
  cases octets with
  | nil => cases h
  | cons b octets =>
    rw [exponentDigits] at h
    simp only at h
    split_ifs at h
    · cases h
      exact ⟨_, rfl⟩
    · exact real_of_bind h
    · exact real_of_bind h

theorem real_of_exponentPart {n : Number}
    (h : exponentPart negative significand start octets = .ok (n, rest)) : ∃ x, n = .real x := by
  unfold exponentPart at h
  split at h
  · exact real_of_exponentDigits h
  · exact real_of_exponentDigits h
  · exact real_of_exponentDigits h

theorem real_of_decimals {n : Number} {before : Nat}
    (h : decimals negative significand before octets = .ok (n, rest)) : ∃ x, n = .real x := by
  cases octets with
  | nil => cases h
  | cons b octets =>
    rw [decimals] at h
    simp only at h
    split_ifs at h
    unfold realEnd at h
    split_ifs at h
    · exact real_of_exponentPart h
    · exact real_of_bind h

/-- A number is an integer only where it ends with the digits before a point, all of which
    fit. -/
theorem eq_of_numberEnd {dropped : Nat} {i : Int}
    (h : numberEnd negative significand dropped octets = .ok (.integer i, rest)) :
    dropped = 0 ∧ signedInteger negative significand = .integer i ∧ octets = rest := by
  have hreal : ¬ ∃ x, Number.integer i = .real x := fun ⟨_, heq⟩ => Number.noConfusion heq
  unfold numberEnd at h
  split_ifs at h with _ _ hdropped
  · exact absurd (real_of_decimals h) hreal
  · exact absurd (real_of_exponentPart h) hreal
  · obtain ⟨hnumber, hrest⟩ := Prod.mk.inj (Except.ok.inj h)
    exact ⟨beq_iff_eq.mp hdropped, hnumber, hrest⟩
  · exact absurd (real_of_bind h) hreal

end Integers

/-- The digits that are read make the number that is read. -/
theorem exists_of_digitsBelow {limit m k : Nat} {rest : Bytes} : ∀ {octets : Bytes} {n count : Nat},
    digitsBelow limit n count octets = (m, k, rest) → n < limit →
      ∃ digits, (∀ b ∈ digits, Bytes.isDigit b = true) ∧ octets = digits ++ rest ∧
        m = valueFrom n digits ∧ m < limit := by
  intro octets
  induction octets with
  | nil =>
    intro n count h hn
    cases h
    exact ⟨[], fun _ h => absurd h List.not_mem_nil, rfl, rfl, hn⟩
  | cons b octets ih =>
    intro n count h hn
    rw [digitsBelow] at h
    split_ifs at h with hb
    · rw [Bool.and_eq_true, decide_eq_true_eq] at hb
      obtain ⟨digits, hdigits, rfl, hm, hlimit⟩ := ih h hb.2
      exact ⟨b :: digits, List.forall_mem_cons.mpr ⟨hb.1, hdigits⟩, rfl, hm, hlimit⟩
    · cases h
      exact ⟨[], fun _ h => absurd h List.not_mem_nil, rfl, rfl, hn⟩

theorem eq_digitOctet {b : UInt8} (h : Bytes.isDigit b = true) :
    Bytes.digitValue b < 10 ∧ b = digitOctet (Bytes.digitValue b) := by
  simp only [Bytes.isDigit, Bool.and_eq_true, decide_eq_true_eq, UInt8.le_iff_toNat_le] at h
  have hlow : (48 : UInt8).toNat = 48 := rfl
  have hhigh : (57 : UInt8).toNat = 57 := rfl
  unfold Bytes.digitValue digitOctet
  refine ⟨by omega, ?_⟩
  rw [show 48 + (b.toNat - 48) = b.toNat by omega, UInt8.ofNat_toNat]

/-- Digits that do not start with a zero are the text of their number. -/
theorem eq_ofText_toString {digits : Bytes} (h : IsDigits digits)
    (hzero : ∀ rest, digits ≠ 48 :: rest) :
    digits = Bytes.ofText (toString (valueFrom 0 digits)) := by
  -- the induction takes the last digit off, as the text of a number is written
  induction digits using List.reverseRecOn with
  | nil => exact absurd rfl h.1
  | append_singleton front b ih =>
    obtain ⟨hfront, hb⟩ := List.forall_mem_append.mp h.2
    obtain ⟨hless, hoctet⟩ := eq_digitOctet (hb b (List.mem_singleton.mpr rfl))
    have hvalue : valueFrom 0 (front ++ [b]) = valueFrom 0 front * 10 + Bytes.digitValue b := by
      rw [valueFrom_append]
      rfl
    rw [hvalue, ofText_toString]
    cases front with
    | nil =>
      have hnone : valueFrom 0 [] = 0 := rfl
      rw [hnone, Nat.zero_mul, Nat.zero_add, if_pos hless, ← hoctet]
      rfl
    | cons c front =>
      have hcanonical := ih ⟨List.cons_ne_nil _ _, hfront⟩ fun rest heq =>
        hzero (rest ++ [b]) (by rw [heq]; rfl)
      have hpositive : valueFrom 0 (c :: front) ≠ 0 := by
        intro hnone
        rw [hnone] at hcanonical
        exact hzero [b] (by rw [hcanonical]; rfl)
      have htens : (valueFrom 0 (c :: front) * 10 + Bytes.digitValue b) / 10
          = valueFrom 0 (c :: front) := by omega
      have hones : (valueFrom 0 (c :: front) * 10 + Bytes.digitValue b) % 10
          = Bytes.digitValue b := by omega
      rw [if_neg (by omega), htens, hones, ← hcanonical, ← hoctet]

theorem le_dropDigits (octets : Bytes) : ∀ count, count ≤ (dropDigits count octets).1 := by
  induction octets with
  | nil => exact fun count => Nat.le_refl count
  | cons b octets ih =>
    intro count
    rw [dropDigits]
    split_ifs
    · exact Nat.le_trans (Nat.le_succ count) (ih (count + 1))
    · exact Nat.le_refl count

/-- Where nothing is dropped, no digit follows. -/
theorem digitAhead_of_dropDigits {octets : Bytes} (h : (dropDigits 0 octets).1 = 0) :
    digitAhead octets = false := by
  cases octets with
  | nil => rfl
  | cons b octets =>
    by_cases hb : Bytes.isDigit b = true
    · rw [dropDigits, if_pos hb] at h
      have hone : 1 ≤ (dropDigits 1 octets).1 := le_dropDigits octets 1
      rw [show (dropDigits 1 octets).1 = 0 from h] at hone
      cases hone
    · exact Bool.eq_false_iff.mpr hb

/-- **Integers**: what is read as an integer of 64 bits is its text. -/
theorem exists_of_number_integer {negative : Bool} {octets rest : Bytes} {i : Int}
    (h : number negative octets = .ok (.integer i, rest)) :
    ∃ n, n < wordLimit ∧ signedInteger negative n = .integer i ∧
      octets = Bytes.ofText (toString n) ++ rest := by
  cases octets with
  | nil => cases h
  | cons b octets =>
    rw [number] at h
    simp only at h
    split_ifs at h with hzero hahead hdigit
    · obtain ⟨-, hsigned, rfl⟩ := eq_of_numberEnd h
      exact ⟨0, by decide, hsigned, by rw [beq_iff_eq.mp hzero]; rfl⟩
    · cases hbelow : digitsBelow wordLimit 0 0 (b :: octets) with
      | mk m below =>
        obtain ⟨k, after⟩ := below
        obtain ⟨digits, hdigits, hoctets, hm, hlimit⟩ := exists_of_digitsBelow hbelow (by decide)
        rw [hbelow] at h
        obtain ⟨hnone, hsigned, hrest⟩ := eq_of_numberEnd h
        rw [dropDigits_of_digitAhead (digitAhead_of_dropDigits hnone)] at hrest
        have hfront : digits ≠ [] := by
          rintro rfl
          have hahead := digitAhead_of_dropDigits hnone
          rw [show after = b :: octets from hoctets.symm, digitAhead, hdigit] at hahead
          cases hahead
        have hcanonical : digits = Bytes.ofText (toString m) := by
          rw [hm]
          refine eq_ofText_toString ⟨hfront, hdigits⟩ ?_
          intro more heq
          rw [heq, List.cons_append] at hoctets
          exact hzero (beq_iff_eq.mpr (List.cons.inj hoctets).1)
        have hafter : after = rest := hrest
        exact ⟨m, hlimit, hsigned, by rw [hoctets, hcanonical, hafter]⟩

theorem isUnsigned_toString (n : Nat) : IsUnsigned (Bytes.ofText (toString n)) := by
  obtain ⟨hdigits, -, hzero⟩ := ofText_toString_spec n
  refine ⟨_, [], [], ?_, .none, .none, (List.append_nil _).symm⟩
  by_cases hn : n = 0
  · rw [hn]
    exact .inl rfl
  · exact .inr ⟨hdigits, fun rest heq => hn (hzero rest heq)⟩

theorem isValue_integer (i : Int) : IsValue (Bytes.ofText (toString i)) := by
  cases i with
  | ofNat n => exact .positive _ (isUnsigned_toString n)
  | negSucc n =>
    rw [ofText_negSucc]
    exact .negative _ (isUnsigned_toString (n + 1))

/-- The text of an integer is the only one that is read as the integer. -/
theorem eq_of_scalar_integer {b : UInt8} {octets rest : Bytes} {i : Int}
    (h : scalar b octets = .ok (.number (.integer i), rest)) :
    FitsWord i ∧ b :: octets = Bytes.ofText (toString i) ++ rest := by
  cases scalarRead_of_scalar h with
  | negative _ hnumber =>
    obtain ⟨n, -, hsigned, rfl⟩ := exists_of_number_integer hnumber
    rw [signedInteger, if_pos rfl] at hsigned
    split_ifs at hsigned with hbound
    -- a minus sign before zero makes a double
    rw [Bool.and_eq_true, decide_eq_true_eq, decide_eq_true_eq] at hbound
    obtain ⟨m, rfl⟩ : ∃ m, n = m + 1 := ⟨n - 1, by omega⟩
    obtain rfl : Int.negSucc m = i := Number.integer.inj hsigned
    refine ⟨⟨by omega, by omega⟩, ?_⟩
    rw [ofText_negSucc]
    rfl
  | positive _ _ _ hnumber =>
    obtain ⟨n, hlimit, hsigned, hoctets⟩ := exists_of_number_integer hnumber
    rw [signedInteger, if_neg Bool.false_ne_true] at hsigned
    obtain rfl : (n : Int) = i := Number.integer.inj hsigned
    unfold wordLimit at hlimit
    exact ⟨⟨by omega, by omega⟩, hoctets⟩

end Json

end TelemetryRelay
