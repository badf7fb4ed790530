import Mathlib.Tactic.SplitIfs
import TelemetryRelay.Proofs.Json.Grammar
import TelemetryRelay.Proofs.Results
import TelemetryRelay.Proofs.Text.Encoding

/-! # Reading string literals

    Two machines take the octets of a literal one at a time: one reads its text, the other
    passes over it. This module says that they take what the grammar says, no more and no
    less:

    - `string` reads a text exactly from its literals,
    - `skipString` passes over whatever is the inside of a literal.

    Characters and escapes take several octets, so that the induction that follows the
    machines is on the number of octets left.
-/

namespace TelemetryRelay

namespace Json

open Results (exists_of_bind bind_eq)

/-! ## Section 1: Escapes -/

/-- The letters of the table are known after a backslash. -/
theorem simpleEscape?_of_mem {b octet : UInt8} (h : (b, octet) ∈ shortForms) :
    simpleEscape? b = some octet := by
  have hall : shortForms.all (fun form => simpleEscape? form.1 == some form.2) = true := by decide
  exact eq_of_beq (List.all_eq_true.mp hall _ h)

/-- A row of a table that is written as a chain of conditions. -/
theorem eq_or_of_row {b c octet found : UInt8} {other : Option UInt8}
    (h : (if b == c then some found else other) = some octet) :
    (b, octet) = (c, found) ∨ other = some octet := by
  by_cases hb : b = c
  · rw [if_pos (beq_iff_eq.mpr hb)] at h
    exact .inl (Prod.ext hb (Option.some.inj h).symm)
  · rw [if_neg (by simpa using hb)] at h
    exact .inr h

/-- No other letters are. -/
theorem mem_shortForms {b octet : UInt8} (h : simpleEscape? b = some octet) :
    (b, octet) ∈ shortForms := by
  simp only [shortForms, List.mem_cons, List.not_mem_nil, or_false]
  refine (eq_or_of_row h).imp_right fun h => (eq_or_of_row h).imp_right fun h =>
    (eq_or_of_row h).imp_right fun h => (eq_or_of_row h).imp_right fun h =>
    (eq_or_of_row h).imp_right fun h => (eq_or_of_row h).imp_right fun h =>
    (eq_or_of_row h).imp_right fun h => (eq_or_of_row h).resolve_right ?_
  simp

/-- The letter of an escape with digits is none of them. -/
theorem simpleEscape?_u : simpleEscape? 117 = none := by decide

/-- What four digits amount to that are no second half of a pair. -/
theorem quad_of_quadEnd {a b c d : UInt8} {place : Place} {octets : Bytes}
    (h : quadEnd none a b c d = .ok (place, octets)) :
    ∃ n, Quad n [a, b, c, d] ∧ isTrailing n = false ∧
      (isLeading n = true ∧ place = .halfway n ∧ octets = [] ∨
        isLeading n = false ∧ place = .plain ∧ octets = octetsOf n) := by
  unfold quadEnd at h
  cases hquad : hexQuad? a b c d with
  | none =>
    rw [hquad] at h
    cases h
  | some n =>
    rw [hquad] at h
    refine ⟨n, ⟨a, b, c, d, rfl, hquad⟩, ?_⟩
    simp only at h
    split_ifs at h with htrail hlead
    · cases h
      exact ⟨Bool.eq_false_iff.mpr htrail, .inl ⟨hlead, rfl, rfl⟩⟩
    · cases h
      exact ⟨Bool.eq_false_iff.mpr htrail, .inr ⟨Bool.eq_false_iff.mpr hlead, rfl, rfl⟩⟩

/-- Four digits that are a second half complete a pair. -/
theorem quadEnd_pair {lead n : Nat} {a b c d : UInt8} (hquad : hexQuad? a b c d = some n)
    (htrail : isTrailing n = true) :
    quadEnd (some lead) a b c d = .ok (.plain, octetsOf (pairCode lead n)) := by
  unfold quadEnd
  rw [hquad]
  exact if_pos htrail

/-- What four digits amount to after a first half. -/
theorem quad_of_quadEnd_some {lead : Nat} {a b c d : UInt8} {place : Place} {octets : Bytes}
    (h : quadEnd (some lead) a b c d = .ok (place, octets)) :
    ∃ n, Quad n [a, b, c, d] ∧ isTrailing n = true ∧ place = .plain ∧
      octets = octetsOf (pairCode lead n) := by
  cases hquad : hexQuad? a b c d with
  | none =>
    unfold quadEnd at h
    rw [hquad] at h
    cases h
  | some n =>
    by_cases htrail : isTrailing n = true
    · rw [quadEnd_pair hquad htrail] at h
      obtain ⟨hplace, hoctets⟩ := Prod.mk.inj (Except.ok.inj h)
      exact ⟨n, ⟨a, b, c, d, rfl, hquad⟩, htrail, hplace.symm, hoctets.symm⟩
    · unfold quadEnd at h
      rw [hquad] at h
      simp only [htrail, Bool.false_eq_true, if_false] at h
      cases h

/-! ## Section 2: Texts of literals -/

/-- One round of the machine, where it does not end. -/
theorem stringOctets_cons {place : Place} {b : UInt8} (h : ¬ (place = .plain ∧ b = 34))
    (acc rest : Bytes) : stringOctets place acc (b :: rest) =
      match stringStep place b with
      | .error fault => .error fault
      | .ok (place, octets) => stringOctets place (octets.reverse ++ acc) rest :=
  if_neg h

/-- An octet that stands for itself, unless it is a control character. -/
theorem stringStep_plain {b : UInt8} (hslash : b ≠ 92) :
    stringStep .plain b = if b < 32 then .error .controlCharacter else .ok (.plain, [b]) :=
  if_neg (by simpa using hslash)

/-- A backslash and the letter after it are taken together. -/
theorem stringOctets_escape (acc : Bytes) (b : UInt8) (rest : Bytes) :
    stringOctets .plain acc (92 :: b :: rest) =
      match simpleEscape? b with
      | some octet => stringOctets .plain (octet :: acc) rest
      | none =>
        if b = 117 then stringOctets (.digits none []) acc rest else .error .invalidEscape := by
  have hslash : stringOctets .plain acc (92 :: b :: rest) = stringOctets .escaped acc (b :: rest) :=
    rfl
  have hletter : stringStep .escaped b = match simpleEscape? b with
      | some octet => .ok (.plain, [octet])
      | none => if b == 117 then .ok (.digits none [], []) else .error .invalidEscape := rfl
  rw [hslash, stringOctets_cons (fun h => absurd h.1 (by decide)), hletter]
  cases simpleEscape? b with
  | some octet => rfl
  | none =>
    simp only [beq_iff_eq]
    split_ifs <;> rfl

/-- The backslash and the letter between the halves of a pair are taken together. -/
theorem stringOctets_half (lead : Nat) (acc rest : Bytes) :
    stringOctets (.halfway lead) acc (92 :: 117 :: rest)
      = stringOctets (.digits (some lead) []) acc rest :=
  rfl

/-- Four digits are taken together. -/
theorem stringOctets_digits (lead : Option Nat) (acc : Bytes) (a b c d : UInt8) (rest : Bytes) :
    stringOctets (.digits lead []) acc (a :: b :: c :: d :: rest) =
      match quadEnd lead a b c d with
      | .error fault => .error fault
      | .ok (place, octets) => stringOctets place (octets.reverse ++ acc) rest :=
  rfl

/-- The machine reads what is spelled. -/
theorem stringOctets_of_spells {octets body : Bytes} (h : Spells octets body) (rest : Bytes) :
    ∀ acc, stringOctets .plain acc (body ++ 34 :: rest) = .ok (acc.reverse ++ octets, rest) := by
  induction h with
  | nil =>
    intro acc
    rw [List.append_nil]
    exact if_pos ⟨rfl, rfl⟩
  | plain b octets body hge hquote hslash _ ih =>
    intro acc
    rw [List.cons_append, stringOctets_cons (fun h => hquote h.2), stringStep_plain hslash,
      if_neg (UInt8.not_lt.mpr hge)]
    simp only
    rw [ih]
    simp
  | short b octet octets body hmem _ ih =>
    intro acc
    rw [List.cons_append, List.cons_append, stringOctets_escape,
      simpleEscape?_of_mem hmem]
    simp only
    rw [ih]
    simp
  | code n digits octets body hquad hlead htrail _ ih =>
    intro acc
    obtain ⟨a, b, c, d, rfl, hn⟩ := hquad
    have hend : quadEnd none a b c d = .ok (.plain, octetsOf n) := by
      simp [quadEnd, hn, hlead, htrail]
    rw [List.cons_append, List.cons_append, stringOctets_escape, simpleEscape?_u]
    simp only [if_true, List.cons_append, List.nil_append]
    rw [stringOctets_digits, hend]
    simp only
    rw [ih]
    simp
  | pair lead trail digits digits' octets body hquad hquad' hlead htrail _ ih =>
    intro acc
    obtain ⟨a, b, c, d, rfl, hn⟩ := hquad
    obtain ⟨a', b', c', d', rfl, hn'⟩ := hquad'
    have hfirst : isTrailing lead = false := by
      simp only [isLeading, isTrailing, Bool.and_eq_true, decide_eq_true_eq] at hlead ⊢
      simp only [Bool.and_eq_false_iff, decide_eq_false_iff_not]
      omega
    have hend : quadEnd none a b c d = .ok (.halfway lead, []) := by
      simp [quadEnd, hn, hlead, hfirst]
    rw [List.cons_append, List.cons_append, stringOctets_escape, simpleEscape?_u]
    simp only [if_true, List.cons_append, List.nil_append]
    rw [stringOctets_digits, hend]
    simp only [List.reverse_nil, List.nil_append]
    rw [stringOctets_half, stringOctets_digits, quadEnd_pair hn' htrail]
    simp only
    rw [ih]
    simp

/-- What is read after the letter of an escape with digits. -/
theorem exists_quad {lead : Option Nat} {acc : Bytes} {result : Bytes × Bytes} :
    ∀ {octets : Bytes}, stringOctets (.digits lead []) acc octets = .ok result →
      ∃ a b c d rest place more, octets = a :: b :: c :: d :: rest ∧
        quadEnd lead a b c d = .ok (place, more) ∧
        stringOctets place (more.reverse ++ acc) rest = .ok result
  | [], h => by cases h
  | [_], h => by cases h
  | [_, _], h => by cases h
  | [_, _, _], h => by cases h
  | a :: b :: c :: d :: rest, h => by
    rw [stringOctets_digits] at h
    cases hend : quadEnd lead a b c d with
    | error fault =>
      rw [hend] at h
      cases h
    | ok ended =>
      rw [hend] at h
      exact ⟨a, b, c, d, rest, ended.1, ended.2, rfl, hend, h⟩

/-- What is read after the first half of a pair. -/
theorem exists_half {lead : Nat} {acc : Bytes} {result : Bytes × Bytes} :
    ∀ {octets : Bytes}, stringOctets (.halfway lead) acc octets = .ok result →
      ∃ rest, octets = 92 :: 117 :: rest ∧
        stringOctets (.digits (some lead) []) acc rest = .ok result
  | [], h => by cases h
  | b :: rest, h => by
    have hslash : b = 92 := by
      by_contra hb
      have hstep : stringStep (.halfway lead) b = .error .endOfHexEscape :=
        if_neg (by simpa using hb)
      rw [stringOctets_cons (fun h => absurd h.1 (by simp)), hstep] at h
      cases h
    subst hslash
    cases rest with
    | nil => cases h
    | cons c rest =>
      have hletter : c = 117 := by
        by_contra hc
        have hstep : stringStep (.halfEscaped lead) c = .error .endOfHexEscape :=
          if_neg (by simpa using hc)
        have hrest : stringOctets (.halfEscaped lead) acc (c :: rest) = .ok result := h
        rw [stringOctets_cons (fun h => absurd h.1 (by simp)), hstep] at hrest
        cases hrest
      subst hletter
      exact ⟨rest, rfl, h⟩

/-- **Units** of a literal: a text that stands for octets, whatever comes after it. -/
def IsUnit (octets text : Bytes) : Prop :=
  text ≠ [] ∧ ∀ more body, Spells more body → Spells (octets ++ more) (text ++ body)

/-- What is read after a backslash. -/
theorem exists_unit_of_escape {acc tail : Bytes} {result : Bytes × Bytes}
    (h : stringOctets .plain acc (92 :: tail) = .ok result) :
    ∃ octets text rest, IsUnit octets text ∧ 92 :: tail = text ++ rest ∧
      stringOctets .plain (octets.reverse ++ acc) rest = .ok result := by
  cases tail with
  | nil => cases h
  | cons c tail =>
    rw [stringOctets_escape] at h
    cases hshort : simpleEscape? c with
    | some octet =>
      rw [hshort] at h
      exact ⟨[octet], [92, c], tail, ⟨List.cons_ne_nil _ _, fun more body hspells =>
        .short c octet more body (mem_shortForms hshort) hspells⟩, rfl, h⟩
    | none =>
      rw [hshort] at h
      simp only at h
      split_ifs at h with hu
      subst hu
      obtain ⟨a, b, c, d, rest, place, found, rfl, hend, h⟩ := exists_quad h
      obtain ⟨n, hquad, htrail, ⟨hlead, rfl, rfl⟩ | ⟨hlead, rfl, rfl⟩⟩ := quad_of_quadEnd hend
      · -- a first half: the second one follows in an escape of its own
        obtain ⟨rest, rfl, h⟩ := exists_half h
        obtain ⟨a', b', c', d', rest, place, found, rfl, hend', h⟩ := exists_quad h
        obtain ⟨m, hquad', htrail', hplace, hfound⟩ := quad_of_quadEnd_some hend'
        rw [hplace, hfound] at h
        exact ⟨octetsOf (pairCode n m), [92, 117, a, b, c, d, 92, 117, a', b', c', d'], rest,
          ⟨List.cons_ne_nil _ _, fun more body hspells =>
            .pair n m _ _ more body hquad hquad' hlead htrail' hspells⟩, rfl, h⟩
      · exact ⟨octetsOf n, [92, 117, a, b, c, d], rest, ⟨List.cons_ne_nil _ _,
          fun more body hspells => .code n _ more body hquad hlead htrail hspells⟩, rfl, h⟩

/-- What is read inside a literal: its end, or a unit. -/
theorem exists_unit {acc octets : Bytes} {result : Bytes × Bytes}
    (h : stringOctets .plain acc octets = .ok result) :
    (∃ rest, octets = 34 :: rest ∧ result = (acc.reverse, rest)) ∨
      ∃ found text rest, IsUnit found text ∧ octets = text ++ rest ∧
        stringOctets .plain (found.reverse ++ acc) rest = .ok result := by
  cases octets with
  | nil => cases h
  | cons b tail =>
    by_cases hquote : b = 34
    · subst hquote
      cases h
      exact .inl ⟨tail, rfl, rfl⟩
    by_cases hslash : b = 92
    · subst hslash
      exact .inr (exists_unit_of_escape h)
    · have hnot : ¬ (Place.plain = .plain ∧ b = 34) := fun h => hquote h.2
      rw [stringOctets_cons hnot, stringStep_plain hslash] at h
      split_ifs at h with hcontrol
      exact .inr ⟨[b], [b], tail, ⟨List.cons_ne_nil _ _, fun more body hspells =>
        .plain b more body (UInt8.not_lt.mp hcontrol) hquote hslash hspells⟩, rfl, h⟩

/-- What the machine reads is spelled. -/
theorem exists_spells (octets : Bytes) : ∀ {acc out rest : Bytes},
    stringOctets .plain acc octets = .ok (out, rest) →
    ∃ more body, Spells more body ∧ octets = body ++ 34 :: rest ∧ out = acc.reverse ++ more := by
  -- a unit takes several octets, so that the recursion of the machine is no help here
  induction hlen : octets.length using Nat.strong_induction_on generalizing octets with
  | _ k ih =>
    intro acc out rest h
    rcases exists_unit h with ⟨tail, rfl, hresult⟩ | ⟨found, text, tail, ⟨hne, hunit⟩, rfl, hread⟩
    · cases hresult
      exact ⟨[], [], .nil, rfl, (List.append_nil _).symm⟩
    · have hpos := List.length_pos_of_ne_nil hne
      have hshorter : tail.length < k := by
        rw [← hlen, List.length_append]
        omega
      obtain ⟨more, body, hspells, rfl, rfl⟩ := ih _ hshorter tail rfl hread
      refine ⟨found ++ more, text ++ body, hunit more body hspells, ?_, ?_⟩
      · rw [List.append_assoc]
      · rw [List.reverse_append, List.reverse_reverse, List.append_assoc]

/-- **Literals**: a text is read exactly from its literals. -/
theorem string_eq_ok_iff {octets rest : Bytes} {text : String} :
    string octets = .ok (text, rest) ↔
      ∃ body, Spells (Bytes.ofText text) body ∧ octets = body ++ 34 :: rest := by
  constructor
  · intro h
    obtain ⟨⟨out, more⟩, hread, hend⟩ := exists_of_bind h
    simp only at hend
    cases hdecode : Utf8.decode out with
    | none =>
      rw [hdecode] at hend
      cases hend
    | some found =>
      rw [hdecode] at hend
      cases hend
      obtain ⟨more, body, hspells, hoctets, hout⟩ := exists_spells octets hread
      rw [Utf8.decode_eq_some_iff.mp hdecode, List.reverse_nil, List.nil_append] at hout
      exact ⟨body, hout ▸ hspells, hoctets⟩
  · rintro ⟨body, hspells, rfl⟩
    unfold string
    rw [bind_eq (stringOctets_of_spells hspells rest []), List.reverse_nil, List.nil_append]
    simp only [Utf8.decode_eq_some_iff.mpr rfl]

/-! ## Section 3: Literals that are passed over -/

/-- One round of the machine that only looks for the end. -/
theorem skipStringFrom_cons {place : Place} {b : UInt8} (h : ¬ (place = .plain ∧ b = 34))
    (rest : Bytes) : skipStringFrom place (b :: rest) =
      match skipStep place b with
      | .error fault => .error fault
      | .ok place => skipStringFrom place rest :=
  if_neg h

theorem skipStep_plain {b : UInt8} (hslash : b ≠ 92) :
    skipStep .plain b = if b < 32 then .error .controlCharacter else .ok .plain :=
  if_neg (by simpa using hslash)

theorem skipStringFrom_escape (b : UInt8) (rest : Bytes) :
    skipStringFrom .plain (92 :: b :: rest) =
      if (simpleEscape? b).isSome then skipStringFrom .plain rest
      else if b = 117 then skipStringFrom (.digits none []) rest else .error .invalidEscape := by
  have hslash : skipStringFrom .plain (92 :: b :: rest) = skipStringFrom .escaped (b :: rest) := rfl
  have hletter : skipStep .escaped b = if (simpleEscape? b).isSome then .ok .plain
      else if b == 117 then .ok (.digits none []) else .error .invalidEscape := rfl
  rw [hslash, skipStringFrom_cons (fun h => absurd h.1 (by decide)), hletter]
  simp only [beq_iff_eq]
  split_ifs <;> rfl

theorem skipStringFrom_digits (lead : Option Nat) (a b c d : UInt8) (rest : Bytes) :
    skipStringFrom (.digits lead []) (a :: b :: c :: d :: rest) =
      if (hexQuad? a b c d).isSome then skipStringFrom .plain rest
      else .error .invalidEscape := by
  have hread : skipStringFrom (.digits lead []) (a :: b :: c :: d :: rest)
      = skipStringFrom (.digits lead [c, b, a]) (d :: rest) := rfl
  have hlast : skipStep (.digits lead [c, b, a]) d
      = if (hexQuad? a b c d).isSome then .ok .plain else .error .invalidEscape := rfl
  rw [hread, skipStringFrom_cons (fun h => absurd h.1 (by simp)), hlast]
  split_ifs <;> rfl

/-- What is read after the letter of an escape with digits. -/
theorem exists_quad_of_skipStringFrom {lead : Option Nat} {rest : Bytes} :
    ∀ {octets : Bytes}, skipStringFrom (.digits lead []) octets = .ok rest →
      ∃ n digits more, octets = digits ++ more ∧ Quad n digits ∧
        skipStringFrom .plain more = .ok rest
  | [], h => by cases h
  | [_], h => by cases h
  | [_, _], h => by cases h
  | [_, _, _], h => by cases h
  | a :: b :: c :: d :: more, h => by
    rw [skipStringFrom_digits] at h
    split_ifs at h with hquad
    obtain ⟨n, hn⟩ := Option.isSome_iff_exists.mp hquad
    exact ⟨n, [a, b, c, d], more, rfl, ⟨a, b, c, d, rfl, hn⟩, h⟩

theorem skipString_of_isBody {body : Bytes} (h : IsBody body) (rest : Bytes) :
    skipStringFrom .plain (body ++ 34 :: rest) = .ok rest := by
  induction h with
  | nil => exact if_pos ⟨rfl, rfl⟩
  | plain b body hge hquote hslash _ ih =>
    rw [List.cons_append, skipStringFrom_cons (fun h => hquote h.2), skipStep_plain hslash,
      if_neg (UInt8.not_lt.mpr hge)]
    exact ih
  | short b octet body hmem _ ih =>
    rw [List.cons_append, List.cons_append, skipStringFrom_escape,
      simpleEscape?_of_mem hmem]
    exact ih
  | code n digits body hquad _ ih =>
    obtain ⟨a, b, c, d, rfl, hn⟩ := hquad
    rw [List.cons_append, List.cons_append, skipStringFrom_escape, simpleEscape?_u]
    simp only [Option.isSome_none, Bool.false_eq_true, if_false, if_true, List.cons_append,
      List.nil_append]
    rw [skipStringFrom_digits, hn]
    exact ih

theorem exists_body (octets : Bytes) : ∀ {rest : Bytes},
    skipStringFrom .plain octets = .ok rest →
    ∃ body, IsBody body ∧ octets = body ++ 34 :: rest := by
  induction hlen : octets.length using Nat.strong_induction_on generalizing octets with
  | _ k ih =>
    intro rest h
    cases octets with
    | nil => cases h
    | cons b tail =>
      by_cases hquote : b = 34
      · subst hquote
        cases h
        exact ⟨[], .nil, rfl⟩
      by_cases hslash : b = 92
      · subst hslash
        cases tail with
        | nil => cases h
        | cons c tail =>
          rw [skipStringFrom_escape] at h
          split_ifs at h with hshort hu
          · obtain ⟨octet, hoctet⟩ := Option.isSome_iff_exists.mp hshort
            obtain ⟨body, hbody, rfl⟩ := ih tail.length
              (by simp only [← hlen, List.length_cons]; omega) tail rfl h
            exact ⟨92 :: c :: body,
              .short c octet body (mem_shortForms hoctet) hbody, rfl⟩
          · subst hu
            obtain ⟨n, digits, more, rfl, hquad, h⟩ := exists_quad_of_skipStringFrom h
            obtain ⟨body, hbody, rfl⟩ := ih more.length
              (by simp only [← hlen, List.length_cons, List.length_append]; omega) more rfl h
            exact ⟨_, .code n digits body hquad hbody, by simp⟩
      · rw [skipStringFrom_cons (fun h => hquote h.2), skipStep_plain hslash] at h
        split_ifs at h with hcontrol
        obtain ⟨body, hbody, rfl⟩ := ih tail.length
          (by simp only [← hlen, List.length_cons]; omega) tail rfl h
        exact ⟨b :: body, .plain b body (UInt8.not_lt.mp hcontrol) hquote hslash hbody, rfl⟩

/-- **Skipped literals**: whatever is the inside of a literal is passed over, and nothing
    else. -/
theorem skipString_eq_ok_iff {octets rest : Bytes} :
    skipString octets = .ok rest ↔ ∃ body, IsBody body ∧ octets = body ++ 34 :: rest := by
  constructor
  · intro h
    exact exists_body octets h
  · rintro ⟨body, hbody, rfl⟩
    exact skipString_of_isBody hbody rest

end Json

end TelemetryRelay
