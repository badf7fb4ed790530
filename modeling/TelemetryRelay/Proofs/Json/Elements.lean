import TelemetryRelay.Proofs.Json.Strings

/-! # Reading what is between brackets

    The readers of arrays and of objects are loops over a reader of one element. This module
    lifts what is known of that reader to the loop, in both directions:

    - if it reads each element from its texts, all are read from theirs (`list_append`,
      `openFields_append`),
    - if it reads nothing but elements, there is nothing else between the brackets
      (`exists_of_list`, `exists_of_openFields`).

    The fields of an object are read into a state, which goes `Through` them in order.
-/

namespace TelemetryRelay

namespace Json

open Results (exists_of_bind bind_eq)

/-! ## Section 1: Elements -/

section Texts

variable {α : Type} {form form' : α → Bytes → Prop} {xs : List α}

/-- Texts that begin as values do. -/
def Visible (form : α → Bytes → Prop) : Prop :=
  ∀ x text, form x text → ∃ b more, text = b :: more ∧ Begins b

theorem visible_member : Visible (Member form) := by
  rintro _ _ ⟨name, literal, between, after, x, text, ⟨body, -, rfl⟩, -, -, -⟩
  exact ⟨34, _, rfl, begins_of_const (by decide)⟩

theorem Member.imp {member : String × α} {text : Bytes} (h : Member form member text)
    (himp : ∀ text, form member.2 text → form' member.2 text) : Member form' member text := by
  obtain ⟨name, literal, between, after, x, text, hname, hbetween, hafter, htext⟩ := h
  exact ⟨name, literal, between, after, x, text, hname, hbetween, hafter, himp text htext⟩

theorem More.length_le {more : Bytes} (h : More form xs more) : xs.length ≤ more.length := by
  induction h with
  | none => exact Nat.zero_le _
  | some gap before x text xs more _ _ _ _ ih =>
    simp only [List.length_cons, List.length_append]
    omega

theorem Elements.length_le {inner : Bytes} (hvisible : Visible form)
    (h : Elements form xs inner) : xs.length ≤ inner.length := by
  cases h with
  | none => exact Nat.zero_le _
  | some before x text xs more _ htext hmore =>
    have := hmore.length_le
    obtain ⟨b, tail, rfl, -⟩ := hvisible x text htext
    simp only [List.length_cons, List.length_append]
    omega

/-- The texts of elements may be weakened one by one. -/
theorem More.imp {more : Bytes} (h : More form xs more) :
    (∀ x ∈ xs, ∀ text, form x text → form' x text) → More form' xs more := by
  induction h with
  | none gap hgap => exact fun _ => .none gap hgap
  | some gap before x text xs more hgap hbefore htext _ ih =>
    intro himp
    obtain ⟨hhead, htail⟩ := List.forall_mem_cons.mp himp
    exact .some gap before x text xs more hgap hbefore (hhead text htext) (ih htail)

theorem Elements.imp {inner : Bytes} (h : Elements form xs inner)
    (himp : ∀ x ∈ xs, ∀ text, form x text → form' x text) : Elements form' xs inner := by
  cases h with
  | none gap hgap => exact .none inner hgap
  | some before x text xs more hbefore htext hmore =>
    obtain ⟨hhead, htail⟩ := List.forall_mem_cons.mp himp
    exact .some before x text xs more hbefore (hhead text htext) (hmore.imp htail)

/-- The texts of what is made of elements are their texts. -/
theorem More.map {β : Type} {f : β → α} {ys : List β} {more : Bytes}
    (h : More (fun y => form (f y)) ys more) : More form (ys.map f) more := by
  induction h with
  | none gap hgap => exact .none gap hgap
  | some gap before y text ys more hgap hbefore htext _ ih =>
    exact .some gap before (f y) text _ more hgap hbefore htext ih

theorem Elements.map {β : Type} {f : β → α} {ys : List β} {inner : Bytes}
    (h : Elements (fun y => form (f y)) ys inner) : Elements form (ys.map f) inner := by
  cases h with
  | none gap hgap => exact .none inner hgap
  | some before y text ys more hbefore htext hmore =>
    exact .some before (f y) text _ more hbefore htext hmore.map

/-- Blanks may stand after the last element. -/
theorem More.append_blank {more gap : Bytes} (h : More form xs more) (hgap : IsBlank gap) :
    More form xs (more ++ gap) := by
  induction h with
  | none front hfront => exact .none _ (hfront.append hgap)
  | some front before x text xs more hfront hbefore htext _ ih =>
    simp only [List.append_assoc, List.cons_append]
    exact .some front before x text xs _ hfront hbefore htext ih

/-- A comma or a bracket follows every element. -/
theorem More.delimited {more : Bytes} (h : More form xs more) {c : UInt8}
    (hc : c ∈ ([44, 93, 125] : Bytes)) (rest : Bytes) : Delimited (more ++ c :: rest) := by
  cases h with
  | none gap hgap => exact delimited_of_token hgap hc rest
  | some gap before x text xs more hgap =>
    rw [List.append_assoc]
    exact delimited_of_token hgap (by decide) _

end Texts

/-! ## Section 2: Arrays -/

section Arrays

variable {α : Type} {form : α → Bytes → Prop} {item : Reader α}

/-- A reader reads every element from its texts. -/
def Reads (item : Reader α) (form : α → Bytes → Prop) : Prop :=
  ∀ x text gap rest, IsBlank gap → form x text → Delimited rest →
    item (gap ++ (text ++ rest)) = .ok (x, rest)

/-- A reader reads nothing but elements. -/
def ReadsOnly (item : Reader α) (form : α → Bytes → Prop) : Prop :=
  ∀ octets x rest, item octets = .ok (x, rest) →
    ∃ gap text, IsBlank gap ∧ form x text ∧ octets = gap ++ (text ++ rest)

theorem nextItem_closing {gap : Bytes} (h : IsBlank gap) (first : Bool) (rest : Bytes) :
    nextItem first (gap ++ 93 :: rest) = .ok (.closing (93 :: rest)) := by
  rw [nextItem, skipSpace_append_cons h (by decide)]
  rfl

theorem nextItem_first {gap : Bytes} {b : UInt8} (h : IsBlank gap) (hb : Begins b)
    (rest : Bytes) : nextItem true (gap ++ b :: rest) = .ok (.more (b :: rest)) := by
  rw [nextItem, skipSpace_append_cons h hb.1]
  simp only [beq_iff_eq, if_neg (show b ≠ 93 from hb.2.2 .list), if_true]

theorem nextItem_comma {gap before : Bytes} {b : UInt8} (h : IsBlank gap)
    (hbefore : IsBlank before) (hb : Begins b) (rest : Bytes) :
    nextItem false (gap ++ 44 :: (before ++ b :: rest)) = .ok (.more (b :: rest)) := by
  rw [nextItem, skipSpace_append_cons h (by decide)]
  simp only [show ((44 : UInt8) == 93) = false from rfl, beq_self_eq_true, Bool.false_eq_true,
    if_false, if_true]
  rw [skipSpace_append_cons hbefore hb.1]
  simp only [beq_iff_eq, if_neg (show b ≠ 93 from hb.2.2 .list)]

/-- What is passed over on the way to the next element. -/
theorem exists_of_nextItem {first : Bool} {octets : Bytes} {step : Step}
    (h : nextItem first octets = .ok step) : ∃ gap, IsBlank gap ∧
      ((∃ rest, step = .closing (93 :: rest) ∧ octets = gap ++ 93 :: rest) ∨
        (first = true ∧ ∃ rest, step = .more rest ∧ octets = gap ++ rest) ∨
        (first = false ∧ ∃ before rest, IsBlank before ∧ step = .more rest ∧
          octets = gap ++ 44 :: (before ++ rest))) := by
  unfold nextItem at h
  split at h
  · cases h
  · next b more hskip =>
    obtain ⟨gap, hgap, rfl⟩ := exists_gap_of_skipSpace hskip
    refine ⟨gap, hgap, ?_⟩
    split_ifs at h with hclosing hfirst hcomma
    · cases h
      exact .inl ⟨more, by rw [beq_iff_eq.mp hclosing], by rw [beq_iff_eq.mp hclosing]⟩
    · cases h
      exact .inr (.inl ⟨hfirst, b :: more, rfl, rfl⟩)
    · split at h
      · cases h
      · next c rest hskip' =>
        split_ifs at h
        obtain ⟨before, hbefore, rfl⟩ := exists_gap_of_skipSpace hskip'
        cases h
        exact .inr (.inr ⟨Bool.eq_false_iff.mpr hfirst, before, c :: rest, hbefore, rfl,
          by rw [beq_iff_eq.mp hcomma]⟩)

/-- One more element. -/
theorem itemsFrom_cons {first : Bool} {octets before rest : Bytes} {x : α} (b : UInt8)
    (fuel : Bytes) (acc : List α) (hnext : nextItem first octets = .ok (.more before))
    (hitem : item before = .ok (x, rest)) :
    itemsFrom item (b :: fuel) first acc octets = itemsFrom item fuel false (x :: acc) rest := by
  rw [itemsFrom, hnext]
  simp only
  rw [hitem]

theorem itemsFrom_more (hitem : Reads item form) (hvisible : Visible form) {xs : List α}
    {more : Bytes} (h : More form xs more) (rest : Bytes) :
    ∀ fuel acc, xs.length < fuel.length → itemsFrom item fuel false acc (more ++ 93 :: rest)
      = .ok (acc.reverse ++ xs, 93 :: rest) := by
  induction h with
  | none gap hgap =>
    intro fuel acc hfuel
    obtain ⟨b, fuel, rfl⟩ := List.exists_cons_of_length_pos hfuel
    rw [itemsFrom, nextItem_closing hgap, List.append_nil]
  | some gap before x text xs more hgap hbefore htext hmore ih =>
    intro fuel acc hfuel
    obtain ⟨b, fuel, rfl⟩ := List.exists_cons_of_length_pos (Nat.zero_lt_of_lt hfuel)
    have hread := hitem x text [] _ isBlank_nil htext (hmore.delimited (c := 93) (by decide) rest)
    obtain ⟨c, tail, rfl, hc⟩ := hvisible x text htext
    simp only [List.append_assoc, List.cons_append, List.nil_append] at hread ⊢
    rw [itemsFrom_cons b fuel acc (nextItem_comma hgap hbefore hc _) hread,
      ih fuel (x :: acc) (Nat.lt_of_succ_lt_succ hfuel)]
    simp

/-- **Arrays** are read from their texts. -/
theorem list_append (hitem : Reads item form) (hvisible : Visible form) {xs : List α}
    {inner : Bytes} (h : Elements form xs inner) (rest : Bytes) :
    list item (inner ++ 93 :: rest) = .ok (xs, rest) := by
  have hfuel := h.length_le hvisible
  have hread : itemsFrom item (0 :: (inner ++ 93 :: rest)) true [] (inner ++ 93 :: rest)
      = .ok (xs, 93 :: rest) := by
    cases h with
    | none gap hgap => rw [itemsFrom, nextItem_closing hgap]; rfl
    | some before x text xs more hbefore htext hmore =>
      have hread := hitem x text [] _ isBlank_nil htext (hmore.delimited (c := 93) (by decide) rest)
      obtain ⟨c, tail, rfl, hc⟩ := hvisible x text htext
      simp only [List.length_append, List.length_cons, List.append_assoc, List.cons_append,
        List.nil_append] at hfuel hread ⊢
      rw [itemsFrom_cons 0 _ [] (nextItem_first hbefore hc _) hread,
        itemsFrom_more hitem hvisible hmore rest _ [x] (by simp; omega)]
      rfl
  rw [list, bind_eq hread]
  rfl

/-- What is read after the first element. -/
theorem exists_of_itemsFrom (hitem : ReadsOnly item form) {ys : List α} {rest : Bytes} :
    ∀ (fuel : Bytes) (acc : List α) (octets : Bytes),
      itemsFrom item fuel false acc octets = .ok (ys, rest) →
      ∃ xs more after, More form xs more ∧ ys = acc.reverse ++ xs ∧ rest = 93 :: after ∧
        octets = more ++ rest := by
  intro fuel
  induction fuel with
  | nil => exact fun _ _ h => nomatch h
  | cons b fuel ih =>
    intro acc octets h
    rw [itemsFrom] at h
    split at h
    · cases h
    · next closing hnext =>
      obtain ⟨gap, hgap, ⟨after, hclosing, rfl⟩ | ⟨hfirst, -⟩ | ⟨-, _, _, _, hmore, -⟩⟩ :=
        exists_of_nextItem hnext
      · cases hclosing
        cases h
        exact ⟨[], gap, after, .none gap hgap, (List.append_nil _).symm, rfl, rfl⟩
      · cases hfirst
      · cases hmore
    · next front hnext =>
      obtain ⟨gap, hgap, ⟨_, hclosing, -⟩ | ⟨hfirst, -⟩ | ⟨-, before, _, hbefore, hmore, rfl⟩⟩ :=
        exists_of_nextItem hnext
      · cases hclosing
      · cases hfirst
      · cases hmore
        split at h
        · cases h
        · next x tail hread =>
          obtain ⟨front', text, hfront, htext, rfl⟩ := hitem _ _ _ hread
          obtain ⟨xs, more, after, hxs, rfl, rfl, rfl⟩ := ih _ _ h
          refine ⟨x :: xs, _, after,
            .some gap (before ++ front') x text xs more hgap (hbefore.append hfront) htext hxs,
            ?_, rfl, ?_⟩
          · simp
          · simp

/-- Nothing else is between the brackets of an array that is read. -/
theorem exists_of_list (hitem : ReadsOnly item form) {xs : List α} {octets rest : Bytes}
    (h : list item octets = .ok (xs, rest)) :
    ∃ inner, Elements form xs inner ∧ octets = inner ++ 93 :: rest := by
  obtain ⟨⟨ys, more⟩, hread, hend⟩ := exists_of_bind h
  suffices hsuffices : ∃ inner after, Elements form ys inner ∧ more = 93 :: after ∧
      octets = inner ++ more by
    obtain ⟨inner, after, hinner, rfl, rfl⟩ := hsuffices
    have hclose : Except.ok (ys, after) = .ok (xs, rest) := hend
    cases hclose
    exact ⟨inner, hinner, rfl⟩
  rw [itemsFrom] at hread
  split at hread
  · cases hread
  · next closing hnext =>
    obtain ⟨gap, hgap, ⟨after, hclosing, rfl⟩ | ⟨-, _, hmore, -⟩ | ⟨hfirst, -⟩⟩ :=
      exists_of_nextItem hnext
    · cases hclosing
      cases hread
      exact ⟨gap, after, .none gap hgap, rfl, rfl⟩
    · cases hmore
    · cases hfirst
  · next front hnext =>
    obtain ⟨gap, hgap, ⟨_, hclosing, -⟩ | ⟨-, _, hmore, rfl⟩ | ⟨hfirst, -⟩⟩ :=
      exists_of_nextItem hnext
    · cases hclosing
    · cases hmore
      split at hread
      · cases hread
      · next x tail hitem' =>
        obtain ⟨front', text, hfront, htext, rfl⟩ := hitem _ _ _ hitem'
        obtain ⟨xs, more, after, hxs, rfl, rfl, rfl⟩ := exists_of_itemsFrom hitem _ _ _ hread
        refine ⟨_, after, .some (gap ++ front') x text xs more (hgap.append hfront) htext hxs,
          rfl, ?_⟩
        simp
    · cases hfirst

end Arrays

/-! ## Section 3: Objects -/

/-- **Through** elements: a state that each of them changes in turn. -/
inductive Through {σ β : Type} (step : σ → β → σ → Prop) : σ → List β → σ → Prop
  | nil (s : σ) : Through step s [] s
  | cons (s s' t : σ) (x : β) (xs : List β) : step s x s' → Through step s' xs t →
      Through step s (x :: xs) t

section Objects

variable {σ α : Type} {form : α → Bytes → Prop} {step : σ → String × α → σ → Prop}
  {field : σ → String → Reader σ}

/-- After its name, a field is read from the texts of its value. -/
def Takes (field : σ → String → Reader σ) (form : α → Bytes → Prop)
    (step : σ → String × α → σ → Prop) : Prop :=
  ∀ s name x s' text between after rest, step s (name, x) s' → IsBlank between →
    IsBlank after → form x text → Delimited rest →
    field s name (between ++ 58 :: (after ++ (text ++ rest))) = .ok (s', rest)

/-- Nothing is read as a field but a colon and a value. -/
def TakesOnly (field : σ → String → Reader σ) (form : α → Bytes → Prop)
    (step : σ → String × α → σ → Prop) : Prop :=
  ∀ s name octets s' rest, field s name octets = .ok (s', rest) →
    ∃ x between after text, IsBlank between ∧ IsBlank after ∧ form x text ∧
      step s (name, x) s' ∧ octets = between ++ 58 :: (after ++ (text ++ rest))

theorem nextField_closing {gap : Bytes} (h : IsBlank gap) (first : Bool) (rest : Bytes) :
    nextField first (gap ++ 125 :: rest) = .ok (.closing (125 :: rest)) := by
  rw [nextField, skipSpace_append_cons h (by decide)]
  rfl

theorem nextField_first {gap : Bytes} (h : IsBlank gap) (rest : Bytes) :
    nextField true (gap ++ 34 :: rest) = .ok (.more rest) := by
  rw [nextField, skipSpace_append_cons h (by decide)]
  rfl

theorem nextField_comma {gap before : Bytes} (h : IsBlank gap) (hbefore : IsBlank before)
    (rest : Bytes) : nextField false (gap ++ 44 :: (before ++ 34 :: rest)) = .ok (.more rest) := by
  rw [nextField, skipSpace_append_cons h (by decide)]
  simp only [show ((44 : UInt8) == 125) = false from rfl, beq_self_eq_true, Bool.false_eq_true,
    if_false, if_true]
  rw [skipSpace_append_cons hbefore (by decide)]
  rfl

/-- What is passed over on the way to the name of the next field. -/
theorem exists_of_nextField {first : Bool} {octets : Bytes} {place : Step}
    (h : nextField first octets = .ok place) : ∃ gap, IsBlank gap ∧
      ((∃ rest, place = .closing (125 :: rest) ∧ octets = gap ++ 125 :: rest) ∨
        (first = true ∧ ∃ rest, place = .more rest ∧ octets = gap ++ 34 :: rest) ∨
        (first = false ∧ ∃ before rest, IsBlank before ∧ place = .more rest ∧
          octets = gap ++ 44 :: (before ++ 34 :: rest))) := by
  unfold nextField at h
  split at h
  · cases h
  · next b more hskip =>
    obtain ⟨gap, hgap, rfl⟩ := exists_gap_of_skipSpace hskip
    refine ⟨gap, hgap, ?_⟩
    split_ifs at h with hclosing hfirst hquote hcomma
    · cases h
      exact .inl ⟨more, by rw [beq_iff_eq.mp hclosing], by rw [beq_iff_eq.mp hclosing]⟩
    · cases h
      exact .inr (.inl ⟨hfirst, more, rfl, by rw [beq_iff_eq.mp hquote]⟩)
    · split at h
      · cases h
      · next c rest hskip' =>
        split_ifs at h with hquote
        obtain ⟨before, hbefore, rfl⟩ := exists_gap_of_skipSpace hskip'
        cases h
        exact .inr (.inr ⟨Bool.eq_false_iff.mpr hfirst, before, rest, hbefore, rfl,
          by rw [beq_iff_eq.mp hcomma, beq_iff_eq.mp hquote]⟩)

/-- One more field. -/
theorem fieldsFrom_cons {first : Bool} {octets before after rest : Bytes} {s s' : σ}
    {name : String} (b : UInt8) (fuel : Bytes)
    (hnext : nextField first octets = .ok (.more before))
    (hname : string before = .ok (name, after)) (hfield : field s name after = .ok (s', rest)) :
    fieldsFrom field (b :: fuel) first s octets = fieldsFrom field fuel false s' rest := by
  rw [fieldsFrom, hnext]
  simp only
  rw [hname]
  simp only
  rw [hfield]

theorem fieldsFrom_more (hfield : Takes field form step) {xs : List (String × α)}
    {more : Bytes} (h : More (Member form) xs more) (rest : Bytes) : ∀ fuel s t,
      Through step s xs t → xs.length < fuel.length →
      fieldsFrom field fuel false s (more ++ 125 :: rest) = .ok (t, 125 :: rest) := by
  induction h with
  | none gap hgap =>
    intro fuel s t hthrough hfuel
    obtain ⟨b, fuel, rfl⟩ := List.exists_cons_of_length_pos hfuel
    cases hthrough
    rw [fieldsFrom, nextField_closing hgap]
  | some gap before x text xs more hgap hbefore htext hmore ih =>
    intro fuel s t hthrough hfuel
    obtain ⟨b, fuel, rfl⟩ := List.exists_cons_of_length_pos (Nat.zero_lt_of_lt hfuel)
    obtain ⟨name, literal, between, after, x, text, ⟨body, hbody, rfl⟩, hbetween, hafter, hx⟩ :=
      htext
    cases hthrough with
    | cons _ s' _ _ _ hstep hthrough =>
      have hread := hfield s name x s' text between after _ hstep hbetween hafter hx
        (hmore.delimited (c := 125) (by decide) rest)
      have hname : string (body ++ 34 :: (between ++ 58 :: (after ++ (text ++
          (more ++ 125 :: rest))))) = .ok (name, _) := string_eq_ok_iff.mpr ⟨body, hbody, rfl⟩
      simp only [List.append_assoc, List.cons_append, List.nil_append]
      rw [fieldsFrom_cons b fuel (nextField_comma hgap hbefore _) hname hread]
      exact ih fuel s' t hthrough (Nat.lt_of_succ_lt_succ hfuel)

/-- **Fields** are read from their texts, up to the closing bracket. -/
theorem openFields_append (hfield : Takes field form step) {xs : List (String × α)}
    {inner : Bytes} (h : Elements (Member form) xs inner) {s t : σ}
    (hthrough : Through step s xs t) (rest : Bytes) :
    openFields field s (inner ++ 125 :: rest) = .ok (t, 125 :: rest) := by
  have hfuel := h.length_le visible_member
  rw [openFields]
  cases h with
  | none gap hgap =>
    cases hthrough
    rw [fieldsFrom, nextField_closing hgap]
  | some before x text xs more hbefore htext hmore =>
    obtain ⟨name, literal, between, after, x, text, ⟨body, hbody, rfl⟩, hbetween, hafter, hx⟩ :=
      htext
    cases hthrough with
    | cons _ s' _ _ _ hstep hthrough =>
      have hread := hfield s name x s' text between after _ hstep hbetween hafter hx
        (hmore.delimited (c := 125) (by decide) rest)
      have hname : string (body ++ 34 :: (between ++ 58 :: (after ++ (text ++
          (more ++ 125 :: rest))))) = .ok (name, _) := string_eq_ok_iff.mpr ⟨body, hbody, rfl⟩
      simp only [List.length_append, List.length_cons, List.append_assoc, List.cons_append,
        List.nil_append] at hfuel ⊢
      rw [fieldsFrom_cons 0 _ (nextField_first hbefore _) hname hread]
      exact fieldsFrom_more hfield hmore rest _ s' t hthrough (by simp; omega)

/-- What is read as one more field. -/
theorem exists_of_field (hfield : TakesOnly field form step) {s s' : σ} {name : String}
    {octets after rest : Bytes} (hname : string octets = .ok (name, after))
    (h : field s name after = .ok (s', rest)) : ∃ x text, Member form (name, x) (34 :: text) ∧
      step s (name, x) s' ∧ octets = text ++ rest := by
  obtain ⟨body, hbody, rfl⟩ := string_eq_ok_iff.mp hname
  obtain ⟨x, between, after, text, hbetween, hafter, hx, hstep, rfl⟩ := hfield _ _ _ _ _ h
  refine ⟨x, body ++ 34 :: (between ++ 58 :: (after ++ text)), ?_, hstep, by simp⟩
  have := Member.mk name _ between after x text ⟨body, hbody, rfl⟩ hbetween hafter hx
  simpa using this

/-- What is read after the first field. -/
theorem exists_of_fieldsFrom (hfield : TakesOnly field form step) {t : σ} {rest : Bytes} :
    ∀ (fuel : Bytes) (s : σ) (octets : Bytes),
      fieldsFrom field fuel false s octets = .ok (t, rest) →
      ∃ xs more after, More (Member form) xs more ∧ Through step s xs t ∧
        rest = 125 :: after ∧ octets = more ++ rest := by
  intro fuel
  induction fuel with
  | nil => exact fun _ _ h => nomatch h
  | cons b fuel ih =>
    intro s octets h
    rw [fieldsFrom] at h
    split at h
    · cases h
    · next closing hnext =>
      obtain ⟨gap, hgap, ⟨after, hclosing, rfl⟩ | ⟨hfirst, -⟩ | ⟨-, _, _, _, hmore, -⟩⟩ :=
        exists_of_nextField hnext
      · cases hclosing
        cases h
        exact ⟨[], gap, after, .none gap hgap, .nil _, rfl, rfl⟩
      · cases hfirst
      · cases hmore
    · next front hnext =>
      obtain ⟨gap, hgap, ⟨_, hclosing, -⟩ | ⟨hfirst, -⟩ | ⟨-, before, _, hbefore, hmore, rfl⟩⟩ :=
        exists_of_nextField hnext
      · cases hclosing
      · cases hfirst
      · cases hmore
        split at h
        · cases h
        · next name tail hname =>
          split at h
          · cases h
          · next s' tail hread =>
            obtain ⟨x, text, hmember, hstep, rfl⟩ := exists_of_field hfield hname hread
            obtain ⟨xs, more, after, hxs, hthrough, rfl, rfl⟩ := ih _ _ h
            exact ⟨(name, x) :: xs, _, after, .some gap before _ _ xs more hgap hbefore hmember hxs,
              .cons _ _ _ _ _ hstep hthrough, rfl, by simp⟩

/-- Nothing else is between the brackets of an object that is read. -/
theorem exists_of_openFields (hfield : TakesOnly field form step) {s t : σ}
    {octets rest : Bytes} (h : openFields field s octets = .ok (t, rest)) :
    ∃ xs inner after, Elements (Member form) xs inner ∧ Through step s xs t ∧
      rest = 125 :: after ∧ octets = inner ++ rest := by
  rw [openFields, fieldsFrom] at h
  split at h
  · cases h
  · next closing hnext =>
    obtain ⟨gap, hgap, ⟨after, hclosing, rfl⟩ | ⟨-, _, hmore, -⟩ | ⟨hfirst, -⟩⟩ :=
      exists_of_nextField hnext
    · cases hclosing
      cases h
      exact ⟨[], gap, after, .none gap hgap, .nil _, rfl, rfl⟩
    · cases hmore
    · cases hfirst
  · next front hnext =>
    obtain ⟨gap, hgap, ⟨_, hclosing, -⟩ | ⟨-, _, hmore, rfl⟩ | ⟨hfirst, -⟩⟩ :=
      exists_of_nextField hnext
    · cases hclosing
    · cases hmore
      split at h
      · cases h
      · next name tail hname =>
        split at h
        · cases h
        · next s' tail hread =>
          obtain ⟨x, text, hmember, hstep, rfl⟩ := exists_of_field hfield hname hread
          obtain ⟨xs, more, after, hxs, hthrough, rfl, rfl⟩ :=
            exists_of_fieldsFrom hfield _ _ _ h
          exact ⟨(name, x) :: xs, _, after, .some gap _ _ xs more hgap hmember hxs,
            .cons _ _ _ _ _ hstep hthrough, rfl, by simp⟩
    · cases hfirst

end Objects

end Json

end TelemetryRelay
