import TelemetryRelay.Proofs.Json.Elements
import TelemetryRelay.Proofs.Json.Numbers

/-! # Reading values

    A value without doubles is read from each of its texts, if it is `Portable`: its
    integers fit 64 bits, no object has two fields of one name, and its brackets are not
    nested too deep. Whatever is read as a value is JSON.
-/

namespace TelemetryRelay

namespace Json

open Results (exists_of_bind bind_eq)

/-! ## Section 1: Portable values -/

/-- Integers that fit 64 bits, with a sign or without one. -/
def FitsWord (i : Int) : Prop := -0x8000000000000000 ≤ i ∧ i < 0x10000000000000000

/-- **Portable** values, with no more than `levels` brackets open at once. -/
inductive Portable : Nat → Value → Prop
  | null (levels : Nat) : Portable levels .null
  | bool (levels : Nat) (b : Bool) : Portable levels (.bool b)
  | integer (levels : Nat) (i : Int) : FitsWord i → Portable levels (.number (.integer i))
  | string (levels : Nat) (s : String) : Portable levels (.string s)
  | array (levels : Nat) (items : List Value) : (∀ item ∈ items, Portable levels item) →
      Portable (levels + 1) (.array items)
  | object (levels : Nat) (fields : Fields) : (fields.map Prod.fst).Nodup →
      (∀ field ∈ fields, Portable levels field.2) → Portable (levels + 1) (.object fields)

/-- The texts of values that are read with this many brackets. -/
def PortableText (levels : Nat) (v : Value) (text : Bytes) : Prop :=
  Portable levels v ∧ Renders v text

/-! ## Section 2: Scalars -/

/-- What is no bracket is read as a scalar, on every level. -/
theorem value_scalar {gap : Bytes} {b : UInt8} (hgap : IsBlank gap) (hspace : isSpace b = false)
    (hlist : b ≠ 91) (hobject : b ≠ 123) (levels : Nat) (rest : Bytes) :
    value levels (gap ++ b :: rest) = scalar b rest := by
  cases levels with
  | zero =>
    rw [value, skipSpace_append_cons hgap hspace]
    simp only [beq_eq_false_iff_ne.mpr hlist, beq_eq_false_iff_ne.mpr hobject, Bool.or_self,
      Bool.false_eq_true, if_false]
  | succ levels =>
    rw [value, skipSpace_append_cons hgap hspace]
    simp only [beq_eq_false_iff_ne.mpr hlist, beq_eq_false_iff_ne.mpr hobject,
      Bool.false_eq_true, if_false]

/-- A number without a sign is read at its first digit. -/
theorem scalar_digit {b : UInt8} {rest after : Bytes} {n : Number}
    (hb : Bytes.isDigit b = true) (h : number false (b :: rest) = .ok (n, after)) :
    scalar b rest = .ok (.number n, after) := by
  have hne : ∀ c, Bytes.isDigit c = false → (b == c) = false := fun c hc =>
    beq_eq_false_iff_ne.mpr (ne_of_isDigit hb hc)
  rw [scalar]
  simp only [hne 110 (by decide), hne 116 (by decide), hne 102 (by decide), hne 45 (by decide),
    hb, Bool.false_eq_true, if_false, if_true]
  rw [bind_eq h]

/-- The text of a negative integer. -/
theorem ofText_negSucc (n : Nat) :
    Bytes.ofText (toString (Int.negSucc n)) = 45 :: Bytes.ofText (toString (n + 1)) := by
  have htext : toString (Int.negSucc n) = "-" ++ toString (n + 1) := rfl
  rw [htext, Bytes.ofText_append]
  rfl

/-- An integer is read from its text. -/
theorem value_integer {i : Int} (h : FitsWord i) {gap rest : Bytes} (hgap : IsBlank gap)
    (hrest : Delimited rest) (levels : Nat) :
    value levels (gap ++ (Bytes.ofText (toString i) ++ rest))
      = .ok (.number (.integer i), rest) := by
  cases i with
  | ofNat n =>
    have hbound : n < wordLimit := Int.ofNat_lt.mp h.2
    have hread : number false (Bytes.ofText (toString n) ++ rest)
        = .ok (signedInteger false n, rest) := number_toString hbound hrest
    obtain ⟨b, more, hcons, hb⟩ := exists_cons_toString n
    show value levels (gap ++ (Bytes.ofText (toString n) ++ rest)) = _
    rw [hcons, List.cons_append] at hread ⊢
    rw [value_scalar hgap (begins_of_isDigit hb).1 (ne_of_isDigit hb (by decide))
      (ne_of_isDigit hb (by decide)), scalar_digit hb hread]
    rfl
  | negSucc n =>
    have hbound : n + 1 ≤ 0x8000000000000000 := by have := h.1; omega
    have hread : number true (Bytes.ofText (toString (n + 1)) ++ rest)
        = .ok (signedInteger true (n + 1), rest) :=
      number_toString (by unfold wordLimit; omega) hrest
    have hsigned : signedInteger true (n + 1) = .integer (Int.negSucc n) := by
      rw [signedInteger, if_pos rfl, if_pos (by simp [hbound])]
      rfl
    rw [ofText_negSucc, List.cons_append, value_scalar hgap (by decide) (by decide) (by decide)]
    rw [hsigned] at hread
    exact bind_eq hread _

/-- A string is read from its literals. -/
theorem value_string {s : String} {literal gap rest : Bytes} (h : StringText s literal)
    (hgap : IsBlank gap) (levels : Nat) :
    value levels (gap ++ (literal ++ rest)) = .ok (.string s, rest) := by
  obtain ⟨body, hbody, rfl⟩ := h
  have hread : string (body ++ 34 :: rest) = .ok (s, rest) :=
    string_eq_ok_iff.mpr ⟨body, hbody, rfl⟩
  simp only [List.cons_append, List.append_assoc, List.nil_append]
  rw [value_scalar hgap (by decide) (by decide) (by decide)]
  exact bind_eq hread _

/-! ## Section 3: Values are read from their texts -/

theorem visible_renders : Visible Renders := by
  intro v text h
  cases h with
  | null => exact ⟨110, _, rfl, begins_of_const (by decide)⟩
  | true => exact ⟨116, _, rfl, begins_of_const (by decide)⟩
  | false => exact ⟨102, _, rfl, begins_of_const (by decide)⟩
  | integer i =>
    cases i with
    | ofNat n =>
      obtain ⟨b, more, hcons, hb⟩ := exists_cons_toString n
      exact ⟨b, more, hcons, begins_of_isDigit hb⟩
    | negSucc n => exact ⟨45, _, ofText_negSucc n, begins_of_const (by decide)⟩
  | string _ _ hliteral =>
    obtain ⟨body, -, rfl⟩ := hliteral
    exact ⟨34, _, rfl, begins_of_const (by decide)⟩
  | array items inner => exact ⟨91, _, rfl, begins_of_const (by decide)⟩
  | object fields inner => exact ⟨123, _, rfl, begins_of_const (by decide)⟩

theorem visible_portableText (levels : Nat) : Visible (PortableText levels) :=
  fun v text h => visible_renders v text h.2

/-- A field that is not there is added at the end. -/
theorem Fields.write_of_notMem {fields : Fields} {name : String} {v : Value}
    (h : name ∉ fields.map Prod.fst) : fields.write name v = fields ++ [(name, v)] := by
  induction fields with
  | nil => rfl
  | cons field fields ih =>
    rw [List.map_cons, List.mem_cons, not_or] at h
    rw [Fields.write, if_neg (by simpa using Ne.symm h.1), ih h.2, List.cons_append]

/-- What one field does to those before it. -/
def Writes (fields : Fields) (field : String × Value) (fields' : Fields) : Prop :=
  fields' = fields.write field.1 field.2

/-- Fields of different names are kept in their order. -/
theorem through_writes (back : Fields) : ∀ front : Fields,
    ((front ++ back).map Prod.fst).Nodup → Through Writes front back (front ++ back) := by
  induction back with
  | nil =>
    intro front _
    rw [List.append_nil]
    exact .nil front
  | cons field back ih =>
    intro front h
    have hnew : field.1 ∉ front.map Prod.fst := by
      rw [List.map_append, List.map_cons] at h
      exact fun hmem => (List.nodup_append.mp h).2.2 _ hmem _ List.mem_cons_self rfl
    have happend : front ++ field :: back = (front ++ [field]) ++ back := by simp
    rw [happend] at h ⊢
    exact .cons _ _ _ _ _ (Fields.write_of_notMem hnew).symm (ih _ h)

/-- How an object takes its next field. -/
def valueField (levels : Nat) (fields : Fields) (name : String) : Reader Fields := fun octets => do
  let ((), rest) ← colon octets
  let (v, rest) ← value levels rest
  .ok (fields.write name v, rest)

theorem value_list {gap : Bytes} (hgap : IsBlank gap) (levels : Nat) (rest : Bytes) :
    value (levels + 1) (gap ++ 91 :: rest) = (do
      let (items, rest) ← list (value levels) rest
      .ok (.array items, rest)) := by
  rw [value, skipSpace_append_cons hgap (by decide)]
  rfl

theorem value_object {gap : Bytes} (hgap : IsBlank gap) (levels : Nat) (rest : Bytes) :
    value (levels + 1) (gap ++ 123 :: rest) = (do
      let (fields, rest) ← openFields (valueField levels) [] rest
      let ((), rest) ← closeObject rest
      .ok (.object fields, rest)) := by
  rw [value, skipSpace_append_cons hgap (by decide)]
  rfl

theorem takes_valueField {levels : Nat} {form : Value → Bytes → Prop}
    (h : Reads (value levels) form) : Takes (valueField levels) form Writes := by
  intro fields name v fields' text between after rest hwrites hbetween hafter htext hrest
  rw [valueField, bind_eq (colon_append hbetween _)]
  simp only
  rw [bind_eq (h v text after rest hafter htext hrest), hwrites]

/-- A value that opens no bracket is read on every level. -/
theorem value_flat {v : Value} {text gap rest : Bytes} (hrenders : Renders v text)
    {levels : Nat} (hportable : Portable levels v) (hitems : v.items? = none)
    (hfields : v.fields? = none) (hgap : IsBlank gap) (hrest : Delimited rest) :
    value levels (gap ++ (text ++ rest)) = .ok (v, rest) := by
  cases hrenders with
  | null =>
    exact value_scalar hgap (by decide) (by decide) (by decide) levels _
  | true =>
    exact value_scalar hgap (by decide) (by decide) (by decide) levels _
  | false =>
    exact value_scalar hgap (by decide) (by decide) (by decide) levels _
  | integer i =>
    cases hportable with
    | integer _ _ hfits => exact value_integer hfits hgap hrest levels
  | string s _ hliteral => exact value_string hliteral hgap levels
  | array => cases hitems
  | object => cases hfields

/-- **Values** are read from their texts. -/
theorem reads_value (levels : Nat) : Reads (value levels) (PortableText levels) := by
  -- the induction is on the brackets that may still be opened, as the reader counts them
  induction levels with
  | zero =>
    rintro v text gap rest hgap ⟨hportable, hrenders⟩ hrest
    have hflat : v.items? = none ∧ v.fields? = none := by cases hportable <;> exact ⟨rfl, rfl⟩
    exact value_flat hrenders hportable hflat.1 hflat.2 hgap hrest
  | succ levels ih =>
    rintro v text gap rest hgap ⟨hportable, hrenders⟩ hrest
    cases hrenders with
    | null => exact value_flat .null hportable rfl rfl hgap hrest
    | true => exact value_flat .true hportable rfl rfl hgap hrest
    | false => exact value_flat .false hportable rfl rfl hgap hrest
    | integer i => exact value_flat (.integer i) hportable rfl rfl hgap hrest
    | string s _ hs => exact value_flat (.string s _ hs) hportable rfl rfl hgap hrest
    | array items inner hinner =>
      cases hportable with
      | array _ _ hitems =>
        have hread := list_append ih (visible_portableText levels)
          (hinner.imp fun item hmem _ htext => ⟨hitems item hmem, htext⟩) rest
        simp only [List.cons_append, List.append_assoc, List.nil_append]
        rw [value_list hgap, bind_eq hread]
    | object fields inner hinner =>
      cases hportable with
      | object _ _ hnames hvalues =>
        have hread := openFields_append (takes_valueField ih)
          (hinner.imp fun field hmem _ hfield =>
            hfield.imp fun _ htext => ⟨hvalues field hmem, htext⟩)
          (through_writes fields [] hnames) rest
        simp only [List.cons_append, List.append_assoc, List.nil_append]
        rw [value_object hgap, bind_eq hread]
        rfl

/-! ## Section 4: What is read as a value is JSON -/

section Sound

variable {α : Type}

/-- Elements that stand as values, after what comes before them in this bracket. -/
def Leads (bracket : Bracket) (form : α → Bytes → Prop) : Prop :=
  ∀ x before text, IsBlank before → form x text →
    ∃ lead inside, Lead bracket lead ∧ IsValue inside ∧ before ++ text = lead ++ inside

theorem leads_list : Leads .list fun _ : α => IsValue :=
  fun _ before text hbefore htext => ⟨before, text, .list before hbefore, htext, rfl⟩

theorem leads_object : Leads .object (Member fun _ : α => IsValue) := by
  rintro _ before _ hbefore ⟨name, _, between, after, x, text, ⟨body, hbody, rfl⟩, hbetween,
    hafter, htext⟩
  exact ⟨_, text, .object before body between after hbefore hbody.isBody hbetween hafter, htext,
    by simp⟩

variable {bracket : Bracket} {form : α → Bytes → Prop} {xs : List α}

theorem More.derives {more : Bytes} (hleads : Leads bracket form) (h : More form xs more) :
    Derives (.tail bracket) more := by
  induction h with
  | none gap hgap => exact .last bracket gap hgap
  | some gap before x text xs more hgap hbefore htext _ ih =>
    obtain ⟨lead, inside, hlead, hinside, heq⟩ := hleads x before text hbefore htext
    rw [← List.append_assoc before, heq, List.append_assoc]
    exact .next bracket gap lead inside more hgap hlead hinside ih

/-- What is between the brackets makes a value with them. -/
theorem Elements.isValue {inner : Bytes} (hleads : Leads bracket form)
    (h : Elements form xs inner) : IsValue (bracket.opener :: (inner ++ [bracket.closer])) := by
  cases h with
  | none gap hgap => exact .empty bracket inner hgap
  | some before x text xs more hbefore htext hmore =>
    obtain ⟨lead, inside, hlead, hinside, heq⟩ := hleads x before text hbefore htext
    rw [← List.append_assoc before, heq, List.append_assoc, List.append_assoc]
    exact .bracket bracket lead inside more hlead hinside (hmore.derives hleads)

end Sound

/-- What is read as a scalar, by its first octet and those that follow. -/
inductive ScalarRead (octets rest : Bytes) : UInt8 → Value → Prop
  | null : identNull octets = .ok ((), rest) → ScalarRead octets rest 110 .null
  | true : identTrue octets = .ok ((), rest) → ScalarRead octets rest 116 (.bool true)
  | false : identFalse octets = .ok ((), rest) → ScalarRead octets rest 102 (.bool false)
  | negative (n : Number) : number true octets = .ok (n, rest) →
      ScalarRead octets rest 45 (.number n)
  | positive (b : UInt8) (n : Number) : Bytes.isDigit b = true →
      number false (b :: octets) = .ok (n, rest) → ScalarRead octets rest b (.number n)
  | string (s : String) : string octets = .ok (s, rest) → ScalarRead octets rest 34 (.string s)

theorem scalarRead_of_scalar {b : UInt8} {octets rest : Bytes} {v : Value}
    (h : scalar b octets = .ok (v, rest)) : ScalarRead octets rest b v := by
  unfold scalar at h
  split_ifs at h with hnull htrue hfalse hminus hdigit hquote
  · obtain ⟨⟨u, after⟩, hword, hend⟩ := exists_of_bind h
    cases hend
    exact beq_iff_eq.mp hnull ▸ .null hword
  · obtain ⟨⟨u, after⟩, hword, hend⟩ := exists_of_bind h
    cases hend
    exact beq_iff_eq.mp htrue ▸ .true hword
  · obtain ⟨⟨u, after⟩, hword, hend⟩ := exists_of_bind h
    cases hend
    exact beq_iff_eq.mp hfalse ▸ .false hword
  · obtain ⟨⟨n, after⟩, hnumber, hend⟩ := exists_of_bind h
    cases hend
    exact beq_iff_eq.mp hminus ▸ .negative n hnumber
  · obtain ⟨⟨n, after⟩, hnumber, hend⟩ := exists_of_bind h
    cases hend
    exact .positive b n hdigit hnumber
  · obtain ⟨⟨s, after⟩, hstring, hend⟩ := exists_of_bind h
    cases hend
    exact beq_iff_eq.mp hquote ▸ .string s hstring

/-- What is read as a scalar is one. -/
theorem exists_of_scalar {b : UInt8} {octets rest : Bytes} {v : Value}
    (h : scalar b octets = .ok (v, rest)) :
    ∃ tail, IsValue (b :: tail) ∧ octets = tail ++ rest := by
  cases scalarRead_of_scalar h with
  | null hword => exact ⟨_, .null, eq_of_ident hword⟩
  | true hword => exact ⟨_, .true, eq_of_ident hword⟩
  | false hword => exact ⟨_, .false, eq_of_ident hword⟩
  | negative n hnumber =>
    obtain ⟨text, htext, hoctets⟩ := exists_of_number hnumber
    exact ⟨text, .negative text htext, hoctets⟩
  | positive _ n _ hnumber =>
    -- the first octet belongs to the number
    obtain ⟨text, htext, hoctets⟩ := exists_of_number hnumber
    obtain ⟨c, tail, rfl, -⟩ := htext.exists_cons
    obtain ⟨rfl, htail⟩ := List.cons.inj hoctets
    exact ⟨tail, .positive _ htext, htail⟩
  | string s hstring =>
    obtain ⟨body, hbody, rfl⟩ := string_eq_ok_iff.mp hstring
    exact ⟨body ++ [34], .string body hbody.isBody, by simp⟩

theorem takesOnly_valueField {levels : Nat} (h : ReadsOnly (value levels) fun _ => IsValue) :
    TakesOnly (valueField levels) (fun _ => IsValue) Writes := by
  intro fields name octets fields' rest hread
  obtain ⟨⟨u, after⟩, hcolon, hvalue⟩ := exists_of_bind hread
  obtain ⟨⟨v, more⟩, hvalue, hend⟩ := exists_of_bind hvalue
  cases hend
  obtain ⟨between, hbetween, rfl⟩ := exists_of_colon hcolon
  obtain ⟨gap, text, hgap, htext, hafter⟩ := h _ _ _ hvalue
  exact ⟨v, between, gap, text, hbetween, hgap, htext, rfl, congrArg (between ++ 58 :: ·) hafter⟩

/-- What is read as a value, from its first octet on. -/
inductive ValueRead (rest : Bytes) : Nat → Bytes → Value → Prop
  | scalar (levels : Nat) (b : UInt8) (more : Bytes) (v : Value) :
      scalar b more = .ok (v, rest) → ValueRead rest levels (b :: more) v
  | array (levels : Nat) (more : Bytes) (items : List Value) :
      list (value levels) more = .ok (items, rest) →
      ValueRead rest (levels + 1) (91 :: more) (.array items)
  | object (levels : Nat) (more after : Bytes) (fields : Fields) :
      openFields (valueField levels) [] more = .ok (fields, after) →
      closeObject after = .ok ((), rest) →
      ValueRead rest (levels + 1) (123 :: more) (.object fields)

theorem exists_valueRead {levels : Nat} {octets rest : Bytes} {v : Value}
    (h : value levels octets = .ok (v, rest)) :
    ∃ gap tail, IsBlank gap ∧ octets = gap ++ tail ∧ ValueRead rest levels tail v := by
  cases levels with
  | zero =>
    rw [value] at h
    split at h
    · cases h
    · next b more hskip =>
      obtain ⟨gap, hgap, rfl⟩ := exists_gap_of_skipSpace hskip
      split_ifs at h
      exact ⟨gap, b :: more, hgap, rfl, .scalar 0 b more v h⟩
  | succ levels =>
    rw [value] at h
    split at h
    · cases h
    · next b more hskip =>
      obtain ⟨gap, hgap, rfl⟩ := exists_gap_of_skipSpace hskip
      refine ⟨gap, b :: more, hgap, rfl, ?_⟩
      split_ifs at h with hlist hobject
      · obtain ⟨⟨items, after⟩, hread, hend⟩ := exists_of_bind h
        cases hend
        exact beq_iff_eq.mp hlist ▸ .array levels more items hread
      · obtain ⟨⟨fields, after⟩, hread, hend⟩ := exists_of_bind h
        obtain ⟨⟨u, tail⟩, hclose, hend⟩ := exists_of_bind hend
        cases hend
        exact beq_iff_eq.mp hobject ▸ .object levels more after fields hread hclose
      · exact .scalar (levels + 1) b more v h

/-- Nothing is read as a value but JSON. -/
theorem readsOnly_value (levels : Nat) : ReadsOnly (value levels) fun _ => IsValue := by
  induction levels with
  | zero =>
    intro octets v rest h
    obtain ⟨gap, tail, hgap, rfl, hread⟩ := exists_valueRead h
    cases hread with
    | scalar _ b more _ hscalar =>
      obtain ⟨tail, htail, rfl⟩ := exists_of_scalar hscalar
      exact ⟨gap, b :: tail, hgap, htail, rfl⟩
  | succ levels ih =>
    intro octets v rest h
    obtain ⟨gap, tail, hgap, rfl, hread⟩ := exists_valueRead h
    cases hread with
    | scalar _ b more _ hscalar =>
      obtain ⟨tail, htail, rfl⟩ := exists_of_scalar hscalar
      exact ⟨gap, b :: tail, hgap, htail, rfl⟩
    | array _ more items hlist =>
      obtain ⟨inner, hinner, rfl⟩ := exists_of_list ih hlist
      refine ⟨gap, _, hgap, hinner.isValue leads_list, ?_⟩
      simp [Bracket.opener, Bracket.closer]
    | object _ more after fields hopen hclose =>
      obtain ⟨members, inner, tail, hinner, -, rfl, rfl⟩ :=
        exists_of_openFields (takesOnly_valueField ih) hopen
      -- the reader of fields stops at the closing bracket
      have hend : Except.ok ((), tail) = .ok ((), rest) := hclose
      cases hend
      refine ⟨gap, _, hgap, hinner.isValue leads_object, ?_⟩
      simp [Bracket.opener, Bracket.closer]

end Json

end TelemetryRelay
