import Mathlib.Data.List.TakeWhile
import TelemetryRelay.Proofs.Http.Exchanges
import TelemetryRelay.Proofs.Text.Encoding

/-! # Addresses of ports

    What runs beside the relay is reached at a port of a host. This module shows that
    nothing is wrong with an address of this form:

    - it is read as the scheme, the host, the port, the path and the query it is made of,
      where the port is left out if it is the standard one,
    - it is the target of a request exactly if it is not too long for one,
    - hence a draft for it is sent, unless a header or a proxy stands in the way.

    All of this holds for every port, and for all paths and queries that need no encoding.
    The host can be any name of small letters that is one; `localhost` is.
-/

namespace TelemetryRelay

namespace Http

/-! ## Section 1: Characters and their octets -/

/-- What holds for the characters below 127 holds for all that may stand in an address. -/
theorem forall_plain {P : Char → Prop} (h : ∀ n < 127, P (Char.ofNat n)) {c : Char}
    (hplain : isPlain c = true) : P c := by
  have hlt : c.toNat < 127 := by
    simp only [isPlain, Bool.and_eq_true, decide_eq_true_eq] at hplain
    exact hplain.2
  have hc := h c.toNat hlt
  rwa [Char.ofNat_toNat] at hc

/-- The octet of a character that is ASCII. -/
def octetOf (c : Char) : UInt8 := UInt8.ofNat c.toNat

/-- Characters that may stand in an address have one octet each. -/
theorem flatMap_utf8EncodeChar_of_plain : ∀ {chars : List Char},
    (∀ c ∈ chars, isPlain c = true) → chars.flatMap String.utf8EncodeChar = chars.map octetOf
  | [], _ => rfl
  | c :: rest, h => by
    have hone : String.utf8EncodeChar c = [octetOf c] :=
      forall_plain (P := fun c => String.utf8EncodeChar c = [octetOf c]) (by decide)
        (h c List.mem_cons_self)
    rw [List.flatMap_cons, hone,
      flatMap_utf8EncodeChar_of_plain fun d hmem => h d (List.mem_cons_of_mem _ hmem)]
    rfl

theorem ofText_of_plain {text : String} (h : ∀ c ∈ text.toList, isPlain c = true) :
    Bytes.ofText text = text.toList.map octetOf := by
  rw [← flatMap_utf8EncodeChar_of_plain h, Bytes.ofText_eq_flatMap]

/-- Each of these octets is a character by itself. -/
theorem piecesFrom_of_plain : ∀ {chars : List Char} (acc : List (Option Char)),
    (∀ c ∈ chars, isPlain c = true) →
      Utf8.piecesFrom (chars.map octetOf) none acc = acc.reverse ++ chars.map some
  | [], acc, _ => (List.append_nil _).symm
  | c :: rest, acc, h => by
    obtain ⟨hlt, hback⟩ : octetOf c < 128 ∧ Char.ofNat (octetOf c).toNat = c :=
      forall_plain (P := fun c => octetOf c < 128 ∧ Char.ofNat (octetOf c).toNat = c)
        (by decide) (h c List.mem_cons_self)
    have hone : Utf8.opening (octetOf c) = .whole c := by
      rw [Utf8.opening, if_pos hlt, hback]
    rw [List.map_cons, Utf8.piecesFrom]
    simp only [hone]
    rw [piecesFrom_of_plain _ fun d hmem => h d (List.mem_cons_of_mem _ hmem)]
    simp

/-- Such octets are text. -/
theorem isSome_decode_of_plain {chars : List Char} (h : ∀ c ∈ chars, isPlain c = true) :
    (Utf8.decode (chars.map octetOf)).isSome = true := by
  unfold Utf8.decode Utf8.pieces
  rw [piecesFrom_of_plain [] h, List.reverse_nil, List.nil_append,
    Utf8.wholeFrom_map_some]
  rfl

/-- A text that needs no encoding is not encoded. -/
theorem percentEncode_of_kept {isKept : Char → Bool} {chars : List Char}
    (h : ∀ c ∈ chars, isKept c = true) : percentEncode isKept chars = chars := by
  induction chars with
  | nil => rfl
  | cons c rest ih =>
    unfold percentEncode at ih ⊢
    rw [List.flatMap_cons, if_pos (h c List.mem_cons_self),
      ih fun c hmem => h c (List.mem_cons_of_mem _ hmem)]
    rfl

/-- A text without blanks is not wrapped. -/
theorem unwrapped_of_plain {text : String} (h : ∀ c ∈ text.toList, isPlain c = true) :
    unwrapped text = text.toList := by
  have hinside (c : Char) (hmem : c ∈ text.toList) :
      ¬ c.toNat ≤ 32 ∧ !(['\t', '\n', '\r'].contains c) :=
    forall_plain (P := fun c => isPlain c = true →
      ¬ c.toNat ≤ 32 ∧ !(['\t', '\n', '\r'].contains c)) (by decide) (h c hmem) (h c hmem)
  have hkeep (chars : List Char) (hsub : ∀ c ∈ chars, c ∈ text.toList) :
      chars.dropWhile (fun c => decide (c.toNat ≤ 32)) = chars := by
    rw [List.dropWhile_eq_self_iff]
    intro hbound
    simpa using (hinside _ (hsub _ (List.getElem_mem hbound))).1
  unfold unwrapped
  simp only
  rw [hkeep _ fun _ hmem => hmem, hkeep _ fun _ hmem => List.mem_reverse.mp hmem,
    List.reverse_reverse]
  exact List.filter_eq_self.mpr fun c hmem => (hinside c hmem).2

/-- A character that has a property is none that does not. -/
theorem ne_of_not {P : Char → Prop} {c mark : Char} (h : P c) (hmark : ¬ P mark) : c ≠ mark :=
  fun heq => hmark (heq ▸ h)

/-- What is accepted up to what is not. -/
theorem takeWhile_append_cons {α : Type} {p : α → Bool} {front rest : List α} {stop : α}
    (h : ∀ a ∈ front, p a = true) (hstop : p stop = false) :
    (front ++ stop :: rest).takeWhile p = front := by
  rw [List.takeWhile_append_of_pos h, List.takeWhile_cons_of_neg (by simp [hstop]),
    List.append_nil]

/-! ## Section 2: The name of this computer -/

open Text (directionRows direction rangeValue? rows rowsOfLine fold? fold?_ascii)

/-- A small letter. -/
def IsSmall (c : Char) : Prop := 97 ≤ c.toNat ∧ c.toNat ≤ 122

instance (c : Char) : Decidable (IsSmall c) := inferInstanceAs (Decidable (_ ∧ _))

theorem forall_small {chars : List Char} (h : chars.all (fun c => decide (IsSmall c)) = true) :
    ∀ c ∈ chars, IsSmall c :=
  fun c hmem => of_decide_eq_true (List.all_eq_true.mp h c hmem)

/-- Whether a row of the table is about none of the small letters. -/
def isBesideLetters : List Nat → Bool
  | [first, last, _] => last < 97 || 122 < first
  | _ => true

theorem all_rows {isFine : List Nat → Bool} {lines : List String}
    (h : ∀ line ∈ lines, (rowsOfLine line).all isFine = true) :
    (rows lines).all isFine = true := by
  rw [rows, List.all_flatMap, List.all_eq_true]
  exact h

/-- The table of directions is about none of the small letters. Each of its lines is read
    as the characters it is made of. -/
theorem directionRows_beside : directionRows.all isBesideLetters = true := by
  unfold directionRows
  apply all_rows
  repeat'
    refine List.forall_mem_cons.mpr ⟨by rw [rowsOfLine, String.toList_ofList]; decide +kernel, ?_⟩
  exact nofun

theorem rangeValue?_of_beside {n : Nat} (hfirst : 97 ≤ n) (hlast : n ≤ 122) :
    ∀ {row : List Nat}, isBesideLetters row = true → rangeValue? n row = none
  | [first, last, value], h => by
    simp only [isBesideLetters, Bool.or_eq_true, decide_eq_true_eq] at h
    rw [rangeValue?, if_neg]
    simp only [Bool.and_eq_true, decide_eq_true_eq]
    omega
  | [], _ | [_], _ | [_, _], _ | _ :: _ :: _ :: _ :: _, _ => rfl

theorem direction_of_small {c : Char} (h : IsSmall c) : direction c = .leftToRight := by
  have hnone : directionRows.findSome? (rangeValue? c.toNat) = none := by
    rw [List.findSome?_eq_none_iff]
    intro row hmem
    exact rangeValue?_of_beside h.1 h.2 (List.all_eq_true.mp directionRows_beside row hmem)
  rw [direction, hnone]
  rfl

theorem fold?_of_small {c : Char} (h : IsSmall c) : fold? c = some [c] := by
  have hlower : c.toLower = c := by
    have hsmall : ∀ n < 123, 97 ≤ n → (Char.ofNat n).toLower = Char.ofNat n := by decide
    have hc := hsmall c.toNat (Nat.lt_succ_of_le h.2) h.1
    rwa [Char.ofNat_toNat] at hc
  rw [fold?_ascii c (Nat.lt_of_le_of_lt h.2 (by decide)), hlower]

/-- A name of small letters is one label. -/
theorem labelsOf_of_small : ∀ {chars : List Char}, (∀ c ∈ chars, IsSmall c) →
    DomainName.labelsOf chars = [chars]
  | [], _ => rfl
  | c :: rest, h => by
    have hdot : c ≠ '.' := by
      rintro rfl
      exact absurd (h '.' List.mem_cons_self) (by decide)
    have hrest := labelsOf_of_small fun d hmem => h d (List.mem_cons_of_mem _ hmem)
    unfold DomainName.labelsOf at hrest ⊢
    rw [List.foldr_cons, hrest, if_neg hdot]

theorem isAscii_of_small {chars : List Char} (h : ∀ c ∈ chars, IsSmall c) :
    chars.all DomainName.isAscii = true := by
  rw [List.all_eq_true]
  intro c hmem
  exact decide_eq_true (Nat.lt_of_le_of_lt (h c hmem).2 (by decide))

/-- Folding leaves a name of small letters as it is. -/
theorem foldedLabels_of_small {chars : List Char} (h : ∀ c ∈ chars, IsSmall c) :
    DomainName.foldedLabels chars = some [chars] := by
  have hfold : chars.mapM fold? = some (chars.map fun c => [c]) := by
    induction chars with
    | nil => rfl
    | cons c rest ih =>
      rw [List.mapM_cons, fold?_of_small (h c List.mem_cons_self),
        ih fun d hmem => h d (List.mem_cons_of_mem _ hmem)]
      rfl
  have hflat : (chars.map fun c => [c]).flatten = chars := by
    rw [← List.flatMap_def, List.flatMap_singleton']
  rw [DomainName.foldedLabels, hfold, Option.map_some, isAscii_of_small h, if_pos rfl, hflat,
    labelsOf_of_small h]

/-- Such a name is well formed as a label. -/
theorem isWellFormed_of_small {chars : List Char} (h : ∀ c ∈ chars, IsSmall c) :
    DomainName.isWellFormed ⟨chars, chars⟩ = true := by
  have hallowed : chars.all DomainName.isAllowed = true := by
    rw [List.all_eq_true]
    intro c hmem
    have hsmall : ∀ n < 123, 97 ≤ n → DomainName.isAllowed (Char.ofNat n) = true := by decide
    have hc := hsmall c.toNat (Nat.lt_succ_of_le (h c hmem).2) (h c hmem).1
    rwa [Char.ofNat_toNat] at hc
  rw [DomainName.isWellFormed, hallowed, isAscii_of_small h]
  rfl

/-- A name of small letters is its own form. -/
theorem asciiForm_of_small {chars : List Char} (h : ∀ c ∈ chars, IsSmall c)
    (hmark : DomainName.mark.isPrefixOf chars = false) :
    DomainName.asciiForm chars = some chars := by
  have hread : DomainName.readLabel chars = some ⟨chars, chars⟩ := by
    rw [DomainName.readLabel, if_pos (isAscii_of_small h), hmark]
    rfl
  have hleft : chars.any DomainName.isRightToLeft = false := by
    rw [List.any_eq_false]
    intro c hmem
    rw [DomainName.isRightToLeft, direction_of_small (h c hmem)]
    decide
  unfold DomainName.asciiForm
  rw [foldedLabels_of_small h]
  simp only [Option.bind_eq_bind, Option.bind_some, List.mapM_cons, List.mapM_nil, hread,
    Option.pure_def, List.any_cons, List.any_nil, List.all_cons, List.all_nil, hleft,
    isWellFormed_of_small h, Bool.or_false, Bool.not_false, Bool.true_or, Bool.and_self, if_pos,
    List.map_cons, List.map_nil, List.intercalate_singleton]

/-- A name of small letters that is no number is a host. -/
theorem knownHost?_of_small {text : String} (h : ∀ c ∈ text.toList, IsSmall c)
    (hmark : DomainName.mark.isPrefixOf text.toList = false) (hsome : text.toList ≠ [])
    (hdecoded : decodedText? text.toList = some text)
    (hname : Ip.isNumeric [text.toList] = false) : knownHost? text.toList = some text := by
  have hbracket : text.toList.head? ≠ some '[' := by
    intro hhead
    exact absurd (h '[' (List.mem_of_head? hhead)) (by decide)
  have hlast : [text.toList].getLast? ≠ some [] := fun hnil => hsome (Option.some.inj hnil)
  have hfilled : text.toList.isEmpty = false := List.isEmpty_eq_false_iff.mpr hsome
  unfold knownHost?
  rw [if_neg hbracket, hdecoded]
  simp only [Option.bind_eq_bind, Option.bind_some, asciiForm_of_small h hmark,
    labelsOf_of_small h, if_neg hlast, hname, hfilled, String.ofList_toList]
  rfl

/-- The name of this computer. -/
theorem knownHost?_localhost : knownHost? "localhost".toList = some "localhost" :=
  knownHost?_of_small (forall_small (by decide)) (by decide) (by decide) (by decide +kernel)
    (by decide +kernel)

/-! ## Section 3: Reading -/

theorem isDigit_of_mem_toString {n : Nat} {c : Char} (h : c ∈ (toString n).toList) :
    c.isDigit = true := by
  rw [Nat.toString_eq_ofList_toDigits, String.toList_ofList] at h
  exact Nat.isDigit_of_mem_toDigits (by decide) (by decide) h

/-- A number is read as it was written. -/
theorem decimal?_toString (n : Nat) : decimal? (toString n).toList = some n := by
  unfold decimal?
  rw [if_pos (List.all_eq_true.mpr fun c hmem => isDigit_of_mem_toString hmem),
    Nat.toString_eq_ofList_toDigits, String.toList_ofList]
  have hread := @Nat.ofDigitChars_ten_toDigits n
  rw [Nat.ofDigitChars_eq_foldl] at hread
  simp only [Nat.mul_comm 10] at hread
  exact congrArg some hread

/-- **Clean**: a host, a path and a query that stand in an address as they are. -/
structure Clean (name path query : String) : Prop where
  named : name.toList ≠ []
  small : ∀ c ∈ name.toList, IsSmall c
  known : knownHost? name.toList = some name
  inPath : ∀ c ∈ path.toList, isPathChar c = true
  rooted : ∃ segments, path.toList = '/' :: segments ∧ pathOf true segments = path.toList
  inQuery : ∀ c ∈ query.toList, isQueryChar true c = true

/-- The text of the address of a port of a host. -/
def portText (name : String) (port : Nat) (path query : String) : String :=
  "http://" ++ name ++ ":" ++ toString port ++ path ++ "?" ++ query

/-- A port, which is left out if it is the standard one. -/
def namedPort (port : Nat) : Option Nat := if port = 80 then none else some port

/-- What such a text is read as. -/
def portUrl (name : String) (port : Nat) (path query : String) : Url :=
  ⟨"http", some ⟨Login.none, name, namedPort port⟩, path, some query, none⟩

theorem isPlain_of_isPathChar {c : Char} (h : isPathChar c = true) : isPlain c = true := by
  simp only [isPathChar, isFragmentChar, Bool.and_eq_true] at h
  exact h.1.1

theorem isPlain_of_isQueryChar {isKnown : Bool} {c : Char} (h : isQueryChar isKnown c = true) :
    isPlain c = true := by
  simp only [isQueryChar, Bool.and_eq_true] at h
  exact h.1.1

/-- A character of a host with a port. -/
def IsAuthorityChar (c : Char) : Prop := IsSmall c ∨ c = ':' ∨ c.isDigit = true

instance (c : Char) : Decidable (IsAuthorityChar c) :=
  inferInstanceAs (Decidable (_ ∨ _ ∨ _))

theorem isPlain_of_isAuthorityChar {c : Char} (h : IsAuthorityChar c) : isPlain c = true := by
  simp only [isPlain, Bool.and_eq_true, decide_eq_true_eq]
  rcases h with ⟨hfirst, hlast⟩ | rfl | hdigit
  · omega
  · decide
  · simp only [Char.isDigit, Bool.and_eq_true, decide_eq_true_eq, UInt32.le_iff_toNat_le,
      ge_iff_le] at hdigit
    have hcode : c.toNat = c.val.toNat := rfl
    have hzero : '0'.val.toNat = 48 := rfl
    have hnine : '9'.val.toNat = 57 := rfl
    omega

section

variable {name : String} {port : Nat} {path query : String}

/-- The characters of such a text. -/
theorem toList_portText : (portText name port path query).toList
    = "http://".toList ++ ((name.toList ++ ':' :: (toString port).toList) ++ path.toList
        ++ '?' :: query.toList) := by
  have happend (start name colon number path mark query : String) :
      (start ++ name ++ colon ++ number ++ path ++ mark ++ query).toList
        = start.toList ++ name.toList ++ colon.toList ++ number.toList ++ path.toList
          ++ mark.toList ++ query.toList := by
    simp only [String.toList_append]
  have hcolon : ":".toList = [':'] := by decide
  have hmark : "?".toList = ['?'] := by decide
  refine (happend _ _ _ _ _ _ _).trans ?_
  rw [hcolon, hmark]
  simp only [List.append_assoc]
  rfl

theorem Clean.inAuthority (h : Clean name path query) :
    ∀ c ∈ name.toList ++ ':' :: (toString port).toList, IsAuthorityChar c := by
  intro c hmem
  rw [List.mem_append, List.mem_cons] at hmem
  rcases hmem with hmem | hcolon | hmem
  · exact .inl (h.small c hmem)
  · exact .inr (.inl hcolon)
  · exact .inr (.inr (isDigit_of_mem_toString hmem))

theorem Clean.isPlain_portText (h : Clean name path query) :
    ∀ c ∈ (portText name port path query).toList, isPlain c = true := by
  intro c hmem
  rw [toList_portText, List.mem_append, List.mem_append, List.mem_append, List.mem_cons] at hmem
  rcases hmem with hmem | (hmem | hmem) | rfl | hmem
  · exact List.all_eq_true.mp (by decide) c hmem
  · exact isPlain_of_isAuthorityChar (h.inAuthority c hmem)
  · exact isPlain_of_isPathChar (h.inPath c hmem)
  · decide
  · exact isPlain_of_isQueryChar (h.inQuery c hmem)

/-- The host ends before the port. -/
theorem hostLength_of_small (rest : List Char) : ∀ {chars : List Char},
    (∀ c ∈ chars, IsSmall c) → hostLength false (chars ++ ':' :: rest) = chars.length
  | [], _ => rfl
  | c :: chars, h => by
    have hc := h c List.mem_cons_self
    rw [List.cons_append, hostLength, if_neg (fun hcolon => ne_of_not hc (by decide) hcolon.1),
      if_neg (ne_of_not hc (by decide)), if_neg (ne_of_not hc (by decide)),
      hostLength_of_small rest fun d hmem => h d (List.mem_cons_of_mem _ hmem)]
    rfl

/-- The host and the port are read as they were written. -/
theorem Clean.hostAndPort? (h : Clean name path query) (hport : port ≤ 65535) :
    Http.hostAndPort? (some 80) (name.toList ++ ':' :: (toString port).toList)
      = some (name, namedPort port) := by
  have hread : port? (some 80) (toString port).toList = some (namedPort port) := by
    unfold port? namedPort
    rw [decimal?_toString]
    by_cases hstandard : port = 80
    · simp [hstandard]
    · simp [hstandard, Nat.not_lt.mpr hport]
  have hnamed : name ≠ "" := by
    rintro rfl
    exact h.named rfl
  unfold Http.hostAndPort?
  rw [hostLength_of_small _ h.small, List.take_left]
  simp only [List.drop_left]
  rw [if_pos Option.isSome_some, h.known]
  simp only [Option.bind_eq_bind, Option.bind_some, hnamed, false_and, if_false,
    List.drop_succ_cons, List.drop_zero, hread]
  rfl

/-- Whom such an address names is read as it was written. -/
theorem Clean.parse? (h : Clean name path query) (hport : port ≤ 65535) (endsThere : Bool) :
    Authority.parse? (some 80) endsThere (name.toList ++ ':' :: (toString port).toList)
      = some ⟨Login.none, name, namedPort port⟩ := by
  have hafter : ((name.toList ++ ':' :: (toString port).toList).reverse.takeWhile
      fun c => c != '@').reverse = name.toList ++ ':' :: (toString port).toList := by
    rw [List.takeWhile_eq_self_iff.mpr, List.reverse_reverse]
    intro c hmem
    exact bne_iff_ne.mpr (ne_of_not (h.inAuthority c (List.mem_reverse.mp hmem)) (by decide))
  have hlogin : Login.parse [] = Login.none := by decide
  unfold Authority.parse?
  simp only [hafter, Nat.sub_self, Nat.zero_sub, List.take_zero, hlogin, h.hostAndPort? hport]
  simp

/-- The path and whom such an address names are read as they were written. -/
theorem Clean.webPlace? (h : Clean name path query) (hport : port ≤ 65535) (endsThere : Bool) :
    Http.webPlace? 80 endsThere
        ('/' :: '/' :: ((name.toList ++ ':' :: (toString port).toList) ++ path.toList))
      = some (some ⟨Login.none, name, namedPort port⟩, path.toList) := by
  obtain ⟨segments, hpath, hresolved⟩ := h.rooted
  have hslash {c : Char} (hc : IsAuthorityChar c) : isSlash true c = false := by
    simp [isSlash, ne_of_not hc (show ¬ IsAuthorityChar '/' by decide),
      ne_of_not hc (show ¬ IsAuthorityChar '\\' by decide)]
  have hstart : ('/' :: '/' :: ((name.toList ++ ':' :: (toString port).toList)
      ++ path.toList)).dropWhile (isSlash true)
        = (name.toList ++ ':' :: (toString port).toList) ++ '/' :: segments := by
    obtain ⟨c, more, hname⟩ := List.exists_cons_of_ne_nil h.named
    have hc : IsAuthorityChar c := .inl (h.small c (hname ▸ List.mem_cons_self))
    rw [hpath, List.dropWhile_cons_of_pos rfl, List.dropWhile_cons_of_pos rfl, hname,
      List.cons_append, List.cons_append, List.dropWhile_cons_of_neg (by simp [hslash hc])]
  have hauthority : ((name.toList ++ ':' :: (toString port).toList)
      ++ '/' :: segments).takeWhile (fun c => !isSlash true c)
        = name.toList ++ ':' :: (toString port).toList := by
    refine takeWhile_append_cons (fun c hmem => ?_) rfl
    rw [hslash (h.inAuthority c hmem)]
    rfl
  unfold Http.webPlace?
  simp only [hstart, hauthority, List.drop_left]
  rw [h.parse? hport]
  simp only [Option.bind_eq_bind, Option.bind_some]
  show some (_, pathOf true segments) = _
  rw [hresolved]

/-- **Reading**: such an address is read as what it is made of. -/
theorem Clean.parse_portText (h : Clean name path query) (hport : port ≤ 65535) :
    Url.parse (portText name port path query) = .ok (portUrl name port path query) := by
  have hplace := h.webPlace? hport
  have hcut : cutScheme (unwrapped (portText name port path query))
      = some ("http", ('/' :: '/' :: ((name.toList ++ ':' :: (toString port).toList)
          ++ path.toList)) ++ '?' :: query.toList) := by
    rw [unwrapped_of_plain h.isPlain_portText, toList_portText]
    rfl
  have hinside : ∀ c ∈ '/' :: '/' :: ((name.toList ++ ':' :: (toString port).toList)
      ++ path.toList), (c != '#' && c != '?') = true := by
    intro c hmem
    rw [Bool.and_eq_true, bne_iff_ne, bne_iff_ne]
    rw [List.mem_cons, List.mem_cons, List.mem_append] at hmem
    rcases hmem with rfl | rfl | hmem | hmem
    · decide
    · decide
    · have hc := h.inAuthority c hmem
      exact ⟨ne_of_not hc (by decide), ne_of_not hc (by decide)⟩
    · have hc := h.inPath c hmem
      exact ⟨ne_of_not (P := (isPathChar · = true)) hc (by decide),
        ne_of_not (P := (isPathChar · = true)) hc (by decide)⟩
  generalize '/' :: '/' :: ((name.toList ++ ':' :: (toString port).toList) ++ path.toList)
    = body at hplace hcut hinside
  have hbody : (body ++ '?' :: query.toList).takeWhile (fun c => c != '#' && c != '?') = body :=
    takeWhile_append_cons hinside rfl
  have hquery : ('?' :: query.toList).takeWhile (fun c => c != '#') = '?' :: query.toList := by
    rw [List.takeWhile_eq_self_iff]
    intro c hmem
    rcases List.mem_cons.mp hmem with rfl | hmem
    · decide
    · exact bne_iff_ne.mpr
        (ne_of_not (P := (isQueryChar true · = true)) (h.inQuery c hmem) (by decide))
  have hfragment : (body ++ '?' :: query.toList).drop
      (body.length + ('?' :: query.toList).length) = [] := by
    rw [← List.length_append, List.drop_length]
  unfold Url.parse
  rw [hcut]
  simp only [hbody, List.drop_left, hquery, hfragment, standardPort?, hplace]
  show Except.ok (⟨"http", _, String.ofList path.toList, some (String.ofList
    (percentEncode (isQueryChar true) query.toList)), none⟩ : Url) = _
  rw [percentEncode_of_kept h.inQuery, String.ofList_toList, String.ofList_toList]
  rfl

end

/-! ## Section 4: Targets -/

/-- What an octet of a path is not, and that it may stand in the path of a target. -/
theorem isPathOctet_octetOf {c : Char} (h : isPathChar c = true) :
    isPathOctet (octetOf c) = true ∧ octetOf c ≠ 35 ∧ octetOf c ≠ 63 :=
  forall_plain (P := fun c => isPathChar c = true →
    isPathOctet (octetOf c) = true ∧ octetOf c ≠ 35 ∧ octetOf c ≠ 63) (by decide)
    (isPlain_of_isPathChar h) h

theorem isQueryOctet_octetOf {c : Char} (h : isQueryChar true c = true) :
    isQueryOctet (octetOf c) = true ∧ octetOf c ≠ 35 :=
  forall_plain (P := fun c => isQueryChar true c = true →
    isQueryOctet (octetOf c) = true ∧ octetOf c ≠ 35) (by decide)
    (isPlain_of_isQueryChar h) h

theorem octetOf_of_isAuthorityChar {c : Char} (h : IsAuthorityChar c) :
    octetOf c ≠ 47 ∧ octetOf c ≠ 63 ∧ octetOf c ≠ 35 ∧ octetOf c ≠ 64 :=
  forall_plain (P := fun c => IsAuthorityChar c →
    octetOf c ≠ 47 ∧ octetOf c ≠ 63 ∧ octetOf c ≠ 35 ∧ octetOf c ≠ 64) (by decide)
    (isPlain_of_isAuthorityChar h) h

/-- Letters and digits change nothing in what has been seen of a host. -/
theorem foldlM_next? (scan : AuthorityScan) : ∀ {chars : List Char},
    (∀ c ∈ chars, IsSmall c ∨ c.isDigit = true) →
      (chars.map octetOf).foldlM AuthorityScan.next? scan = some scan
  | [], _ => rfl
  | c :: rest, h => by
    have hc := h c List.mem_cons_self
    have hkept : octetOf c ∉ [58, 91, 93, 64, 37] ∧ isAuthorityOctet (octetOf c) = true :=
      forall_plain (P := fun c => IsSmall c ∨ c.isDigit = true →
        octetOf c ∉ [58, 91, 93, 64, 37] ∧ isAuthorityOctet (octetOf c) = true)
        (by decide) (isPlain_of_isAuthorityChar (hc.imp_right .inr)) hc
    have hnext : scan.next? (octetOf c) = some scan := by
      simp only [List.mem_cons, List.not_mem_nil, or_false, not_or] at hkept
      simp only [AuthorityScan.next?, hkept, if_false, if_true]
    rw [List.map_cons, List.foldlM_cons, hnext]
    exact foldlM_next? scan fun d hmem => h d (List.mem_cons_of_mem _ hmem)

/-- A target that starts with `http` and names a host is one if it is not too long. -/
theorem isSome_parse?_http {place path : Bytes} (hplace : place ≠ [])
    (hends : ∀ b ∈ place, (b != 47 && b != 63 && b != 35) = true)
    (hauthority : isAuthority place = true) (hpath : isPathAndQuery (47 :: path) = true)
    (hshort : ([104, 116, 116, 112, 58, 47, 47] ++ (place ++ 47 :: path)).length
      ≤ longestTarget) :
    (Target.parse? ([104, 116, 116, 112, 58, 47, 47] ++ (place ++ 47 :: path))).isSome = true := by
  have hcut : cutTargetScheme ([104, 116, 116, 112, 58, 47, 47] ++ (place ++ 47 :: path))
      = some ([104, 116, 116, 112], place ++ 47 :: path) := rfl
  have hfits : ¬ (([104, 116, 116, 112, 58, 47, 47] ++ (place ++ 47 :: path)).isEmpty = true ∨
      longestTarget < ([104, 116, 116, 112, 58, 47, 47] ++ (place ++ 47 :: path)).length) := by
    rintro (hempty | hlong)
    · cases hempty
    · exact absurd hlong (Nat.not_lt.mpr hshort)
  have hstop : (place ++ 47 :: path).takeWhile (fun b => b != 47 && b != 63 && b != 35) = place :=
    takeWhile_append_cons hends rfl
  have hscheme : ¬ (longestScheme < [(104 : UInt8), 116, 116, 112].length ∨
      place.isEmpty = true) := by
    rintro (hlong | hempty)
    · exact absurd hlong (by decide)
    · exact hplace (List.isEmpty_iff.mp hempty)
  unfold Target.parse?
  rw [if_neg hfits, if_neg nofun, if_neg nofun, hcut]
  simp only [hstop, List.drop_left, hauthority, hpath]
  rw [if_neg hscheme]
  rfl

section

variable {name : String} {port : Nat} {path query : String}

/-- The characters of a host with a port, if that is not the standard one. -/
def placeChars (name : String) (port : Nat) : List Char :=
  name.toList ++ if port = 80 then [] else ':' :: (toString port).toList

theorem Clean.inPlace (h : Clean name path query) :
    ∀ c ∈ placeChars name port, IsAuthorityChar c := by
  intro c hmem
  unfold placeChars at hmem
  by_cases hstandard : port = 80
  · rw [if_pos hstandard, List.append_nil] at hmem
    exact .inl (h.small c hmem)
  · rw [if_neg hstandard] at hmem
    exact h.inAuthority c hmem

/-- A host and a port can be named by a target. -/
theorem Clean.isAuthority (h : Clean name path query) :
    Http.isAuthority ((placeChars name port).map octetOf) = true := by
  have hname (scan : AuthorityScan) :
      (name.toList.map octetOf).foldlM AuthorityScan.next? scan = some scan :=
    foldlM_next? scan fun c hmem => .inl (h.small c hmem)
  have hport (scan : AuthorityScan) :
      ((toString port).toList.map octetOf).foldlM AuthorityScan.next? scan = some scan :=
    foldlM_next? scan fun c hmem => .inr (isDigit_of_mem_toString hmem)
  have hlast : ((placeChars name port).map octetOf).getLast? ≠ some 64 := by
    intro hlast
    obtain ⟨c, hmem, hat⟩ := List.mem_map.mp (List.mem_of_getLast? hlast)
    exact (octetOf_of_isAuthorityChar (h.inPlace c hmem)).2.2.2 hat
  have hscan : ∃ colons ≤ 1, ((placeChars name port).map octetOf).foldlM AuthorityScan.next?
      ⟨0, false, false, false⟩ = some ⟨colons, false, false, false⟩ := by
    unfold placeChars
    by_cases hstandard : port = 80
    · refine ⟨0, Nat.zero_le _, ?_⟩
      rw [if_pos hstandard, List.append_nil, hname]
    · refine ⟨1, Nat.le_refl _, ?_⟩
      rw [if_neg hstandard, List.map_append, List.foldlM_append, hname]
      exact hport _
  obtain ⟨colons, hcolons, hscan⟩ := hscan
  unfold Http.isAuthority
  rw [hscan]
  simp only [hcolons, bne_iff_ne.mpr hlast]
  rfl

/-- A path and a query can be those of a target. -/
theorem Clean.isPathAndQuery (h : Clean name path query) :
    Http.isPathAndQuery ((path.toList ++ '?' :: query.toList).map octetOf) = true := by
  have hplain : ∀ c ∈ path.toList ++ '?' :: query.toList, isPlain c = true := by
    intro c hmem
    rw [List.mem_append, List.mem_cons] at hmem
    rcases hmem with hmem | rfl | hmem
    · exact isPlain_of_isPathChar (h.inPath c hmem)
    · decide
    · exact isPlain_of_isQueryChar (h.inQuery c hmem)
  have hwhole : ((path.toList ++ '?' :: query.toList).map octetOf).takeWhile (fun b => b != 35)
      = (path.toList ++ '?' :: query.toList).map octetOf := by
    rw [List.takeWhile_eq_self_iff, List.forall_mem_map]
    intro c hmem
    rw [bne_iff_ne]
    rw [List.mem_append, List.mem_cons] at hmem
    rcases hmem with hmem | rfl | hmem
    · exact (isPathOctet_octetOf (h.inPath c hmem)).2.1
    · decide
    · exact (isQueryOctet_octetOf (h.inQuery c hmem)).2
  have hsplit : (path.toList ++ '?' :: query.toList).map octetOf
      = path.toList.map octetOf ++ 63 :: query.toList.map octetOf := List.map_append
  have hpath : (path.toList.map octetOf ++ 63 :: query.toList.map octetOf).takeWhile
      (fun b => b != 63) = path.toList.map octetOf := by
    refine takeWhile_append_cons ?_ rfl
    rw [List.forall_mem_map]
    exact fun c hmem => bne_iff_ne.mpr (isPathOctet_octetOf (h.inPath c hmem)).2.2
  have hread := isSome_decode_of_plain hplain
  unfold Http.isPathAndQuery
  simp only [hwhole, hread, Bool.and_true]
  simp only [hsplit, hpath, List.drop_left, List.drop_succ_cons, List.drop_zero]
  rw [Bool.and_eq_true, List.all_eq_true, List.all_eq_true, List.forall_mem_map,
    List.forall_mem_map]
  exact ⟨fun c hmem => (isPathOctet_octetOf (h.inPath c hmem)).1,
    fun c hmem => (isQueryOctet_octetOf (h.inQuery c hmem)).1⟩

/-- The characters of the text of such an address. -/
theorem toList_text_portUrl : (portUrl name port path query).text.toList
    = "http://".toList ++ (placeChars name port ++ (path.toList ++ '?' :: query.toList)) := by
  have happend (scheme colon slashes login name place path mark query fragment : String) :
      (scheme ++ colon ++ (slashes ++ login ++ (name ++ place)) ++ path ++ (mark ++ query)
        ++ fragment).toList
        = scheme.toList ++ colon.toList ++ (slashes.toList ++ login.toList
          ++ (name.toList ++ place.toList)) ++ path.toList ++ (mark.toList ++ query.toList)
          ++ fragment.toList := by
    simp only [String.toList_append]
  have hplace : (((namedPort port).map fun port => ":" ++ toString port).getD "").toList
      = if port = 80 then [] else ':' :: (toString port).toList := by
    unfold namedPort
    by_cases hstandard : port = 80
    · simp only [if_pos hstandard]
      rfl
    · simp only [if_neg hstandard, Option.map_some, Option.getD_some, String.toList_append]
      rfl
  refine (happend "http" ":" "//" "" name _ path "?" query "").trans ?_
  have hstart : "http://".toList = "http".toList ++ ":".toList ++ "//".toList := by decide
  have hempty : "".toList = [] := rfl
  have hmark : "?".toList = ['?'] := by decide
  unfold placeChars
  rw [hplace, hstart, hempty, hmark, List.append_nil, List.append_nil]
  simp only [List.append_assoc]
  rfl

theorem Clean.isPlain_text (h : Clean name path query) :
    ∀ c ∈ (portUrl name port path query).text.toList, isPlain c = true := by
  intro c hmem
  rw [toList_text_portUrl, List.mem_append, List.mem_append, List.mem_append,
    List.mem_cons] at hmem
  rcases hmem with hmem | hmem | hmem | rfl | hmem
  · exact List.all_eq_true.mp (by decide) c hmem
  · exact isPlain_of_isAuthorityChar (h.inPlace c hmem)
  · exact isPlain_of_isPathChar (h.inPath c hmem)
  · decide
  · exact isPlain_of_isQueryChar (h.inQuery c hmem)

/-- **Targets**: such an address is a target exactly if it is not too long for one. -/
theorem Clean.isTarget_iff (h : Clean name path query) :
    isTarget (portUrl name port path query).text = true ↔
      (Bytes.ofText (portUrl name port path query).text).length ≤ longestTarget := by
  have hlead : "http://".toList.map octetOf = [104, 116, 116, 112, 58, 47, 47] := by decide
  obtain ⟨segments, hrooted, -⟩ := h.rooted
  have hoctets : Bytes.ofText (portUrl name port path query).text
      = [104, 116, 116, 112, 58, 47, 47] ++ ((placeChars name port).map octetOf
          ++ 47 :: (segments ++ '?' :: query.toList).map octetOf) := by
    rw [ofText_of_plain h.isPlain_text, toList_text_portUrl, List.map_append, hlead,
      List.map_append, hrooted]
    rfl
  have hplace : (placeChars name port).map octetOf ≠ [] := by
    simp [placeChars, List.map_eq_nil_iff, List.append_eq_nil_iff, h.named]
  have hends : ∀ b ∈ (placeChars name port).map octetOf,
      (b != 47 && b != 63 && b != 35) = true := by
    rw [List.forall_mem_map]
    intro c hmem
    obtain ⟨hslash, hmark, hnumber, -⟩ := octetOf_of_isAuthorityChar (h.inPlace c hmem)
    simp [hslash, hmark, hnumber]
  have hpath := h.isPathAndQuery
  rw [hrooted] at hpath
  unfold isTarget
  rw [hoctets]
  constructor
  · intro htarget
    by_contra hlong
    rw [parse?_long _ (Nat.lt_of_not_le hlong)] at htarget
    cases htarget
  · exact isSome_parse?_http hplace hends h.isAuthority hpath

end

/-! ## Section 5: Drafts -/

/-- **Drafts**: a draft for such an address can be sent exactly if its headers can be written,
    it is not too long, and no proxy that cannot be used stands in between. -/
theorem Clean.exists_canSend_iff {name path query : String} {port : Nat} {client : Client}
    {draft : Draft} (h : Clean name path query) (hport : port ≤ 65535)
    (hurl : draft.url = portText name port path query) :
    (∃ url, client.CanSend draft url) ↔
      (∀ header ∈ draft.headers, isHeaderValue header.2 = true) ∧
      (Bytes.ofText (portUrl name port path query).text).length ≤ longestTarget ∧
      ∀ proxy, client.proxies.forUrl (portUrl name port path query) = some proxy →
        proxy.kind ≠ .other := by
  have hparse : Url.parse draft.url = .ok (portUrl name port path query) := by
    rw [hurl, h.parse_portText hport]
  have hlogin : (portUrl name port path query).withoutLogin = portUrl name port path query := by
    have hnone : Url.hasLogin Login.none = false := by decide
    simp [Url.withoutLogin, portUrl, hnone]
  constructor
  · rintro ⟨url, hsend⟩
    obtain rfl : url = portUrl name port path query :=
      Except.ok.inj (hsend.parsed.symm.trans hparse)
    have htarget := hsend.target
    have hproxy := hsend.proxy
    rw [hlogin] at htarget hproxy
    exact ⟨hsend.headers, h.isTarget_iff.mp htarget, hproxy⟩
  · rintro ⟨hheaders, hshort, hproxy⟩
    have hhost : (portUrl name port path query).namesHost = true := by
      show (name != "") = true
      rw [bne_iff_ne]
      rintro rfl
      exact h.named rfl
    refine ⟨portUrl name port path query, ⟨hparse, hhost, hheaders, rfl, ?_⟩, ?_⟩
    · rw [hlogin]
      exact h.isTarget_iff.mpr hshort
    · rw [hlogin]
      exact hproxy

end Http

end TelemetryRelay
