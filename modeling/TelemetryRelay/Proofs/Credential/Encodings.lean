import TelemetryRelay.Proofs.Credential.Secrets
import TelemetryRelay.Proofs.Http.Exchanges
import TelemetryRelay.Proofs.Json.Members

/-! # Secrets and their encodings

    A license key comes wrapped twice: it is a member of an object whose text is a member
    of another object, so that its characters are escaped twice. Both objects are of a
    shape with one text. This module says:

    - which texts such a shape is read from: objects with one member of the name at most,
      among any other members, and arrays of one text at most,
    - that a key comes out of the two objects as it was put in, however they are written,
    - when a text holds no key.
-/

namespace TelemetryRelay

namespace Credential

open Results (exists_of_bind bind_eq)

/-! ## Section 1: The forms of a shape with one text -/

/-- What members say under a name: nothing, or a text once. -/
def Says (members : List (String × Bytes)) (name : String) : Option String → Prop
  | none => Json.Lacks members name
  | some text => Json.Holds members name Json.StringText text

/-- **Forms** of a shape with one text, and the text that is found. -/
inductive Form (name : String) (mayLack : Bool) : Option String → Bytes → Prop
  /-- An object that says it under its name, among any other members. -/
  | object (found : Option String) (members : List (String × Bytes)) (text : Bytes) :
      Json.ObjectText members text → Says members name found → Form name mayLack found text
  /-- An array that has it as its only element, or has none if it may be absent. -/
  | list (found : Option String) (text : Bytes) :
      Json.ListText Json.StringText found.toList text → (found = none → mayLack = true) →
      Form name mayLack found text

/-! ## Section 2: Members that are read -/

/-- What a member adds to what has been found. -/
inductive Adds (name : String) : Option String → String × Bytes → Option String → Prop
  | text (s : String) (literal : Bytes) : Json.StringText s literal →
      Adds name none (name, literal) (some s)
  | other (found : Option String) (member : String × Bytes) : member.1 ≠ name →
      Adds name found member found

section Members

variable {name : String} {members : List (String × Bytes)} {found : Option String}

/-- Members of other names add nothing. -/
theorem through_of_lacks (h : Json.Lacks members name) :
    Json.Through (Adds name) found members found := by
  induction members with
  | nil => exact .nil found
  | cons member members ih =>
    obtain ⟨hother, hrest⟩ := Json.lacks_cons.mp h
    exact .cons _ _ _ _ _ (.other found member hother) (ih hrest)

/-- Once a text has been found, there is no further member of its name. -/
theorem lacks_of_through {s : String} (h : Json.Through (Adds name) (some s) members found) :
    found = some s ∧ Json.Lacks members name := by
  induction members with
  | nil =>
    cases h
    exact ⟨rfl, rfl⟩
  | cons member members ih =>
    cases h with
    | cons _ _ _ _ _ hadds hrest =>
      cases hadds with
      | other _ _ hother =>
        obtain ⟨hfound, hlacks⟩ := ih hrest
        exact ⟨hfound, Json.lacks_cons.mpr ⟨hother, hlacks⟩⟩

/-- **Members**: what they add to nothing is what they say. -/
theorem through_adds_iff : Json.Through (Adds name) none members found ↔
    Says members name found := by
  induction members with
  | nil =>
    constructor
    · intro h
      cases h
      rfl
    · intro h
      cases found with
      | none => exact .nil none
      | some s =>
        obtain ⟨_, -, hfilter⟩ := h
        cases hfilter
  | cons member members ih =>
    constructor
    · intro h
      cases h with
      | cons _ _ _ _ _ hadds hrest =>
        cases hadds with
        | text s literal hliteral =>
          obtain ⟨rfl, hlacks⟩ := lacks_of_through hrest
          refine ⟨literal, hliteral, ?_⟩
          rw [List.filter_cons_of_pos (by simp), hlacks]
        | other _ _ hother =>
          have hfound := ih.mp hrest
          cases found with
          | none => exact Json.lacks_cons.mpr ⟨hother, hfound⟩
          | some s =>
            obtain ⟨literal, hliteral, hfilter⟩ := hfound
            refine ⟨literal, hliteral, ?_⟩
            rw [List.filter_cons_of_neg (by simpa using hother), hfilter]
    · intro h
      by_cases hname : member.1 = name
      · cases found with
        | none => exact absurd hname (Json.lacks_cons.mp h).1
        | some s =>
          -- the member of the name is this one, and the others are of other names
          obtain ⟨literal, hliteral, hfilter⟩ := h
          rw [List.filter_cons_of_pos (by simpa using hname)] at hfilter
          obtain ⟨rfl, hlacks⟩ := List.cons.inj hfilter
          exact .cons _ _ _ _ _ (.text s literal hliteral) (through_of_lacks hlacks)
      · have hfound : Says members name found := by
          cases found with
          | none => exact (Json.lacks_cons.mp h).2
          | some s =>
            obtain ⟨literal, hliteral, hfilter⟩ := h
            rw [List.filter_cons_of_neg (by simpa using hname)] at hfilter
            exact ⟨literal, hliteral, hfilter⟩
        exact .cons _ _ _ _ _ (.other none member hname) (ih.mpr hfound)

end Members

/-! ## Section 3: Reading a shape with one text -/

section Reading

variable {α : Type} {shape : Json.Shape (Option String) α} {name : String} {mayLack : Bool}
  {levels : Nat}

/-- The text is read as it stands. -/
theorem read_textField {s : String} {literal gap rest : Bytes} (hgap : Json.IsBlank gap)
    (hliteral : Json.StringText s literal) (hrest : Json.Delimited rest) :
    (textField name mayLack).read levels none (gap ++ (literal ++ rest)) = .ok (some s, rest) :=
  bind_eq (Json.reads_expectString s literal gap rest hgap hliteral hrest) _

/-- Nothing else is read as the text. -/
theorem exists_of_read_textField {found found' : Option String} {octets rest : Bytes}
    (h : (textField name mayLack).read levels found octets = .ok (found', rest)) :
    ∃ gap s literal, Json.IsBlank gap ∧ Json.StringText s literal ∧ found' = some s ∧
      octets = gap ++ (literal ++ rest) := by
  obtain ⟨⟨s, after⟩, hread, hend⟩ := exists_of_bind h
  cases hend
  obtain ⟨gap, literal, hgap, hliteral, rfl⟩ := Json.readsOnly_expectString _ _ _ hread
  exact ⟨gap, s, literal, hgap, hliteral, rfl, rfl⟩

theorem find?_textField (hfields : shape.fields = [textField name mayLack]) (other : String) :
    shape.fields.find? (fun field => field.name == other)
      = if other = name then some (textField name mayLack) else none := by
  rw [hfields]
  by_cases hname : other = name
  · simp [hname, textField]
  · simp [hname, textField, Ne.symm hname]

theorem takes_members (hfields : shape.fields = [textField name mayLack]) :
    Json.Takes (shape.afterName levels) Json.Verbatim (Adds name) := by
  rintro found key text found' _ between after rest hadds hbetween hafter ⟨rfl, htext⟩ hrest
  have hfind := find?_textField hfields key
  cases hadds with
  | text s literal hliteral =>
    rw [if_pos rfl] at hfind
    rw [Json.Shape.afterName_known hfind rfl hbetween]
    exact read_textField hafter hliteral hrest
  | other _ _ hother =>
    rw [if_neg hother] at hfind
    exact Json.Shape.afterName_unknown hfind hbetween hafter htext hrest

theorem takesOnly_members (hfields : shape.fields = [textField name mayLack]) :
    Json.TakesOnly (shape.afterName levels) Json.Verbatim (Adds name) := by
  intro found key octets found' rest h
  obtain ⟨between, more, hbetween, rfl, ⟨field, hfind, hnew, hread⟩ | ⟨hfind, rfl, hskip⟩⟩ :=
    Json.Shape.exists_of_afterName h
  · rw [find?_textField hfields] at hfind
    split at hfind
    · next hname =>
      cases hfind
      have hnone : found = none := by simpa [textField] using hnew
      obtain ⟨gap, s, literal, hgap, hliteral, rfl, rfl⟩ := exists_of_read_textField hread
      rw [hname, hnone]
      exact ⟨literal, between, gap, literal, hbetween, hgap, ⟨rfl, hliteral.isValue⟩,
        .text s literal hliteral, rfl⟩
    · cases hfind
  · rw [find?_textField hfields] at hfind
    split at hfind
    · cases hfind
    · next hname =>
      obtain ⟨gap, text, hgap, htext, rfl⟩ := Json.exists_of_skipValue hskip
      exact ⟨text, between, gap, text, hbetween, hgap, ⟨rfl, htext⟩, .other _ _ hname, rfl⟩

/-- What is made of the forms of a shape. -/
def Made (shape : Json.Shape (Option String) α) (name : String) (mayLack : Bool) (x : α)
    (text : Bytes) : Prop :=
  ∃ found, shape.finish found = .ok x ∧ Form name mayLack found text

/-- **Forms** are read. -/
theorem reads_made (hfields : shape.fields = [textField name mayLack])
    (hstart : shape.start = none) :
    Json.Reads (shape.read (levels + 1)) (Made shape name mayLack) := by
  rintro x text gap rest hgap ⟨found, hfinish, hform⟩ hrest
  cases hform with
  | object members _ hobject hfound =>
    obtain ⟨inner, hinner, rfl⟩ := hobject
    have hthrough : Json.Through (Adds name) shape.start members found := by
      rw [hstart]
      exact through_adds_iff.mpr hfound
    have htakes : Json.Takes (shape.afterName levels) Json.Verbatim (Adds name) :=
      takes_members hfields
    have hread := Json.openFields_append htakes hinner hthrough rest
    simp only [List.cons_append, List.append_assoc, List.nil_append]
    rw [Json.Shape.read_object _ hgap, Json.Shape.readObject, bind_eq hread]
    simp only
    rw [bind_eq hfinish]
    rfl
  | list _ hlist hlack =>
    obtain ⟨inner, hinner, rfl⟩ := hlist
    -- the array is empty or has one element
    have hitems : ∃ tail, Json.IsBlank tail ∧
        shape.readItems levels shape.fields 0 true shape.start (inner ++ 93 :: rest)
          = .ok (found, tail ++ 93 :: rest) := by
      rw [hfields, hstart]
      cases found with
      | none =>
        cases hinner with
        | none _ hblank =>
          refine ⟨[], Json.isBlank_nil, ?_⟩
          rw [Json.Shape.readItems_closing hblank (hlack rfl)]
          rfl
      | some s =>
        cases hinner with
        | some before _ literal _ more hbefore hliteral hmore =>
          cases hmore with
          | none _ hblank =>
            refine ⟨more, hblank, ?_⟩
            have hread : (textField name mayLack).read levels none
                ([] ++ (literal ++ (more ++ 93 :: rest))) = .ok (some s, more ++ 93 :: rest) :=
              read_textField Json.isBlank_nil hliteral
                (Json.delimited_of_token hblank (by decide) rest)
            obtain ⟨body, hbody, rfl⟩ := hliteral
            simp only [List.append_assoc, List.cons_append, List.nil_append] at hread ⊢
            rw [Json.Shape.readItems_first hbefore (Json.begins_of_const (by decide)) hread]
            rfl
    obtain ⟨tail, htail, hitems⟩ := hitems
    simp only [List.cons_append, List.append_assoc, List.nil_append]
    rw [Json.Shape.read_array hgap, Json.Shape.readArray, bind_eq hitems]
    simp only
    rw [bind_eq hfinish, bind_eq (Json.closeList_append htail rest)]

/-- Nothing is read but the forms. -/
theorem readsOnly_made (hfields : shape.fields = [textField name mayLack])
    (hstart : shape.start = none) :
    Json.ReadsOnly (shape.read (levels + 1)) (Made shape name mayLack) := by
  intro octets x rest h
  obtain ⟨gap, more, hgap, ⟨rfl, hread⟩ | ⟨rfl, hread⟩⟩ := Json.Shape.exists_of_read _ h
  · obtain ⟨⟨found, after⟩, hmembers, hend⟩ := exists_of_bind hread
    obtain ⟨y, hfinish, hclose⟩ := exists_of_bind hend
    obtain ⟨members, inner, tail, hinner, hthrough, rfl, rfl⟩ :=
      Json.exists_of_openFields (takesOnly_members hfields) hmembers
    have hlast : Except.ok (y, tail) = .ok (x, rest) := hclose
    cases hlast
    rw [hstart] at hthrough
    refine ⟨gap, _, hgap, ⟨found, hfinish, .object found members _ ⟨inner, hinner, rfl⟩
      (through_adds_iff.mp hthrough)⟩, ?_⟩
    simp
  · obtain ⟨⟨found, after⟩, hitems, hend⟩ := exists_of_bind hread
    obtain ⟨y, hfinish, hclosing⟩ := exists_of_bind hend
    obtain ⟨⟨u, tail⟩, hclose, hlast⟩ := exists_of_bind hclosing
    cases hlast
    rw [hfields, hstart] at hitems
    rcases Json.Shape.exists_of_readItems hitems with
      ⟨front, back, hfront, rfl, hlack, hrest⟩ |
      ⟨-, before, inside, s, behind, -, hbefore, rfl, hfield, hrest⟩
    · -- the array ends before its first element
      cases hrest
      rw [show Json.closeList (93 :: back) = .ok ((), back) from
        Json.closeList_append Json.isBlank_nil back] at hclose
      cases hclose
      refine ⟨gap, _, hgap, ⟨none, hfinish, .list none _ ⟨front, .none front hfront, rfl⟩
        fun _ => hlack⟩, ?_⟩
      simp
    · cases hrest
      obtain ⟨blank, hblank, rfl⟩ := Json.exists_of_closeList hclose
      obtain ⟨between, text, literal, hbetween, hliteral, rfl, rfl⟩ :=
        exists_of_read_textField hfield
      have hinner : Json.Elements Json.StringText [text] _ :=
        .some (before ++ between) text literal [] blank (hbefore.append hbetween) hliteral
          (.none blank hblank)
      refine ⟨gap, _, hgap, ⟨some text, hfinish, .list (some text) _ ⟨_, hinner, rfl⟩
        fun hnone => nomatch hnone⟩, ?_⟩
      simp

/-- **Whole texts** of a shape with one text. -/
theorem decode_eq_ok_iff (hfields : shape.fields = [textField name mayLack])
    (hstart : shape.start = none) {octets : Bytes} {x : α} :
    shape.decode octets = .ok x ↔
      ∃ found, shape.finish found = .ok x ∧ Json.Document (Form name mayLack) found octets := by
  constructor
  · intro h
    obtain ⟨before, text, after, hbefore, ⟨found, hfinish, hform⟩, hafter, rfl⟩ :=
      Json.exists_of_document (readsOnly_made hfields hstart) h
    exact ⟨found, hfinish, before, text, after, hbefore, hform, hafter, rfl⟩
  · rintro ⟨found, hfinish, before, text, after, hbefore, hform, hafter, rfl⟩
    exact Json.document_of_reads (reads_made hfields hstart)
      ⟨before, text, after, hbefore, ⟨found, hfinish, hform⟩, hafter, rfl⟩

end Reading

/-! ## Section 4: Secrets and keys -/

/-- The forms of the text of a secret, with the license key that is found. -/
abbrev KeyForm : Option String → Bytes → Prop := Form "LicenseKey" true

/-- **Wrapped**: an object that holds a text once, among any other members. -/
def Wrapped (name : String) (s : String) (text : Bytes) : Prop :=
  ∃ members, Json.ObjectText members text ∧ Json.Holds members name Json.StringText s

/-- What holds a text is a form in which it is found. -/
theorem form_of_wrapped {name s : String} {octets : Bytes} (mayLack : Bool)
    (h : Json.Document (Wrapped name) s octets) :
    Json.Document (Form name mayLack) (some s) octets := by
  obtain ⟨before, text, after, hbefore, ⟨members, hobject, hholds⟩, hafter, hoctets⟩ := h
  exact ⟨before, text, after, hbefore, .object (some s) members text hobject hholds, hafter,
    hoctets⟩

theorem decode_secretShape {s : String} {octets : Bytes}
    (h : Json.Document (Wrapped "SecretString") s octets) :
    secretShape.decode octets = .ok s :=
  (decode_eq_ok_iff rfl rfl).mpr ⟨some s, rfl, form_of_wrapped false h⟩

theorem decode_licenseKeyShape {key : String} {secret : Bytes} :
    licenseKeyShape.decode secret = .ok key ↔
      ∃ found, found.getD "" = key ∧ Json.Document KeyForm found secret := by
  have hfields : licenseKeyShape.fields = [textField "LicenseKey" true] := rfl
  rw [decode_eq_ok_iff hfields rfl]
  simp only [licenseKeyShape, Except.ok.injEq]

/-- **Keys**: a key is one that is found and is not empty. -/
theorem decodeLicenseKey_eq_ok_iff {key : String} {secret : Bytes} :
    decodeLicenseKey secret = .ok key ↔
      key ≠ "" ∧ Json.Document KeyForm (some key) secret := by
  unfold decodeLicenseKey
  constructor
  · intro h
    cases hdecode : licenseKeyShape.decode secret with
    | error fault =>
      rw [hdecode] at h
      cases h
    | ok decoded =>
      rw [hdecode] at h
      simp only at h
      split at h
      · cases h
      · next hne =>
        cases h
        obtain ⟨found, hfound, hdocument⟩ := decode_licenseKeyShape.mp hdecode
        cases found with
        | none => exact absurd hfound.symm hne
        | some text => exact ⟨hne, hfound ▸ hdocument⟩
  · rintro ⟨hne, hdocument⟩
    rw [decode_licenseKeyShape.mpr ⟨some key, rfl, hdocument⟩]
    exact if_neg hne

/-- **No key**: there is none, or it is empty. -/
theorem decodeLicenseKey_eq_missing_iff {secret : Bytes} :
    decodeLicenseKey secret = .error .missing ↔
      Json.Document KeyForm none secret ∨ Json.Document KeyForm (some "") secret := by
  have hempty : decodeLicenseKey secret = .error .missing ↔
      licenseKeyShape.decode secret = .ok "" := by
    unfold decodeLicenseKey
    cases licenseKeyShape.decode secret with
    | error fault => simp
    | ok key => by_cases hkey : key = "" <;> simp [hkey]
  rw [hempty, decode_licenseKeyShape]
  constructor
  · rintro ⟨_ | text, hfound, hdocument⟩
    · exact .inl hdocument
    · exact .inr (hfound ▸ hdocument)
  · rintro (hdocument | hdocument)
    · exact ⟨none, rfl, hdocument⟩
    · exact ⟨some "", rfl, hdocument⟩

/-- **Unreadable**: a text of no form cannot be decoded, and every text of one can. -/
theorem exists_decode_fault_iff {secret : Bytes} :
    (∃ fault, decodeLicenseKey secret = .error (.decode fault)) ↔
      ∀ found, ¬ Json.Document KeyForm found secret := by
  unfold decodeLicenseKey
  cases hdecode : licenseKeyShape.decode secret with
  | error fault =>
    constructor
    · intro _ found hdocument
      rw [decode_licenseKeyShape.mpr ⟨found, rfl, hdocument⟩] at hdecode
      cases hdecode
    · intro _
      exact ⟨fault, rfl⟩
  | ok key =>
    obtain ⟨found, -, hdocument⟩ := decode_licenseKeyShape.mp hdecode
    constructor
    · rintro ⟨fault, hfault⟩
      simp only at hfault
      split at hfault <;> cases hfault
    · intro hnone
      exact absurd hdocument (hnone found)

/-- **Wrapped twice**: a key that is not empty comes out of an answer as it was put into a
    secret, and the secret into the answer, however both are written. A text of a secret
    gives a key if one is found in it that is not empty; it is said to be missing if none is
    found, or the empty one; and any other text is one that cannot be decoded. -/
theorem wrapped_keys_come_out :
    (∀ (cache : SecretsCache) (client : Http.Client) (network : Http.Network)
        (history : List Http.Request) (secretId key secret : String) (answer : Http.Response),
      key ≠ "" → Json.Document (Wrapped "LicenseKey") key (Bytes.ofText secret) →
      Json.Document (Wrapped "SecretString") secret answer.body →
      Http.isSuccess answer.status = true →
      (Http.exchange client network history (cache.draft secretId)).fate = .answered answer →
      (cache.lookup client network history secretId).outcome = .ok key) ∧
    ∀ secret : Bytes,
      (∀ key, decodeLicenseKey secret = .ok key ↔
        key ≠ "" ∧ Json.Document KeyForm (some key) secret) ∧
      (decodeLicenseKey secret = .error .missing ↔
        Json.Document KeyForm none secret ∨ Json.Document KeyForm (some "") secret) ∧
      ((∃ fault, decodeLicenseKey secret = .error (.decode fault)) ↔
        ∀ found, ¬ Json.Document KeyForm found secret) ∧
      ∀ error, decodeLicenseKey secret = .error error →
        error = .missing ∨ ∃ fault, error = .decode fault := by
  refine ⟨?_, fun secret => ⟨fun key => decodeLicenseKey_eq_ok_iff,
    decodeLicenseKey_eq_missing_iff, exists_decode_fault_iff, ?_⟩⟩
  · intro cache client network history secretId key secret answer hne hkey hsecret hsuccess hfate
    have hinner : decodeLicenseKey (Bytes.ofText secret) = .ok key :=
      decodeLicenseKey_eq_ok_iff.mpr ⟨hne, form_of_wrapped true hkey⟩
    show SecretsCache.keyOf _ = _
    rw [hfate, SecretsCache.keyOf]
    simp only [Http.Fate.await, hsuccess, if_true, decode_secretShape hsecret, hinner]
  · intro error h
    unfold decodeLicenseKey at h
    split at h
    · next fault _ =>
      cases h
      exact .inr ⟨fault, rfl⟩
    · split at h
      · cases h
        exact .inl rfl
      · cases h

/-! ## Section 5: A key that is written twice -/

/-- The object of these texts, as it is written. -/
def objectOf (fields : List (String × String)) : String :=
  (Json.Value.object (fields.map fun field => (field.1, .string field.2))).text

/-- What is written holds each of its texts whose name occurs once. -/
theorem wrapped_objectOf {fields : List (String × String)} {name s : String}
    (h : fields.filter (fun field => field.1 == name) = [(name, s)]) :
    Json.Document (Wrapped name) s (Bytes.ofText (objectOf fields)) := by
  let member (field : String × String) : String × String :=
    (field.1, Json.stringText field.2)
  have htext : objectOf fields = Json.objectText (fields.map member) := by
    rw [objectOf, Json.Value.text, Json.fieldTexts_eq_map, List.map_map]
    rfl
  have hvalues : ∀ field ∈ fields.map member, Json.IsValue (Bytes.ofText field.2) := by
    rw [List.forall_mem_map]
    exact fun field _ => (Json.stringText_spells field.2).isValue
  have hholds : Json.Holds (Json.octetMembers (fields.map member)) name Json.StringText s := by
    refine ⟨_, Json.stringText_spells s, ?_⟩
    rw [Json.octetMembers, List.map_map, List.filter_map]
    show (fields.filter fun field => field.1 == name).map _ = _
    rw [h]
    rfl
  obtain ⟨before, text, after, hbefore, hobject, hafter, hoctets⟩ :=
    Json.document_objectText hvalues
  exact ⟨before, text, after, hbefore, ⟨_, hobject, hholds⟩, hafter, htext ▸ hoctets⟩

/-- A key with characters that are escaped, and more so the second time. -/
def markedKey : String := "\"
😀"

/-- Its secret. -/
def markedSecret : String := objectOf [("Name", "key"), ("LicenseKey", markedKey)]

/-- The answer with this secret. -/
def markedAnswer : Http.Response :=
  ⟨200, [], Bytes.ofText (objectOf [("SecretString", markedSecret), ("LicenseKey", "")])⟩

/-- The cache that is found where no variable is set. -/
def standardCache : SecretsCache := .ofEnvironment fun _ => none

/-- A network in which every request is answered with the secret. -/
def markedNetwork : Http.Network := fun _ _ => .answered markedAnswer

theorem fate_markedNetwork :
    (Http.exchange ⟨none, .direct⟩ markedNetwork [] (standardCache.draft "key")).fate
      = .answered markedAnswer := by
  have haskable : SecretsCache.Askable (fun _ => none) ⟨none, .direct⟩ "key" := by
    refine ⟨by decide, by decide +kernel, ?_⟩
    rw [Http.Proxies.forUrl_direct]
    exact nofun
  obtain ⟨url, hsend⟩ := (SecretsCache.exists_canSend_iff _ _ "key").mpr haskable
  exact hsend.fate_direct (Http.Proxies.forUrl_direct _) rfl

/-- The key comes out of the answer, and an empty key in its place is said to be missing. -/
theorem markedKey_comes_out :
    markedKey ≠ "" ∧
      Json.Document (Wrapped "LicenseKey") markedKey (Bytes.ofText markedSecret) ∧
      Json.Document (Wrapped "SecretString") markedSecret markedAnswer.body ∧
      Http.isSuccess markedAnswer.status = true ∧
      (Http.exchange ⟨none, .direct⟩ markedNetwork [] (standardCache.draft "key")).fate
        = .answered markedAnswer ∧
      (standardCache.lookup ⟨none, .direct⟩ markedNetwork [] "key").outcome = .ok markedKey ∧
      decodeLicenseKey (Bytes.ofText (objectOf [("LicenseKey", "")])) = .error .missing := by
  have hne : markedKey ≠ "" := by decide
  have hkey : Json.Document (Wrapped "LicenseKey") markedKey (Bytes.ofText markedSecret) :=
    wrapped_objectOf rfl
  have hsecret : Json.Document (Wrapped "SecretString") markedSecret markedAnswer.body :=
    wrapped_objectOf rfl
  have hempty : Json.Document (Wrapped "LicenseKey") ""
      (Bytes.ofText (objectOf [("LicenseKey", "")])) := wrapped_objectOf rfl
  obtain ⟨hlookup, hdecode⟩ := wrapped_keys_come_out
  obtain ⟨-, hmissing, -, -⟩ := hdecode (Bytes.ofText (objectOf [("LicenseKey", "")]))
  exact ⟨hne, hkey, hsecret, rfl, fate_markedNetwork,
    hlookup standardCache ⟨none, .direct⟩ markedNetwork [] "key" markedKey markedSecret
      markedAnswer hne hkey hsecret rfl fate_markedNetwork,
    hmissing.mpr (.inr (form_of_wrapped true hempty))⟩

end Credential

end TelemetryRelay
