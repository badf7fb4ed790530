import TelemetryRelay.Credential.Secrets
import TelemetryRelay.Proofs.Http.Addresses

/-! # Asking for a secret

    Where the secrets cache is, and what it is shown, comes from the environment. This
    module says when that makes a request that can be sent: whatever port is set and
    whatever the secret is called, the address is a good one. Only a token that no header
    can hold, a name that makes the address too long, or a proxy that cannot be used can
    keep the secret from being asked for.
-/

namespace TelemetryRelay

namespace Credential

open Http (Clean isQueryChar isPlain forall_plain)

/-! ## Section 1: Names of secrets -/

/-- Letters and digits may stand in a query. -/
theorem isQueryChar_of_isAlphanum {c : Char} (h : c.isAlphanum = true) :
    isQueryChar true c = true := by
  have hplain : isPlain c = true := by
    -- three ranges of codes, all of them plain
    have hranges : (c.isUpper = true ∨ c.isLower = true) ∨ c.isDigit = true :=
      (Bool.or_eq_true_iff.mp h).imp_left Bool.or_eq_true_iff.mp
    have hcodes : (65 ≤ c.toNat ∧ c.toNat ≤ 90 ∨ 97 ≤ c.toNat ∧ c.toNat ≤ 122) ∨
        48 ≤ c.toNat ∧ c.toNat ≤ 57 := by
      rcases hranges with (hupper | hlower) | hdigit
      · exact .inl (.inl (of_decide_eq_true hupper))
      · exact .inl (.inr ((Bool.and_eq_true_iff.mp hlower).imp of_decide_eq_true of_decide_eq_true))
      · exact .inr ((Bool.and_eq_true_iff.mp hdigit).imp of_decide_eq_true of_decide_eq_true)
    simp only [isPlain, Bool.and_eq_true, decide_eq_true_eq]
    omega
  exact forall_plain (P := fun c => c.isAlphanum = true → isQueryChar true c = true)
    (by decide +kernel) hplain h

/-- What a form encodes may stand in a query as it is. -/
theorem isQueryChar_of_mem_formEncode {text : String} {c : Char}
    (h : c ∈ (Http.formEncode text).toList) : isQueryChar true c = true := by
  unfold Http.formEncode at h
  rw [String.toList_ofList, List.mem_flatMap] at h
  obtain ⟨written, -, hmem⟩ := h
  split at hmem
  · rw [List.mem_singleton.mp hmem]
    decide
  · unfold Http.percentEncode at hmem
    rw [List.flatMap_singleton] at hmem
    split at hmem
    · next hkept =>
      rw [List.mem_singleton.mp hmem]
      rcases Bool.or_eq_true_iff.mp hkept with halphanum | hmark
      · exact isQueryChar_of_isAlphanum halphanum
      · have hmarks : ['*', '-', '.', '_'].all (isQueryChar true) = true := by decide
        exact List.all_eq_true.mp hmarks _ (List.contains_iff_mem.mp hmark)
    · -- two digits for each octet, after a mark
      obtain ⟨b, -, hmem⟩ := List.mem_flatMap.mp hmem
      have hdigits : ∀ n < 16, isQueryChar true (Nat.digitChar n).toUpper = true := by decide
      have hbound := b.toNat_lt
      unfold Bytes.upperHex at hmem
      rw [List.mem_cons, List.mem_cons, List.mem_singleton] at hmem
      rcases hmem with rfl | rfl | rfl
      · decide
      · exact hdigits _ (by omega)
      · exact hdigits _ (by omega)

namespace SecretsCache

/-! ## Section 2: The address of a secret -/

/-- The port of the cache. -/
def portOf (environment : Environment) : Nat :=
  ((environment.text? portVariable).bind fun text =>
    (Decimal.parseUnsigned Decimal.maxPort text).toOption).getD standardPort

/-- The token of the session. -/
def tokenOf (environment : Environment) : String := (environment.text? tokenVariable).getD ""

/-- The address that a secret is asked for at. -/
def addressOf (environment : Environment) (secretId : String) : Http.Url :=
  Http.portUrl "localhost" (portOf environment) "/secretsmanager/get"
    ("secretId=" ++ Http.formEncode secretId)

theorem parseUnsigned_le {limit n : Nat} {text : String}
    (h : Decimal.parseUnsigned limit text = .ok n) : n ≤ limit := by
  have hdigits {chars : List Char} {overflow : Decimal.Fault}
      (h : Decimal.someDigits limit overflow chars = .ok n) : n ≤ limit := by
    unfold Decimal.someDigits at h
    split at h
    · cases h
    · exact Decimal.digitsUpTo_le limit overflow chars 0 n (Nat.zero_le _) h
  unfold Decimal.parseUnsigned at h
  split at h
  · cases h
  · exact hdigits h
  · exact hdigits h

theorem portOf_le (environment : Environment) : portOf environment ≤ 65535 := by
  unfold portOf
  cases hport : (environment.text? portVariable).bind fun text =>
      (Decimal.parseUnsigned Decimal.maxPort text).toOption with
  | none => decide
  | some port =>
    obtain ⟨text, -, hparse⟩ := Option.bind_eq_some_iff.mp hport
    cases hnumber : Decimal.parseUnsigned Decimal.maxPort text with
    | error fault =>
      rw [hnumber] at hparse
      cases hparse
    | ok n =>
      rw [hnumber] at hparse
      cases hparse
      exact parseUnsigned_le hnumber

/-- Whatever the secret is called, nothing in its address needs encoding. -/
theorem clean_address (secretId : String) :
    Clean "localhost" "/secretsmanager/get" ("secretId=" ++ Http.formEncode secretId) where
  named := by decide
  small := Http.forall_small (by decide)
  known := Http.knownHost?_localhost
  inPath := List.all_eq_true.mp (by decide)
  rooted := ⟨"secretsmanager/get".toList, by decide, by decide +kernel⟩
  inQuery c hmem := by
    rw [String.toList_append, List.mem_append] at hmem
    rcases hmem with hmem | hmem
    · exact List.all_eq_true.mp (by decide) c hmem
    · exact isQueryChar_of_mem_formEncode hmem

/-- The draft for a secret goes to its address. -/
theorem url_draft (environment : Environment) (secretId : String) :
    ((ofEnvironment environment).draft secretId).url
      = Http.portText "localhost" (portOf environment) "/secretsmanager/get"
          ("secretId=" ++ Http.formEncode secretId) := by
  have hhost : "http://localhost:" = "http://" ++ "localhost" ++ ":" := by decide
  have hname : Http.formEncode "secretId" ++ "=" = "secretId=" := by decide +kernel
  have hregroup (host number path mark name equals value : String) :
      host ++ number ++ path ++ mark ++ name ++ equals ++ value
        = host ++ number ++ path ++ mark ++ (name ++ equals ++ value) := by
    simp only [String.append_assoc]
  refine (hregroup _ _ _ _ _ _ _).trans ?_
  rw [hname, hhost]
  rfl

/-! ## Section 3: Requests for secrets -/

/-- **Askable**: nothing keeps a client from asking for a secret. -/
structure Askable (environment : Environment) (client : Http.Client) (secretId : String) :
    Prop where
  /-- The token can stand in a header. -/
  token : Http.isHeaderValue (Bytes.ofText (tokenOf environment)) = true
  /-- The address is not too long. -/
  short : (Bytes.ofText (addressOf environment secretId).text).length ≤ Http.longestTarget
  /-- The proxy, if there is one, can be used. -/
  proxy : ∀ proxy, client.proxies.forUrl (addressOf environment secretId) = some proxy →
    proxy.kind ≠ .other

/-- A secret can be asked for exactly if nothing of this keeps the client from it. -/
theorem exists_canSend_iff (environment : Environment) (client : Http.Client)
    (secretId : String) :
    (∃ url, client.CanSend ((ofEnvironment environment).draft secretId) url) ↔
      Askable environment client secretId := by
  rw [(clean_address secretId).exists_canSend_iff (portOf_le environment)
    (url_draft environment secretId)]
  constructor
  · rintro ⟨hheaders, hshort, hproxy⟩
    exact ⟨hheaders _ (List.mem_singleton_self _), hshort, hproxy⟩
  · intro h
    exact ⟨List.forall_mem_singleton.mpr h.token, h.short, h.proxy⟩

end SecretsCache

end Credential

end TelemetryRelay
