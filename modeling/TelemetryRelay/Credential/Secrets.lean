import TelemetryRelay.Credential.Keyring
import TelemetryRelay.Decimal.Integer
import TelemetryRelay.Environment
import TelemetryRelay.Log.Notice

/-! # The secrets cache

    Secrets are read from a cache beside the function, over HTTP, with the token
    of the session.
-/

namespace TelemetryRelay

namespace Credential

/-- Where the cache is and how to address it. -/
structure SecretsCache where
  base : String
  token : String
deriving DecidableEq, Repr

namespace SecretsCache

/-- The port of the cache where none is set. -/
def standardPort : Nat := 2773

/-- The variable with the port of the cache. -/
def portVariable : String := "PARAMETERS_SECRETS_EXTENSION_HTTP_PORT"

/-- The variable with the token of the session. -/
def tokenVariable : String := "AWS_SESSION_TOKEN"

/-- The cache an environment tells of. A port that is none counts as unset. -/
def ofEnvironment (environment : Environment) : SecretsCache :=
  let port := (environment.text? portVariable).bind
    fun text => (Decimal.parseUnsigned Decimal.maxPort text).toOption
  { base := "http://localhost:" ++ toString (port.getD standardPort)
    token := (environment.text? tokenVariable).getD "" }

/-- The request for a secret. -/
def draft (cache : SecretsCache) (secretId : String) : Http.Draft :=
  { method := "GET"
    url := Http.withQuery (cache.base ++ "/secretsmanager/get") "secretId" secretId
    headers := [("x-aws-parameters-secrets-token", Bytes.ofText cache.token)]
    body := [] }

/-- The license key in a response. -/
def keyOf (fate : Http.Fate) : Except KeyError String :=
  match fate.await with
  | .error error => .error (.transport error)
  | .ok response =>
    if Http.isSuccess response.status then
      match secretShape.decode response.body with
      | .error _ => .error (.transport .undecodable)
      | .ok secret => decodeLicenseKey (Bytes.ofText secret)
    else .error (.status response.status response.text)

/-- What looking a secret up takes: the requests made, and the outcome. -/
structure Lookup where
  made : List Http.Request
  outcome : Except KeyError String

/-- Looks a secret up. -/
def lookup (cache : SecretsCache) (client : Http.Client) (network : Http.Network)
    (history : List Http.Request) (secretId : String) : Lookup :=
  let exchange := Http.exchange client network history (cache.draft secretId)
  ⟨exchange.made, keyOf exchange.fate⟩

/-- The notice about a lookup. -/
def notice (secretId : String) : Log.Notice := .fetchingSecret secretId

/-- A keyring whose next lookup, if it needs one, goes to the cache: the
    requests made, the outcome, and the keyring after it. -/
def obtainThrough (cache : SecretsCache) (client : Http.Client) (network : Http.Network)
    (history : List Http.Request) (secretId : String) (keyring : Keyring) :
    List Http.Request × Except KeyError String × Keyring :=
  match keyring.found with
  | some key => ([], .ok key, keyring)
  | none =>
    let found := cache.lookup client network history secretId
    (found.made, { keyring with source := .lookup fun _ => found.outcome }.obtain)

end SecretsCache

end Credential

end TelemetryRelay
