import TelemetryRelay.Compression.Scheme
import TelemetryRelay.Decimal.Integer
import TelemetryRelay.Environment
import TelemetryRelay.Log.Logged
import TelemetryRelay.Telemetry.Split

/-! # Settings

    All settings come from the environment and have standard values. They are
    read in a fixed order, and the first one that is faulty is reported; a log
    level that is unknown is never a fault, but gives a notice.
-/

namespace TelemetryRelay

/-! ## Section 1: Names -/

/-- A setting. -/
inductive Setting where
  | licenseKey
  | licenseKeySecret
  | accountId
  | batchOctets
  | batchInterval
  | sendTimeout
  | logEndpoint
  | metricEndpoint
  | eventEndpoint
  | traceEndpoint
  | compression
  | compressionLevel
  | logLevel
  | listenerPort
  | proxy
  | commonProxy
  | payloadLimit
  | collects
deriving DecidableEq, Repr

namespace Setting

/-- The environment variable of a setting. -/
def name : Setting → String
  | .licenseKey => "NEW_RELIC_LICENSE_KEY"
  | .licenseKeySecret => "NEW_RELIC_LICENSE_KEY_SECRET"
  | .accountId => "NEW_RELIC_ACCOUNT_ID"
  | .batchOctets => "NEW_RELIC_TELEMETRY_BATCH_SIZE_BYTES"
  | .batchInterval => "NEW_RELIC_TELEMETRY_BATCH_INTERVAL_MS"
  | .sendTimeout => "NEW_RELIC_SEND_TIMEOUT_MS"
  | .logEndpoint => "NEW_RELIC_LOG_ENDPOINT"
  | .metricEndpoint => "NEW_RELIC_METRIC_ENDPOINT"
  | .eventEndpoint => "NEW_RELIC_EVENT_ENDPOINT"
  | .traceEndpoint => "NEW_RELIC_TRACE_ENDPOINT"
  | .compression => "NEW_RELIC_COMPRESSION"
  | .compressionLevel => "NEW_RELIC_COMPRESSION_LEVEL"
  | .logLevel => "NEW_RELIC_EXTENSION_LOG_LEVEL"
  | .listenerPort => "NEW_RELIC_TELEMETRY_LISTENER_PORT"
  | .proxy => "NEW_RELIC_PROXY_HTTPS"
  | .commonProxy => "HTTPS_PROXY"
  | .payloadLimit => "NEW_RELIC_MAX_PAYLOAD_BYTES"
  | .collects => "NEW_RELIC_COLLECT_AGENT_DATA"

/-- All settings. -/
def all : List Setting :=
  [.licenseKey, .licenseKeySecret, .accountId, .batchOctets, .batchInterval, .sendTimeout,
   .logEndpoint, .metricEndpoint, .eventEndpoint, .traceEndpoint, .compression,
   .compressionLevel, .logLevel, .listenerPort, .proxy, .commonProxy, .payloadLimit, .collects]

/-- The value of a setting, if it is set and not blank. -/
def value? (setting : Setting) (environment : Environment) : Option String :=
  environment.filled? setting.name

end Setting

/-- What is wrong with the settings. -/
inductive SettingError where
  | invalid (setting : Setting) (value reason : String)
  | zero (setting : Setting)
deriving DecidableEq, Repr

/-- The message of a setting error. -/
def SettingError.message : SettingError → String
  | .invalid setting value reason =>
    "invalid value " ++ Text.quoted value ++ " for " ++ setting.name ++ ": " ++ reason
  | .zero setting => setting.name ++ " must be greater than zero"

/-! ## Section 2: Reading one setting -/

namespace Setting

/-- A setting that `read` takes from its text, without the white space around. -/
def parsed {α : Type} (setting : Setting) (environment : Environment) (standard : α)
    (read : String → Except String α) : Except SettingError α :=
  match setting.value? environment with
  | none => .ok standard
  | some value =>
    match read (Text.trim value) with
    | .ok x => .ok x
    | .error reason => .error (.invalid setting value reason)

/-- Reads a number from 0 to `limit`. -/
def readNumber (limit : Nat) (text : String) : Except String Nat :=
  (Decimal.parseUnsigned limit text).mapError Decimal.Fault.message

/-- The least power of two above every compression level. -/
def levelBound : Nat := 0x80000000

/-- Reads a compression level. -/
def readLevel (text : String) : Except String Int :=
  (Decimal.parseSigned levelBound text).mapError Decimal.Fault.message

/-- Reads a flag. -/
def readFlag (text : String) : Except String Bool :=
  let word := Text.lower text
  if ["true", "1", "yes"].contains word then .ok true
  else if ["false", "0", "no"].contains word then .ok false
  else .error "expected true or false"

/-- A number that may not be zero. -/
def quantity (setting : Setting) (environment : Environment) (standard : Nat) :
    Except SettingError Nat := do
  let n ← setting.parsed environment standard (readNumber Decimal.maxWord)
  if n = 0 then .error (.zero setting) else .ok n

/-- The compression, at the level that is set if one is. -/
def compressionScheme (environment : Environment) : Except SettingError Compression.Scheme := do
  let scheme ←
    Setting.compression.parsed environment Compression.Scheme.standard Compression.Scheme.parse
  if (Setting.compressionLevel.value? environment).isSome then
    let level ← Setting.compressionLevel.parsed environment 0 readLevel
    .ok (scheme.withLevel level)
  else .ok scheme

/-- An accepted quantity is positive. -/
theorem quantity_pos (setting : Setting) (environment : Environment) (standard n : Nat)
    (h : setting.quantity environment standard = .ok n) : 0 < n := by
  unfold quantity at h
  cases hp : setting.parsed environment standard (readNumber Decimal.maxWord) with
  | error e => rw [hp] at h; cases h
  | ok m =>
    rw [hp] at h
    simp only [bind, Except.bind] at h
    split at h
    · cases h
    · cases h; omega

end Setting

/-! ## Section 3: Log level -/

/-- The log level the environment asks for, or the standard one. -/
def Log.Level.ofEnvironment (environment : Environment) : Log.Level :=
  ((environment.text? Setting.logLevel.name).bind Log.Level.parse?).getD .standard

/-- The notice about a log level that is none. -/
def logLevelNotices (environment : Environment) : List Log.Notice :=
  match Setting.logLevel.value? environment with
  | none => []
  | some value => if (Log.Level.parse? value).isSome then [] else [.levelInvalid value]

/-! ## Section 4: All settings -/

/-- The settings of the relay. Times are in milliseconds. -/
structure Settings where
  /-- The license key, unless it is kept in a secret. -/
  licenseKey : Option String
  /-- The name of the secret that holds the license key. -/
  licenseKeySecret : String
  /-- The account events are filed under. -/
  accountId : Option String
  batchOctets : Nat
  batchInterval : Nat
  sendTimeout : Nat
  overrides : Ingest.Overrides
  compression : Compression.Scheme
  logLevel : Log.Level
  listenerPort : Nat
  proxy : Option String
  payloadLimit : Nat
  /-- Whether telemetry is kept at all. -/
  collects : Bool
deriving DecidableEq, Repr

namespace Settings

/-- The standard number of octets that makes a harvest due. -/
def standardBatchOctets : Nat := 1000000

/-- The standard time after which a harvest is due. -/
def standardBatchInterval : Nat := 10000

/-- The standard time to wait for an answer of the ingest. -/
def standardSendTimeout : Nat := 5000

/-- The standard port of the listener. -/
def standardListenerPort : Nat := 4243

/-- The standard name of the secret that holds the license key. -/
def standardSecret : String := "NEW_RELIC_LICENSE_KEY"

/-- The addresses that are set. -/
def overridesOf (environment : Environment) : Ingest.Overrides where
  logging := Setting.logEndpoint.value? environment
  metrics := Setting.metricEndpoint.value? environment
  events := Setting.eventEndpoint.value? environment
  traces := Setting.traceEndpoint.value? environment

/-- The settings an environment holds, or the first fault. -/
def read (environment : Environment) : Except SettingError Settings := do
  let batchOctets ← Setting.batchOctets.quantity environment standardBatchOctets
  let batchInterval ← Setting.batchInterval.quantity environment standardBatchInterval
  let sendTimeout ← Setting.sendTimeout.quantity environment standardSendTimeout
  let payloadLimit ←
    Setting.payloadLimit.quantity environment Telemetry.standardPayloadLimit
  let compression ← Setting.compressionScheme environment
  let listenerPort ← Setting.listenerPort.parsed environment standardListenerPort
    (Setting.readNumber Decimal.maxPort)
  let collects ← Setting.collects.parsed environment true Setting.readFlag
  .ok {
    licenseKey := Setting.licenseKey.value? environment
    licenseKeySecret := (Setting.licenseKeySecret.value? environment).getD standardSecret
    accountId := Setting.accountId.value? environment
    batchOctets, batchInterval, sendTimeout
    overrides := overridesOf environment
    compression
    logLevel := ((Setting.logLevel.value? environment).bind Log.Level.parse?).getD .standard
    listenerPort
    proxy := (Setting.proxy.value? environment).or (Setting.commonProxy.value? environment)
    payloadLimit, collects }

/-- The settings an environment holds, with the notices about them. -/
def ofEnvironment (environment : Environment) : Log.Logged SettingError Settings :=
  ⟨logLevelNotices environment, read environment⟩

end Settings

end TelemetryRelay
