import TelemetryRelay.Credential.Secrets
import TelemetryRelay.Http.Client
import TelemetryRelay.Session.Lifecycle
import TelemetryRelay.Settings

/-! # A whole run

    A run reads the settings, gets the license key, registers with the host,
    opens the listener and subscribes it, in this order, and then lives until it
    ends. Each stage needs the ones before it: the first one that fails ends the
    run, with nothing asked of the network after it.
-/

namespace TelemetryRelay

namespace Session

open Host (CallError Link Registration)

/-! ## Section 1: The world around a run -/

/-- Everything a run is given from outside. -/
structure World where
  environment : Environment
  network : Http.Network
  /-- Ids for spans. -/
  ids : Nat → String
  /-- What the forward clock shows when the batch is created. -/
  ticks : Nat
  /-- Why a port cannot be opened, if it cannot. -/
  refusal : Nat → Option String
  /-- The rounds of the life, if it comes to that. -/
  rounds : List Round

/-- Why a run fails. -/
inductive RunError where
  | settings (error : SettingError)
  | credential (error : Credential.KeyError)
  | hostUnknown
  | port (cause : String)
  | api (error : CallError)
deriving DecidableEq, Repr

/-- The variable that says where the host is. -/
def hostVariable : String := "AWS_LAMBDA_RUNTIME_API"

/-- The variable with the name of the function. -/
def functionVariable : String := "AWS_LAMBDA_FUNCTION_NAME"

/-- The variables a run looks at. -/
def readVariables : List String :=
  [hostVariable, functionVariable, Credential.SecretsCache.portVariable,
   Credential.SecretsCache.tokenVariable] ++ Http.Proxies.readNames
    ++ Setting.all.map Setting.name

/-- The message of a failure. -/
def RunError.message : RunError → String
  | .settings error => error.message
  | .credential error => error.message
  | .hostUnknown => hostVariable ++ " is not set, not running inside Lambda?"
  | .port cause => cause
  | .api error => error.message

/-- What was done so far, with what came of it. -/
structure Staged (α : Type) where
  deeds : List Deed
  result : Except RunError α

namespace Staged

variable {α β : Type}

/-- Goes on after a stage, with what was done up to then, unless it failed. -/
def andThen (stage : Staged α) (next : List Deed → α → Staged β) : Staged β :=
  match stage.result with
  | .error error => ⟨stage.deeds, .error error⟩
  | .ok x => next stage.deeds x

end Staged

/-- The requests among some deeds. -/
def requestsOf (deeds : List Deed) : List Http.Request := deeds.filterMap Deed.request?

/-! ## Section 2: Stages -/

namespace World

/-- How the relay calls itself in requests. -/
def agent : String := Telemetry.relayName ++ "/" ++ Telemetry.relayVersion

/-- Reads the settings. -/
def configure (world : World) : Staged Settings :=
  let logged := Settings.ofEnvironment world.environment
  let told := (Log.Notice.loggingEnabled :: logged.notices).map Deed.told
  match logged.result with
  | .error error => ⟨told, .error (.settings error)⟩
  | .ok settings =>
    ⟨told ++ [.told (.batching settings.batchOctets settings.batchInterval
      settings.compression.display)], .ok settings⟩

/-- Gets the license key, from the settings or the secrets cache. The keyring
    that comes with it holds the key. -/
def unlock (world : World) (client : Http.Client) (settings : Settings) (deeds : List Deed) :
    Staged (String × Credential.Keyring) :=
  match settings.licenseKey with
  | some key => ⟨deeds, .ok (key, .ofKey key)⟩
  | none =>
    let cache := Credential.SecretsCache.ofEnvironment world.environment
    let (made, key, keyring) := cache.obtainThrough client world.network (requestsOf deeds)
      settings.licenseKeySecret .unasked
    let deeds := deeds ++ [.told (Credential.SecretsCache.notice settings.licenseKeySecret)]
      ++ made.map Deed.made
    ⟨deeds, (key.mapError RunError.credential).map fun key => (key, keyring)⟩

/-- The harvester for some settings and a license key. -/
def harvesterOf (client : Http.Client) (settings : Settings) (key : String) :
    Ingest.Harvester where
  dispatcher :=
    { client := client
      timeout := settings.sendTimeout
      codec := Ingest.codecOf settings.compression
      endpoints := Ingest.Endpoints.resolve key settings.accountId settings.overrides
      limit := settings.payloadLimit }
  thresholds := ⟨settings.batchOctets, settings.batchInterval⟩
  collects := settings.collects

/-- Finds out where the host is. -/
def locate (world : World) (client : Http.Client) (harvester : Ingest.Harvester)
    (deeds : List Deed) : Staged Link :=
  let deeds := deeds
    ++ [.told (.endpointsResolved harvester.dispatcher.endpoints)]
    ++ if harvester.collects then [] else [.told .collectionDisabled]
  match world.environment.text? hostVariable with
  | none => ⟨deeds, .error .hostUnknown⟩
  | some authority => ⟨deeds, .ok ⟨client, authority⟩⟩

/-- The name of the function: from the environment, or else as registered. -/
def functionNameOf (world : World) (registration : Registration) : String :=
  ((world.environment.text? functionVariable).filter fun name => name != "").getD
    registration.function.name

/-- Registers with the host. -/
def enrol (world : World) (link : Link) (deeds : List Deed) : Staged Registration :=
  let call := link.register world.network (requestsOf deeds) Telemetry.relayName
  let deeds := deeds ++ call.made.map Deed.made ++ call.answer.notices.map Deed.told
  match call.answer.result with
  | .error error => ⟨deeds, .error (.api error)⟩
  | .ok registration =>
    ⟨deeds ++ [.told (.extensionRegistered Telemetry.relayName
      (world.functionNameOf registration) registration.identifier)], .ok registration⟩

/-- Opens the listener. -/
def listen (world : World) (port : Nat) (deeds : List Deed) : Staged Unit :=
  match world.refusal port with
  | some cause => ⟨deeds, .error (.port cause)⟩
  | none => ⟨deeds, .ok ()⟩

/-- Subscribes the listener. -/
def follow (world : World) (link : Link) (identifier : String) (port : Nat)
    (deeds : List Deed) : Staged Unit :=
  let call := link.subscribe world.network (requestsOf deeds) identifier
    (Host.destination port)
  let deeds := deeds ++ call.made.map Deed.made ++ call.answer.notices.map Deed.told
  ⟨deeds, call.answer.result.mapError RunError.api⟩

/-! ## Section 3: A run -/

/-- All stages before the life: the life that follows, and the state it starts
    with. -/
def prepare (world : World) : Staged (Lifecycle × State) :=
  world.configure.andThen fun deeds settings =>
  let (client, notices) := Http.Client.through agent world.environment settings.proxy
  let deeds := deeds ++ notices.map Deed.told
  (world.unlock client settings deeds).andThen fun deeds (key, keyring) =>
  let harvester := harvesterOf client settings key
  (world.locate client harvester deeds).andThen fun deeds link =>
  (world.enrol link deeds).andThen fun deeds registration =>
  (world.listen settings.listenerPort deeds).andThen fun deeds () =>
  (world.follow link registration.identifier settings.listenerPort deeds).andThen
    fun deeds () =>
  let life : Lifecycle :=
    { link := link
      identifier := registration.identifier
      functionName := world.functionNameOf registration
      harvester := harvester
      network := world.network
      ids := world.ids }
  ⟨deeds, .ok (life, .start (.start keyring world.ticks) deeds)⟩

/-- What a run leads to: what was done, and the exit code if it ended. -/
structure Exit where
  deeds : List Deed
  code : Option Nat
deriving DecidableEq, Repr

/-- The end of a run that failed. -/
def fail (deeds : List Deed) (error : RunError) : Exit :=
  ⟨deeds ++ [.told (.extensionFailed error.message)], some 1⟩

/-- Runs the relay. -/
def run (world : World) : Exit :=
  let prepared := world.prepare
  match prepared.result with
  | .error error => fail prepared.deeds error
  | .ok (life, state) =>
    let (state, ending) := life.run state world.rounds
    match ending with
    | .waiting => ⟨state.deeds, none⟩
    | .finished => ⟨state.deeds, some 0⟩
    | .failed error => fail state.deeds (.api error)

/-- The lines a run prints. -/
def lines (world : World) (face : Log.ClockFace) : List String :=
  Log.lines face (some (Log.Level.ofEnvironment world.environment))
    (world.run.deeds.filterMap Deed.notice?)

end World

end Session

end TelemetryRelay
