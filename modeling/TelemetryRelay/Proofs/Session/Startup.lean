import TelemetryRelay.Proofs.Credential.Secrets
import TelemetryRelay.Proofs.Session.Requests
import TelemetryRelay.Session.Run

/-! # How a run starts

    A run comes by its settings, the license key and the address of the host before it
    registers; it registers and opens its listener before it subscribes, and subscribes
    before it lives. This module lists the ways a start can go, with the requests it makes
    in each of them, and says what makes the requests of one stage: the draft of the stage,
    and the answers that send it on.
-/

namespace TelemetryRelay

namespace Session

open Host (Link Registration)

/-! ## Section 1: Deeds and stages -/

namespace Staged

variable {α β : Type} {stage : Staged α} {next : List Deed → α → Staged β}

end Staged

namespace World

/-! ## Section 2: What the stages ask for -/

section

variable (world : World) (settings : Settings)

/-- The client of a run with some settings. -/
def clientOf : Http.Client := (Http.Client.through agent world.environment settings.proxy).1

/-- Looking the secret up, before anything else is asked. -/
def lookup : Credential.SecretsCache.Lookup :=
  (Credential.SecretsCache.ofEnvironment world.environment).lookup (world.clientOf settings)
    world.network [] settings.licenseKeySecret

/-- The host at an address. -/
def linkOf (authority : String) : Link := ⟨world.clientOf settings, authority⟩

end

section

variable (world : World) (settings : Settings) (key authority : String)
  (registration : Registration)

end

/-- What a run does once it knows where the host is. -/
def join (world : World) (settings : Settings) (key authority : String)
    (keyring : Credential.Keyring) (deeds : List Deed) : Staged (Lifecycle × State) :=
  let link := world.linkOf settings authority
  (world.enrol link deeds).andThen fun deeds registration =>
  (world.listen settings.listenerPort deeds).andThen fun deeds () =>
  (world.follow link registration.identifier settings.listenerPort deeds).andThen
    fun deeds () =>
  let life : Lifecycle :=
    { link := link
      identifier := registration.identifier
      functionName := world.functionNameOf registration
      harvester := harvesterOf (world.clientOf settings) settings key
      network := world.network
      ids := world.ids }
  ⟨deeds, .ok (life, .start (.start keyring world.ticks) deeds)⟩

/-- **Pursued**: the requests made for a draft. The first one carries it, and there are others
    only if that is answered with where to go on. -/
structure Pursued (client : Http.Client) (network : Http.Network) (history : List Http.Request)
    (draft : Http.Draft) (made : List Http.Request) : Prop where
  first : ∃ request more, made = request :: more ∧ client.Carries draft request
  once : ∀ request ∈ made.head?, Http.SendsOn network history request ∨ made = [request]
  trail : client.Trail network draft Http.redirectLimit history made

/-- Whatever is asked stems from the draft, or opens a tunnel. -/
theorem Pursued.opens_or_stems {client : Http.Client} {network : Http.Network}
    {history made : List Http.Request} {draft : Http.Draft}
    (h : Pursued client network history draft made) :
    ∀ request ∈ made, client.Opens request ∨ client.Stems draft request :=
  h.trail.opens_or_stems

end World

end Session

end TelemetryRelay
