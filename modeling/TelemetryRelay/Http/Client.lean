import TelemetryRelay.Http.Exchange
import TelemetryRelay.Log.Notice

/-! # The client of the process

    Secure addresses can be reached through a proxy that the settings name. Its
    address may lack a scheme. An address that is unusable is reported; then, and
    where none is set, the proxies of the environment are used.
-/

namespace TelemetryRelay

namespace Http

/-- The address of a proxy that the settings name. One without a scheme, or without
    a host, is read again with a scheme in front. -/
def proxyUrl? (text : String) : Option Url :=
  let withScheme := (Url.parse ("http://" ++ text)).toOption.filter Url.namesHost
  match Url.parse text with
  | .ok url => if url.namesHost then some url else withScheme
  | .error .noScheme => withScheme
  | .error .malformed => none

/-- A proxy for secure addresses only. An address that names none that can be used
    stands for none. -/
def Proxies.ofUrl (url : Url) : Proxies := ⟨none, Proxy.parse? url.text, []⟩

/-- The client that calls itself `agent` and uses a proxy if one is set, with the
    notices about that. -/
def Client.through (agent : String) (environment : Environment) (proxy : Option String) :
    Client × List Log.Notice :=
  match proxy with
  | none => (⟨some agent, .ofEnvironment environment⟩, [])
  | some text =>
    match proxyUrl? text with
    | some url => (⟨some agent, .ofUrl url⟩, [])
    | none =>
      (⟨some agent, .ofEnvironment environment⟩,
        [.proxyInvalid (TransportError.message .unusable)])

end Http

end TelemetryRelay
