import TelemetryRelay.Ingest.Signal
import TelemetryRelay.Text.Quoted

/-! # Where each kind of telemetry goes

    The ingest has two regions, and the license key tells which one an account
    belongs to. Every kind has a standard address in each region, and a setting
    may replace it. Events are filed under an account: without one they have no
    address at all.
-/

namespace TelemetryRelay

namespace Ingest

/-- A region of the ingest. -/
inductive Region where
  | us
  | eu
deriving DecidableEq, Repr

/-- The name of a region. -/
def Region.name : Region → String
  | .us => "us"
  | .eu => "eu"

/-- The region of a license key: keys of the European region start with `eu`. -/
def Region.ofCredential (credential : String) : Region :=
  match credential.toList with
  | e :: u :: _ => if e.toLower = 'e' ∧ u.toLower = 'u' then .eu else .us
  | _ => .us

/-- The standard log address. -/
def Region.logAddress : Region → String
  | .us => "https://log-api.newrelic.com/log/v1"
  | .eu => "https://log-api.eu.newrelic.com/log/v1"

/-- The standard metric address. -/
def Region.metricAddress : Region → String
  | .us => "https://metric-api.newrelic.com/metric/v1"
  | .eu => "https://metric-api.eu.newrelic.com/metric/v1"

/-- The host events are sent to. -/
def Region.eventHost : Region → String
  | .us => "https://insights-collector.newrelic.com"
  | .eu => "https://insights-collector.eu01.nr-data.net"

/-- The standard event address of an account. -/
def Region.eventAddress (region : Region) (account : String) : String :=
  region.eventHost ++ "/v1/accounts/" ++ account ++ "/events"

/-- The standard trace address. -/
def Region.traceAddress : Region → String
  | .us => "https://trace-api.newrelic.com/trace/v1"
  | .eu => "https://trace-api.eu.newrelic.com/trace/v1"

/-- Addresses given by settings. -/
structure Overrides where
  logging : Option String
  metrics : Option String
  events : Option String
  traces : Option String
deriving DecidableEq, Repr

/-- No address given. -/
def Overrides.none : Overrides := ⟨.none, .none, .none, .none⟩

/-- The addresses in use. -/
structure Endpoints where
  logging : String
  metrics : String
  events : Option String
  traces : String
deriving DecidableEq, Repr

namespace Endpoints

/-- The addresses for a license key, an account and settings. -/
def resolve (credential : String) (account : Option String) (overrides : Overrides) :
    Endpoints :=
  let region := Region.ofCredential credential
  { logging := overrides.logging.getD region.logAddress
    metrics := overrides.metrics.getD region.metricAddress
    events := (account.filter fun id => id != "").map fun id =>
      overrides.events.getD (region.eventAddress id)
    traces := overrides.traces.getD region.traceAddress }

/-- The address of a kind of telemetry. -/
def url? (endpoints : Endpoints) : Signal → Option String
  | .logging => some endpoints.logging
  | .metrics => some endpoints.metrics
  | .events => endpoints.events
  | .traces => some endpoints.traces

/-- The addresses as a log message shows them. -/
def describe (endpoints : Endpoints) : String :=
  let events := match endpoints.events with
    | some url => "Some(" ++ Text.quoted url ++ ")"
    | .none => "None"
  "Endpoints \x7b logging: " ++ Text.quoted endpoints.logging
    ++ ", metrics: " ++ Text.quoted endpoints.metrics
    ++ ", events: " ++ events
    ++ ", traces: " ++ Text.quoted endpoints.traces ++ " \x7d"

end Endpoints

end Ingest

end TelemetryRelay
