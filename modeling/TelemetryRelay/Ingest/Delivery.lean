import TelemetryRelay.Http.Exchange
import TelemetryRelay.Log.Notice

/-! # Delivering one body

    A body is posted once. It is delivered if the ingest answers with a status
    below 300, and fails otherwise: because it cannot be sent, because there is
    no answer in time, because of the status, or because the work is cancelled.
-/

namespace TelemetryRelay

namespace Ingest

/-! ## Section 1: Outcomes -/

/-- Why a body was not delivered. -/
inductive DeliveryError where
  | transport (url : String) (error : Http.TransportError)
  | status (code : Nat) (body : String)
  | cancelled
  | invalidCredential
deriving DecidableEq, Repr

/-- The message of a delivery error. -/
def DeliveryError.message : DeliveryError → String
  | .transport url error =>
    "telemetry client error sending to " ++ url ++ ": " ++ error.message
  | .status code body =>
    "telemetry client response: [" ++ Http.statusText code ++ "] " ++ body
  | .cancelled => "delivery cancelled before the ingest responded"
  | .invalidCredential => "credential is not a valid header value"

/-- What became of a body. -/
inductive Outcome where
  | delivered (status : Nat)
  | failed (error : DeliveryError)
deriving DecidableEq, Repr

/-- Whether a body was delivered. -/
def Outcome.isDelivered : Outcome → Bool
  | .delivered _ => true
  | .failed _ => false

/-- When the work is cancelled. -/
inductive Cancellation where
  | never
  /-- So many milliseconds after the sending started. -/
  | after (millis : Nat)
  | already
deriving DecidableEq, Repr

/-! ## Section 2: One body -/

/-- A compressed body with where it goes and what it is part of. -/
structure Parcel where
  signal : Signal
  /-- Its place among the bodies of its kind. -/
  chunk : Nat
  url : String
  /-- The number of items in it. -/
  records : Nat
  body : Bytes
deriving DecidableEq, Repr

/-- How bodies are posted. -/
structure Courier where
  client : Http.Client
  /-- How long to wait for an answer, in milliseconds. -/
  timeout : Nat
  /-- The name of the compression scheme. -/
  encoding : String
deriving DecidableEq, Repr

/-- The headers of a request with a body. -/
def Courier.headers (courier : Courier) (credential : String) (signal : Signal) :
    List Http.Header :=
  [("content-type", Bytes.ofText "application/json"),
   ("content-encoding", Bytes.ofText courier.encoding),
   ("api-key", Bytes.ofText credential)]
  ++ if signal = .traces then
      [("data-format", Bytes.ofText "newrelic"), ("data-format-version", Bytes.ofText "1")]
    else []

/-- The request for a body. -/
def Courier.draft (courier : Courier) (credential : String) (parcel : Parcel) : Http.Draft :=
  ⟨"POST", parcel.url, courier.headers credential parcel.signal, parcel.body⟩

/-- Whether a license key can be sent at all. -/
def isUsableCredential (credential : String) : Bool :=
  Http.isHeaderValue (Bytes.ofText credential)

/-- What became of a body: the requests made, the outcome, and whether the
    answer was that the work is cancelled. -/
structure Delivery where
  made : List Http.Request
  outcome : Outcome
  cancels : Bool
deriving DecidableEq, Repr

/-- The outcome of a response. -/
def outcomeOf (response : Http.Response) : Outcome :=
  if response.status < 300 then .delivered response.status
  else .failed (.status response.status response.text)

/-- Posts a body. -/
def Courier.send (courier : Courier) (network : Http.Network) (history : List Http.Request)
    (cancellation : Cancellation) (credential : String) (parcel : Parcel) : Delivery :=
  if !isUsableCredential credential then ⟨[], .failed .invalidCredential, false⟩
  else if cancellation = .already then ⟨[], .failed .cancelled, false⟩
  else
    let exchange := Http.exchange courier.client network history
      (courier.draft credential parcel)
    match exchange.fate with
    | .answered response => ⟨exchange.made, outcomeOf response, false⟩
    | .failed error => ⟨exchange.made, .failed (.transport parcel.url error), false⟩
    | .cancelling => ⟨exchange.made, .failed .cancelled, true⟩
    | .silent url =>
      let late : Outcome := .failed (.transport parcel.url (.broken url))
      match cancellation with
      | .after millis =>
        ⟨exchange.made, if millis < courier.timeout then .failed .cancelled else late, false⟩
      | _ => ⟨exchange.made, late, false⟩

/-- The notice about an outcome. -/
def notice (parcel : Parcel) : Outcome → Log.Notice
  | .delivered status =>
    .sent parcel.body.length parcel.signal parcel.url (Http.statusText status)
  | .failed error =>
    .sendFailed parcel.signal parcel.chunk parcel.records error.message

/-! ## Section 3: All bodies of a dispatch -/

/-- What became of several bodies. -/
structure Round where
  made : List Http.Request
  outcomes : List (Parcel × Outcome)
  cancels : Bool

/-- Posts bodies. Each takes its own time, and none waits for another: an answer
    that cancels the work reaches those that are posted after it. -/
def Courier.sendAll (courier : Courier) (network : Http.Network) (credential : String) :
    List Http.Request → Cancellation → List Parcel → Round
  | _, _, [] => ⟨[], [], false⟩
  | history, cancellation, parcel :: rest =>
    let delivery := courier.send network history cancellation credential parcel
    let round := courier.sendAll network credential (history ++ delivery.made)
      (if delivery.cancels then .already else cancellation) rest
    ⟨delivery.made ++ round.made, (parcel, delivery.outcome) :: round.outcomes,
      delivery.cancels || round.cancels⟩

/-- Every body is posted exactly once, in order. -/
theorem map_fst_sendAll (courier : Courier) (network : Http.Network) (credential : String)
    (history : List Http.Request) (cancellation : Cancellation) (parcels : List Parcel) :
    (courier.sendAll network credential history cancellation parcels).outcomes.map Prod.fst
      = parcels := by
  induction parcels generalizing history cancellation with
  | nil => rfl
  | cons parcel rest ih => simp [Courier.sendAll, ih]

/-- A body is never posted after the work was cancelled. -/
theorem made_send_already (courier : Courier) (network : Http.Network)
    (history : List Http.Request) (credential : String) (parcel : Parcel) :
    (courier.send network history .already credential parcel).made = [] := by
  unfold Courier.send
  split <;> simp

end Ingest

end TelemetryRelay
