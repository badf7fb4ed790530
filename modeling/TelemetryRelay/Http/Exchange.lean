import TelemetryRelay.Http.Proxy
import TelemetryRelay.Http.Status

/-! # Requests and replies

    The outside world is a function: given the requests made so far and the next
    one, it says what becomes of that one. Everything the relay does with the
    network goes through `exchange`, which returns the requests that were really
    made, so that runs can be compared request by request. They are more than one
    where a tunnel is opened first, and where an answer sends the request on to
    another address.
-/

namespace TelemetryRelay

namespace Http

/-! ## Section 1: Messages -/

/-- A header: its name in lower case, and its value. -/
abbrev Header := String × Bytes

/-- A request as it goes out. -/
structure Request where
  method : String
  url : String
  headers : List Header
  body : Bytes
  /-- The proxy it goes to, if it does not go straight to its host. -/
  via : Option Proxy
deriving DecidableEq, Repr

/-- A response. -/
structure Response where
  status : Nat
  headers : List Header
  body : Bytes
deriving DecidableEq, Repr

/-- What becomes of a request. -/
inductive Reply where
  | answered (response : Response)
  /-- The connection breaks before an answer. -/
  | lost
  /-- There is never an answer. -/
  | silent
  /-- The work the request is part of is cancelled, and there is never an
      answer. -/
  | cancelling
deriving DecidableEq, Repr

/-- The outside world, as a function of the requests made before. -/
abbrev Network := List Request → Request → Reply

/-- The value of a header of a response. -/
def Response.header? (response : Response) (name : String) : Option Bytes :=
  (response.headers.find? fun header => header.1 == name).map fun header => header.2

/-- The body of a response as text. -/
def Response.text (response : Response) : String := Utf8.decodeLossy response.body

/-- Whether octets may be the value of a header. -/
def isHeaderValue (value : Bytes) : Bool :=
  value.all fun b => b == 9 || (32 ≤ b && b != 127)

/-- Octets without the blanks they start and end with. -/
def trimBlanks (octets : Bytes) : Bytes :=
  let isBlank := fun (b : UInt8) => b == 9 || b == 32
  ((octets.dropWhile isBlank).reverse.dropWhile isBlank).reverse

/-- Whether a header can be read. -/
def isReadable (header : Header) : Bool :=
  isWord (Bytes.ofText header.1) && isHeaderValue header.2

/-- A response as it is read: its headers without blanks around them, and without
    the body its status does not allow. One that is not well formed, or that
    only announces another, cannot be read. -/
def Response.received? (response : Response) : Option Response :=
  if isFinal response.status && response.headers.all isReadable then
    some
      { response with
        headers := response.headers.map fun header => (header.1, trimBlanks header.2)
        body := if mayHaveBody response.status then response.body else [] }
  else none

/-- The text of a header value, which must be visible ASCII. -/
def headerText? (value : Bytes) : Option String :=
  if value.all fun b => b == 9 || (32 ≤ b && b < 127) then Utf8.decode value else none

/-! ## Section 2: Making a request -/

/-- Why there is no response. -/
inductive TransportError where
  /-- The request cannot be made: its address or a header is unusable. -/
  | unusable
  /-- No request can be made to its address. -/
  | unfit (url : String)
  /-- The connection broke, or no answer came in time. -/
  | broken (url : String)
  /-- The request was sent on too often. -/
  | misled (url : String)
  /-- The body is not what it should be. -/
  | undecodable
deriving DecidableEq, Repr

/-- The message of a transport error. -/
def TransportError.message : TransportError → String
  | .unusable => "builder error"
  | .unfit url => "builder error for url (" ++ url ++ ")"
  | .broken url => "error sending request for url (" ++ url ++ ")"
  | .misled url => "error following redirect for url (" ++ url ++ ")"
  | .undecodable => "error decoding response body"

/-- A request before its address is looked at. -/
structure Draft where
  method : String
  url : String
  headers : List Header
  body : Bytes
deriving DecidableEq, Repr

/-- How requests leave the process. -/
structure Client where
  /-- How the client calls itself. -/
  agent : Option String
  proxies : Proxies
deriving DecidableEq, Repr

/-- What a request comes to. -/
inductive Fate where
  | answered (response : Response)
  | failed (error : TransportError)
  | silent (url : String)
  | cancelling
deriving DecidableEq, Repr

/-- The requests that were made for a draft, and what it comes to. -/
structure Exchange where
  made : List Request
  fate : Fate
deriving DecidableEq, Repr

/-- The header by which a client names itself. -/
def Client.agentHeaders (client : Client) : List Header :=
  (client.agent.map fun agent => ("user-agent", Bytes.ofText agent)).toList

/-- The fate of a request with this reply. -/
def fateOf (url : String) : Reply → Fate
  | .answered response =>
    match response.received? with
    | some response => .answered response
    | none => .failed (.broken url)
  | .lost => .failed (.broken url)
  | .silent => .silent url
  | .cancelling => .cancelling

/-- Makes a request. A secure address that is reached through a proxy needs a
    request for a tunnel first. -/
def Client.send (client : Client) (network : Network) (history : List Request) (url : Url)
    (draft : Draft) : Exchange :=
  let via := client.proxies.forUrl url
  let request : Request :=
    ⟨draft.method, url.requestText, draft.headers ++ client.agentHeaders, draft.body, via⟩
  let made : Exchange := ⟨[request], fateOf url.text (network history request)⟩
  match via with
  | none => made
  | some proxy =>
    if proxy.kind = .other then ⟨[], .failed (.broken url.text)⟩
    else if !url.isSecure then made
    else
      let tunnel : Request := ⟨"CONNECT", url.endpoint, client.agentHeaders, [], via⟩
      match network history tunnel with
      | .answered response =>
        if response.status = tunnelOpened then
          ⟨[tunnel, request], fateOf url.text (network (history ++ [tunnel]) request)⟩
        else ⟨[tunnel], .failed (.broken url.text)⟩
      | reply => ⟨[tunnel], fateOf url.text reply⟩

/-! ## Section 3: Being sent on -/

/-- The most times that a request is sent on. -/
def redirectLimit : Nat := 10

/-- Where a response to a request sends it on to, if it does. -/
def Response.next? (response : Response) (url : Url) : Option Url :=
  if isRedirect response.status then
    (((response.header? "location").bind Utf8.decode).bind url.join?).filter
      fun next => isTarget next.text
  else none

/-- The response that sends a request on, and where to. -/
def Fate.redirect? (url : Url) : Fate → Option (Response × Url)
  | .answered response => (response.next? url).map fun next => (response, next)
  | _ => none

/-- Whether a request becomes one that only reads when it is sent on: always with
    status 303, and if it posts something also with 301 and 302. -/
def becomesGet (status : Nat) (method : String) : Bool :=
  status = 303 && method != "HEAD" || (status = 301 || status = 302) && method = "POST"

/-- Whether a header is about the body of a request. -/
def isAboutBody (header : Header) : Bool :=
  ["content-type", "content-length", "content-encoding", "transfer-encoding"].contains header.1

/-- The name of the header that says what sent a request on. -/
def refererName : String := "referer"

/-- The header that says what sent a request on. What was kept secret so far is not
    told where it would not be. -/
def refererHeaders (url next : Url) : List Header :=
  if url.isSecure && !next.isSecure then []
  else [(refererName, Bytes.ofText url.publicText)]

/-- A draft that is sent on. One that becomes a request that only reads has no body
    any more. -/
def Draft.sentOn (draft : Draft) (status : Nat) (url next : Url) : Draft :=
  let isRead := becomesGet status draft.method
  let kept := draft.headers.filter fun header =>
    header.1 != refererName && !(isRead && isAboutBody header)
  { method := if isRead then "GET" else draft.method
    url := next.text
    headers := kept ++ refererHeaders url next
    body := if isRead then [] else draft.body }

/-- Makes a request, and sends it on as long as the answers say so, up to so many
    times. -/
def Client.follow (client : Client) (network : Network) :
    Nat → List Request → Url → Draft → Exchange
  | 0, history, url, draft =>
    let sent := client.send network history url draft
    match sent.fate.redirect? url with
    | none => sent
    | some _ => ⟨sent.made, .failed (.misled url.text)⟩
  | hops + 1, history, url, draft =>
    let sent := client.send network history url draft
    match sent.fate.redirect? url with
    | none => sent
    | some (response, next) =>
      if next.isWeb then
        let rest := client.follow network hops (history ++ sent.made) next
          (draft.sentOn response.status url next)
        ⟨sent.made ++ rest.made, rest.fate⟩
      else ⟨sent.made, .failed (.unfit next.text)⟩

/-! ## Section 4: Exchanges -/

/-- Makes a request in a network with a history, if its address and its headers
    allow that. A login in the address is not part of it any more then. -/
def exchange (client : Client) (network : Network) (history : List Request)
    (draft : Draft) : Exchange :=
  match Url.parse draft.url with
  | .error _ => ⟨[], .failed .unusable⟩
  | .ok url =>
    if !url.namesHost then ⟨[], .failed (.unfit url.text)⟩
    else if !(draft.headers.all fun header => isHeaderValue header.2) then
      ⟨[], .failed .unusable⟩
    else
      let url := url.withoutLogin
      if url.isWeb && isTarget url.text then
        client.follow network redirectLimit history url draft
      else ⟨[], .failed (.unfit url.text)⟩

/-- What a request comes to where nothing ends the wait for an answer but a
    broken connection. -/
def Fate.await : Fate → Except TransportError Response
  | .answered response => .ok response
  | .failed error => .error error
  | .silent url => .error (.broken url)
  | .cancelling => .error .undecodable

end Http

end TelemetryRelay
