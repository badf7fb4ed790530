import TelemetryRelay.Host.Event
import TelemetryRelay.Http.Exchange
import TelemetryRelay.Log.Logged
import TelemetryRelay.Telemetry.Payload

/-! # Talking to the host

    The relay registers with the host, subscribes its listener to the telemetry
    of the function, and then polls for events. Each is one request, and an
    answer counts only if its status is a success.
-/

namespace TelemetryRelay

namespace Host

open Json (Value)

/-! ## Section 1: Results -/

/-- Why the host gave no useful answer. -/
inductive CallError where
  | transport (url : String) (error : Http.TransportError)
  | status (url : String) (code : Nat) (body : String)
  | missingIdentifier (url : String)
  | undecodable (url : String)
deriving DecidableEq, Repr

/-- The header that holds the identifier of a registration, as messages name it. -/
def identifierHeader : String := "Lambda-Extension-Identifier"

/-- The header that holds the identifier of a registration, in lower case. -/
def identifierKey : String := "lambda-extension-identifier"

/-- The message of an error. -/
def CallError.message : CallError → String
  | .transport url error => "request to " ++ url ++ " failed: " ++ error.message
  | .status url code body => url ++ " answered [" ++ Http.statusText code ++ "] " ++ body
  | .missingIdentifier url =>
    "response from " ++ url ++ " is missing the " ++ identifierHeader ++ " header"
  | .undecodable url =>
    "failed to decode response from " ++ url ++ ": "
      ++ Http.TransportError.message .undecodable

/-- The function the relay runs beside. -/
structure FunctionInfo where
  name : String
  version : String
  handler : String
deriving DecidableEq, Repr

/-- A registration with the host. -/
structure Registration where
  identifier : String
  function : FunctionInfo
deriving DecidableEq, Repr

/-! ## Section 2: Reading answers -/

/-- The texts of a function that have been read. -/
structure FunctionDraft where
  name : Option String
  version : Option String
  handler : Option String

/-- A field of the function that holds a text and may be absent. -/
def functionField (name : String) (get : FunctionDraft → Option String)
    (set : FunctionDraft → String → FunctionDraft) : Json.Field FunctionDraft where
  name := name
  isRead draft := (get draft).isSome
  read _ draft octets := do
    let (text, rest) ← Json.expectString octets
    .ok (set draft text, rest)
  mayLack := true

/-- The function in the answer to a registration. -/
def functionShape : Json.Shape FunctionDraft FunctionInfo where
  name := "RegisterResponse"
  fields :=
    [functionField "functionName" FunctionDraft.name fun draft s => { draft with name := some s },
     functionField "functionVersion" FunctionDraft.version
      fun draft s => { draft with version := some s },
     functionField "handler" FunctionDraft.handler
      fun draft s => { draft with handler := some s }]
  start := ⟨none, none, none⟩
  finish draft :=
    .ok ⟨draft.name.getD "", draft.version.getD "", draft.handler.getD ""⟩

/-- The function in the body of an answer. -/
def FunctionInfo.decode (octets : Bytes) : Except Json.Fault FunctionInfo :=
  functionShape.decode octets

/-- The response to a request, if it is a success. -/
def successOf (url : String) (fate : Http.Fate) : Except CallError Http.Response :=
  match fate.await with
  | .error error => .error (.transport url error)
  | .ok response =>
    if Http.isSuccess response.status then .ok response
    else .error (.status url response.status response.text)

/-! ## Section 3: Requests -/

/-- The host as the relay addresses it. -/
structure Link where
  client : Http.Client
  /-- Where the host is: its name and port. -/
  authority : String
deriving DecidableEq, Repr

namespace Link

/-- The address of a path at the host. -/
def url (link : Link) (path : String) : String := "http://" ++ link.authority ++ path

/-- Where to register. -/
def registerUrl (link : Link) : String := link.url "/2020-01-01/extension/register"

/-- Where to poll for events. -/
def pollUrl (link : Link) : String := link.url "/2020-01-01/extension/event/next"

/-- Where to subscribe. -/
def subscribeUrl (link : Link) : String := link.url "/2022-07-01/telemetry"

/-- How a body of a request says that it is JSON. -/
def jsonHeader : Http.Header := ("content-type", Bytes.ofText "application/json")

/-- The header with the identifier of the registration. -/
def identifierOf (identifier : String) : Http.Header :=
  (identifierKey, Bytes.ofText identifier)

/-- The body of the request to register: the kinds of events that are wanted. -/
def registerBody : Value :=
  .object [("events", .array (EventKind.all.map fun kind => .string kind.name))]

/-- The request to register. -/
def registerDraft (link : Link) (name : String) : Http.Draft :=
  ⟨"POST", link.registerUrl,
    [("lambda-extension-name", Bytes.ofText name), jsonHeader],
    Bytes.ofText registerBody.text⟩

/-- The request for the next event. -/
def pollDraft (link : Link) (identifier : String) : Http.Draft :=
  ⟨"GET", link.pollUrl, [identifierOf identifier], []⟩

/-- The body of the request to subscribe. -/
def subscribeBody (destination : String) : Value :=
  .object
    [("schemaVersion", .string "2022-12-13"),
     ("types", .array [.string "platform", .string "function", .string "extension"]),
     ("buffering", .object
       [("maxItems", .number (.integer 1000)),
        ("maxBytes", .number (.integer 262144)),
        ("timeoutMs", .number (.integer 25))]),
     ("destination", .object
       [("protocol", .string "HTTP"), ("URI", .string destination)])]

/-- The request to subscribe. -/
def subscribeDraft (link : Link) (identifier destination : String) : Http.Draft :=
  ⟨"PUT", link.subscribeUrl, [identifierOf identifier, jsonHeader],
    Bytes.ofText (subscribeBody destination).text⟩

/-- What a call to the host comes to: the requests made, and its result. -/
structure Call (α : Type) where
  made : List Http.Request
  answer : Log.Logged CallError α

/-- The registration an answer grants. -/
def registrationOf (link : Link) (response : Http.Response) : Except CallError Registration :=
  match (response.header? identifierKey).bind Http.headerText? with
  | none => .error (.missingIdentifier link.registerUrl)
  | some identifier =>
    match FunctionInfo.decode response.body with
    | .error _ => .error (.undecodable link.registerUrl)
    | .ok function => .ok ⟨identifier, function⟩

/-- Registers the relay under a name. -/
def register (link : Link) (network : Http.Network) (history : List Http.Request)
    (name : String) : Call Registration :=
  let exchange := Http.exchange link.client network history (link.registerDraft name)
  let result := (successOf link.registerUrl exchange.fate).bind link.registrationOf
  let notices := match result with
    | .ok registration => [Log.Notice.registered name registration.identifier]
    | .error _ => []
  ⟨exchange.made, notices, result⟩

/-- The event in an answer to a poll. -/
def eventOf (link : Link) (fate : Http.Fate) : Except CallError Event :=
  (successOf link.pollUrl fate).bind fun response =>
    (Event.decode response.body).mapError fun _ => .undecodable link.pollUrl

/-- Polls for the next event. -/
def poll (link : Link) (network : Http.Network) (history : List Http.Request)
    (identifier : String) : Http.Exchange :=
  Http.exchange link.client network history (link.pollDraft identifier)

/-- Subscribes a destination to the telemetry of the function. -/
def subscribe (link : Link) (network : Http.Network) (history : List Http.Request)
    (identifier destination : String) : Call Unit :=
  let exchange :=
    Http.exchange link.client network history (link.subscribeDraft identifier destination)
  let result := (successOf link.subscribeUrl exchange.fate).map fun _ => ()
  let notices := match result with
    | .ok () => [Log.Notice.subscribed destination]
    | .error _ => []
  ⟨exchange.made, notices, result⟩

end Link

/-- The address under which the host reaches a listener on a port. -/
def destination (port : Nat) : String := "http://sandbox.localdomain:" ++ toString port

end Host

end TelemetryRelay
