import TelemetryRelay.Http.Exchange

/-! # Scripted networks

    A network can be given by rules. The first rule that fits a request and is
    not used up decides the reply; without one the request is accepted. Since a
    network is a function of its history, how often a rule was used is counted
    over the requests before.
-/

namespace TelemetryRelay

namespace Http

/-- A rule of a scripted network. -/
structure Rule where
  /-- The path a request must have. -/
  path : Option String
  /-- What its body must contain. -/
  contains : Option Bytes
  /-- How often the rule may be used. -/
  times : Option Nat
  reply : Reply
deriving DecidableEq, Repr

/-- The path of a request, without its query. -/
def Request.path (request : Request) : String :=
  match Url.parse request.url with
  | .ok url => if url.isWeb then url.path else ""
  | .error _ => ""

/-- Whether nobody but the host can read a request, so that no rule sees it. -/
def Request.isSealed (request : Request) : Bool := request.url.startsWith "https://"

/-- Whether a rule fits a request, whose body is read by `decode`. -/
def Rule.fits (decode : Request → Bytes) (request : Request) (rule : Rule) : Bool :=
  rule.path.all (fun path => path == request.path) &&
    rule.contains.all (fun part => Bytes.occursIn part (decode request)) &&
    rule.times.all (fun times => 0 < times)

/-- One use less of a rule. -/
def Rule.use (rule : Rule) : Rule := { rule with times := rule.times.map (· - 1) }

/-- The rules after a request was made. -/
def useRules (decode : Request → Bytes) (request : Request) : List Rule → List Rule
  | [] => []
  | rule :: rest =>
    if rule.fits decode request then rule.use :: rest
    else rule :: useRules decode request rest

/-- The reply where no rule fits. Tunnels are refused. -/
def standardReply (request : Request) : Reply :=
  .answered ⟨if request.method = "CONNECT" then 502 else 202, [], []⟩

/-- The network of some rules. Nothing passes through a tunnel. -/
def scripted (decode : Request → Bytes) (rules : List Rule) : Network :=
  fun history request =>
    let seen := history.filter fun request => !request.isSealed
    let rules := seen.foldl (fun rules request => useRules decode request rules) rules
    if request.isSealed then .lost
    else
      ((rules.find? fun rule => rule.fits decode request).map Rule.reply).getD
        (standardReply request)

end Http

end TelemetryRelay
