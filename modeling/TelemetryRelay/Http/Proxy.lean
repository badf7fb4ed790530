import TelemetryRelay.Environment
import TelemetryRelay.Http.Ip
import TelemetryRelay.Http.Url

/-! # Proxies

    Requests can go through a proxy instead of straight to their host. Which proxy
    that is depends on whether the address is a secure one, and hosts can be
    exempt. Proxies are set explicitly or by variables of the environment that
    other programs use too.
-/

namespace TelemetryRelay

namespace Http

/-! ## Section 1: Proxies -/

/-- How a proxy is reached. -/
inductive ProxyKind where
  | plain
  | secure
  /-- In a way that is understood but cannot be used. -/
  | other
deriving DecidableEq, Repr

/-- A proxy. -/
structure Proxy where
  kind : ProxyKind
  /-- Its host and port. -/
  place : String
deriving DecidableEq, Repr

/-- The kind of proxy that goes with a scheme; a proxy without a scheme is a plain
    one. -/
def ProxyKind.ofScheme? : Option Bytes → Option ProxyKind
  | none => some .plain
  | some scheme =>
    let lower := scheme.map fun b => if 65 ≤ b ∧ b ≤ 90 then b + 32 else b
    if lower = Bytes.ofText "http" then some .plain
    else if lower = Bytes.ofText "https" then some .secure
    else if ["socks4", "socks4a", "socks5", "socks5h"].any fun name =>
        scheme = Bytes.ofText name then
      some .other
    else none

/-- Reads a proxy. Its login and anything after its place do not matter here. -/
def Proxy.parse? (text : String) : Option Proxy := do
  let target ← Target.parse? (Bytes.ofText text)
  let kind ← ProxyKind.ofScheme? target.scheme
  let login := target.authority.takeWhile fun b => b != 64
  let place :=
    if login.length = target.authority.length then target.authority
    else target.authority.drop (login.length + 1)
  if place.isEmpty then none else (Utf8.decode place).map fun place => ⟨kind, place⟩

/-! ## Section 2: Exemptions -/

/-- Hosts that are not reached through a proxy. -/
inductive Exemption where
  /-- The numeric addresses that agree with one in their first bits. -/
  | network (address : Ip) (bits : Nat)
  /-- A name and all names that end in it. -/
  | domain (name : List Char)
deriving DecidableEq, Repr

/-- Reads the numeric addresses of an exemption. -/
def network? (chars : List Char) : Option Exemption :=
  let address := chars.takeWhile fun c => c != '/'
  match Ip.parse? address, chars.drop address.length with
  | some ip, [] => some (.network ip ip.width)
  | some ip, _ :: digits =>
    if digits.isEmpty ∨ (if ip.width = 32 then 2 else 3) < digits.length then none
    else ((decimal? digits).filter fun bits => bits ≤ ip.width).map (.network ip)
  | none, _ => none

/-- Reads exemptions, with commas between them. -/
def Exemption.parseAll (text : String) : List Exemption :=
  (cutAt (fun c => c = ',') text.toList).filterMap fun part =>
    let part := Text.trimChars part
    (network? part).or (if part.isEmpty then none else some (.domain (part.map Char.toLower)))

/-- Whether a name is exempt. A name with a dot in front stands for itself without
    the dot as well, and a star for all names. -/
def Exemption.coversName (host : List Char) : Exemption → Bool
  | .network .. => false
  | .domain name =>
    name == host || (name.head? == some '.' && name.drop 1 == host) ||
      (name.isSuffixOf host &&
        (name.head? == some '.' || (host.reverse.drop name.length).head? == some '.')) ||
      name == ['*']

/-- Whether a numeric address is exempt. -/
def Exemption.coversAddress (ip : Ip) : Exemption → Bool
  | .network address bits => Ip.agree bits address ip
  | .domain _ => false

/-- Whether a host is among exemptions. -/
def isExempt (exemptions : List Exemption) (host : String) : Bool :=
  let chars := host.toList
  let bare := if chars.head? = some '[' then
      (chars.filter fun c => c != '[' && c != ']')
    else chars
  match Ip.parse? bare with
  | some ip => exemptions.any (Exemption.coversAddress ip)
  | none => exemptions.any (Exemption.coversName (bare.map Char.toLower))

/-! ## Section 3: Which proxy -/

/-- The proxies that are set. -/
structure Proxies where
  /-- For addresses that are not secure. -/
  plain : Option Proxy
  /-- For secure addresses. -/
  secure : Option Proxy
  exempt : List Exemption
deriving DecidableEq, Repr

namespace Proxies

/-- No proxies. -/
def direct : Proxies := ⟨none, none, []⟩

/-- One proxy for everything. -/
def all (proxy : Proxy) : Proxies := ⟨some proxy, some proxy, []⟩

/-- The proxy for an address, if there is one. -/
def forUrl (proxies : Proxies) (url : Url) : Option Proxy :=
  if isExempt proxies.exempt url.host then none
  else if url.isSecure then proxies.secure
  else proxies.plain

/-- The variable that is set where the process answers requests itself. Its
    headers could then pass for other variables, so none is trusted. -/
def gatewayVariable : String := "REQUEST_METHOD"

/-- The variables for all proxies, for those of addresses that are not secure, for
    those of secure ones, and for exemptions. Of two names the first that is set
    counts. -/
def variableNames : List (String × String) :=
  [("ALL_PROXY", "all_proxy"), ("HTTP_PROXY", "http_proxy"), ("HTTPS_PROXY", "https_proxy"),
   ("NO_PROXY", "no_proxy")]

/-- The names of all variables that are looked at. -/
def readNames : List String :=
  gatewayVariable :: variableNames.flatMap fun names => [names.1, names.2]

/-- The value of the first of two variables that is set. -/
def firstSet (environment : Environment) (names : String × String) : String :=
  ((environment.text? names.1).or (environment.text? names.2)).getD ""

/-- The proxies that the environment sets. -/
def ofEnvironment (environment : Environment) : Proxies :=
  match variableNames.map (firstSet environment) with
  | [all, plain, secure, exempt] =>
    if (environment gatewayVariable).isSome then direct
    else
      ⟨(Proxy.parse? plain).or (Proxy.parse? all), (Proxy.parse? secure).or (Proxy.parse? all),
        Exemption.parseAll exempt⟩
  | _ => direct

/-- Without proxies every host is reached straight. -/
theorem forUrl_direct (url : Url) : direct.forUrl url = none := by
  simp [forUrl, direct]

end Proxies

end Http

end TelemetryRelay
