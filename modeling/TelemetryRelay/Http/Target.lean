import TelemetryRelay.Bytes
import TelemetryRelay.Text.Utf8

/-! # Request lines

    A request starts with a method and a target. A method is a word; a target is
    a path with a query, a host, or a whole address with its scheme. Octets that
    may stand in one part need not be allowed in another.
-/

namespace TelemetryRelay

namespace Http

/-! ## Section 1: Words -/

/-- Whether an octet is an ASCII letter or digit. -/
def isAlphanumeric (b : UInt8) : Bool :=
  (48 ≤ b && b ≤ 57) || (65 ≤ b && b ≤ 90) || (97 ≤ b && b ≤ 122)

/-- Whether an octet may stand in a method or in the name of a header. -/
def isWordOctet (b : UInt8) : Bool :=
  isAlphanumeric b || (Bytes.ofText "!#$%&'*+-.^_\x60|~").contains b

/-- Whether octets are a word. -/
def isWord (octets : Bytes) : Bool := !octets.isEmpty && octets.all isWordOctet

/-! ## Section 2: Hosts in targets -/

/-- Whether an octet may stand in the part of a target that names a host. -/
def isAuthorityOctet (b : UInt8) : Bool :=
  isAlphanumeric b || (Bytes.ofText "!$&'()*+,-.:;=@[]_~").contains b

/-- What has been seen of the part that names a host. -/
structure AuthorityScan where
  /-- The colons that can still be the one before a port. -/
  colons : Nat
  opened : Bool
  closed : Bool
  /-- Whether there is a percent sign that is not part of a login. -/
  percent : Bool

/-- What has been seen with one more octet, if it may stand there. -/
def AuthorityScan.next? (scan : AuthorityScan) (b : UInt8) : Option AuthorityScan :=
  if b = 58 then (if scan.colons < 8 then some { scan with colons := scan.colons + 1 } else none)
  else if b = 91 then
    if scan.percent || scan.opened then none else some { scan with opened := true }
  else if b = 93 then
    if !scan.opened || scan.closed then none
    else some { scan with colons := 0, closed := true, percent := false }
  else if b = 64 then some { scan with colons := 0, percent := false }
  else if b = 37 then some { scan with percent := true }
  else if isAuthorityOctet b then some scan
  else none

/-- Whether octets can name a host. -/
def isAuthority (octets : Bytes) : Bool :=
  match octets.foldlM AuthorityScan.next? ⟨0, false, false, false⟩ with
  | none => false
  | some scan =>
    scan.opened == scan.closed && scan.colons ≤ 1 && !scan.percent &&
      octets.getLast? != some 64

/-! ## Section 3: Paths in targets -/

/-- Whether an octet may stand in the path of a target. -/
def isPathOctet (b : UInt8) : Bool :=
  33 ≤ b && !([35, 60, 62, 63, 96] : Bytes).contains b

/-- Whether an octet may stand in the query of a target. -/
def isQueryOctet (b : UInt8) : Bool :=
  33 ≤ b && !([34, 35, 60, 62] : Bytes).contains b

/-- Whether octets are a path with a query. What follows a number sign does not
    matter. -/
def isPathAndQuery (octets : Bytes) : Bool :=
  let octets := octets.takeWhile fun b => b != 35
  let path := octets.takeWhile fun b => b != 63
  path.all isPathOctet && ((octets.drop path.length).drop 1).all isQueryOctet
    && (Utf8.decode octets).isSome

/-! ## Section 4: Targets -/

/-- A target: its scheme and what names a host, if it has them. -/
structure Target where
  scheme : Option Bytes
  authority : Bytes

/-- Whether an octet may stand in a scheme. -/
def isSchemeOctet (b : UInt8) : Bool := isAlphanumeric b || b == 43 || b == 45 || b == 46

/-- Cuts a target after its scheme. -/
def cutTargetScheme (octets : Bytes) : Option (Bytes × Bytes) :=
  let scheme := octets.takeWhile isSchemeOctet
  match octets.drop scheme.length with
  | 58 :: 47 :: 47 :: rest => some (scheme, rest)
  | _ => none

/-- The greatest length of a target. -/
def longestTarget : Nat := 65534

/-- The greatest length of a scheme. -/
def longestScheme : Nat := 64

/-- Reads a target. -/
def Target.parse? (octets : Bytes) : Option Target :=
  if octets.isEmpty ∨ longestTarget < octets.length then none
  else if octets = [42] then some ⟨none, []⟩
  else if octets.head? = some 47 then
    if isPathAndQuery octets then some ⟨none, []⟩ else none
  else
    match cutTargetScheme octets with
    | none => if isAuthority octets then some ⟨none, octets⟩ else none
    | some (scheme, rest) =>
      let authority := rest.takeWhile fun b => b != 47 && b != 63 && b != 35
      if longestScheme < scheme.length ∨ authority.isEmpty then none
      else if isAuthority authority && isPathAndQuery (rest.drop authority.length) then
        some ⟨some scheme, authority⟩
      else none

/-- Whether a text is a target. -/
def isTarget (text : String) : Bool := (Target.parse? (Bytes.ofText text)).isSome

/-! ## Section 5: Reading a request line -/

/-- Why a request line cannot be read. -/
inductive LineFault where
  | method
  | target
  | targetTooLong
  | version
  | lineEnd
deriving DecidableEq, Repr

/-- The message of a fault. -/
def LineFault.message : LineFault → String
  | .method => "invalid HTTP method parsed"
  | .target => "invalid URI"
  | .targetTooLong => "URI too long"
  | .version => "invalid HTTP version parsed"
  | .lineEnd => "invalid HTTP header parsed"

/-- The status a fault is answered with. -/
def LineFault.status : LineFault → Nat
  | .targetTooLong => 414
  | _ => 400

/-- Octets without the line breaks they start with. -/
def skipBreaks : Bytes → Bytes
  | 13 :: 10 :: rest => skipBreaks rest
  | 10 :: rest => skipBreaks rest
  | octets => octets

/-- Whether an octet may stand in a target at all. -/
def isTargetOctet (b : UInt8) : Bool := 32 < b && b != 127

/-- Whether octets are the versions that are understood. -/
def isVersion (octets : Bytes) : Bool :=
  octets == Bytes.ofText "HTTP/1.1" || octets == Bytes.ofText "HTTP/1.0"

/-- The method of a request line. What is wrong first counts. -/
def readLine (line : Bytes) : Except LineFault Bytes :=
  let line := skipBreaks line
  let method := line.takeWhile isWordOctet
  let afterMethod := line.drop method.length
  let target := (afterMethod.drop 1).takeWhile isTargetOctet
  let afterTarget := (afterMethod.drop 1).drop target.length
  if method.isEmpty ∨ afterMethod.head? ≠ some 32 then .error .method
  else if target.isEmpty ∨ afterTarget.head? ≠ some 32 ∨ (Utf8.decode target).isNone then
    .error .target
  else if !isVersion ((afterTarget.drop 1).take 8) then .error .version
  else if !(afterTarget.drop 9).isEmpty then .error .lineEnd
  else if longestTarget < target.length then .error .targetTooLong
  else if (Target.parse? target).isNone then .error .target
  else .ok method

/-- The line of a request. -/
def requestLine (method target : String) : Bytes :=
  Bytes.ofText (method ++ " " ++ target ++ " HTTP/1.1")

/-- Nothing longer than the limit is a target. -/
theorem parse?_long (octets : Bytes) (h : longestTarget < octets.length) :
    Target.parse? octets = none := by
  simp [Target.parse?, h]

end Http

end TelemetryRelay
