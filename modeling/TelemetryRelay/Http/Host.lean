import TelemetryRelay.Http.DomainName
import TelemetryRelay.Http.Ip
import TelemetryRelay.Text.Utf8

/-! # Hosts in addresses

    A host is a name, or a numeric address. In addresses whose scheme is known it
    is brought into one form; in others it is taken as it is.
-/

namespace TelemetryRelay

namespace Http

/-! ## Section 1: Percent encoding -/

/-- The octets of some characters, those that `isKept` refuses encoded. -/
def percentEncode (isKept : Char → Bool) (chars : List Char) : List Char :=
  chars.flatMap fun c =>
    if isKept c then [c]
    else (String.utf8EncodeChar c).flatMap fun b => '%' :: Bytes.upperHex b

/-- The octets that encoded octets stand for. -/
def percentDecode : Bytes → Bytes
  | 37 :: a :: b :: rest =>
    match Bytes.hexValue? a, Bytes.hexValue? b with
    | some high, some low => UInt8.ofNat (high * 16 + low) :: percentDecode rest
    | _, _ => 37 :: percentDecode (a :: b :: rest)
  | b :: rest => b :: percentDecode rest
  | [] => []

/-- The text that encoded characters stand for, if it is one. -/
def decodedText? (chars : List Char) : Option String :=
  Utf8.decode (percentDecode (Bytes.ofText (String.ofList chars)))

/-! ## Section 2: Hosts -/

/-- The text of a long numeric address between brackets. -/
def bracketed? : List Char → Option String
  | '[' :: rest =>
    if rest.getLast? = some ']' then
      (Ip.eight? rest.dropLast).map fun groups => "[" ++ Ip.longText groups ++ "]"
    else none
  | _ => none

/-- The host of an address whose scheme is known. -/
def knownHost? (chars : List Char) : Option String :=
  if chars.head? = some '[' then bracketed? chars
  else do
    let name ← DomainName.asciiForm (← decodedText? chars).toList
    let labels := DomainName.labelsOf name
    let parts := if labels.getLast? = some [] then labels.dropLast else labels
    if name.isEmpty then none
    else if Ip.isNumeric parts then (Ip.loose? parts).map Ip.shortText
    else some (String.ofList name)

/-- Whether a character may not stand in any host. -/
def isForbidden (c : Char) : Bool :=
  c.toNat = 0 || " #/:<>?@[\\]^|".toList.contains c

/-- The host of an address of another kind. -/
def otherHost? (chars : List Char) : Option String :=
  if chars.head? = some '[' then bracketed? chars
  else if chars.any isForbidden then none
  else some (String.ofList (percentEncode (fun c => 32 ≤ c.toNat && c.toNat < 127) chars))

end Http

end TelemetryRelay
