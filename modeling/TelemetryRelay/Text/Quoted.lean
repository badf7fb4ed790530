import TelemetryRelay.Bytes
import TelemetryRelay.Text.HiddenRanges

/-! # Quoted text

    How messages show a text whose limits must be visible: between quotation
    marks, with escapes for what would break the line or not be seen.
-/

namespace TelemetryRelay

namespace Text

/-- One character of a quoted text. -/
def quoteChar (c : Char) : List Char :=
  if c = '"' then ['\\', '"']
  else if c = '\\' then ['\\', '\\']
  else if c = '\n' then ['\\', 'n']
  else if c = '\r' then ['\\', 'r']
  else if c = '\t' then ['\\', 't']
  else if c.toNat = 0 then ['\\', '0']
  else if c.toNat < 32 || (127 ≤ c.toNat && CodePoints.contains CodePoints.hidden c.toNat) then
    ['\\', 'u', Char.ofNat 0x7B] ++ (Bytes.hexText c.toNat).toList ++ [Char.ofNat 0x7D]
  else [c]

/-- A text between quotation marks. -/
def quoted (text : String) : String :=
  String.ofList ('"' :: (text.toList.flatMap quoteChar ++ ['"']))

end Text

end TelemetryRelay
