import TelemetryRelay.Compression.Gzip
import TelemetryRelay.Compression.Zstandard
import TelemetryRelay.Text.Blank
import TelemetryRelay.Text.Lowercase

/-! # Compression schemes

    Bodies are sent compressed, by one of two schemes at a level.
-/

namespace TelemetryRelay

namespace Compression

/-- A scheme with its level. -/
inductive Scheme where
  | gzip (level : Nat)
  | zstd (level : Int)
deriving DecidableEq, Repr

namespace Scheme

/-- The level of gzip where none is chosen. -/
def standardGzipLevel : Nat := 6

/-- The level of zstd where none is chosen. -/
def standardZstdLevel : Int := 3

/-- The scheme where none is chosen. -/
def standard : Scheme := .gzip standardGzipLevel

/-- How a request names the scheme of its body. -/
def encoding : Scheme → String
  | .gzip _ => "GZIP"
  | .zstd _ => "zstd"

/-- How messages name the scheme. -/
def display : Scheme → String
  | .gzip level => "gzip(level " ++ toString level ++ ")"
  | .zstd level => "zstd(level " ++ toString level ++ ")"

/-- The same scheme at another level. Levels of gzip go from 0 to 9, and those
    beyond count as the nearest. -/
def withLevel (scheme : Scheme) (level : Int) : Scheme :=
  match scheme with
  | .gzip _ => .gzip (min level.toNat 9)
  | .zstd _ => .zstd level

/-- The scheme a setting names, or the message about one that names none. -/
def parse (text : String) : Except String Scheme :=
  let name := Text.lower (Text.trim text)
  if name = "gzip" ∨ name = "gz" then .ok (.gzip standardGzipLevel)
  else if name = "zstd" then .ok (.zstd standardZstdLevel)
  else .error ("unsupported compression scheme: " ++ name)

/-- Compresses data. -/
def compress : Scheme → Bytes → Bytes
  | .gzip level, data => Gzip.compress level data
  | .zstd level, data => Zstandard.compress level data

/-- Reads a body by the name of its scheme. -/
def decompress (encoding : String) (body : Bytes) : Option Bytes :=
  if encoding = "GZIP" then Gzip.decompress body
  else if encoding = "zstd" then Zstandard.decompress body
  else none

/-- A gzip level that was chosen is one of the ten there are. -/
theorem withLevel_gzip_le (old : Nat) (level : Int) :
    ∃ n, withLevel (.gzip old) level = .gzip n ∧ n ≤ 9 :=
  ⟨min level.toNat 9, rfl, Nat.min_le_right _ _⟩

end Scheme

end Compression

end TelemetryRelay
