import HostFlash.Digest.Sha512
import HostFlash.Text.Blank
import HostFlash.Text.Lines
import HostFlash.Text.Utf8

/-! # Version text

The text in the version partition holds the firmware version in its first line and one component
version in each line after it, behind an indent. Lines end at a line feed alone, so a carriage
return is part of its line. One line feed at the very end starts no further line.
-/

namespace HostFlash.Firmware

/-- A version text, taken apart: the version, and the components joined by commas. -/
structure Version where
  version : String
  components : String
deriving Repr, DecidableEq

namespace Version

/-- A text without the one line feed at its end. -/
def withoutFinalNewline (cs : List Char) : List Char :=
  if cs.getLast? = some '\n' then cs.dropLast else cs

/-- Takes a version text apart. -/
def parse (text : String) : Version :=
  match Text.splitOn '\n' (withoutFinalNewline text.toList) with
  | [] => ⟨"", ""⟩
  | first :: rest =>
      ⟨String.ofList first, String.ofList (List.intercalate [','] (rest.map Text.trimStart))⟩

/-- How many digits an image id has. -/
def idLength : Nat := 8

/-- The id of an image with this version: the first digits of the digest of the version, and
nothing for an empty version. -/
def idOf (version : String) : String :=
  if version = "" then ""
  else
    let digest := Sha512.digest (Text.Utf8.encode version.toList)
    let hex := digest.flatMap fun b => [Nat.digitChar (b.toNat / 16), Nat.digitChar (b.toNat % 16)]
    String.ofList (hex.take idLength)

/-- The id of an image with this version text. -/
def id (v : Version) : String := idOf v.version

/-- The text names both the version and components. -/
def isComplete (v : Version) : Bool := v.version ≠ "" && v.components ≠ ""

end Version

end HostFlash.Firmware
