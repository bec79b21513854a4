import HostFlash.Text.Utf8

/-! # The version partition

The image of the version partition: text that a NUL byte or the end of the data ends, in a signed
container behind a header of 4096 bytes. `text` reads an image; `plain` and `signed` write one.
-/

namespace HostFlash.Firmware.Image

/-- The first bytes of a signed container. -/
def containerMagic : List UInt8 := [0x17, 0x08, 0x20, 0x11]

/-- The size of the header of a signed container. -/
def containerHeaderSize : Nat := 4096

/-- The data behind the header of a signed container; all data of anything else. -/
def payload (data : List UInt8) : List UInt8 :=
  if containerMagic.isPrefixOf data then data.drop containerHeaderSize else data

/-- The version text of an image. Malformed bytes are replaced, not refused. -/
def text (data : List UInt8) : String :=
  String.ofList (Text.Utf8.decodeLossy ((payload data).takeWhile (· ≠ 0)))

/-- The image of a text, ended by a NUL byte. -/
def plain (text : String) : List UInt8 :=
  Text.Utf8.encode text.toList ++ [0]

/-- The header of a signed container: the magic, and zeros. -/
def header : List UInt8 :=
  containerMagic ++ List.replicate (containerHeaderSize - containerMagic.length) 0

/-- The image of a text in a signed container. -/
def signed (text : String) : List UInt8 :=
  header ++ plain text

end HostFlash.Firmware.Image
