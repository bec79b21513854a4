import HostFlash.Text.Utf8

/-! # Byte texts

Programs hand each other bytes that need not spell a text. A byte text is a `String` in which each
character stands for one byte, so that it can be taken apart like any other; `ofText` and `toText`
lead from texts to byte texts and back, and a byte text of ASCII characters is the text itself.
-/

namespace HostFlash.Text.Octets

/-- The byte text of bytes. -/
def ofBytes (bytes : List UInt8) : String :=
  String.ofList (bytes.map fun b => Char.ofNat b.toNat)

/-- The bytes of a byte text. -/
def toBytes (s : String) : List UInt8 :=
  s.toList.map fun c => UInt8.ofNat c.toNat

/-- The byte text of a text. -/
def ofText (s : String) : String :=
  if s.utf8ByteSize = s.length then s else ofBytes (Utf8.encode s.toList)

/-- The text that a byte text spells, with `U+FFFD` in place of each malformed part. -/
def toText (s : String) : String :=
  if s.utf8ByteSize = s.length then s else String.ofList (Utf8.decodeLossy (toBytes s))

end HostFlash.Text.Octets
