/-! # UTF-8

Writing text as UTF-8 and reading bytes as text. The reader is a state machine over the bytes:
a state holds the characters read so far and at most one sequence that is still open. A byte
that cannot continue the open sequence ends it as one malformed part and is read anew, so that
each malformed part is a longest beginning of a valid sequence, or a single stray byte.
-/

namespace HostFlash.Text.Utf8

/-- The UTF-8 form of a text. -/
def encode (cs : List Char) : List UInt8 :=
  cs.flatMap String.utf8EncodeChar

/-- A sequence whose first bytes have been read: the bits so far, how many bytes are missing, and
the bounds of the next one. -/
structure Open where
  bits : Nat
  missing : Nat
  low : UInt8
  high : UInt8
deriving Repr, DecidableEq

/-- What a byte means where a character may begin. -/
inductive Opening where
  | whole (c : Char)
  | sequence (opened : Open)
  | stray
deriving Repr, DecidableEq

/-- A byte where a character may begin. The narrow bounds after `E0`, `ED`, `F0` and `F4` leave
out overlong forms, surrogates and code points above `10FFFF`. -/
def opening (b : UInt8) : Opening :=
  let n := b.toNat
  if n < 0x80 then .whole (Char.ofNat n)
  else if n < 0xC2 then .stray
  else if n < 0xE0 then .sequence ⟨n - 0xC0, 1, 0x80, 0xBF⟩
  else if n < 0xF0 then
    .sequence ⟨n - 0xE0, 2, if n = 0xE0 then 0xA0 else 0x80, if n = 0xED then 0x9F else 0xBF⟩
  else if n < 0xF5 then
    .sequence ⟨n - 0xF0, 3, if n = 0xF0 then 0x90 else 0x80, if n = 0xF4 then 0x8F else 0xBF⟩
  else .stray

/-- The state of the reader: what was read, newest first, with `none` for a malformed part, and
the open sequence. -/
structure Reader where
  read : List (Option Char)
  opened : Option Open
deriving Repr, DecidableEq

namespace Reader

/-- Nothing read yet. -/
def start : Reader := ⟨[], none⟩

/-- Reads a byte where a character may begin. -/
def beginWith (r : List (Option Char)) (b : UInt8) : Reader :=
  match opening b with
  | .whole c => ⟨some c :: r, none⟩
  | .sequence opened => ⟨r, some opened⟩
  | .stray => ⟨none :: r, none⟩

/-- Reads one byte. -/
def feed (r : Reader) (b : UInt8) : Reader :=
  match r.opened with
  | none => beginWith r.read b
  | some ⟨bits, missing, low, high⟩ =>
      if low ≤ b ∧ b ≤ high then
        let bits := bits * 64 + (b.toNat - 0x80)
        if missing ≤ 1 then ⟨some (Char.ofNat bits) :: r.read, none⟩
        else ⟨r.read, some ⟨bits, missing - 1, 0x80, 0xBF⟩⟩
      else beginWith (none :: r.read) b

/-- Everything read, oldest first; a sequence still open is a malformed part. -/
def finish (r : Reader) : List (Option Char) :=
  (match r.opened with
    | none => r.read
    | some _ => none :: r.read).reverse

end Reader

/-- The characters that the bytes spell, with `none` for each malformed part. -/
def scan (bytes : List UInt8) : List (Option Char) :=
  (bytes.foldl Reader.feed Reader.start).finish

/-- Reads bytes as text, with `U+FFFD` in place of each malformed part. -/
def decodeLossy (bytes : List UInt8) : List Char :=
  (scan bytes).map (·.getD '\uFFFD')

/-- Reads bytes as text, refusing any malformed part. -/
def decode? (bytes : List UInt8) : Option (List Char) :=
  let scanned := scan bytes
  if scanned.all Option.isSome then some (scanned.filterMap id) else none

end HostFlash.Text.Utf8
