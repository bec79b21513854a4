import HostFlash.Digest.Sha512
import HostFlash.Text.Class
import HostFlash.Text.Column
import HostFlash.Text.Lines
import HostFlash.Utility.Lines

/-! # Programs that show bytes

The programs that write bytes as numbers, as letters, or as a digest.
-/

namespace HostFlash.Utility

open Tool

/-! ## Numbers -/

/-- What bytes are shown as. -/
inductive DumpKind where
  | names
  | characters
  | signed
  | unsigned
  | octal
  | hexadecimal
deriving Repr, DecidableEq

/-- A way to show bytes: as what, and how many together. With `plain` their characters stand behind
them. -/
structure Shape where
  kind : DumpKind
  size : Nat
  plain : Bool
deriving Repr, DecidableEq

namespace Shape

/-- The names of the control characters. -/
def controlNames : List String :=
  ["nul", "soh", "stx", "etx", "eot", "enq", "ack", "bel", "bs", "ht", "nl", "vt", "ff", "cr",
   "so", "si", "dle", "dc1", "dc2", "dc3", "dc4", "nak", "syn", "etb", "can", "em", "sub", "esc",
   "fs", "gs", "rs", "us", "sp"]

/-- The number of characters that any value fits in. -/
def width (s : Shape) : Nat :=
  let bits := 8 * s.size
  match s.kind with
  | .names | .characters => 3
  | .hexadecimal => 2 * s.size
  | .octal => (bits + 2) / 3
  | .unsigned => (toString (Nat.pow 2 bits - 1)).length
  | .signed => (toString (Nat.pow 2 (bits - 1))).length + 1

/-- The number that bytes make, the least one first. -/
def number (bytes : List UInt8) : Nat :=
  bytes.foldr (fun b n => b.toNat + 256 * n) 0

/-- A byte as a character. -/
def character (b : UInt8) : String :=
  match b.toNat with
  | 0 => "\\0"
  | 7 => "\\a"
  | 8 => "\\b"
  | 9 => "\\t"
  | 10 => "\\n"
  | 11 => "\\v"
  | 12 => "\\f"
  | 13 => "\\r"
  | n =>
      let c := Char.ofNat n
      if Text.isGraphic c || c = ' ' then String.singleton c else Text.digits 8 3 n

/-- The text of some bytes. -/
def text (s : Shape) (bytes : List UInt8) : String :=
  let n := number bytes
  match s.kind with
  | .names =>
      let low := n % 128
      if low = 127 then "del"
      else (controlNames[low]?).getD (String.singleton (Char.ofNat low))
  | .characters => character (bytes.headD 0)
  | .hexadecimal => Text.digits 16 s.width n
  | .octal => Text.digits 8 s.width n
  | .unsigned => toString n
  | .signed =>
      let half := Nat.pow 2 (8 * s.size - 1)
      toString (if n < half then (n : Int) else n - (2 * half : Nat))

/-- Bytes in groups of a size, of which the last is filled up with zeros. The fuel is a bound on
their number. -/
def groups (size : Nat) : Nat → List UInt8 → List (List UInt8)
  | 0, _ => []
  | _ + 1, [] => []
  | fuel + 1, bytes =>
      let first := bytes.take size
      (first ++ List.replicate (size - first.length) 0) :: groups size fuel (bytes.drop size)

/-- A line of bytes, of which `perLine` would fill it, in a number of columns. -/
def line (s : Shape) (perLine columns : Nat) (bytes : List UInt8) : String :=
  let count := perLine / s.size
  let room := columns - s.width * count
  let fields := groups s.size (bytes.length + 1) bytes
  let shown := fields.zipIdx.map fun (field, i) =>
    let before := room * (count - i) / count
    let behind := room * (count - i - 1) / count
    Text.padLeft (before - behind + s.width) (s.text field)
  let left := (count - fields.length) * s.width + room * (count - fields.length) / count
  let letters := bytes.map fun b =>
    let c := Char.ofNat b.toNat
    if Text.isGraphic c || c = ' ' then c else '.'
  String.join shown ++
    (if s.plain then
      String.ofList (List.replicate left ' ') ++ "  >" ++ String.ofList letters ++ "<"
    else "")

/-- Reads a list of shapes. The fuel is a bound on the characters. -/
def read (whole : String) : Nat → List Char → Except String (List Shape)
  | 0, _ => .ok []
  | _ + 1, [] => .ok []
  | fuel + 1, c :: cs =>
      let finish (kind : DumpKind) (size : Nat) (rest : List Char) :
          Except String (List Shape) :=
        let (plain, rest) := match rest with
          | 'z' :: rest => (true, rest)
          | rest => (false, rest)
        (read whole fuel rest).map (⟨kind, size, plain⟩ :: ·)
      let sized (kind : DumpKind) : Except String (List Shape) :=
        let digits := cs.takeWhile Char.isDigit
        match cs with
        | 'C' :: rest => finish kind 1 rest
        | 'S' :: rest => finish kind 2 rest
        | 'I' :: rest => finish kind 4 rest
        | 'L' :: rest => finish kind 8 rest
        | _ =>
            if digits = [] then finish kind 4 cs
            else
              let size := Nat.ofDigitChars 10 digits 0
              if [1, 2, 4, 8].contains size then finish kind size (cs.drop digits.length)
              else
                .error ("invalid type string " ++ quoted whole ++
                  ";\nthis system doesn't provide a " ++ toString size ++ "-byte integral type")
      match c with
      | 'a' => finish .names 1 cs
      | 'c' => finish .characters 1 cs
      | 'd' => sized .signed
      | 'u' => sized .unsigned
      | 'o' => sized .octal
      | 'x' => sized .hexadecimal
      | c =>
          .error ("invalid character " ++ quoted (String.singleton c) ++ " in type string " ++
            quoted whole)

end Shape

/-- Writes the lines of bytes, of which those that are all the same are left out unless `all` are
wanted. The fuel is a bound on the number of lines. -/
def dumpLines (address : Nat → String) (shapes : List Shape) (perLine columns : Nat)
    (all : Bool) : Nat → Nat → List UInt8 → Option (List UInt8) → Bool → Tool Nat
  | 0, place, _, _, _ => pure place
  | _ + 1, place, [], _, _ => pure place
  | fuel + 1, place, bytes, before, starred => do
      let block := bytes.take perLine
      let next (starred : Bool) : Tool Nat :=
        dumpLines address shapes perLine columns all fuel (place + block.length)
          (bytes.drop perLine) (some block) starred
      if !all && before = some block then
        if !starred then writeLine "*"
        next true
      else
        shapes.zipIdx.forM fun (shape, i) => do
          let start := address place
          let start := if i = 0 then start else String.ofList (List.replicate start.length ' ')
          writeLine (start ++ shape.line perLine columns block)
        next false

/-- The options of the program that shows bytes. -/
def odOptions : List OptionSpec :=
  [.value 'A' "address-radix", .value 'j' "skip-bytes", .value 'N' "read-bytes",
   .value 't' "format", .flag 'v' "output-duplicates", ⟨'w', "width", .perhaps, true⟩,
   .flag 'a' "", .flag 'b' "", .flag 'c' "", .flag 'd' "", .flag 'i' "", .flag 'l' "",
   .flag 'o' "", .flag 's' "", .flag 'x' "", .flag 'h' "", .longValue '!' "endian"]

/-- The shape that a letter stands for. -/
def letterShape? (key : Char) : Option Shape :=
  match key with
  | 'a' => some ⟨.names, 1, false⟩
  | 'b' => some ⟨.octal, 1, false⟩
  | 'c' => some ⟨.characters, 1, false⟩
  | 'd' => some ⟨.unsigned, 2, false⟩
  | 'i' => some ⟨.signed, 4, false⟩
  | 'l' => some ⟨.signed, 8, false⟩
  | 'o' => some ⟨.octal, 2, false⟩
  | 's' => some ⟨.signed, 2, false⟩
  | 'x' | 'h' => some ⟨.hexadecimal, 2, false⟩
  | _ => none

/-- Shows bytes. -/
def odTool : Tool Unit := do
  let a ← arguments odOptions true
  let count (key : Char) : Tool (Option Nat) := do
    match a.value? key with
    | none => pure none
    | some text =>
        match sizeOf? text with
        | some n => pure (some n)
        | none => fail ("invalid -" ++ String.singleton key ++ " argument " ++ quoted text)
  let skipped := (← count 'j').getD 0
  let most ← count 'N'
  let radix := (a.value? 'A').getD "o"
  if radix ∉ ["d", "o", "x", "n"] then
    fail ("invalid output address radix " ++ quoted radix ++
      "; it must be one character from [doxn]")
  let given ← a.options.mapM fun (key, value) => do
    match letterShape? key with
    | some shape => pure [shape]
    | none =>
        if key = 't' then
          let text := value.getD ""
          match Shape.read text (text.length + 1) text.toList with
          | .ok shapes => pure shapes
          | .error message => fail message
        else pure []
  let shapes := if given.flatten = [] then [⟨.octal, 2, false⟩] else given.flatten
  let unit := (shapes.map (·.size)).foldl Nat.lcm 1
  let perLine :=
    if a.has 'w' then (((a.value? 'w').bind sizeOf?).getD 32) else 16 / unit * unit
  let perLine := if perLine = 0 || perLine % unit ≠ 0 then unit else perLine
  let contents ← contentsOf a.operands
  let bytes := contents.flatMap fun (_, text) => Text.Octets.toBytes text
  if skipped > bytes.length then fail "cannot skip past end of combined input"
  let bytes := bytes.drop skipped
  let bytes := match most with
    | some n => bytes.take n
    | none => bytes
  let columns := (shapes.map fun s => (s.width + 1) * (perLine / s.size)).foldl max 0
  let address (place : Nat) : String :=
    match radix with
    | "n" => ""
    | "d" => Text.padLeft 7 (Text.digits 10 7 place)
    | "x" => Text.digits 16 6 place
    | _ => Text.digits 8 7 place
  let stop ← dumpLines address shapes perLine columns (a.has 'v') (bytes.length + 1) skipped bytes
    none false
  if radix ≠ "n" then writeLine (address stop)

/-! ## Letters -/

/-- The letters that six bits are written with. -/
def sixBitLetters : List Char :=
  "ABCDEFGHIJKLMNOPQRSTUVWXYZabcdefghijklmnopqrstuvwxyz0123456789+/".toList

/-- The letter for six bits of a number. -/
def sixBitLetter (n : Nat) : Char := (sixBitLetters[n % 64]?).getD 'A'

/-- Bytes in letters, three of them in four. -/
def toLetters : List UInt8 → List Char
  | a :: b :: c :: rest =>
      let n := a.toNat * 65536 + b.toNat * 256 + c.toNat
      sixBitLetter (n / 262144) :: sixBitLetter (n / 4096) :: sixBitLetter (n / 64) ::
        sixBitLetter n :: toLetters rest
  | [a, b] =>
      let n := a.toNat * 65536 + b.toNat * 256
      [sixBitLetter (n / 262144), sixBitLetter (n / 4096), sixBitLetter (n / 64), '=']
  | [a] =>
      let n := a.toNat * 65536
      [sixBitLetter (n / 262144), sixBitLetter (n / 4096), '=', '=']
  | [] => []

/-- Bytes from letters, with the answer whether all of them could be read. -/
def ofLetters : List Char → List UInt8 × Bool
  | a :: b :: c :: d :: rest =>
      match sixBitLetters.idxOf? a, sixBitLetters.idxOf? b, sixBitLetters.idxOf? c,
          sixBitLetters.idxOf? d with
      | some w, some x, some y, some z =>
          let n := w * 262144 + x * 4096 + y * 64 + z
          let (bytes, good) := ofLetters rest
          (UInt8.ofNat (n / 65536) :: UInt8.ofNat (n / 256) :: UInt8.ofNat n :: bytes, good)
      | some w, some x, some y, none =>
          let n := w * 262144 + x * 4096 + y * 64
          ([UInt8.ofNat (n / 65536), UInt8.ofNat (n / 256)], d = '=' && rest = [])
      | some w, some x, none, none =>
          ([UInt8.ofNat ((w * 262144 + x * 4096) / 65536)], c = '=' && d = '=' && rest = [])
      | _, _, _, _ => ([], false)
  | [] => ([], true)
  | [a, b] =>
      match sixBitLetters.idxOf? a, sixBitLetters.idxOf? b with
      | some w, some x => ([UInt8.ofNat ((w * 262144 + x * 4096) / 65536)], false)
      | _, _ => ([], false)
  | [a, b, c] =>
      match sixBitLetters.idxOf? a, sixBitLetters.idxOf? b, sixBitLetters.idxOf? c with
      | some w, some x, some y =>
          let n := w * 262144 + x * 4096 + y * 64
          ([UInt8.ofNat (n / 65536), UInt8.ofNat (n / 256)], false)
      | _, _, _ => ([], false)
  | [_] => ([], false)

/-- Letters in lines of a width. The fuel is a bound on the lines. -/
def wrapped (width : Nat) : Nat → List Char → String
  | 0, _ => ""
  | _ + 1, [] => ""
  | fuel + 1, cs =>
      if width = 0 then String.ofList cs
      else String.ofList (cs.take width) ++ "\n" ++ wrapped width fuel (cs.drop width)

/-- Writes bytes in letters, or letters as bytes. -/
def base64Tool : Tool Unit := do
  let a ← arguments [.flag 'd' "decode", .flag 'i' "ignore-garbage", .value 'w' "wrap"] true
  let width ←
    match a.value? 'w' with
    | none => pure 76
    | some text =>
        if text ≠ "" && text.toList.all Char.isDigit then
          pure (Nat.ofDigitChars 10 text.toList 0)
        else fail ("invalid wrap size: " ++ quoted text)
  if a.operands.length > 1 then misused ("extra operand " ++ quoted (a.operands.getD 1 ""))
  let path := a.operands.headD "-"
  match ← readFile path with
  | .error e => complainOf path e
  | .ok text =>
      if a.has 'd' then
        let isLetter (c : Char) : Bool := sixBitLetters.contains c || c = '='
        let letters := text.toList.filter fun c => if a.has 'i' then isLetter c else c ≠ '\n'
        let (bytes, good) := ofLetters letters
        write (Text.Octets.ofBytes bytes)
        if !good then fail "invalid input"
      else write (wrapped width (2 * text.length + 2) (toLetters (Text.Octets.toBytes text)))

/-! ## Digests -/

/-- Writes the digests of files. -/
def sha512sumTool : Tool Unit := do
  let a ← arguments [.flag 'b' "binary", .flag 't' "text", .flag 'z' "zero"] true
  (if a.operands = [] then ["-"] else a.operands).forM fun path => do
    match ← readFile path with
    | .error e => complainOf path e
    | .ok text => do
        let digest := Sha512.digest (Text.Octets.toBytes text)
        write (String.join (digest.map fun b => Text.digits 16 2 b.toNat) ++
          (if a.has 'b' then " *" else "  ") ++ path ++ (if a.has 'z' then "\x00" else "\n"))

end HostFlash.Utility
