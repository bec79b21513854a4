import HostFlash.Shell.Number
import HostFlash.Text.Octets

/-! # Escapes

The escapes that texts for output are written with: a backslash and a letter for a control
character, or a backslash and digits for any byte. Texts are byte texts.
-/

namespace HostFlash.Utility

/-- Who reads the escapes. -/
inductive Reading where
  /-- The shell. -/
  | shell
  /-- The programs of the machine, which know hexadecimal digits and code points too. -/
  | machine
deriving Repr, DecidableEq

/-- The character of a letter behind a backslash. -/
def letterEscape? (c : Char) : Option Char :=
  match c with
  | 'a' => some '\x07'
  | 'b' => some '\x08'
  | 'e' => some '\x1b'
  | 'f' => some '\x0c'
  | 'n' => some '\n'
  | 'r' => some '\r'
  | 't' => some '\t'
  | 'v' => some '\x0b'
  | '\\' => some '\\'
  | _ => none

/-- A byte from its number. -/
def byteChar (n : Nat) : Char := Char.ofNat (n % 256)

/-- At most so many digits at the front of a text, with their value and their number. -/
def someDigits (base count : Nat) (cs : List Char) : Nat × Nat × List Char :=
  let digits := (cs.take count).takeWhile fun c => (Shell.digitValue? base c).isSome
  (digits.foldl (fun n c => n * base + (Shell.digitValue? base c).getD 0) 0, digits.length,
    cs.drop digits.length)

/-- What stands behind a backslash: its characters and the rest of the text. With `zeroFirst` a
zero may stand in front of the three digits of an octal number. -/
def escape (reading : Reading) (zeroFirst : Bool) (cs : List Char) : List Char × List Char :=
  match cs with
  | [] => (['\\'], [])
  | c :: rest =>
      match letterEscape? c with
      | some e => ([e], rest)
      | none =>
          if (Shell.digitValue? 8 c).isSome then
            let start :=
              match zeroFirst && c = '0', reading, rest with
              | true, .machine, rest => rest
              | true, .shell, d :: _ => if (Shell.digitValue? 8 d).isSome then rest else cs
              | _, _, _ => cs
            let (value, _, rest) := someDigits 8 3 start
            ([byteChar value], rest)
          else if reading = .machine && c = 'x' then
            let (value, count, after) := someDigits 16 2 rest
            if count = 0 then (['\\', 'x'], rest) else ([byteChar value], after)
          else if reading = .machine && c = '"' then (['"'], rest)
          else (['\\'], cs)

/-- The characters of a text with escapes, newest first, and whether an escape ended it. The fuel
is a bound on the characters. -/
def unescape (reading : Reading) : Nat → List Char → List Char → List Char × Bool
  | 0, written, _ => (written, false)
  | _ + 1, written, [] => (written, false)
  | _ + 1, written, '\\' :: 'c' :: _ => (written, true)
  | fuel + 1, written, '\\' :: rest =>
      let (cs, rest) := escape reading true rest
      unescape reading fuel (cs.reverse ++ written) rest
  | fuel + 1, written, c :: rest => unescape reading fuel (c :: written) rest

/-- A text with its escapes replaced, and whether one of them ended it. -/
def unescaped (reading : Reading) (s : String) : String × Bool :=
  if !s.toList.contains '\\' then (s, false)
  else
    let (written, ended) := unescape reading (s.length + 1) [] s.toList
    (String.ofList written.reverse, ended)

/-- Words with blanks between them, in which escapes are read, newest first, up to one that ends
them. -/
def unescapedWords (reading : Reading) : List String → List String × Bool
  | [] => ([], false)
  | word :: rest =>
      let (text, ended) := unescaped reading word
      if ended then ([text], true)
      else
        let (more, ended) := unescapedWords reading rest
        (text :: more, ended)

/-- What the echo of the shell writes. It reads escapes, and a first argument `-n` leaves the end
of the line out. -/
def shellEcho (args : List String) : String :=
  let (bare, words) :=
    match args with
    | "-n" :: words => (true, words)
    | words => (false, words)
  let (texts, ended) := unescapedWords .shell words
  " ".intercalate texts ++ (if bare || ended then "" else "\n")

/-- What the echo of the machine writes, which reads escapes only when it is told to. -/
def echo (escapes newline : Bool) : List String → String
  | [] => if newline then "\n" else ""
  | word :: rest =>
      let flags := word.toList.drop 1
      if word.toList.head? = some '-' && !flags.isEmpty &&
          flags.all (fun c => c = 'n' || c = 'e' || c = 'E') then
        let escapes := flags.foldl (fun e f => if f = 'n' then e else f == 'e') escapes
        echo escapes (newline && !flags.contains 'n') rest
      else if escapes then
        let (texts, ended) := unescapedWords .machine (word :: rest)
        " ".intercalate texts ++ (if ended || !newline then "" else "\n")
      else " ".intercalate (word :: rest) ++ (if newline then "\n" else "")

end HostFlash.Utility
