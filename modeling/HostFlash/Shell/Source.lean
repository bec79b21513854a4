import HostFlash.Shell.Syntax

/-! # The text of a script

A script while it is read: the text that is left, the line it stands on, and the documents that
are still to come below the line. Reading ends in a value or in a complaint about the script.
-/

namespace HostFlash.Shell

/-- A document that begins below the line that is read. -/
structure Awaited where
  number : Nat
  delimiter : String
  expanding : Bool
  withoutTabs : Bool
deriving Repr, DecidableEq

/-- A script that is being read. Documents are known by their places. -/
structure Source where
  rest : List Char
  line : Nat
  documents : Array Document
  awaited : List Awaited
  pushed : Option Token
  aliases : List (String × String)
  /-- The aliases that are being replaced, with how much text is left behind each. -/
  replacing : List (String × Nat)

/-- What is wrong with a script, and where. -/
structure SyntaxError where
  line : Nat
  message : String
deriving Repr, DecidableEq

/-- Something that reads from a script. -/
abbrev Scan := StateT Source (Except SyntaxError)

namespace Scan

/-- The script cannot be read. -/
def fail {α : Type} (message : String) : Scan α := do
  throw ⟨(← get).line, message⟩

/-- Puts text in front of what is left. -/
def putBack (cs : List Char) : Scan Unit :=
  modify fun s => { s with rest := cs ++ s.rest }

/-- Takes the next character. -/
def next? : Scan (Option Char) := do
  let s ← get
  match s.rest with
  | [] => pure none
  | c :: rest =>
      set { s with rest := rest, line := if c = '\n' then s.line + 1 else s.line }
      pure (some c)

/-- A text without the line ends at its front that a backslash takes away, and their number. -/
def withoutContinuations : List Char → Nat × List Char
  | '\\' :: '\n' :: rest =>
      let (count, rest) := withoutContinuations rest
      (count + 1, rest)
  | rest => (0, rest)

/-- Goes over line ends that a backslash takes away. -/
def skipContinuations : Scan Unit :=
  modify fun s =>
    let (count, rest) := withoutContinuations s.rest
    { s with rest := rest, line := s.line + count }

/-- The next character behind continued lines, which stays. -/
def peek? : Scan (Option Char) := do
  skipContinuations
  pure (← get).rest.head?

/-- Takes the next character behind continued lines if it is this one. -/
def accept (c : Char) : Scan Bool := do
  if (← peek?) = some c then
    let _ ← next?
    pure true
  else pure false

/-- Takes characters as long as they are of a kind. The fuel is a bound on their number. -/
def takeWhile (test : Char → Bool) : Nat → List Char → Scan (List Char)
  | 0, taken => pure taken.reverse
  | fuel + 1, taken => do
      match ← peek? with
      | some c =>
          if test c then
            let _ ← next?
            takeWhile test fuel (c :: taken)
          else pure taken.reverse
      | none => pure taken.reverse

/-- Takes a text up to a single quote, which is taken too. -/
def singleQuoted : Nat → List Char → Scan String
  | 0, _ => fail "Unterminated quoted string"
  | fuel + 1, taken => do
      match ← next? with
      | none => fail "Unterminated quoted string"
      | some '\'' => pure (String.ofList taken.reverse)
      | some c => singleQuoted fuel (c :: taken)

/-- Takes the text of a command in back quotes. A backslash in front of a back quote, a backslash
or a dollar sign is dropped, and within quotes also in front of a quote. -/
def backQuoted (quoted : Bool) : Nat → List Char → Scan String
  | 0, _ => fail "EOF in backquote substitution"
  | fuel + 1, taken => do
      match ← next? with
      | none => fail "EOF in backquote substitution"
      | some '\x60' => pure (String.ofList taken.reverse)
      | some '\\' =>
          match ← next? with
          | none => fail "EOF in backquote substitution"
          | some '\n' => backQuoted quoted fuel taken
          | some c =>
              if c = '\\' || c = '\x60' || c = '$' || (c = '"' && quoted) then
                backQuoted quoted fuel (c :: taken)
              else backQuoted quoted fuel (c :: '\\' :: taken)
      | some c => backQuoted quoted fuel (c :: taken)

/-- Takes the rest of a comment, but not the end of its line. -/
def skipComment : Scan Unit :=
  modify fun s => { s with rest := s.rest.dropWhile (· ≠ '\n') }

/-- A line and what follows it, with the answer whether its end was there. -/
def cutLine (cs : List Char) : List Char × Bool × List Char :=
  let line := cs.takeWhile (· ≠ '\n')
  match cs.drop line.length with
  | [] => (line, false, [])
  | _ :: rest => (line, true, rest)

/-- The line joined with those below it that it goes on in, and their number. -/
def joinLines : Nat → List Char → List Char × Bool × List Char × Nat
  | 0, cs => (cs, false, [], 0)
  | fuel + 1, cs =>
      let (line, ended, rest) := cutLine cs
      let slashes := (line.reverse.takeWhile (· = '\\')).length
      if ended && slashes % 2 = 1 then
        let (more, ended, rest, count) := joinLines fuel rest
        (line.dropLast ++ more, ended, rest, count + 1)
      else (line, ended, rest, 0)

/-- Takes the lines of a document up to its delimiter, newest first. -/
def documentLines (a : Awaited) : Nat → List (List Char) → Scan (List (List Char))
  | 0, taken => pure taken
  | fuel + 1, taken => do
      let s ← get
      if s.rest = [] then pure taken
      else
        let start := if a.withoutTabs then s.rest.dropWhile (· = '\t') else s.rest
        let (line, ended, rest, joined) :=
          if a.expanding then joinLines (start.length + 1) start
          else
            let (line, ended, rest) := cutLine start
            (line, ended, rest, 0)
        set { s with rest := rest, line := s.line + joined + (if ended then 1 else 0) }
        if String.ofList line = a.delimiter then pure taken
        else documentLines a fuel ((if ended then line ++ ['\n'] else line) :: taken)

end Scan

/-- A token in messages. -/
def Token.text : Token → String
  | .word _ => "word"
  | .reserved name => "\"" ++ name ++ "\""
  | .redirect .. | .document .. => "redirection"
  | .operator text => "\"" ++ text ++ "\""
  | .newline => "newline"
  | .finish => "end of file"

end HostFlash.Shell
