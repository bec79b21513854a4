import HostFlash.Utility.Editing.Syntax
import HostFlash.Utility.Escape

/-! # Reading editing scripts

A script is read in pieces, of which each comes from the arguments or from a file. Whatever is
wrong is refused with the place up to which the script was read.
-/

namespace HostFlash.Utility.Editing

/-- Where a piece of a script comes from. -/
inductive Origin where
  | argument (number : Nat)
  | file (name : String)
deriving Repr, DecidableEq

/-- A piece of a script. -/
structure Piece where
  origin : Origin
  text : String
deriving Repr, DecidableEq

/-- How far a script is read. -/
structure Manuscript where
  origin : Origin
  rest : List Char
  /-- How many characters of the piece were read, and in which line that is. -/
  passed : Nat
  line : Nat
  later : List Piece
  isFirst : Bool
  instructions : Array Instruction
  /-- The blocks that are not closed, the last one first, with where they were opened. -/
  blocks : List (Nat × Origin × Nat)
  quiet : Bool
  extended : Bool

/-- Something that reads a script. -/
abbrev Read := StateT Manuscript (Except String)

namespace Read

/-- A refusal at a place. -/
def refusalAt (origin : Origin) (passed line : Nat) (message : String) : String :=
  match origin with
  | .argument n =>
      "-e expression #" ++ toString n ++ ", char " ++ toString passed ++ ": " ++ message
  | .file name => "file " ++ name ++ " line " ++ toString line ++ ": " ++ message

/-- Refuses the script. -/
def refuse {α : Type} (message : String) : Read α := do
  let s ← get
  throw (refusalAt s.origin s.passed s.line message)

/-- A message about something in quotes. -/
def about (before name after : String) : String := before ++ "\x60" ++ name ++ "'" ++ after

/-- Reads a character of the piece. -/
def next : Read (Option Char) := do
  let s ← get
  match s.rest with
  | [] => pure none
  | c :: rest => do
      set { s with rest := rest, passed := s.passed + 1,
                   line := if c = '\n' then s.line + 1 else s.line }
      pure (some c)

/-- Leaves a character that was read. -/
def leave (c : Option Char) : Read Unit :=
  match c with
  | none => pure ()
  | some c => modify fun s =>
      { s with rest := c :: s.rest, passed := s.passed - 1,
               line := if c = '\n' then s.line - 1 else s.line }

/-- Takes characters off the front of what is left of the piece. -/
def advance (rest : List Char) : Read Unit := modify fun s =>
  let read := s.rest.take (s.rest.length - rest.length)
  { s with rest := rest, passed := s.passed + read.length,
           line := s.line + read.countP (· = '\n') }

/-- Reads characters as long as they fit. -/
def takeWhile (p : Char → Bool) : Read String := do
  let read := (← get).rest.takeWhile p
  advance ((← get).rest.drop read.length)
  pure (String.ofList read)

/-- Begins the next piece, if there is one. -/
def turn : Read Bool := do
  let s ← get
  match s.later with
  | [] => pure false
  | piece :: later => do
      set { s with origin := piece.origin, rest := piece.text.toList, passed := 0, line := 1,
                   later := later, isFirst := false }
      pure true

/-- Reads the next character that is no blank. -/
def nonblank : Read (Option Char) := do
  let _ ← takeWhile fun c => c = ' ' || c = '\t'
  next

/-- Reads a number that begins with a digit. -/
def number (digit : Char) : Read Nat := do
  let digits ← takeWhile Char.isDigit
  pure (Nat.ofDigitChars 10 (digit :: digits.toList) 0)

/-- Reads a number. -/
def numberBehind : Read Nat := do
  let digits ← takeWhile Char.isDigit
  pure (Nat.ofDigitChars 10 digits.toList 0)

/-- Reads up to where a command must end. -/
def commandEnd : Read Unit := do
  match ← nonblank with
  | some '\x7d' => leave (some '\x7d')
  | some '#' => leave (some '#')
  | none | some '\n' | some ';' => pure ()
  | some _ => refuse "extra characters after command"

/-- Reads the name of a file. -/
def fileName : Read String := do
  let _ ← takeWhile fun c => c = ' ' || c = '\t'
  let name ← takeWhile (· ≠ '\n')
  let _ ← next
  if name = "" then refuse "missing filename in r/R/w/W commands" else pure name

/-- Reads a label. -/
def label : Read String := do
  let _ ← takeWhile fun c => c = ' ' || c = '\t'
  takeWhile fun c => !(Shell.isSpace c || c = ';' || c = '\x7d')

/-! ## Delimited texts -/

/-- Where in a pattern a character stands. -/
inductive Spot where
  | outside
  | opened
  | first
  | inside
  /-- In front of the character that says what kind of name follows. -/
  | kind
  | named (kind : Char)
deriving Repr, DecidableEq

/-- What is in front of a delimiter, as it was read so far, and what is behind it. Without a
delimiter in the line there is no text. In a pattern a delimiter in brackets does not count. -/
def delimited (mark : Char) (isPattern : Bool) :
    Spot → List Char → List Char → Option (List Char) × List Char
  | _, read, [] => let _ := read; (none, [])
  | _, _, '\n' :: cs => (none, '\n' :: cs)
  | .kind, read, c :: cs => delimited mark isPattern (.named c) (c :: read) cs
  | .named kind, read, c :: cs =>
      match cs with
      | ']' :: cs =>
          delimited mark isPattern (if c = kind then .inside else .named kind) (']' :: c :: read) cs
      | cs => delimited mark isPattern (.named kind) (c :: read) cs
  | .outside, read, c :: cs =>
      if c = mark then (some read.reverse, cs)
      else
        match c, cs with
        | '\\', e :: cs =>
            if e = 'n' && isPattern then delimited mark isPattern .outside ('\n' :: read) cs
            else if e = '\n' || (e = mark && (isPattern || e ≠ '&')) then
              delimited mark isPattern .outside (e :: read) cs
            else delimited mark isPattern .outside (e :: '\\' :: read) cs
        | c, cs =>
            delimited mark isPattern (if c = '[' && isPattern then .opened else .outside)
              (c :: read) cs
  | spot, read, c :: cs =>
      if c = '^' && spot = .opened then delimited mark isPattern .first (c :: read) cs
      else if c = ']' then
        delimited mark isPattern (if spot = .inside then .outside else .inside) (c :: read) cs
      else
        match c, cs with
        | '\\', 'n' :: cs => delimited mark isPattern .inside ('\n' :: read) cs
        | c, cs =>
            let isNamed := c = '[' && cs.head?.any [':', '.', '='].contains
            delimited mark isPattern (if isNamed then .kind else .inside) (c :: read) cs

/-- Reads a text up to a delimiter. -/
def upTo (mark : Char) (isPattern : Bool) (refusal : String) : Read (List Char) := do
  let (text, rest) := delimited mark isPattern .outside [] (← get).rest
  advance rest
  match text with
  | some text => pure text
  | none => refuse refusal

/-! ## Escapes -/

/-- The character for what stands behind a backslash, if that is no letter for itself, and the
rest. -/
def control? (cs : List Char) : Option (Char × List Char) :=
  let coded (base count : Nat) (rest : List Char) : Option (Char × List Char) :=
    match someDigits base count rest with
    | (_, 0, _) => none
    | (value, _, rest) => some (byteChar value, rest)
  match cs with
  | 'a' :: rest => some ('\x07', rest)
  | 'f' :: rest => some ('\x0c', rest)
  | 'r' :: rest => some ('\r', rest)
  | 't' :: rest => some ('\t', rest)
  | 'v' :: rest => some ('\x0b', rest)
  | 'c' :: '\\' :: '\\' :: rest => some ('\x1c', rest)
  | ['c'] => some ('\\', [])
  | 'c' :: c :: rest => some (Char.ofNat (c.toUpper.toNat.xor 64), rest)
  | 'd' :: rest => coded 10 3 rest
  | 'o' :: rest => coded 8 3 rest
  | 'x' :: rest => coded 16 2 rest
  | _ => none

/-- A text with the control characters that are written as escapes. The fuel is a bound on the
characters. -/
def withControls : Nat → List Char → List Char
  | 0, cs => cs
  | fuel + 1, '\\' :: cs =>
      match control? cs, cs with
      | some (c, rest), _ => c :: withControls fuel rest
      | none, c :: cs => '\\' :: c :: withControls fuel cs
      | none, [] => ['\\']
  | fuel + 1, c :: cs => c :: withControls fuel cs
  | _ + 1, [] => []

/-- The characters of a text that are written with backslashes. -/
def literals (cs : List Char) : List Char :=
  match cs with
  | '\\' :: 'n' :: cs => '\n' :: literals cs
  | '\\' :: c :: cs => c :: literals cs
  | c :: cs => c :: literals cs
  | [] => []

/-- What is put in the place of a match. The fuel is a bound on the characters. -/
def parts : Nat → List Char → List Part
  | 0, _ => []
  | _ + 1, [] => []
  | fuel + 1, '&' :: cs => .group 0 :: parts fuel cs
  | fuel + 1, '\\' :: c :: cs =>
      if c.isDigit then .group (c.toNat - 48) :: parts fuel cs
      else
        match c with
        | 'n' => .char '\n' :: parts fuel cs
        | 'U' => .casing .upper :: parts fuel cs
        | 'L' => .casing .lower :: parts fuel cs
        | 'E' => .casing .kept :: parts fuel cs
        | 'u' => .next .upper :: parts fuel cs
        | 'l' => .next .lower :: parts fuel cs
        | c =>
            match control? (c :: cs) with
            | some (c, rest) => .char c :: parts fuel rest
            | none => .char c :: parts fuel cs
  | fuel + 1, c :: cs => .char c :: parts fuel cs

/-! ## Patterns and addresses -/

/-- The pattern of a text, which is the last one that was used if the text is empty. -/
def pattern (text : List Char) (folded manyLines : Bool) : Read (Option Pattern) := do
  if text = [] then
    if folded || manyLines then refuse "cannot specify modifiers on empty regexp"
    pure none
  else
    let text := String.ofList (withControls text.length text)
    match Text.Regex.read? ⟨(← get).extended, false⟩ text with
    | .ok r => pure (some ⟨r, folded, manyLines⟩)
    | .error e => refuse e

/-- Reads the letters behind a pattern. The fuel is a bound on the characters. -/
def patternFlags : Nat → Bool → Bool → Read (Bool × Bool)
  | 0, folded, manyLines => pure (folded, manyLines)
  | fuel + 1, folded, manyLines => do
      match ← nonblank with
      | some 'I' => patternFlags fuel true manyLines
      | some 'M' => patternFlags fuel folded true
      | c => do
          leave c
          pure (folded, manyLines)

/-- Reads an address that begins with a character. -/
def address? (c : Option Char) : Read (Option Address) := do
  let fitting (mark : Option Char) : Read (Option Address) := do
    let refusal := "unterminated address regex"
    match mark with
    | none => refuse refusal
    | some mark => do
        let text ← upTo mark true refusal
        let (folded, manyLines) ← patternFlags ((← get).rest.length + 1) false false
        pure (some (.fits (← pattern text folded manyLines)))
  match c with
  | some '/' => fitting (some '/')
  | some '\\' => fitting (← next)
  | some '$' => pure (some .last)
  | some c =>
      if c.isDigit then
        let first ← number c
        match ← nonblank with
        | some '~' =>
            let _ ← takeWhile fun c => c = ' ' || c = '\t'
            let step ← numberBehind
            pure (some (if step = 0 then .line first else .every first step))
        | c => do
            leave c
            pure (some (.line first))
      else pure none
  | none => pure none

/-- Reads where a range ends. -/
def limit? (c : Option Char) : Read (Option Limit) := do
  let count : Read Nat := do
    let _ ← takeWhile fun c => c = ' ' || c = '\t'
    numberBehind
  match c with
  | some '+' => pure (some (.lines (← count)))
  | some '~' => pure (some (.multiple (← count)))
  | c => pure ((← address? c).map .address)

/-- Reads the lines that an instruction is for, and the next character behind them. -/
def selection (c : Option Char) : Read (Option Selection × Option Char) := do
  match c with
  | some '+' | some '~' => do
      let _ ← limit? c
      refuse "invalid usage of +N or ~N as first address"
  | _ => pure ()
  match ← address? c with
  | none => pure (none, c)
  | some start => do
      let c ← nonblank
      let (limit, c) ←
        if c = some ',' then do
          match ← limit? (← nonblank) with
          | none => refuse (about "unexpected " "," "")
          | some limit => pure (some limit, ← nonblank)
        else pure (none, c)
      match start, limit with
      | .line 0, some (.address (.fits _)) => pure ()
      | .line 0, _ => refuse "invalid usage of line address 0"
      | _, _ => pure ()
      pure (some ⟨start, limit⟩, c)

/-! ## Commands -/

/-- Reads the lines of a text, up to the first that does not end in a backslash. What is read so far
comes in reverse. The fuel is a bound on the characters. -/
def lines : Nat → List Char → Read (List Char)
  | 0, read => pure read
  | fuel + 1, read => do
      match ← next with
      | none | some '\n' => pure read
      | some '\\' => do
          match ← next with
          | some c => lines fuel (c :: '\\' :: read)
          | none =>
              if ← turn then lines fuel ('\n' :: read) else pure read
      | some c => lines fuel (c :: read)

/-- A bound on the characters that are left. -/
def bound : Read Nat := do
  let s ← get
  pure ((s.later.map (·.text.length + 2)).foldl (· + ·) 0 + s.rest.length + 2)

/-- Reads the text of a command. -/
def textLines : Read String := do
  let text := (← lines (← bound) []).reverse
  pure (String.ofList (literals (withControls text.length text)) ++ "\n")

/-- Reads a text that is to be printed. -/
def text : Read String := do
  match ← nonblank with
  | none => refuse "expected \\ after \x60a', \x60c' or \x60i'"
  | some '\\' => do
      match ← next with
      | none => if ← turn then textLines else pure ""
      | some '\n' => textLines
      | c => do
          leave c
          textLines
  | some '\n' => pure ""
  | c => do
      leave c
      textLines

/-- What is said behind a substitution. -/
structure Flags where
  folded : Bool
  manyLines : Bool
  prints : Bool
  all : Bool
  first : Option Nat
  target : Option String

/-- Reads what is said behind a substitution. The fuel is a bound on the characters. -/
def flags : Nat → Flags → Read Flags
  | 0, f => pure f
  | fuel + 1, f => do
      match ← next with
      | some 'i' | some 'I' => flags fuel { f with folded := true }
      | some 'm' | some 'M' => flags fuel { f with manyLines := true }
      | some 'p' =>
          if f.prints then refuse (about "multiple " "p" (about " options to " "s" " command"))
          else flags fuel { f with prints := true }
      | some 'g' =>
          if f.all then refuse (about "multiple " "g" (about " options to " "s" " command"))
          else flags fuel { f with all := true }
      | some 'w' => pure { f with target := some (← fileName) }
      | some '\x7d' => do
          leave (some '\x7d')
          pure f
      | some '#' => do
          leave (some '#')
          pure f
      | none | some '\n' | some ';' => pure f
      | some ' ' | some '\t' => flags fuel f
      | some c =>
          if c.isDigit then
            if f.first.isSome then refuse (about "multiple number options to " "s" " command")
            let n ← number c
            if n = 0 then refuse (about "number option to " "s" " command may not be zero")
            flags fuel { f with first := some n }
          else refuse (about "unknown option to " "s" "")

/-- Reads a substitution. -/
def substitution : Read Command := do
  let refusal := about "unterminated " "s" " command"
  match ← next with
  | none => refuse refusal
  | some mark => do
      let text ← upTo mark true refusal
      let replacement ← upTo mark false refusal
      let replacement := parts replacement.length replacement
      let f ← flags ((← get).rest.length + 1) ⟨false, false, false, false, none, none⟩
      let p ← pattern text f.folded f.manyLines
      let wanted := (replacement.filterMap fun | .group n => some n | _ => none).foldl max 0
      match p with
      | some p =>
          if wanted > p.regex.groupCount then
            refuse ("invalid reference \\" ++ toString wanted ++ about " on " "s" " command's RHS")
      | none => pure ()
      pure (.substitute ⟨p, replacement, f.first.getD 1, f.all, f.prints, f.target⟩)

/-- Reads which characters stand for others. -/
def conversion : Read Command := do
  let refusal := about "unterminated " "y" " command"
  match ← next with
  | none => refuse refusal
  | some mark => do
      let side : Read (List Char) := do
        let text ← upTo mark false refusal
        pure (literals (withControls text.length text))
      let source ← side
      let target ← side
      if source.length ≠ target.length then
        refuse (about "strings for " "y" " command are different lengths")
      commandEnd
      pure (.convert (source.zip target))

/-- Reads a number that may stand behind a command. -/
def optionalNumber : Read (Option Nat) := do
  let n ←
    match ← nonblank with
    | some c =>
        if c.isDigit then pure (some (← number c))
        else do
          leave (some c)
          pure none
    | none => pure none
  commandEnd
  pure n

/-- The commands of which nothing but the letter is read. -/
def bare? (c : Char) : Option Command :=
  match c with
  | '=' => some .lineNumber
  | 'd' => some .delete
  | 'D' => some .deleteFirst
  | 'F' => some .fileName
  | 'g' => some (.get false)
  | 'G' => some (.get true)
  | 'h' => some (.hold false)
  | 'H' => some (.hold true)
  | 'n' => some .next
  | 'N' => some .nextBehind
  | 'p' => some .print
  | 'P' => some .printFirst
  | 'x' => some .exchange
  | 'z' => some .empty
  | _ => none

/-- Adds an instruction. -/
def add (i : Instruction) : Read Unit :=
  modify fun s => { s with instructions := s.instructions.push i }

/-- Closes the block that was opened last. -/
def closeBlock (hasSelection : Bool) : Read Unit := do
  let s ← get
  match s.blocks with
  | [] => refuse (about "unexpected " "\x7d" "")
  | (start, _) :: blocks => do
      if hasSelection then refuse (about "" "\x7d" " doesn't want any addresses")
      commandEnd
      let last := s.instructions.size
      modify fun s => { s with
        blocks := blocks,
        instructions := s.instructions.modify start fun i => { i with command := .block last } }
      add ⟨none, false, .blockEnd⟩

/-- Passes over a comment, of which the first in a script may say that lines are not printed. -/
def comment : Read Unit := do
  let s ← get
  let text ← takeWhile (· ≠ '\n')
  let _ ← next
  if text.toList.head? = some 'n' && s.isFirst && s.passed = 1 then
    modify fun s => { s with quiet := true }

/-- Reads a command by its letter, behind the lines that it is for. -/
def command (selection : Option Selection) (negated : Bool) (c : Option Char) : Read Unit := do
  let put (command : Command) : Read Unit := add ⟨selection, negated, command⟩
  match c with
  | none => refuse "missing command"
  | some '#' =>
      if selection.isSome then refuse "comments don't accept any addresses" else comment
  | some '\x7b' => do
      let s ← get
      set { s with blocks := (s.instructions.size, s.origin, s.line) :: s.blocks }
      put (.block 0)
  | some '\x7d' => closeBlock selection.isSome
  | some 'a' => put (.text .after (← text))
  | some 'i' => put (.text .before (← text))
  | some 'c' => put (.text .instead (← text))
  | some ':' => do
      if selection.isSome then refuse ": doesn't want any addresses"
      let name ← label
      if name = "" then refuse "\":\" lacks a label"
      put (.label name)
  | some 'b' => put (.branch .always (← label))
  | some 't' => put (.branch .replaced (← label))
  | some 'T' => put (.branch .notReplaced (← label))
  | some 'q' | some 'Q' => do
      if (selection.bind (·.limit)).isSome then refuse "command only uses one address"
      put (.quit (c = some 'q') (((← optionalNumber).getD 0) % 256))
  | some 'l' => put (.list (← optionalNumber))
  | some 'r' => put (.readFile (← fileName))
  | some 'R' => put (.readLine (← fileName))
  | some 'w' => put (.writeFile (← fileName))
  | some 'W' => put (.writeFirst (← fileName))
  | some 's' => do put (← substitution)
  | some 'y' => do put (← conversion)
  | some c =>
      match bare? c with
      | some command => do
          commandEnd
          put command
      | none => refuse (about "unknown command: " (String.singleton c) "")

/-- Reads instructions until there are no more. The fuel is a bound on the characters. -/
def instructions : Nat → Read Unit
  | 0 => pure ()
  | fuel + 1 => do
      let _ ← takeWhile fun c => Shell.isSpace c || c = ';'
      match ← next with
      | none => if ← turn then instructions fuel else pure ()
      | c => do
          let (selection, c) ← selection c
          let (negated, c) ←
            if c = some '!' then do
              let c ← nonblank
              if c = some '!' then refuse (about "multiple " "!" "s")
              pure (true, c)
            else pure (false, c)
          command selection negated c
          instructions fuel

end Read

/-- Reads a script. -/
def Script.read (extended quiet : Bool) (pieces : List Piece) : Except String Script :=
  match pieces with
  | [] => .ok ⟨#[], quiet⟩
  | piece :: later => do
      let size := (pieces.map (·.text.length + 2)).foldl (· + ·) 0
      let start : Manuscript :=
        ⟨piece.origin, piece.text.toList, 0, 1, later, true, #[], [], quiet, extended⟩
      let ((), s) ← (Read.instructions size).run start
      match s.blocks with
      | (_, origin, line) :: _ =>
          throw (Read.refusalAt origin 0 line (Read.about "unmatched " "\x7b" ""))
      | [] => pure ()
      pure ⟨s.instructions, s.quiet⟩

/-- A label that a script jumps to and that is nowhere in it. -/
def Script.missingLabel? (s : Script) : Option String :=
  s.instructions.toList.findSome? fun i =>
    match i.command with
    | .branch _ name => if name = "" || (s.labelled? name).isSome then none else some name
    | _ => none

end HostFlash.Utility.Editing
