import HostFlash.Utility.Rules.Outlets

/-! # Input of a program of rules

Records are cut out of what is read. They end with a character, with an empty line, or with a text
that fits a regular expression. The files that are named in the arguments are read one after the
other; an argument may set a variable instead.
-/

namespace HostFlash.Utility.Rules

/-- What records end with. -/
inductive Divider where
  | char (c : Char)
  | emptyLine
  | pattern (r : Text.Regex)

namespace Divider

/-- The text in front of the first empty line, and the text behind it. -/
def cutParagraph : List Char → Option (List Char × List Char)
  | '\n' :: '\n' :: rest => some ([], rest)
  | c :: rest => (cutParagraph rest).map fun (front, rest) => (c :: front, rest)
  | [] => none

/-- The first record of a text and what is behind it. Without `complete` more of the text may
come. -/
def cut (d : Divider) (complete : Bool) (cs : List Char) : Option (List Char × List Char) :=
  match d with
  | char c =>
      let front := cs.takeWhile (· ≠ c)
      match cs.drop front.length with
      | _ :: rest => some (front, rest)
      | [] => if complete && cs ≠ [] then some (front, []) else none
  | emptyLine =>
      let cs := cs.dropWhile (· = '\n')
      match cutParagraph cs with
      | some (front, rest) => some (front, rest)
      | none =>
          if !complete || cs = [] then none
          else some (if cs.getLast? = some '\n' then cs.dropLast else cs, [])
  | pattern r =>
      let m : Text.Regex.Matching := ⟨cs.toArray, false, false⟩
      match solidMatch? m r (m.text.size + 1) 0 with
      | some (a, b) =>
          if b < m.text.size || complete then some (cs.take a, cs.drop b) else none
      | none => if complete && cs ≠ [] then some (cs, []) else none

end Divider

namespace Act

/-- What records end with now. -/
def divider : Act Divider := do
  let text ← setting "RS"
  match text.toList with
  | [] => pure .emptyLine
  | [c] => pure (.char c)
  | _ =>
      match regexOf text with
      | .ok r => pure (.pattern r)
      | .error e => runFault (regexFault e text)

/-- How much is read at a time. -/
def blockSize : Nat := 4096

/-- The next record of a source. The fuel is a bound on the number of blocks. -/
def takeRecord (d : Divider) : Nat → Source → Act (Option String × Source)
  | 0, s => pure (none, s)
  | fuel + 1, s => do
      match d.cut s.finished s.pending with
      | some (record, rest) => pure (some (String.ofList record), { s with pending := rest })
      | none =>
          if s.finished then pure (none, s)
          else
            match ← ask (.read s.number blockSize) with
            | .ok [] => takeRecord d fuel { s with finished := true }
            | .ok bytes =>
                let more := (Text.Octets.ofBytes bytes).toList
                takeRecord d fuel { s with pending := s.pending ++ more }
            | .error e => fatal ("read error (" ++ e.reason ++ ")")

/-! ## The input of the program -/

/-- The variable and the value that an argument sets. -/
def assignment? (text : String) : Option (String × String) :=
  let cs := text.toList
  let name := cs.takeWhile Token.isNameChar
  match name, cs.drop name.length with
  | c :: _, '=' :: value =>
      if c.isDigit then none
      else some (String.ofList name, String.ofList (Token.unescape (value.length + 1) value))
  | _, _ => none

/-- Opens a file that is named in the arguments. -/
def openArgument (name : String) : Act Source := do
  let number ←
    if name = "-" || name = "/dev/stdin" then pure 0
    else
      match ← ask (.openFile name .reader 0) with
      | .ok number => pure number
      | .error e => fatal ("cannot open \"" ++ name ++ "\" (" ++ e.reason ++ ")")
  modify fun s => { s with named := true }
  setSlotIn none "FILENAME" (.scalar (.input name))
  setSlotIn none "FNR" (.scalar (.number 0))
  pure ⟨name, number, none, [], false⟩

/-- The argument of a number. -/
def argumentAt (n : Nat) : Act String := do
  match ← slotIn none "ARGV" with
  | .array place =>
      match (← table place).entries[toString n]? with
      | some (_, v) => textOf v
      | none => pure ""
  | _ => pure ""

/-- Opens the next file of the arguments, or the standard input where there are none. The fuel is a
bound on the number of arguments. -/
def openNext : Nat → Act (Option Source)
  | 0 => pure none
  | fuel + 1 => do
      let s ← get
      let count := (wholePart (← globalNumber "ARGC")).toNat
      if s.argument ≥ count then
        if s.named then pure none else some <$> openArgument "-"
      else
        set { s with argument := s.argument + 1 }
        let text ← argumentAt s.argument
        match assignment? text with
        | some (name, value) => do
            setSlotIn none name (.scalar (.input value))
            openNext fuel
        | none => if text = "" then openNext fuel else some <$> openArgument text

/-- The next record of the input. The fuel is a bound on the number of files. -/
def readMain : Nat → Act (Option String)
  | 0 => pure none
  | fuel + 1 => do
      match (← get).main with
      | none =>
          match ← openNext Routine.always with
          | none => pure none
          | some source => do
              modify fun s => { s with main := some source }
              readMain fuel
      | some source => do
          let (record, source) ← takeRecord (← divider) Routine.always source
          match record with
          | some text => do
              modify fun s => { s with main := some source }
              pure (some text)
          | none => do
              let _ ← closeSource source
              modify fun s => { s with main := none }
              readMain fuel

/-- The next record of the input, which is counted. -/
def nextRecord : Act (Option String) := do
  match ← readMain Routine.always with
  | none => pure none
  | some text => do
      countUp "NR"
      countUp "FNR"
      pure (some text)

/-- Leaves the rest of the file that is read. -/
def leaveFile : Act Unit := do
  match (← get).main with
  | none => pure ()
  | some source => do
      let _ ← closeSource source
      modify fun s => { s with main := none }

/-! ## Other files and commands -/

/-- What reading a record came to. -/
inductive Fetched where
  | record (text : String)
  | nothing
  | unopened
deriving Repr, DecidableEq

/-- The file or the command that is read from. -/
def sourceOf (name : String) (isCommand : Bool) : Act (Option Source) := do
  let isWanted (source : Source) : Bool :=
    source.name = name && source.child.isSome = isCommand
  match (← get).sources.find? isWanted with
  | some source => pure (some source)
  | none =>
      if isCommand then
        let (number, child) ← beginCommand true name
        pure (some ⟨name, number, some child, [], false⟩)
      else if name = "-" || name = "/dev/stdin" then pure (some ⟨name, 0, none, [], false⟩)
      else
        match ← ask (.openFile name .reader 0) with
        | .ok number => pure (some ⟨name, number, none, [], false⟩)
        | .error _ => pure none

/-- Reads a record from a file or a command. -/
def fetch (name : String) (isCommand : Bool) : Act Fetched := do
  match ← sourceOf name isCommand with
  | none => pure .unopened
  | some source => do
      let (record, source) ← takeRecord (← divider) Routine.always source
      modify fun s => { s with
        sources := source :: s.sources.filter (·.number ≠ source.number) }
      pure (match record with
        | some text => .record text
        | none => .nothing)

end Act

end HostFlash.Utility.Rules
