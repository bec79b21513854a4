import HostFlash.Utility.Editing.Reading
import HostFlash.Utility.Editing.Replacing
import HostFlash.Utility.Tool

/-! # The stream editor

The program that carries out an editing script for each line of its input. A line is read, the
instructions that are for it are carried out, and what has become of it is printed. `Editor` is what
the program keeps track of, and `Outcome` how an instruction goes on.
-/

namespace HostFlash.Utility.Editing

/-- A line, whether its end was there, and the file that it is from. -/
structure Line where
  text : String
  ended : Bool
  file : String
deriving Repr, DecidableEq

/-- Something that is printed when all is done with a line. -/
inductive Appendix where
  | text (text : String)
  | file (path : String)
deriving Repr, DecidableEq

/-- Where lines are written. -/
inductive Sink where
  /-- Where all lines go. -/
  | main
  | output
  | complaints
  | file (descriptor : Nat)
deriving Repr, DecidableEq

/-- What the editor keeps track of. -/
structure Editor where
  script : Script
  /-- Each file has lines of its own. -/
  separate : Bool
  /-- Files are changed, and kept under another name if there is an ending for it. -/
  inPlace : Option String
  mark : Char
  width : Nat
  eager : Bool
  paths : List String
  /-- The file that is read. -/
  source : Option (String × Nat)
  lines : List Line
  rest : String
  /-- What becomes of the file that is changed, in reverse. -/
  result : List String
  pattern : String
  ended : Bool
  held : String
  heldEnded : Bool
  file : String
  number : Nat
  /-- The last lines of the ranges that were begun. -/
  ranges : List (Nat × Option Nat)
  replaced : Bool
  appendices : List Appendix
  used : Option Pattern
  sinks : List (String × Sink)
  /-- What is held back for files, in reverse. -/
  unwritten : List (Nat × String)
  /-- Where the end of the last line is missing. -/
  lacking : List Sink
  /-- What is left of the files that are read line by line. -/
  readers : List (String × List String)

/-- Something that the editor does. -/
abbrev Edit := StateT Editor Tool

/-- How it goes on behind an instruction. -/
inductive Outcome where
  | go (place : Nat)
  | finish (prints : Bool)
  /-- To begin again with what is left of the line. -/
  | again
  | quit (prints : Bool) (status : Nat)

namespace Edit

/-- Makes a request. -/
def ask (r : Request) : Edit r.Answer := StateT.lift (Tool.ask r)

/-- Says something about what it cannot do. -/
def say (message : String) : Edit Unit := StateT.lift do
  Tool.say ((← get).name ++ ": " ++ message ++ "\n")

/-! ## Output -/

/-- Writes what is held back for files. -/
def writeFiles : Edit Unit := do
  let e ← get
  set { e with unwritten := [] }
  e.unwritten.reverse.forM fun (descriptor, text) => do
    let _ ← StateT.lift (Tool.routine (Routine.put descriptor (Text.Octets.toBytes text)))

/-- Writes a text as it is. -/
def writeTo (sink : Sink) (text : String) : Edit Unit := do
  let e ← get
  let main : Edit Unit := StateT.lift do
    Tool.write text
    if e.eager then Tool.flush
  match sink with
  | .main => if e.inPlace.isSome then set { e with result := text :: e.result } else main
  | .output => main
  | .complaints => StateT.lift (Tool.say text)
  | .file descriptor => do
      set { e with unwritten := (descriptor, text) :: e.unwritten }
      if e.eager then writeFiles

/-- Writes a text behind the end of the last line. -/
def emit (sink : Sink) (text : String) : Edit Unit := do
  let e ← get
  if e.lacking.contains sink then
    set { e with lacking := e.lacking.erase sink }
    writeTo sink (String.singleton e.mark)
  if text ≠ "" then writeTo sink text

/-- Writes a line. -/
def emitLine (sink : Sink) (text : String) (ended : Bool) : Edit Unit := do
  let mark := (← get).mark
  if ended then emit sink (text.push mark)
  else do
    emit sink text
    modify fun e => { e with lacking := sink :: e.lacking }

/-- Writes the line that is at hand. -/
def printPattern : Edit Unit := do
  let e ← get
  emitLine .main e.pattern e.ended

/-- Prints what was to come when all is done with a line. -/
def printAppendices : Edit Unit := do
  let e ← get
  set { e with appendices := [] }
  e.appendices.reverse.forM fun
    | .text text => emit .main text
    | .file path => do
        match ← StateT.lift (Tool.readFile (if path = "/dev/stdin" then "-" else path)) with
        | .ok text => if text ≠ "" then emit .main text
        | .error _ => pure ()

/-- Ends because of something that it cannot do without. -/
def giveUp {α : Type} (message : String) : Edit α := do
  say message
  writeFiles
  StateT.lift (Tool.exit 4)

/-! ## Input -/

/-- The lines of a text, and what is left behind the last one. -/
def cutAt (mark : Char) (text : String) : List String × String :=
  let pieces := Text.splitOn mark text.toList
  (pieces.dropLast.map String.ofList, String.ofList (pieces.getLast?.getD []))

/-- Ends a file that was changed. -/
def closeFile : Edit Unit := do
  let e ← get
  match e.source with
  | none => pure ()
  | some (path, number) => do
      StateT.lift (Tool.closeInput number)
      set { e with source := none, result := [],
                   lacking := if e.inPlace.isSome then e.lacking.erase .main else e.lacking }
      match e.inPlace with
      | none => pure ()
      | some ending => do
          if ending ≠ "" then
            let other :=
              if ending.toList.contains '*' then
                String.ofList (ending.toList.flatMap fun c => if c = '*' then path.toList else [c])
              else path ++ ending
            match ← ask (.openFile other .writer 0), ← StateT.lift (Tool.readFile path) with
            | .ok copy, .ok content => do
                let _ ← StateT.lift
                  (Tool.routine (Routine.put copy (Text.Octets.toBytes content)))
                let _ ← ask (.close copy)
            | _, _ => pure ()
          match ← ask (.openFile path .writer 0) with
          | .error r => giveUp ("couldn't open file " ++ path ++ ": " ++ r.reason)
          | .ok number => do
              let text := String.join e.result.reverse
              let _ ← StateT.lift
                (Tool.routine (Routine.put number (Text.Octets.toBytes text)))
              let _ ← ask (.close number)

/-- Begins the next file, if there is one. -/
def openFile : Edit Bool := do
  let e ← get
  match e.paths with
  | [] => pure false
  | path :: paths => do
      set { e with paths := paths }
      let refuse (r : IoError) : Edit Unit := do
        say ("can't read " ++ path ++ ": " ++ r.reason)
        StateT.lift (modify fun d => { d with status := 2 })
      if e.inPlace.isSome then
        match ← ask (.inspect path true) with
        | .error r => do
            refuse r
            return true
        | .ok info =>
            if info.kind ≠ .regular then
              say ("couldn't edit " ++ path ++ ": not a regular file")
              StateT.lift (modify fun d => { d with status := 4 })
              return true
      match ← StateT.lift (Tool.openInput path) with
      | .error r => refuse r
      | .ok number =>
          modify fun e => { e with
            source := some (path, number),
            number := if e.separate then 0 else e.number,
            ranges := if e.separate then [] else e.ranges }
      pure true

/-- Has a line ready if there is one, in the same file or with `beyond` in any later one. The fuel
is a bound on the number of blocks and files. -/
def fill (beyond : Bool) : Nat → Edit Bool
  | 0 => pure false
  | fuel + 1 => do
      let e ← get
      if !e.lines.isEmpty then pure true
      else
        match e.source with
        | some (path, number) => do
            match ← ask (.read number Routine.blockSize) with
            | .error r => giveUp ("read error on " ++ path ++ ": " ++ r.reason)
            | .ok [] =>
                if e.rest ≠ "" then
                  set { e with rest := "", lines := [⟨e.rest, false, path⟩] }
                  pure true
                else if beyond then
                  closeFile
                  fill beyond fuel
                else pure false
            | .ok bytes => do
                let (lines, rest) := cutAt e.mark (e.rest ++ Text.Octets.ofBytes bytes)
                set { e with rest := rest, lines := lines.map (⟨·, true, path⟩) }
                fill beyond fuel
        | none => if beyond && (← openFile) then fill beyond fuel else pure false

/-- The line at hand is the last one. -/
def atLast : Edit Bool := do
  pure !(← fill (!(← get).separate) Routine.always)

/-- Takes the next line. -/
def nextLine : Edit (Option Line) := do
  if ← fill true Routine.always then
    let e ← get
    match e.lines with
    | [] => pure none
    | line :: lines => do
        set { e with lines := lines, number := e.number + 1, file := line.file,
                     ended := line.ended }
        pure (some line)
  else pure none

/-! ## Instructions -/

/-- The pattern that is meant, which is the last one if none is given. -/
def patternOf (p : Option Pattern) : Edit Pattern := do
  match p.or (← get).used with
  | some p => do
      modify fun e => { e with used := some p }
      pure p
  | none => do
      say "-e expression #1, char 0: no previous regular expression"
      StateT.lift (Tool.exit 1)

/-- The line at hand is at an address. -/
def isAt : Address → Edit Bool
  | .line n => do pure ((← get).number = n)
  | .last => atLast
  | .fits p => do
      let p ← patternOf p
      pure (p.fits (← get).pattern)
  | .every first step => do
      let n := (← get).number
      pure (first ≤ n && (n - first) % step = 0)

/-- Begins the range of an instruction, up to a line if its number is known. -/
def beginRange (place : Nat) (last : Option Nat) : Edit Unit :=
  modify fun e => { e with ranges := (place, last) :: e.ranges.filter (·.1 ≠ place) }

/-- Ends the range of an instruction. -/
def endRange (place : Nat) : Edit Unit :=
  modify fun e => { e with ranges := e.ranges.filter (·.1 ≠ place) }

/-- A range begins with the line at hand, unless that is all there is of it. -/
def enterRange (place : Nat) (limit : Limit) : Edit Unit := do
  let n := (← get).number
  let until' (last : Nat) : Edit Unit :=
    if last ≤ n then pure () else beginRange place (some last)
  match limit with
  | .address (.line last) => until' last
  | .address _ => beginRange place none
  | .lines count => until' (n + count)
  | .multiple factor => if factor = 0 then pure () else until' ((n / factor + 1) * factor)

/-- The line at hand is one of those that an instruction at a place is for. -/
def isSelected (place : Nat) : Option Selection → Edit Bool
  | none => pure true
  | some ⟨start, none⟩ => isAt start
  | some ⟨start, some limit⟩ => do
      let e ← get
      match e.ranges.lookup place with
      | some (some last) => do
          if last ≤ e.number then endRange place
          pure (e.number ≤ last)
      | some none => do
          match limit with
          | .address a => if ← isAt a then endRange place
          | _ => pure ()
          pure true
      | none => do
          match start, limit with
          | .line 0, .address a =>
              if e.number = 1 then
                if !(← isAt a) then beginRange place none
                pure true
              else pure false
          | _, _ =>
              if ← isAt start then
                enterRange place limit
                pure true
              else pure false

/-- The first of the lines that are at hand, and the others. -/
def firstLine (mark : Char) (text : String) : String × Option String :=
  let cs := text.toList
  let first := cs.takeWhile (· ≠ mark)
  (String.ofList first,
    match cs.drop first.length with
    | [] => none
    | _ :: rest => some (String.ofList rest))

/-- Where a file is written. -/
def sinkFor (path : String) : Edit Sink := do
  pure (((← get).sinks.lookup path).getD .output)

/-- Reads another line into the line at hand. Without one the instructions end. -/
def readNext (behind : Bool) (place : Nat) : Edit Outcome := do
  if ← atLast then pure (.finish true)
  else
    let e ← get
    if !behind && !e.script.quiet then printPattern
    printAppendices
    match ← nextLine with
    | none => pure (.finish true)
    | some line => do
        modify fun e => { e with
          pattern := if behind then e.pattern ++ String.singleton e.mark ++ line.text
            else line.text }
        pure (.go (place + 1))

/-- Carries out a substitution. -/
def substitute (s : Substitution) : Edit Unit := do
  let p ← patternOf s.pattern
  let e ← get
  let (text, changed) := s.apply p e.pattern
  if changed then
    set { e with pattern := text, replaced := true }
    if s.prints then printPattern
    match s.target with
    | some path => emitLine (← sinkFor path) text e.ended
    | none => pure ()

/-- Takes the next line of a file that is read line by line. -/
def lineOf (path : String) : Edit Unit := do
  let e ← get
  let lines ←
    match e.readers.lookup path with
    | some lines => pure lines
    | none =>
        match ← StateT.lift (Tool.readFile (if path = "/dev/stdin" then "-" else path)) with
        | .ok text =>
            let (lines, last) := cutAt e.mark text
            pure (lines.map (·.push e.mark) ++ if last = "" then [] else [last])
        | .error _ => pure []
  modify fun e => { e with
    readers := (path, lines.drop 1) :: e.readers.filter (·.1 ≠ path),
    appendices := (lines.take 1).map .text ++ e.appendices }

/-- Jumps to a label, or to the end. -/
def jump (label : String) : Edit Outcome := do
  ask .work
  if label = "" then pure (.finish true)
  else
    match (← get).script.labelled? label with
    | some place => pure (.go (place + 1))
    | none => pure (.finish true)

/-- Carries out a command. -/
def perform (place : Nat) (isInRange : Bool) (c : Command) : Edit Outcome := do
  let e ← get
  let next : Outcome := .go (place + 1)
  match c with
  | .block _ | .blockEnd | .label _ => pure next
  | .branch .always label => jump label
  | .branch .replaced label =>
      if e.replaced then
        set { e with replaced := false }
        jump label
      else pure next
  | .branch .notReplaced label =>
      if e.replaced then
        set { e with replaced := false }
        pure next
      else jump label
  | .substitute s => do
      substitute s
      pure next
  | .convert table => do
      set { e with pattern := e.pattern.map fun c => (table.lookup c).getD c }
      pure next
  | .text .before text => do
      emit .main text
      pure next
  | .text .after text => do
      set { e with appendices := .text text :: e.appendices }
      pure next
  | .text .instead text => do
      if !isInRange then emit .main text
      pure (.finish false)
  | .delete => pure (.finish false)
  | .deleteFirst =>
      match firstLine e.mark e.pattern with
      | (_, none) => pure (.finish false)
      | (_, some rest) => do
          set { e with pattern := rest }
          pure .again
  | .print => do
      printPattern
      pure next
  | .printFirst => do
      emitLine .main (firstLine e.mark e.pattern).1 true
      pure next
  | .list width => do
      emit .main (listing (width.getD e.width) e.pattern ++ "\n")
      pure next
  | .lineNumber => do
      emit .main (toString e.number ++ "\n")
      pure next
  | .fileName => do
      emit .main (e.file ++ "\n")
      pure next
  | .hold false => do
      set { e with held := e.pattern, heldEnded := e.ended }
      pure next
  | .hold true => do
      set { e with held := e.held ++ String.singleton e.mark ++ e.pattern, heldEnded := e.ended }
      pure next
  | .get false => do
      set { e with pattern := e.held, ended := e.heldEnded }
      pure next
  | .get true => do
      set { e with pattern := e.pattern ++ String.singleton e.mark ++ e.held,
                   ended := e.heldEnded }
      pure next
  | .exchange => do
      set { e with pattern := e.held, ended := e.heldEnded, held := e.pattern,
                   heldEnded := e.ended }
      pure next
  | .empty => do
      set { e with pattern := "" }
      pure next
  | .next => readNext false place
  | .nextBehind => readNext true place
  | .quit prints status => pure (.quit prints status)
  | .readFile path => do
      set { e with appendices := .file path :: e.appendices }
      pure next
  | .readLine path => do
      lineOf path
      pure next
  | .writeFile path => do
      emitLine (← sinkFor path) e.pattern e.ended
      pure next
  | .writeFirst path => do
      emitLine (← sinkFor path) (firstLine e.mark e.pattern).1 true
      pure next

/-- Carries out the instructions from a place on. The fuel is a bound on their number. -/
def carryOut : Nat → Nat → Edit Outcome
  | 0, _ => pure (.finish true)
  | fuel + 1, place => do
      match (← get).script.instructions[place]? with
      | none => pure (.finish true)
      | some i => do
          if (← isSelected place i.selection) != i.negated then
            let isInRange := ((← get).ranges.lookup place).isSome && !i.negated
            match ← perform place isInRange i.command with
            | .go place => carryOut fuel place
            | outcome => pure outcome
          else
            match i.command with
            | .block last => carryOut fuel (last + 1)
            | _ => carryOut fuel (place + 1)

/-- Works through the lines, and comes to a status. The fuel is a bound on their number. -/
def cycles : Nat → Bool → Edit Nat
  | 0, _ => pure 0
  | fuel + 1, again => do
      let more ←
        if again then pure true
        else
          match ← nextLine with
          | none => pure false
          | some line => do
              modify fun e => { e with pattern := line.text, replaced := false }
              pure true
      if !more then
        closeFile
        pure 0
      else
        match ← carryOut Routine.always 0 with
        | .finish prints => do
            if prints && !(← get).script.quiet then printPattern
            printAppendices
            cycles fuel false
        | .again => do
            printAppendices
            ask .work
            cycles fuel true
        | .quit prints status => do
            if prints then
              if !(← get).script.quiet then printPattern
              printAppendices
            if (← get).inPlace.isSome then emit .main ""
            closeFile
            pure status
        | .go _ => cycles fuel false

/-- Opens the files that a script writes. -/
def openSinks : List String → Edit Unit
  | [] => pure ()
  | path :: rest => do
      let add (sink : Sink) : Edit Unit :=
        modify fun e => { e with sinks := (path, sink) :: e.sinks }
      if path = "/dev/stdout" then add .output
      else if path = "/dev/stderr" then add .complaints
      else
        match ← ask (.openFile path .writer 0) with
        | .ok number => add (.file number)
        | .error r => giveUp ("couldn't open file " ++ path ++ ": " ++ r.reason)
      openSinks rest

end Edit

/-! ## The arguments -/

/-- The options. -/
def editOptions : List OptionSpec :=
  [.flag 'n' "quiet", .longFlag 'n' "silent", .value 'e' "expression", .value 'f' "file",
   .flag 'E' "regexp-extended", .flag 'r' "", ⟨'i', "in-place", .perhaps, true⟩,
   .value 'l' "line-length", .flag 's' "separate", .flag 'u' "unbuffered",
   .flag 'z' "null-data", .flag 'b' "binary", .longFlag '!' "posix", .longFlag '%' "debug",
   .longFlag '#' "sandbox", .longFlag '&' "follow-symlinks"]

/-- The pieces of the script that the arguments name, and the files. -/
def piecesOf (a : Arguments) : Tool (List Piece × List String) := do
  let pieces ← a.options.foldlM (fun (pieces : List Piece) (key, value) => do
    let text := value.getD ""
    if key = 'e' then
      let number := pieces.countP fun
        | ⟨.argument _, _⟩ => true
        | _ => false
      pure (pieces ++ [⟨.argument (number + 1), text⟩])
    else if key = 'f' then
      match ← Tool.readFile text with
      | .ok content => pure (pieces ++ [⟨.file text, content⟩])
      | .error e => do
          Tool.say ((← get).name ++ ": couldn't open file " ++ text ++ ": " ++ e.reason ++ "\n")
          Tool.exit 4
    else pure pieces) []
  match pieces, a.operands with
  | [], [] => do
      Tool.say ("Usage: " ++ (← get).name ++
        " [OPTION]... \x7bscript-only-if-no-other-script\x7d [input-file]...\n\n")
      Tool.exit 1
  | [], script :: files => pure ([⟨.argument 1, script⟩], files)
  | pieces, files => pure (pieces, files)

end HostFlash.Utility.Editing

namespace HostFlash.Utility

/-- Edits its input line by line. -/
def editTool : Tool Unit := do
  let a ←
    match Arguments.read Editing.editOptions true (← get).args with
    | .ok a => pure a
    | .error message => Tool.fail message
  let (pieces, files) ← Editing.piecesOf a
  let name := (← get).name
  match Editing.Script.read (a.has 'E' || a.has 'r') (a.has 'n') pieces with
  | .error message => do
      Tool.say (name ++ ": " ++ message ++ "\n")
      Tool.exit 1
  | .ok script => do
      match script.missingLabel? with
      | some label => do
          Tool.say (name ++ ": can't find label for jump to \x60" ++ label ++ "'\n")
          Tool.exit 4
      | none => pure ()
      if a.has 'i' && files = [] then
        Tool.say (name ++ ": no input files\n")
        Tool.exit 4
      let width := ((a.value? 'l').bind fun text =>
        if text.toList.all Char.isDigit then some (Nat.ofDigitChars 10 text.toList 0) else none)
      let inPlace := if a.has 'i' then some ((a.value? 'i').getD "") else none
      let editor : Editing.Editor :=
        { script := script, separate := a.has 's' || inPlace.isSome, inPlace := inPlace,
          mark := if a.has 'z' then '\x00' else '\n', width := width.getD 70, eager := a.has 'u',
          paths := if files = [] then ["-"] else files, source := none, lines := [], rest := "",
          result := [], pattern := "", ended := true, held := "", heldEnded := true, file := "-",
          number := 0, ranges := [], replaced := false, appendices := [], used := none,
          sinks := [], unwritten := [], lacking := [], readers := [] }
      let work : Editing.Edit Nat := do
        Editing.Edit.openSinks script.targets
        let status ← Editing.Edit.cycles Routine.always false
        Editing.Edit.writeFiles
        pure status
      modify fun s => { s with failure := 4 }
      let (status, _) ← work.run editor
      if status ≠ 0 then Tool.exit status

end HostFlash.Utility
