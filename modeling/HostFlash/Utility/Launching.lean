import HostFlash.Process.Signal
import HostFlash.Utility.Words

/-! # Programs that begin others

The programs that begin another program: with other variables, for a limited time, or again and
again with arguments that they read. A program that is named without a slash is looked for in the
directories of the search path.
-/

namespace HostFlash.Utility

open Tool

/-- The path of the shell, which runs files that no program can be made of. -/
def interpreterPath : String := "/bin/sh"

/-- Goes on as the program at a path. -/
def becomeAt (path name : String) (args : List String) (environment : Environment) :
    Routine IoError := do
  match ← Routine.become path name args environment with
  | .execFormat =>
      Routine.become interpreterPath interpreterPath (path :: args) environment
  | e => pure e

/-- Goes on as the first program of a name in directories. -/
def becomeIn (name : String) (args : List String) (environment : Environment) :
    List String → IoError → Routine IoError
  | [], failure => pure failure
  | directory :: rest, failure => do
      match ← becomeAt (if directory = "" then name else directory ++ "/" ++ name) name args
          environment with
      | .noEntry | .notDirectory => becomeIn name args environment rest failure
      | .permissionDenied => becomeIn name args environment rest .permissionDenied
      | e => pure e

/-- Goes on as the program that a name stands for. It comes to a value only when that cannot
be. -/
def becomeNamed (name : String) (args : List String) (environment : Environment) :
    Routine IoError :=
  if name = "" then pure .noEntry
  else if name.toList.contains '/' then becomeAt name name args environment
  else
    let path := (environment.lookup "PATH").getD "/bin:/usr/bin"
    becomeIn name args environment ((Text.splitOn ':' path.toList).map String.ofList) .noEntry

/-- The status for a program that cannot be begun. -/
def launchStatus (e : IoError) : Nat := if e = .noEntry then 127 else 126

/-- Goes on as another program, and complains when that cannot be. -/
def launch (prelude name : String) (args : List String) (environment : Environment) :
    Tool Unit := do
  flush
  let e ← routine (becomeNamed name args environment)
  complain (prelude ++ quoted name ++ ": " ++ e.reason)
  exit (launchStatus e)

/-! ## Variables -/

/-- A variable gets a value. -/
def putVariable (environment : Environment) (name value : String) : Environment :=
  if environment.any (·.1 = name) then
    environment.map fun e => if e.1 = name then (name, value) else e
  else environment ++ [(name, value)]

/-- Begins a program with other variables, or writes the variables. -/
def envTool : Tool Unit := do
  modify fun s => { s with failure := 125 }
  let a ← arguments [.flag 'i' "ignore-environment", .flag '0' "null", .value 'u' "unset",
    .value 'C' "chdir", .flag 'v' "debug"] false
  let start := (← get).environment
  let rest := if a.operands.head? = some "-" then a.operands.tail else a.operands
  let isEmpty := a.has 'i' || a.operands.head? = some "-"
  let removed := a.options.filterMap fun (key, value) => if key = 'u' then value else none
  let kept := if isEmpty then [] else start.filter fun e => !removed.contains e.1
  let assignment? (text : String) : Option (String × String) :=
    (Text.cutAt? '=' text.toList).map fun (name, value) =>
      (String.ofList name, String.ofList value)
  let given := (rest.takeWhile fun text => (assignment? text).isSome).filterMap assignment?
  let environment := given.foldl (fun e (name, value) => putVariable e name value) kept
  match a.value? 'C' with
  | some directory =>
      match ← ask (.changeDirectory directory) with
      | .ok () => pure ()
      | .error e => fail ("cannot change directory to " ++ quoted directory ++ ": " ++ e.reason)
  | none => pure ()
  match rest.drop given.length with
  | [] =>
      let finish := if a.has '0' then "\x00" else "\n"
      environment.forM fun (name, value) => write (name ++ "=" ++ value ++ finish)
  | name :: args => launch "" name args environment

/-- Writes the values of variables. -/
def printenvTool : Tool Unit := do
  modify fun s => { s with failure := 2 }
  let a ← arguments [.flag '0' "null"] false
  let finish := if a.has '0' then "\x00" else "\n"
  let environment := (← get).environment
  if a.operands = [] then
    environment.forM fun (name, value) => write (name ++ "=" ++ value ++ finish)
  else
    a.operands.forM fun name =>
      match environment.lookup name with
      | some value => write (value ++ finish)
      | none => modify fun s => { s with status := 1 }

/-! ## Ways to run -/

/-- Begins a program that goes on when the terminal is closed. -/
def nohupTool : Tool Unit := do
  modify fun s => { s with failure := 125 }
  let a ← arguments [] false
  match a.operands with
  | [] => misused "missing operand"
  | name :: args => do
      ask (.react 1 .ignore)
      launch "failed to run command " name args (← get).environment

/-- Begins a program that others come before. -/
def niceTool : Tool Unit := do
  modify fun s => { s with failure := 125 }
  let a ← arguments [.value 'n' "adjustment"] false
  match a.operands with
  | [] => writeLine "0"
  | name :: args => launch "" name args (← get).environment

/-- What is known of how a child is watched. -/
structure Guard where
  child : Nat
  command : String
  signal : Nat
  verbose : Bool
  /-- The signal goes to the child only, and not to all of the group. -/
  foreground : Bool

/-- Sends a signal to a child and to all that it has begun. -/
def Guard.send (g : Guard) (signal : Nat) : Tool Unit := do
  if g.verbose then
    warn ("sending signal " ++ (Signal.name? signal).getD (toString signal) ++ " to command " ++
      quoted g.command)
  let _ ← ask (.signal g.child signal)
  if !g.foreground then
    if !Signal.isSovereign signal then ask (.react signal .ignore)
    let _ ← ask (.signal 0 signal)

/-- How long to sleep between two looks at a child. -/
def glance : Nat := 1000000

/-- Waits for a child until a time, in nanoseconds, if there is one. The fuel is a bound on the
number of looks. -/
def Guard.wait (g : Guard) : Nat → Option Nat → Tool (Option Exit)
  | 0, _ => pure none
  | _ + 1, none => do
      match ← ask (.await (some g.child) true false) with
      | .ended _ exit => pure (some exit)
      | _ => pure none
  | fuel + 1, some left => do
      match ← ask (.await (some g.child) false false) with
      | .ended _ exit => pure (some exit)
      | .noChild => pure none
      | _ =>
          if left = 0 then pure none
          else
            ask (.sleep ⟨min glance left⟩)
            g.wait fuel (some (left - glance))

/-- The status that stands for how a program ended. -/
def shellStatus (exit : Exit) : Nat :=
  match exit with
  | .code n => n.toNat % 256
  | .signal n => 128 + n

/-- A span of time that an argument gives, in nanoseconds. -/
def spanArgument (text : String) : Tool Nat := do
  match spanOf? text with
  | some n => pure n
  | none => misused ("invalid time interval " ++ quoted text)

/-- The options of the program that limits the time of another. -/
def timeoutOptions : List OptionSpec :=
  [.value 'k' "kill-after", .value 's' "signal", .flag 'v' "verbose",
   .longFlag 'f' "foreground", .longFlag 'p' "preserve-status"]

/-- Begins a program and ends it when its time is over. -/
def timeoutTool : Tool Unit := do
  modify fun s => { s with failure := 125 }
  let a ← arguments timeoutOptions false
  let after ← (a.value? 'k').mapM spanArgument
  let signal ←
    match a.value? 's' with
    | none => pure 15
    | some text =>
        let name := if text.toUpper.startsWith "SIG" then (text.drop 3).toString else text
        let number? := if text ≠ "" && text.toList.all Char.isDigit then
            some (Nat.ofDigitChars 10 text.toList 0)
          else Signal.ofName? name
        match number? with
        | some n => pure n
        | none => misused (quoted text ++ ": invalid signal")
  match a.operands with
  | [] | [_] => do
      say ("Try '" ++ (← get).name ++ " --help' for more information.\n")
      exit 125
  | time :: name :: args => do
      let limit ← spanArgument time
      flush
      let s ← get
      if !a.has 'f' then ask .lead
      let child ← routine (Routine.fork (Routine.program do
        let e ← becomeNamed name args s.environment
        let message := s.name ++ ": failed to run command " ++ quoted name ++ ": " ++ e.reason
        let _ ← Routine.put 2 (Text.Octets.toBytes (message ++ "\n"))
        pure (launchStatus e)))
      let g : Guard := ⟨child, name, signal, a.has 'v', a.has 'f'⟩
      match ← g.wait Routine.always (if limit = 0 then none else some limit) with
      | some (.code n) => exit (n.toNat % 256)
      | some (.signal n) => routine (Routine.quit (.signal n))
      | none => do
          g.send signal
          let ended ←
            match ← g.wait Routine.always after, after with
            | some ended, _ => pure (some (ended, decide (signal = 9)))
            | none, none => pure none
            | none, some _ => do
                g.send 9
                pure ((← g.wait Routine.always none).map (·, true))
          match ended with
          | some (ended, killed) =>
              exit (if a.has 'p' || killed then shellStatus ended else 124)
          | none => exit 124

/-! ## Arguments from the input -/

/-- What is read as arguments. -/
inductive Token where
  | word (text : String)
  | lineEnd
deriving Repr, DecidableEq

/-- Where in its input the reader of arguments is. -/
structure Scan where
  /-- The word that was begun, in reverse. -/
  word : Option (List Char)
  quote : Option Char
  afterBlank : Bool
  /-- What was read, in reverse. -/
  tokens : List Token

namespace Scan

/-- Ends the word that was begun. -/
def endWord (s : Scan) : Scan :=
  match s.word with
  | none => s
  | some cs =>
      { s with word := none, tokens := .word (String.ofList cs.reverse) :: s.tokens }

/-- A character more in a word. -/
def add (s : Scan) (c : Char) : Scan :=
  { s with word := some (c :: s.word.getD []), afterBlank := false }

/-- What is wrong with quotes that are not closed. -/
def unmatched (quote : Char) : String :=
  "unmatched " ++ (if quote = '"' then "double" else "single") ++
    " quote; by default quotes are special to xargs unless you use the -0 option"

/-- Reads words, or with `byLine` whole lines. -/
def read (byLine : Bool) : Scan → List Char → Except (String × Scan) Scan
  | s, [] =>
      match s.quote with
      | some q => .error (unmatched q, s)
      | none => .ok s.endWord
  | s, ['\\'] => read byLine s []
  | s, '\\' :: c :: cs =>
      if s.quote.isNone then read byLine (s.add c) cs
      else read byLine (s.add '\\') (c :: cs)
  | s, c :: cs =>
      match s.quote with
      | some q =>
          if c = q then read byLine { s with quote := none } cs
          else if c = '\n' then .error (unmatched q, s)
          else read byLine (s.add c) cs
      | none =>
          if c = '\'' || c = '"' then
            read byLine { s with quote := some c, word := some (s.word.getD []) } cs
          else if c = '\n' then
            let isContinued := s.afterBlank && !byLine
            let s := s.endWord
            read byLine
              { s with tokens := if isContinued then s.tokens else .lineEnd :: s.tokens,
                       afterBlank := false } cs
          else if c = ' ' || c = '\t' then
            if byLine then read byLine (if s.word.isSome then s.add c else s) cs
            else read byLine { s.endWord with afterBlank := true } cs
          else read byLine (s.add c) cs

end Scan

/-- The words between separators. -/
def separated (separator : Char) (text : String) : List String :=
  let pieces := (Text.splitOn separator text.toList).map String.ofList
  if pieces.getLast? = some "" then pieces.dropLast else pieces

/-- Groups of words, of which each is made of so many lines. What is begun comes in reverse. -/
def groupLines (count : Nat) : List Token → List String → Nat → List (List String)
  | [], words, _ => if words = [] then [] else [words.reverse]
  | .word w :: rest, words, lines => groupLines count rest (w :: words) lines
  | .lineEnd :: rest, words, lines =>
      if words = [] then groupLines count rest [] lines
      else if lines + 1 = count then words.reverse :: groupLines count rest [] 0
      else groupLines count rest words (lines + 1)

/-- Groups of words that are no larger than a number of words and a number of characters. What is
begun comes in reverse. -/
def groupWords (count size : Nat) : List String → List String → Nat → List (List String)
  | [], words, _ => if words = [] then [] else [words.reverse]
  | w :: rest, words, used =>
      if words ≠ [] && (words.length = count || used + w.length + 1 > size) then
        words.reverse :: groupWords count size rest [w] (w.length + 1)
      else groupWords count size rest (w :: words) (used + w.length + 1)

/-- Copies of a text in the places of a mark. The fuel is a bound on the characters. -/
def replaceMark (mark text : List Char) : Nat → List Char → List Char
  | 0, cs => cs
  | _ + 1, [] => []
  | fuel + 1, c :: cs =>
      if mark ≠ [] && mark.isPrefixOf (c :: cs) then
        text ++ replaceMark mark text fuel ((c :: cs).drop mark.length)
      else c :: replaceMark mark text fuel cs

/-- A word as it is shown before it is run. -/
def shownWord (word : String) : String :=
  let isPlain (c : Char) : Bool := c.isAlphanum || "_-./=:,+%@^\x7b\x7d#".toList.contains c
  if word ≠ "" && word.toList.all isPlain then word else quoted word

/-- Runs a program with arguments and waits for it. The answer is the status to end with at once, if
there is one. -/
def runGroup (shows : Bool) (name : String) (args : List String) : Tool (Option Nat) := do
  flush
  let s ← get
  if shows then say (" ".intercalate ((name :: args).map shownWord) ++ "\n")
  let child ← routine (Routine.fork (Routine.program do
    match ← Routine.ask (.openFile "/dev/null" .reader 0) with
    | .ok number => do
        let _ ← Routine.ask (.copy number 0)
        let _ ← Routine.ask (.close number)
    | .error _ => pure ()
    let e ← becomeNamed name args s.environment
    let message := s.name ++ ": " ++ name ++ ": " ++ e.reason ++ "\n"
    let _ ← Routine.put 2 (Text.Octets.toBytes message)
    pure (launchStatus e)))
  match ← ask (.await (some child) true false) with
  | .ended _ (.signal n) => do
      complain (name ++ ": terminated by signal " ++ toString n)
      pure (some 125)
  | .ended _ (.code n) =>
      let status := n.toNat % 256
      if status = 255 then
        complain (name ++ ": exited with status 255; aborting")
        pure (some 124)
      else if status = 126 || status = 127 then pure (some status)
      else
        if status ≠ 0 then modify fun s => { s with status := 123 }
        pure none
  | _ => pure none

/-- Runs a program with each of several groups of arguments. -/
def runGroups (shows : Bool) (name : String) : List (List String) → Tool Unit
  | [] => pure ()
  | args :: rest => do
      match ← runGroup shows name args with
      | some status => exit status
      | none => runGroups shows name rest

/-- The options of the program that reads arguments. -/
def xargsOptions : List OptionSpec :=
  [.flag '0' "null", .value 'a' "arg-file", .value 'd' "delimiter", .value 'E' "",
   .value 'I' "", ⟨'i', "replace", .perhaps, true⟩, .value 'L' "max-lines",
   .value 'n' "max-args", .value 'P' "max-procs", .flag 'r' "no-run-if-empty",
   .value 's' "max-chars", .flag 't' "verbose", .flag 'x' "exit", .flag 'o' "open-tty"]

/-- Runs a program with arguments that are read. -/
def xargsTool : Tool Unit := do
  let a ← arguments xargsOptions false
  let number (key : Char) : Tool (Option Nat) := do
    match a.value? key with
    | none => pure none
    | some text =>
        if text ≠ "" && text.toList.all Char.isDigit then
          pure (some (Nat.ofDigitChars 10 text.toList 0))
        else
          misused ("invalid number \"" ++ text ++ "\" for -" ++ String.singleton key ++ " option")
  let count ← number 'n'
  let lines ← number 'L'
  let size ← number 's'
  let text ←
    match ← readFile ((a.value? 'a').getD "-") with
    | .ok text => pure text
    | .error e => fail ((a.value? 'a').getD "-" ++ ": " ++ e.reason)
  let mark? : Option String :=
    match a.lastOf? ['I', 'i'] with
    | some 'I' => a.value? 'I'
    | some _ => some ((a.value? 'i').getD "\x7b\x7d")
    | none => none
  let separator? : Option Char :=
    match a.lastOf? ['0', 'd'] with
    | some '0' => some '\x00'
    | some _ =>
        match ((a.value? 'd').getD "").toList with
        | '\\' :: cs => (escape .machine false cs).1.head?
        | cs => cs.head?
    | none => none
  let (tokens, fault) : List Token × Option String :=
    match separator? with
    | some c => ((separated c text).flatMap fun w => [.word w, .lineEnd], none)
    | none =>
        match Scan.read mark?.isSome ⟨none, none, false, []⟩ text.toList with
        | .ok s => (s.tokens.reverse, none)
        | .error (message, s) => (s.tokens.reverse, some message)
  let tokens :=
    match a.value? 'E' with
    | some stop => tokens.takeWhile (· ≠ .word stop)
    | none => tokens
  let words := tokens.filterMap fun
    | .word w => some w
    | .lineEnd => none
  let command := if a.operands = [] then ["echo"] else a.operands
  let name := command.headD ""
  let fixed := command.tail
  match mark? with
  | some mark =>
      let filled (word : String) : List String := fixed.map fun arg =>
        String.ofList (replaceMark mark.toList word.toList (arg.length + 1) arg.toList)
      runGroups (a.has 't') name (words.map filled)
  | none =>
      let used := (command.map fun w => w.length + 1).foldl (· + ·) 0
      let groups :=
        match lines with
        | some n => groupLines n tokens [] 0
        | none => groupWords (count.getD Routine.always) (size.getD 131072 - used) words [] 0
      let groups := if groups = [] && !a.has 'r' then [[]] else groups
      if fault.isNone || words ≠ [] then
        runGroups (a.has 't') name (groups.map (fixed ++ ·))
  match fault with
  | some message => fail message
  | none => pure ()

/-! ## Finding programs -/

/-- Writes where programs are found. -/
def whichTool : Tool Unit := do
  let a ← arguments [.flag 'a' "", .flag 's' ""] false
  let path := ((← get).environment.lookup "PATH").getD ""
  let directories := (Text.splitOn ':' path.toList).map String.ofList
  if a.operands = [] then exit 1
  a.operands.forM fun name => do
    let candidates :=
      if name.toList.contains '/' then [name] else directories.map fun d => d ++ "/" ++ name
    let found ← candidates.filterM fun path => do
      match ← ask (.inspect path true) with
      | .ok info => pure (info.kind == .regular && info.executable)
      | .error _ => pure false
    if found = [] then modify fun s => { s with status := 1 }
    else if !a.has 's' then
      (if a.has 'a' then found else found.take 1).forM writeLine

end HostFlash.Utility
