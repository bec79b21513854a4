import HostFlash.Process.Program
import HostFlash.Shell.Arithmetic
import HostFlash.Shell.Builtins.Processes
import HostFlash.Shell.Builtins.Queries
import HostFlash.Shell.Builtins.Variables
import HostFlash.Shell.Parser
import HostFlash.Shell.Pathnames
import HostFlash.Shell.Redirection

/-! # Running scripts

What commands do when they run. Words are expanded from left to right, then redirections and
assignments are made, then the command is looked up and run: a function or a command of the shell
itself in the process of the script, and a program in a child. Parts of pipelines, commands in
parentheses, and commands whose output stands in for them run in children that begin as copies of
the script. The fuel of the mutual functions is a bound on all that a script does.
-/

namespace HostFlash.Shell

/-- A value in place of a parameter, as pieces of a word. -/
def valuePieces (value : String) (quoted : Bool) : List Piece :=
  [.text value (if quoted then .quoted else .value)]

/-- The parameter stands for all arguments of the script. -/
def isList (name : String) : Bool := name = "@" || name = "*"

/-- The arguments of the script as pieces of a word. With `full` they may be several fields. -/
def listPieces (s : Session) (name : String) (quoted full : Bool) : List Piece :=
  if full && (!quoted || name = "@") then
    argumentPieces (if quoted then .quoted else .value) s.args
  else valuePieces ((joint s).intercalate s.args) quoted

/-- The value of a parameter as one text. -/
def scalar? (s : Session) (name : String) : Option String :=
  if isList name then some ((joint s).intercalate s.args) else s.parameter? name

/-- The value of a parameter as pieces of a word. -/
def parameterPieces (s : Session) (name : String) (quoted full : Bool) : List Piece :=
  if isList name then listPieces s name quoted full
  else valuePieces ((s.parameter? name).getD "") quoted

/-- The value of a parameter that must not be missing where that is an error. -/
def required (name : String) : Run String := do
  let s ← get
  match scalar? s name with
  | some value => pure value
  | none =>
      if s.has .missingIsError then Run.fail (name ++ ": parameter not set") else pure ""

/-- Reads an expression and gives variables their values. -/
def computed (text : String) : Run String := do
  let s ← get
  match Arithmetic.evaluate s.valueOf? text with
  | .ok (value, given) => do
      given.reverse.forM fun (name, value) => Run.assign name (toString value)
      pure (toString value)
  | .error (.malformed message) =>
      Run.fail ("arithmetic expression: " ++ message ++ ": \"" ++ text ++ "\"")
  | .error (.notNumber text) => Run.fail ("Illegal number: " ++ text)

/-- The output of a command as it stands in for the command. -/
def trimmedOutput (bytes : List UInt8) : String :=
  let kept := (bytes.filter (· ≠ 0)).reverse.dropWhile (· = 10)
  Text.Octets.ofBytes kept.reverse

/-- A descriptor that a word names. -/
def openingOf (text : String) : Run Opening := do
  match text.toList with
  | ['-'] => pure .nothing
  | [c] =>
      if c.isDigit then pure (.descriptor (c.toNat - 48))
      else Run.fail "Syntax error: Bad fd number"
  | _ => Run.fail "Syntax error: Bad fd number"

/-- The words of a command without `command` and its options in front, with the answers whether
functions are passed over, and whether programs are looked for in the standard directories. The
fuel is a bound on the number of words. -/
def withoutCommand : Nat → List String → Option (List String × Bool)
  | 0, _ => none
  | fuel + 1, words =>
      match words with
      | [] | ["-"] => some (words, false)
      | "--" :: [] => none
      | "--" :: rest => some (rest, false)
      | w :: rest =>
          match w.toList with
          | '-' :: cs =>
              if cs = [] then some (words, false)
              else if cs.all (· = 'p') then
                (withoutCommand fuel rest).map fun (words, _) => (words, true)
              else none
          | _ => some (words, false)

/-- What a simple command comes to once its words are expanded. -/
structure Call where
  /-- The name with the arguments. -/
  words : List String
  /-- There was `command` in front of the name. -/
  wrapped : Bool
  standardPath : Bool

/-- What the words of a simple command call. The fuel is a bound on the number of words. -/
def callOf (s : Session) : Nat → Call → Call
  | 0, c => c
  | fuel + 1, c =>
      match c.words with
      | "command" :: rest =>
          if !c.wrapped && (s.functions.lookup "command").isSome then c
          else
            match withoutCommand (rest.length + 1) rest with
            | some (w :: words, standard) =>
                callOf s fuel ⟨w :: words, true, c.standardPath || standard⟩
            | _ => c
      | _ => c

/-- The command declares names, so that its arguments may be assignments. -/
def declares (s : Session) (words : List String) : Bool :=
  let call := callOf s (words.length + 1) ⟨words, false, false⟩
  match call.words with
  | name :: _ =>
      ["export", "readonly", "local", "alias"].contains name &&
        (call.wrapped || (s.functions.lookup name).isNone)
  | [] => false

/-- The rank of a call of a command of the shell itself. -/
def Call.rank? (s : Session) (c : Call) : Option Rank :=
  match c.words with
  | [] => none
  | name :: _ =>
      if !c.wrapped && (s.functions.lookup name).isSome then none
      else (builtins.lookup name).map fun rank => if c.wrapped then .regular else rank

/-- The function that a call runs. -/
def Call.function? (s : Session) (c : Call) : Option Command :=
  match c.words with
  | [] => none
  | name :: _ => if c.wrapped then none else s.functions.lookup name

/-- The program of a call. -/
def Call.program (c : Call) (name : String) : Run Found := do
  if name.toList.contains '/' then pure (.program name)
  else do
    let s ← get
    searchIn name (if c.standardPath then Program.searchPath else s.searchPath) "not found"

/-- Shows a command before it runs. -/
def showCommand (saved : List Saved) (assignments : List (String × String))
    (words : List String) : Run Unit := do
  let s ← get
  if s.has .trace then
    let descriptor := ((saved.find? (·.descriptor = 2)).bind (·.kept)).getD 2
    let texts := assignments.map (fun (name, value) => name ++ "=" ++ value) ++ words
    let _ ← Run.put descriptor ((s.valueOf? "PS4").getD "" ++ " ".intercalate texts ++ "\n")

/-- Ends the process of a script. -/
def leave {α : Type} (status : Nat) : Run α := do
  Run.setStatus status
  throw .ended

/-- Loops are left, or go on, by a number that a command is given. -/
def leaveLoops (jump : Nat → Jump) (args : List String) : Run Nat := do
  let levels ←
    match args with
    | [] => pure 1
    | a :: _ => do
        let n ← Run.number a
        if n = 0 then Run.fail ("Illegal number: " ++ a)
        pure n
  let depth := (← get).loops
  if depth = 0 then pure 0
  else do
    Run.setStatus 0
    throw (jump (min levels depth))

/-- A file that is read as part of the script. -/
def findScript (name : String) : Run String := do
  if name.toList.contains '/' then pure name
  else
    let rec search : List String → Run String
      | [] => Run.fail (name ++ ": not found")
      | directory :: rest => do
          match ← Run.ask (.inspect (pathIn directory name) true) with
          | .ok info =>
              if info.kind = .regular then pure (pathIn directory name) else search rest
          | .error _ => search rest
    search (← get).searchPath

/-- The text of a file. -/
def readScript (path : String) : Run String := do
  let failure (e : IoError) : Run String :=
    Run.fail (Redirection.openComplaint path .reader e)
  match ← Run.ask (.openFile path .reader Redirection.firstHidden) with
  | .error e => failure e
  | .ok number => do
      let content ← Run.routine (Routine.readAll number)
      let _ ← Run.ask (.close number)
      match content with
      | .ok bytes => pure (Text.Octets.ofBytes bytes)
      | .error _ => pure ""

/-- A script at its begin. -/
def Source.ofText (text : String) : Source where
  rest := text.toList
  line := 1
  documents := #[]
  awaited := []
  pushed := none
  aliases := []
  replacing := []

/-- The script has been read to its end. -/
def Source.isFinished (s : Source) : Bool := s.pushed matches some .finish

/-- How a loop goes on behind a part of it. -/
inductive Onward where
  | further (status : Nat)
  | again
  | out

/-- How a loop goes on behind a part that came out in some way. -/
def onward (r : Except Jump Nat) : Run Onward := do
  match r with
  | .ok status => pure (.further status)
  | .error (.leave (n + 2)) => throw (.leave (n + 1))
  | .error (.leave _) => pure .out
  | .error (.again (n + 2)) => throw (.again (n + 1))
  | .error (.again _) => pure .again
  | .error j => throw j

/-- Runs something as the body of a loop. -/
def inLoop {α : Type} (m : Run α) : Run α := do
  modify fun s => { s with loops := s.loops + 1 }
  Run.followedBy m (modify fun s => { s with loops := s.loops - 1 })

/-- A child of the script forgets its traps and its jobs. -/
def beginChild (keepText : Bool) : Run Unit := do
  Run.clearTraps keepText
  modify fun s => { s with jobs := [], pending := [], kept := none }

/-- A process beside the script passes over the signals of the terminal, and the first one of a job
has nothing to read. -/
def detach (first : Bool) : Run Unit := do
  Run.ignoreSignal 2
  Run.ignoreSignal 3
  if first then
    match ← Run.ask (.openFile "/dev/null" .reader Redirection.firstHidden) with
    | .ok number => Redirection.moveTo number 0
    | .error _ => pure ()

mutual

/-- Expands the parts of a word. With `full` a part may become several fields, and with `plain`
the text of the script itself is split like a value. -/
def expandParts : Nat → Bool → Bool → List Part → Run (List Piece)
  | 0, _, _, _ => throw .ended
  | fuel + 1, full, plain, parts => do
      match parts with
      | [] => pure []
      | part :: rest => do
          let first ← expandPart fuel full plain part
          let more ← expandParts fuel full plain rest
          pure (first ++ more)
termination_by structural fuel => fuel

/-- Expands a part of a word. -/
def expandPart : Nat → Bool → Bool → Part → Run (List Piece)
  | 0, _, _, _ => throw .ended
  | fuel + 1, full, plain, part => do
      match part with
      | .text value quoted =>
          pure [.text value (if quoted then .quoted else if plain then .value else .script)]
      | .arithmetic expression quoted => do
          let s ← get
          let text := Piece.joined (joint s) (← expandParts fuel false false expression)
          pure (valuePieces (← computed text) quoted)
      | .command body quoted => do
          pure (valuePieces (← substitute fuel body) quoted)
      | .parameter name modifier quoted => do
          let s ← get
          let value? := scalar? s name
          let own := parameterPieces s name quoted full
          let argument (word : List Part) : Run (List Piece) :=
            expandParts fuel full (!quoted) (withHome s false word)
          match modifier with
          | .plain => do
              let _ ← required name
              pure own
          | .length => do
              let value ← required name
              pure (valuePieces (toString value.length) quoted)
          | .orElse emptyToo word =>
              if isMissing emptyToo value? then argument word else pure own
          | .ifSet emptyToo word =>
              if isMissing emptyToo value? then pure [] else argument word
          | .orAssign emptyToo word =>
              if isMissing emptyToo value? then do
                let value := Piece.joined (joint s)
                  (← expandParts fuel false false (withHome s false word))
                if !isName name then Run.fail (name ++ ": bad variable name")
                Run.assign name value
                pure (valuePieces value quoted)
              else pure own
          | .orFail emptyToo word =>
              if isMissing emptyToo value? then do
                let message ←
                  if word.isEmpty then
                    pure ("parameter not set" ++ (if emptyToo then " or null" else ""))
                  else do
                    pure (Piece.joined (joint s)
                      (← expandParts fuel false false (withHome s false word)))
                Run.fail (name ++ ": " ++ message)
              else pure own
          | .trim which word => do
              let value ← required name
              let pattern := Piece.pattern (joint s)
                (← expandParts fuel false false (withHome s false word))
              let cs := value.toList
              let left :=
                match which with
                | .shortFront => Glob.dropFront false pattern cs
                | .longFront => Glob.dropFront true pattern cs
                | .shortBack => Glob.dropBack false pattern cs
                | .longBack => Glob.dropBack true pattern cs
              pure (valuePieces (String.ofList left) quoted)
          | .bad => Run.fail "Bad substitution"
termination_by structural fuel => fuel

/-- The output of a command, which runs in a child. -/
def substitute : Nat → Command → Run String
  | 0, _ => throw .ended
  | fuel + 1, body => do
      match body with
      | .nothing => pure ""
      | _ => do
          let (source, sink) ← Run.ask .pipe
          let child ← Run.fork do
            beginChild (body matches .simple _ _ ([.text "trap" false] :: _) _)
            let _ ← Run.ask (.close source)
            Redirection.moveTo sink 1
            finish fuel (← Run.outcome (eval fuel .final body))
          let _ ← Run.ask (.close sink)
          let content ← Run.routine (Routine.readAll source)
          let _ ← Run.ask (.close source)
          let status ← Run.waitFor [child]
          modify fun s => { s with substituted := some status }
          match content with
          | .ok bytes => pure (trimmedOutput bytes)
          | .error _ => pure ""
termination_by structural fuel => fuel

/-- A word as one text. -/
def expandText : Nat → Bool → Word → Run String
  | 0, _, _ => throw .ended
  | fuel + 1, assigned, word => do
      let s ← get
      let pieces ← expandParts fuel false false (withHome s assigned word)
      pure (Piece.joined (joint s) pieces)
termination_by structural fuel => fuel

/-- A word as fields, in which patterns stand for the names of files. -/
def expandFields : Nat → Word → Run (List String)
  | 0, _ => throw .ended
  | fuel + 1, word => do
      let s ← get
      let pieces ← expandParts fuel true false (withHome s false word)
      let fields := Piece.fields (← get).separators pieces
      let found ← fields.mapM Field.paths
      pure found.flatten
termination_by structural fuel => fuel

/-- The words of a simple command as fields, behind those that are there already. -/
def expandWords : Nat → List Word → List String → Run (List String)
  | 0, _, _ => throw .ended
  | fuel + 1, words, fields => do
      match words with
      | [] => pure fields
      | w :: rest => do
          let declared := (Word.assignment? w).isSome && declares (← get) fields
          let more ←
            if declared then do
              let text ← expandText fuel true w
              pure [text]
            else expandFields fuel w
          expandWords fuel rest (fields ++ more)
termination_by structural fuel => fuel

/-- Expands the targets of redirections. -/
def expandRedirects : Nat → List Redirect → Run (List Redirection)
  | 0, _ => throw .ended
  | fuel + 1, redirects => do
      match redirects with
      | [] => pure []
      | .mk descriptor direction target :: rest => do
          let opening : Opening ←
            match direction with
            | .document number => do
                let s ← get
                let body := ((s.documents[number]?).map (·.body)).getD []
                let pieces ← expandParts fuel false false body
                pure (.text (Piece.joined (joint s) pieces))
            | .duplicate => do openingOf (← expandText fuel false target)
            | .input => do pure (.file (← expandText fuel false target) .reader false)
            | .output => do pure (.file (← expandText fuel false target) .writer true)
            | .overwrite => do pure (.file (← expandText fuel false target) .writer false)
            | .append => do pure (.file (← expandText fuel false target) .appender false)
            | .both => do pure (.file (← expandText fuel false target) .both false)
          let more ← expandRedirects fuel rest
          pure (⟨descriptor, opening⟩ :: more)
termination_by structural fuel => fuel

/-- Makes assignments, one after the other. -/
def assignAll : Nat → Bool → Bool → List (String × Word) → List (String × String) →
    Run (List (String × String))
  | 0, _, _, _, _ => throw .ended
  | fuel + 1, temporary, exported, assignments, made => do
      match assignments with
      | [] => pure made.reverse
      | (name, word) :: rest => do
          let value ← expandText fuel true word
          if temporary then Run.keepLocal name
          Run.assignMarked name value exported
          assignAll fuel temporary exported rest ((name, value) :: made)
termination_by structural fuel => fuel

/-- Runs the actions for signals that came. -/
def runTraps : Nat → Run Unit
  | 0 => throw .ended
  | fuel + 1 => do
      let s ← get
      if s.traps.any (fun t => t.1 ≠ 0 && t.2 ≠ "") || !s.pending.isEmpty then
        let caught ← Run.ask .caught
        let signals := s.pending ++ caught
        if !signals.isEmpty then
          modify fun s => { s with pending := [], kept := some (s.kept.getD s.status) }
          runActions fuel (s.kept.getD s.status) signals
          modify fun now => { now with kept := s.kept }
termination_by structural fuel => fuel

/-- Runs the actions for signals one after the other. -/
def runActions : Nat → Nat → List Nat → Run Unit
  | 0, _, _ => throw .ended
  | fuel + 1, status, signals => do
      match signals with
      | [] => pure ()
      | signal :: rest => do
          match (← get).traps.lookup signal with
          | none | some "" => pure ()
          | some action => do
              let _ ← runText fuel .plain action
              Run.setStatus status
          runActions fuel status rest
termination_by structural fuel => fuel

/-- The process of a script ends, and before that the action for its end runs. -/
def finish : Nat → Except Jump Nat → Run Unit
  | 0, _ => pure ()
  | fuel + 1, r => do
      modify fun s =>
        match r, s.kept with
        | .error .told, some status => { s with status := status, kept := none }
        | _, _ => { s with kept := none }
      let s ← get
      match s.traps.lookup 0 with
      | none | some "" => pure ()
      | some action => do
          set { s with
            kept := some s.status
            loops := 0
            traps := s.traps.filter (·.1 ≠ 0) }
          match ← Run.outcome (runText fuel .plain action) with
          | .error .failed | .error .ended => pure ()
          | _ => modify fun s => { s with status := s.kept.getD s.status }
termination_by structural fuel => fuel

/-- Runs a text as commands. -/
def runText : Nat → Mode → String → Run Nat
  | 0, _, _ => throw .ended
  | fuel + 1, mode, text => do
      let line := (← get).line
      Run.followedBy (runSource fuel mode (Source.ofText text) 0)
        (modify fun s => { s with line := line })
termination_by structural fuel => fuel

/-- Runs what is left of a script, behind commands that came to a status. -/
def runSource : Nat → Mode → Source → Nat → Run Nat
  | 0, _, _, _ => throw .ended
  | fuel + 1, mode, source, status => do
      let s ← get
      match nextCommand { source with aliases := s.aliases, documents := s.documents } with
      | .error e => do
          modify fun s => { s with line := e.line }
          Run.fail ("Syntax error: " ++ e.message)
      | .ok (none, _) => pure status
      | .ok (some command, source) => do
          modify fun s => { s with documents := source.documents }
          let mode' := if source.isFinished then mode else mode.inner
          let now ← eval fuel mode' command
          runSource fuel mode source (if command matches .nothing then status else now)
termination_by structural fuel => fuel

/-- Runs a command. A failure that nothing asks for ends a script that ends on errors. -/
def eval : Nat → Mode → Command → Run Nat
  | 0, _, _ => throw .ended
  | fuel + 1, mode, command => do
      if (← get).has .syntaxOnly then pure (← get).status
      else
        Run.tick
        runTraps fuel
        let (status?, checked) ← evalWithin fuel mode command
        match status? with
        | some status => Run.setStatus status
        | none => pure ()
        runTraps fuel
        let s ← get
        if checked && s.has .exitOnError && !mode.tested && s.status ≠ 0 then throw .ended
        if mode.last then throw .ended
        pure s.status
termination_by structural fuel => fuel

/-- Runs what a command is made of, with the status that it comes to, if it has one of its own, and
the answer whether a failure may end the script. -/
def evalWithin : Nat → Mode → Command → Run (Option Nat × Bool)
  | 0, _, _ => throw .ended
  | fuel + 1, mode, command => do
      match command with
      | .nothing => pure (none, false)
      | .negated body => do
          let status ← eval fuel .asked body
          pure (some (if status = 0 then 1 else 0), false)
      | .redirected line (.subshell _ body) redirects => do
          let status ← runSubshell fuel mode line redirects body
          pure (some status, true)
      | .redirected line body redirects => do
          modify fun s => { s with line := line }
          let rs ← expandRedirects fuel redirects
          let (saved, r) ← Redirection.applyAll rs []
          let status ← Run.followedBy
            (match r with
            | .ok () => eval fuel mode.inner body
            | .error .failed => pure 2
            | .error j => throw j)
            (Saved.restore saved)
          pure (some status, false)
      | .simple line assignments words redirects => do
          let status ← runSimple fuel mode line assignments words redirects
          pure (some status, true)
      | .each line name words body => do
          modify fun s => { s with line := line }
          let values ←
            match words with
            | none => do pure (← get).args
            | some words => do
                let found ← words.mapM (expandFields fuel)
                pure found.flatten
          let status ← inLoop (eachValue fuel mode.inner name body values 0)
          pure (some status, false)
      | .loop success condition body => do
          let status ← inLoop (runLoop fuel mode.inner success condition body 0)
          pure (some status, false)
      | .subshell line body => do
          let status ← runSubshell fuel mode line [] body
          pure (some status, true)
      | .background line body => do
          beginBackground fuel mode line body
          pure (some 0, true)
      | .pipeline members => do
          let children ← beginPipeline fuel mode false members none
          let status ← Run.waitFor children
          pure (some status, true)
      | .select line subject arms => do
          modify fun s => { s with line := line }
          let text ← expandText fuel false subject
          match ← choose fuel text arms with
          | some .nothing | none => pure (some 0, false)
          | some body => do
              let status ← eval fuel mode body
              pure (some status, false)
      | .andThen first second => do
          let status ← eval fuel .asked first
          if status = 0 then do
            let status ← eval fuel mode second
            pure (some status, false)
          else pure (none, false)
      | .orElse first second => do
          let status ← eval fuel .asked first
          if status ≠ 0 then do
            let status ← eval fuel mode second
            pure (some status, false)
          else pure (none, false)
      | .sequence first second => do
          let _ ← eval fuel mode.inner first
          let status ← eval fuel mode second
          pure (some status, false)
      | .branch condition yes no => do
          let status ← eval fuel .asked condition
          let status ←
            if status = 0 then eval fuel mode yes
            else
              match no with
              | .nothing => pure 0
              | no => eval fuel mode no
          pure (some status, false)
      | .define name body => do
          modify fun s =>
            { s with functions := (name, body) :: s.functions.filter (·.1 ≠ name) }
          pure (some 0, false)
termination_by structural fuel => fuel

/-- Runs the body of a loop for each value. -/
def eachValue : Nat → Mode → String → Command → List String → Nat → Run Nat
  | 0, _, _, _, _, _ => throw .ended
  | fuel + 1, mode, name, body, values, status => do
      match values with
      | [] => pure status
      | value :: rest => do
          Run.assign name value
          match ← onward (← Run.outcome (eval fuel mode body)) with
          | .further status => eachValue fuel mode name body rest status
          | .again => eachValue fuel mode name body rest 0
          | .out => pure 0
termination_by structural fuel => fuel

/-- Runs the body of a loop as long as its condition holds. -/
def runLoop : Nat → Mode → Bool → Command → Command → Nat → Run Nat
  | 0, _, _, _, _, _ => throw .ended
  | fuel + 1, mode, success, condition, body, status => do
      match ← onward (← Run.outcome (eval fuel .asked condition)) with
      | .out => pure status
      | .again => runLoop fuel mode success condition body status
      | .further found =>
          if decide (found = 0) != success then pure status
          else
            match ← onward (← Run.outcome (eval fuel mode body)) with
            | .out => pure 0
            | .again => runLoop fuel mode success condition body 0
            | .further status => runLoop fuel mode success condition body status
termination_by structural fuel => fuel

/-- The body of the first arm with a pattern that stands for a text. -/
def choose : Nat → String → List (List Word × Command) → Run (Option Command)
  | 0, _, _ => throw .ended
  | fuel + 1, text, arms => do
      match arms with
      | [] => pure none
      | (patterns, body) :: rest => do
          if ← isChosen fuel text patterns then pure (some body) else choose fuel text rest
termination_by structural fuel => fuel

/-- One of the patterns stands for a text. -/
def isChosen : Nat → String → List Word → Run Bool
  | 0, _, _ => throw .ended
  | fuel + 1, text, patterns => do
      match patterns with
      | [] => pure false
      | p :: rest => do
          let s ← get
          let pieces ← expandParts fuel false false (withHome s false p)
          if Glob.isMatch (Piece.pattern (joint s) pieces) text.toList then pure true
          else isChosen fuel text rest
termination_by structural fuel => fuel

/-- Runs a command in a child, unless this process has nothing else to do. -/
def runSubshell : Nat → Mode → Nat → List Redirect → Command → Run Nat
  | 0, _, _, _, _ => throw .ended
  | fuel + 1, mode, line, redirects, body => do
      modify fun s => { s with line := line }
      let rs ← expandRedirects fuel redirects
      let inner : Run Nat := do
        beginChild false
        Redirection.applyForGood rs
        eval fuel { mode with last := true } body
      if mode.last && !(← Run.hasTraps) then inner
      else
        let child ← Run.fork do finish fuel (← Run.outcome inner)
        Run.waitFor [child]
termination_by structural fuel => fuel

/-- Begins a command that runs beside the script. -/
def beginBackground : Nat → Mode → Nat → Command → Run Unit
  | 0, _, _, _ => throw .ended
  | fuel + 1, mode, line, body => do
      modify fun s => { s with line := line }
      match body with
      | .pipeline members => do
          let children ← beginPipeline fuel mode true members none
          Run.addJob children
      | _ => do
          let (redirects, inner) :=
            match body with
            | .redirected _ (.subshell ..) _ => ([], body)
            | .redirected _ inner redirects => (redirects, inner)
            | _ => ([], body)
          let rs ← expandRedirects fuel redirects
          let child ← Run.fork do
            beginChild false
            detach true
            finish fuel (← Run.outcome do
              Redirection.applyForGood rs
              eval fuel .final inner)
          Run.addJob [child]
termination_by structural fuel => fuel

/-- Begins the members of a pipeline, the first of which reads from `source`, and gives their
numbers. -/
def beginPipeline : Nat → Mode → Bool → List Command → Option Nat → Run (List Nat)
  | 0, _, _, _, _ => throw .ended
  | fuel + 1, mode, beside, members, source => do
      match members with
      | [] => pure []
      | member :: rest => do
          let next ←
            if rest.isEmpty then pure none
            else do
              let p ← Run.ask .pipe
              pure (some p)
          let child ← Run.fork do
            beginChild false
            if beside then detach source.isNone
            match next with
            | some (readEnd, _) =>
                let _ ← Run.ask (.close readEnd)
            | none => pure ()
            match source with
            | some source => Redirection.moveTo source 0
            | none => pure ()
            match next with
            | some (_, writeEnd) => Redirection.moveTo writeEnd 1
            | none => pure ()
            finish fuel (← Run.outcome (eval fuel { mode with last := true } member))
          match source with
          | some source =>
              let _ ← Run.ask (.close source)
          | none => pure ()
          match next with
          | some (_, writeEnd) =>
              let _ ← Run.ask (.close writeEnd)
          | none => pure ()
          let others ← beginPipeline fuel mode beside rest (next.map (·.1))
          pure (child :: others)
termination_by structural fuel => fuel

/-- Runs a simple command. -/
def runSimple : Nat → Mode → Nat → List (String × Word) → List Word → List Redirect → Run Nat
  | 0, _, _, _, _, _ => throw .ended
  | fuel + 1, mode, line, assignments, words, redirects => do
      modify fun s => { s with line := line, substituted := none }
      let fields ← expandWords fuel words []
      let s ← get
      let call := callOf s (fields.length + 1) ⟨fields, false, false⟩
      let rank := call.rank? s
      let isSpecial := rank = some .special
      let temporary := call.words ≠ [] && !isSpecial
      let replaces := rank.isSome && call.words.head? = some "exec"
      let rs ← expandRedirects fuel redirects
      let (saved, r) ← Redirection.applyAll rs []
      let run : Run Nat := do
        match r with
        | .error .failed => do
            Run.setStatus 2
            if isSpecial then throw .failed else pure 2
        | .error j => throw j
        | .ok () => do
            let made ← assignAll fuel temporary
              (temporary || (replaces && call.words.length > 1)) assignments []
            showCommand saved made fields
            runCall fuel mode call
      let restored := replaces && (r matches .ok ())
      Run.followedBy (if temporary && !assignments.isEmpty || (call.function? s).isSome then
          Run.withLocals run else run)
        (if restored then Saved.forget saved else Saved.restore saved)
termination_by structural fuel => fuel

/-- Runs what a simple command calls. -/
def runCall : Nat → Mode → Call → Run Nat
  | 0, _, _ => throw .ended
  | fuel + 1, mode, call => do
      let s ← get
      match call.words with
      | [] => do
          let status := s.substituted.getD 0
          pure status
      | name :: args =>
          match call.function? s, call.rank? s with
          | some body, _ => callFunction fuel mode body args
          | none, some rank => runBuiltin fuel mode rank name args
          | none, none => do
              match ← call.program name with
              | .program path =>
                  if mode.last && !(← Run.hasTraps) then runProgram path name args
                  else do
                    let child ← Run.fork (runProgram path name args)
                    Run.waitFor [child]
              | .missing reason => do
                  Run.complain (name ++ ": " ++ reason)
                  pure 127
              | _ => pure 0
termination_by structural fuel => fuel

/-- Runs a function with arguments of its own. -/
def callFunction : Nat → Mode → Command → List String → Run Nat
  | 0, _, _, _ => throw .ended
  | fuel + 1, mode, body, args => do
      let s ← get
      set { s with args := args, loops := 0, optionPlace := 0 }
      let r ← Run.outcome (eval fuel mode.inner body)
      modify fun now =>
        { now with
          args := s.args
          loops := s.loops
          optionPlace := s.optionPlace }
      match r with
      | .error .back => pure ()
      | .error j => throw j
      | .ok _ => pure ()
      pure (← get).status
termination_by structural fuel => fuel

/-- Runs a command of the shell itself. The failure of one that is not special is no more than its
status. -/
def runBuiltin : Nat → Mode → Rank → String → List String → Run Nat
  | 0, _, _, _, _ => throw .ended
  | fuel + 1, mode, rank, name, args => do
      let before := (← get).command
      modify fun s => { s with command := some name }
      let r ← Run.outcome (builtin fuel mode name args)
      modify fun s => { s with command := before }
      match r with
      | .ok status => pure status
      | .error .failed => if rank = .special then throw .failed else pure (← get).status
      | .error j => throw j
termination_by structural fuel => fuel

/-- What a command of the shell itself does. -/
def builtin : Nat → Mode → String → List String → Run Nat
  | 0, _, _, _ => throw .ended
  | fuel + 1, mode, name, args => do
      match name with
      | ":" | "true" => pure 0
      | "false" => pure 1
      | "echo" => Builtins.echo args
      | "printf" => Builtins.printf args
      | "test" | "[" => Builtins.test name args
      | "cd" | "chdir" => Builtins.cd args
      | "pwd" => Builtins.pwd args
      | "umask" => Builtins.umask args
      | "ulimit" => Builtins.ulimit args
      | "times" => Builtins.times
      | "hash" => Builtins.hash args
      | "type" => Builtins.typeCommand args
      | "export" | "readonly" => Builtins.marking name args
      | "local" => Builtins.makeLocal args
      | "unset" => Builtins.unset args
      | "shift" => Builtins.shift args
      | "set" => Builtins.setAll args
      | "read" => Builtins.read args
      | "getopts" => Builtins.getopts args
      | "alias" => Builtins.aliasCommand args
      | "unalias" => Builtins.unalias args
      | "kill" => Builtins.kill args
      | "trap" => Builtins.trap args
      | "jobs" => Builtins.showJobs args
      | "fg" | "bg" => Run.fail "No current job"
      | "wait" => Builtins.wait args
      | "break" => leaveLoops .leave args
      | "continue" => leaveLoops .again args
      | "return" => do
          match args with
          | [] => pure ()
          | a :: _ => Run.setStatus (← Run.number a)
          throw .back
      | "exit" => do
          match args with
          | [] => pure ()
          | a :: _ => do
              let status ← Run.number a
              modify fun s => { s with kept := some status }
          throw .told
      | "eval" => do
          let text := " ".intercalate args
          if args = [] then pure 0 else runText fuel mode.inner text
      | "." => do
          match ← Run.operands args with
          | [] => pure 0
          | file :: _ => do
              let path ← findScript file
              let text ← readScript path
              modify fun s => { s with command := some path }
              match ← Run.outcome (runText fuel .plain text) with
              | .ok status => pure status
              | .error .back => pure (← get).status
              | .error j => throw j
      | "exec" => do
          match ← Run.operands args with
          | [] => pure 0
          | name :: args => do
              match ← Call.program ⟨name :: args, false, false⟩ name with
              | .program path => runProgram path name args
              | .missing reason => do
                  Run.complain (name ++ ": " ++ reason)
                  leave (if reason = "not found" then 127 else 126)
              | _ => pure 0
      | "command" => do
          let (options, names) ← Run.options "pvV" args
          match names, options.find? fun o => o.1 ≠ 'p' with
          | name :: _, some (letter, _) => do
              let (text, status) ← Builtins.describe (letter = 'V') name
              let _ ← Run.emit text
              pure status
          | _, _ => pure 0
      | _ => pure 0
termination_by structural fuel => fuel

end

end HostFlash.Shell
