import HostFlash.Shell.Arguments
import HostFlash.Shell.Children

/-! # Commands on the state of a script

The commands of the shell that set and show its variables, its arguments, its options and its
aliases.
-/

namespace HostFlash.Shell.Builtins

/-- The line that shows a variable. -/
def variableLine (front : String) (entry : String × Variable) : String :=
  front ++ entry.1 ++
    (match entry.2.value with
    | some value => "=" ++ quote value
    | none => "") ++ "\n"

/-- The lines that show the variables of a kind, in the order of their names. -/
def showVariables (front : String) (test : Variable → Bool) : Run Nat := do
  let entries := (← get).vars.filter fun e => test e.2
  let sorted := entries.mergeSort fun a b => a.1 ≤ b.1
  Run.emit (String.join (sorted.map (variableLine front)))

/-- An argument as a name with a value behind it, if there is one. -/
def splitAssignment (arg : String) : String × Option String :=
  let name := arg.toList.takeWhile (· ≠ '=')
  match arg.toList.drop name.length with
  | [] => (arg, none)
  | _ :: value => (String.ofList name, some (String.ofList value))

/-- The text must be a name. -/
def checkName (name : String) : Run Unit := do
  if !isName name then Run.fail (name ++ ": bad variable name")

/-- Marks a variable as one for programs or as one that is kept, and gives it a value if there is
one. -/
def mark (fixed : Bool) (arg : String) : Run Unit := do
  let (name, value?) := splitAssignment arg
  checkName name
  match value? with
  | some value => Run.assign name value
  | none => pure ()
  modify fun s =>
    let v := (s.variableOf name).getD ⟨none, false, false⟩
    s.setVariable name (some (if fixed then { v with fixed := true } else
      { v with exported := true }))

/-- Marks variables, or shows those that are marked. -/
def marking (command : String) (args : List String) : Run Nat := do
  let fixed := command = "readonly"
  let (options, names) ← Run.options "p" args
  if options ≠ [] || names = [] then
    showVariables (command ++ " ") fun v => if fixed then v.fixed else v.exported
  else
    names.forM (mark fixed)
    pure 0

/-- Has names stand for something else until the running function ends. -/
def makeLocal (args : List String) : Run Nat := do
  if (← get).locals = [] then Run.fail "not in a function"
  args.forM fun arg => do
    let (name, value?) := splitAssignment arg
    checkName name
    Run.keepLocal name
    match value? with
    | some value => Run.assign name value
    | none => pure ()
  pure 0

/-- Takes variables or functions away. -/
def unset (args : List String) : Run Nat := do
  let (options, names) ← Run.options "vf" args
  let ofFunctions := (options.getLast?.map (·.1)) = some 'f'
  names.forM fun name => do
    if ofFunctions then
      modify fun s => { s with functions := s.functions.filter (·.1 ≠ name) }
    else do
      checkName name
      Run.unassign name
  pure 0

/-- Drops arguments of the script. -/
def shift (args : List String) : Run Nat := do
  let count ←
    match args with
    | [] => pure 1
    | a :: _ => Run.number a
  if count > (← get).args.length then Run.fail "can't shift that many"
  modify fun s => { s with args := s.args.drop count, optionPlace := 0 }
  pure 0

/-- Sets the option with a letter. -/
def setLetter (isSet : Bool) (letter : Char) : Run Unit := do
  match Setting.all.find? fun entry => entry.2.1 = some letter with
  | some (setting, _) => modify fun s => s.withSetting setting isSet
  | none => Run.fail ("Illegal option -" ++ String.singleton letter)

/-- The line that shows an option. -/
def settingLine (s : Session) (setting : Setting) (name : String) : String :=
  name ++ String.ofList (List.replicate (16 - name.length) ' ') ++
    (if s.has setting then "on" else "off") ++ "\n"

/-- Sets the option with a name, or shows all options. -/
def setNamed (isSet : Bool) (name? : Option String) : Run Unit := do
  let s ← get
  match name? with
  | none =>
      let lines :=
        if isSet then
          "Current option settings\n" ++
            String.join (Setting.all.map fun (setting, _, name) => settingLine s setting name)
        else
          String.join (Setting.all.map fun (setting, _, name) =>
            "set " ++ (if s.has setting then "-o " else "+o ") ++ name ++ "\n")
      let _ ← Run.emit lines
  | some name =>
      match Setting.all.find? fun entry => entry.2.2 = name with
      | some (setting, _) => set (s.withSetting setting isSet)
      | none => Run.fail ("Illegal option -o " ++ name)

/-- Sets the options in one argument, with the arguments behind it. -/
def setGroup (isSet : Bool) : List Char → List String → Run (List String)
  | [], args => pure args
  | 'o' :: cs, args => do
      setNamed isSet args.head?
      setGroup isSet cs args.tail
  | c :: cs, args => do
      setLetter isSet c
      setGroup isSet cs args

/-- Sets options, and gives the arguments behind them with the answer whether they replace those of
the script. The fuel is a bound on the number of arguments. -/
def setOptions : Nat → List String → Run (Option (List String))
  | 0, _ => pure none
  | fuel + 1, args => do
      match args with
      | [] => pure none
      | a :: rest =>
          match a.toList with
          | ['-'] => do
              modify fun s => (s.withSetting .trace false).withSetting .echoInput false
              pure (if rest = [] then none else some rest)
          | ['-', '-'] => pure (some rest)
          | '-' :: cs => do
              let rest ← setGroup true cs rest
              setOptions fuel rest
          | '+' :: cs => do
              let rest ← setGroup false cs rest
              setOptions fuel rest
          | _ => pure (some args)

/-- Sets options and arguments, or shows all variables. -/
def setAll (args : List String) : Run Nat := do
  if args = [] then showVariables "" fun v => v.value.isSome
  else
    match ← setOptions (args.length + 1) args with
    | some args => modify fun s => { s with args := args, optionPlace := 0 }
    | none => pure ()
    pure 0

/-! ## Reading -/

/-- A character that separates fields is a blank. -/
def isBlankSeparator (c : Char) : Bool := c = ' ' || c = '\t' || c = '\n'

/-- The line as fields for so many names: the last one has all that is left, without the blanks
behind it, and if that is a single field also without the separator behind it. Marked characters
separate nothing. -/
def splitLine (separators : List Char) : Nat → List (Char × Bool) → List String
  | 0, _ => []
  | count + 1, cs =>
      let separates (c : Char × Bool) : Bool := !c.2 && separators.contains c.1
      let isBlank (c : Char × Bool) : Bool := separates c && isBlankSeparator c.1
      let text (cs : List (Char × Bool)) : String := String.ofList (cs.map (·.1))
      let field := cs.takeWhile (!separates ·)
      let behind := cs.drop field.length
      if count = 0 then
        let gap := behind.takeWhile separates
        let isLast := gap.length = behind.length && (gap.filter (!isBlank ·)).length ≤ 1
        [text (if isLast then field else (cs.reverse.dropWhile isBlank).reverse)]
      else
        let rest := behind.dropWhile isBlank
        let rest :=
          match rest with
          | c :: after => if separates c then after.dropWhile isBlank else rest
          | [] => []
        text field :: splitLine separators count rest

/-- A line as it is read, with marks on the characters behind a backslash, and whether it goes on
below. -/
def markLine (raw : Bool) : List Char → List (Char × Bool) × Bool
  | [] => ([], false)
  | '\\' :: rest =>
      if raw then
        let (cs, more) := markLine raw rest
        (('\\', false) :: cs, more)
      else
        match rest with
        | [] => ([], false)
        | '\n' :: _ => ([], true)
        | c :: rest =>
            let (cs, more) := markLine raw rest
            ((c, true) :: cs, more)
  | c :: rest =>
      if c = '\n' then ([], false)
      else if c = '\x00' then markLine raw rest
      else
        let (cs, more) := markLine raw rest
        ((c, false) :: cs, more)

/-- Reads a line, which may go on below, with the answer whether its end was there. -/
def readLines (raw : Bool) : Nat → List (Char × Bool) → Run (List (Char × Bool) × Bool)
  | 0, read => pure (read, false)
  | fuel + 1, read => do
      match ← Run.ask (.readLine 0) with
      | .error _ => pure (read, false)
      | .ok bytes =>
          let line := (Text.Octets.ofBytes bytes).toList
          let (cs, more) := markLine raw line
          if line.getLast? ≠ some '\n' then pure (read ++ cs, false)
          else if more then readLines raw fuel (read ++ cs)
          else pure (read ++ cs, true)

/-- Reads a line into variables. -/
def read (args : List String) : Run Nat := do
  let (options, names) ← Run.options "p:r" args
  if names = [] then Run.fail "arg count"
  let raw := options.any (·.1 = 'r')
  let (line, ended) ← readLines raw Routine.always []
  let separators := (← get).separators
  let start := line.dropWhile fun c => !c.2 && separators.contains c.1 && isBlankSeparator c.1
  let values := splitLine separators names.length start
  (names.zip values).forM fun (name, value) => do
    checkName name
    Run.assign name value
  pure (if ended then 0 else 1)

/-! ## Options of scripts -/

/-- What the next option of a script is, with the argument that it takes. -/
inductive NextOption where
  | finished
  | found (letter : Char) (argument : String)
  | unknown (letter : Char)
  | withoutArgument (letter : Char)
deriving Repr, DecidableEq

/-- The next option in arguments, of which the first has the number `index` and is read from a
place on, with the number of the argument and the place that come next. -/
def nextOption (allowed : List Char) (index place : Nat) (args : List String) :
    NextOption × Nat × Nat :=
  let current :=
    if place = 0 || index ≤ 1 then [] else ((args[index - 2]?).getD "").toList.drop place
  let start : Option (List Char × Nat × Nat) :=
    match current with
    | _ :: _ => some (current, index, place)
    | [] =>
        match args[index - 1]? with
        | none => none
        | some a =>
            match a.toList with
            | '-' :: c :: cs => some (c :: cs, index + 1, 1)
            | _ => none
  match start with
  | none => (.finished, index, 0)
  | some (['-'], index, 1) => (.finished, index, 0)
  | some (cs, index, place) =>
      let letter := cs.head?.getD '?'
      let rest := cs.drop 1
      let stay := if rest = [] then 0 else place + 1
      match Run.optionOf? allowed letter with
      | none => (.unknown letter, index, stay)
      | some false => (.found letter "", index, stay)
      | some true =>
          if rest ≠ [] then (.found letter (String.ofList rest), index, 0)
          else
            match args[index - 1]? with
            | some a => (.found letter a, index + 1, 0)
            | none => (.withoutArgument letter, index, 0)

/-- Reads the next option of the script into variables. -/
def getopts (args : List String) : Run Nat := do
  match args with
  | allowed :: name :: given => do
      let s ← get
      let given := if given = [] then s.args else given
      let index := ((s.valueOf? "OPTIND").bind (·.toNat?)).getD 1
      let index := if index = 0 then 1 else index
      let silent := allowed.toList.head? = some ':'
      let (next, index, place) := nextOption allowed.toList index s.optionPlace given
      let finish (letter : Char) (status : Nat) : Run Nat := do
        Run.assign "OPTIND" (toString index)
        modify fun s => { s with optionPlace := place }
        Run.assign name (String.singleton letter)
        pure status
      match next with
      | .finished => finish '?' 1
      | .found letter argument => do
          Run.assign "OPTARG" argument
          finish letter 0
      | .unknown letter => do
          if silent then Run.assign "OPTARG" (String.singleton letter)
          else do
            let _ ← Run.put 2 ("Illegal option -" ++ String.singleton letter ++ "\n")
            Run.unassign "OPTARG"
          finish '?' 0
      | .withoutArgument letter => do
          if silent then
            Run.assign "OPTARG" (String.singleton letter)
            finish ':' 0
          else do
            let _ ← Run.put 2 ("No arg for -" ++ String.singleton letter ++ " option\n")
            Run.unassign "OPTARG"
            finish '?' 0
  | _ => Run.fail "Usage: getopts optstring var [arg...]"

/-! ## Aliases -/

/-- The line that shows an alias. -/
def aliasLine (entry : String × String) : String := entry.1 ++ "=" ++ quote entry.2 ++ "\n"

/-- Sets aliases, or shows them. -/
def aliasCommand (args : List String) : Run Nat := do
  if args = [] then
    Run.emit (String.join ((← get).aliases.map aliasLine))
  else
    args.foldlM (fun status arg => do
      match splitAssignment arg with
      | (name, some value) => do
          modify fun s => { s with aliases := (name, value) :: s.aliases.filter (·.1 ≠ name) }
          pure status
      | (name, none) =>
          match (← get).aliases.lookup name with
          | some value => do
              let _ ← Run.emit (aliasLine (name, value))
              pure status
          | none => do
              let _ ← Run.put 2 ("alias: " ++ name ++ " not found\n")
              pure 1) 0

/-- Takes aliases away. -/
def unalias (args : List String) : Run Nat := do
  let (options, names) ← Run.options "a" args
  if options ≠ [] then
    modify fun s => { s with aliases := [] }
    pure 0
  else
    names.foldlM (fun status name => do
      if ((← get).aliases.lookup name).isSome then
        modify fun s => { s with aliases := s.aliases.filter (·.1 ≠ name) }
        pure status
      else do
        let _ ← Run.put 2 ("unalias: " ++ name ++ " not found\n")
        pure 1) 0

end HostFlash.Shell.Builtins
