import HostFlash.Shell.Evaluation

/-! # The shell as a program

Reading the arguments that the shell is called with: options, then a command text, or a file of
commands, or nothing, in which case the commands are read from the standard input.
-/

namespace HostFlash.Shell

/-- The variables that a script begins with, behind those that it is given. -/
def standardVariables (given : Environment) (directory : String) (parent : Nat) :
    List (String × Variable) :=
  let given := given.filterMap fun (name, value) =>
    if isName name && name ≠ "IFS" && name ≠ "OPTIND" && name ≠ "PPID" && name ≠ "PWD" then
      some (name, Variable.mk (some value) true false)
    else none
  let own (name value : String) : Option (String × Variable) :=
    if given.any (·.1 = name) then none else some (name, ⟨some value, false, false⟩)
  given ++ [("PWD", ⟨some directory, true, false⟩)] ++
    [own "IFS" " \t\n", own "OPTIND" "1", own "PPID" (toString parent),
      own "PATH" (":".intercalate Program.searchPath), own "PS1" "# ", own "PS2" "> ",
      own "PS4" "+ "].filterMap id

/-- The path that a program is given for its directory, if it leads there. -/
def directoryOf (given : Environment) : Routine String := do
  let now ← Routine.ask .directory
  match given.lookup "PWD" with
  | none => pure now
  | some path =>
      if !Path.isAbsolute path then pure now
      else
        match ← Routine.ask (.inspect path true), ← Routine.ask (.inspect "." true) with
        | .ok a, .ok b => pure (if a.location = b.location then path else now)
        | _, _ => pure now

/-- What the arguments of the shell ask for. -/
structure Invocation where
  isCommand : Bool
  args : List String
deriving Repr, DecidableEq

/-- Reads the options of the shell in one argument. The answer has the arguments behind it and
whether a command text comes first among them. -/
def invocationGroup (isSet : Bool) : List Char → Invocation → Run Invocation
  | [], i => pure i
  | 'c' :: cs, i => invocationGroup isSet cs { i with isCommand := true }
  | 'l' :: cs, i => invocationGroup isSet cs i
  | 'o' :: cs, i => do
      Builtins.setNamed isSet i.args.head?
      invocationGroup isSet cs { i with args := i.args.tail }
  | c :: cs, i => do
      Builtins.setLetter isSet c
      invocationGroup isSet cs i

/-- Reads the options of the shell. The fuel is a bound on the number of arguments. -/
def invocation : Nat → Invocation → Run Invocation
  | 0, i => pure i
  | fuel + 1, i => do
      match i.args with
      | [] => pure i
      | a :: rest =>
          match a.toList with
          | ['-'] | ['-', '-'] => pure { i with args := rest }
          | '-' :: cs => do
              invocation fuel (← invocationGroup true cs { i with args := rest })
          | '+' :: cs => do
              invocation fuel (← invocationGroup false cs { i with args := rest })
          | _ => pure i

/-- Runs what the arguments of the shell ask for. -/
def runInvocation (fuel : Nat) (args : List String) : Run Nat := do
  let i ← invocation (args.length + 1) ⟨false, args⟩
  match i.isCommand, i.args with
  | true, [] => Run.fail "-c requires an argument"
  | true, text :: rest => do
      match rest with
      | [] => pure ()
      | name :: args => modify fun s => { s with name := name, args := args }
      let mode : Mode := if (← get).has .readInput then .plain else .final
      runText fuel mode text
  | false, path :: rest => do
      if (← get).has .readInput then
        modify fun s => { s with args := path :: rest }
        runText fuel .plain (← readInput)
      else
        let text ← readScript path
        modify fun s => { s with name := path, args := rest }
        runText fuel .plain text
  | false, [] => do
      modify fun s => s.withSetting .readInput true
      runText fuel .plain (← readInput)
where
  /-- The whole of the standard input. -/
  readInput : Run String := do
    match ← Run.routine (Routine.readAll 0) with
    | .ok bytes => pure (Text.Octets.ofBytes bytes)
    | .error _ => pure ""

/-- The shell, called by a name with arguments. -/
def activity (name : String) (args : List String) (given : Environment) : Activity :=
  let script : Run Unit := do
    finish Routine.always (← Run.outcome (runInvocation Routine.always args))
  let start : Routine Nat := do
    let directory ← directoryOf given
    let session : Session :=
      { name := name, args := [],
        vars := standardVariables given directory (← Routine.ask .origin),
        functions := [], aliases := [], documents := #[], settings := [], traps := [], status := 0,
        kept := none, pending := [], substituted := none, line := 0,
        command := none, root := ← Routine.ask .identity, background := none, jobs := [],
        loops := 0, locals := [], directory := directory, optionPlace := 0, fileMask := 18 }
    let (_, session) ← script session
    pure (session.status % 256)
  Routine.program start

end HostFlash.Shell
