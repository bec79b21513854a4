import HostFlash.Process.Activity
import HostFlash.Process.Signal
import HostFlash.Shell.Number
import HostFlash.Shell.Syntax
import HostFlash.Text.Lines
import HostFlash.Text.Octets

/-! # Sessions of the shell

The state of a running script: its parameters, its variables and definitions, its options, and
what it does with signals. `Run` is what a script does with that state, as a routine of the
process that it runs in; it comes to a value, or it leaves what it is in.
-/

namespace HostFlash.Shell

/-- A variable. One without a value is only marked. -/
structure Variable where
  value : Option String
  exported : Bool
  fixed : Bool
deriving Repr, DecidableEq

/-- An option of a shell. -/
inductive Setting where
  | exitOnError
  | plainPatterns
  | ignoreEnd
  | interactive
  | monitor
  | syntaxOnly
  | readInput
  | trace
  | echoInput
  | editVi
  | editEmacs
  | keepFiles
  | exportAll
  | notify
  | missingIsError
  | privileged
  | withoutLog
  | debug
deriving Repr, DecidableEq

/-- The options with their letters, if they have one, and their names, in order. -/
def Setting.all : List (Setting × Option Char × String) :=
  [(.exitOnError, some 'e', "errexit"), (.plainPatterns, some 'f', "noglob"),
   (.ignoreEnd, some 'I', "ignoreeof"), (.interactive, some 'i', "interactive"),
   (.monitor, some 'm', "monitor"), (.syntaxOnly, some 'n', "noexec"),
   (.readInput, some 's', "stdin"), (.trace, some 'x', "xtrace"),
   (.echoInput, some 'v', "verbose"), (.editVi, some 'V', "vi"), (.editEmacs, some 'E', "emacs"),
   (.keepFiles, some 'C', "noclobber"), (.exportAll, some 'a', "allexport"),
   (.notify, some 'b', "notify"), (.missingIsError, some 'u', "nounset"),
   (.privileged, some 'p', "privileged"), (.withoutLog, none, "nolog"), (.debug, none, "debug")]

/-- A command that runs beside the script. -/
structure Job where
  number : Nat
  /-- The processes of the job, the last one last, with how they ended. -/
  members : List (Nat × Option Exit)
deriving Repr, DecidableEq

/-- A running script. -/
structure Session where
  name : String
  args : List String
  vars : List (String × Variable)
  functions : List (String × Command)
  aliases : List (String × String)
  documents : Array Document
  /-- The options that are set. -/
  settings : List Setting
  /-- The actions for signals, and for the end under the number zero. An empty action means that
  the signal is passed over. -/
  traps : List (Nat × String)
  status : Nat
  /-- The status that the script ends with if it ends in an action for a signal or for its end. -/
  kept : Option Nat
  /-- Signals that were caught and whose actions have not run yet. -/
  pending : List Nat
  /-- The status of the last command whose output stood in for it, if there was one. -/
  substituted : Option Nat
  line : Nat
  /-- The command of the shell that runs, for its complaints. -/
  command : Option String
  /-- The process that the script was begun in. -/
  root : Nat
  background : Option Nat
  jobs : List Job
  /-- How many loops the command that runs stands in. -/
  loops : Nat
  /-- What the variables of the running functions stood for before, innermost first. -/
  locals : List (List (String × Option Variable))
  /-- The working directory as the script came to it. -/
  directory : String
  /-- The place within the argument that options are read from. -/
  optionPlace : Nat
  fileMask : Nat

/-- Why a script leaves what it is in. -/
inductive Jump where
  /-- So many loops are left. -/
  | leave (levels : Nat)
  /-- So many loops but one are left, and the last one goes on. -/
  | again (levels : Nat)
  /-- The function, or the file that is read, is left. -/
  | back
  /-- Something failed that ends the script. -/
  | failed
  /-- The script ends. -/
  | ended
  /-- The script was told to end. -/
  | told
deriving Repr, DecidableEq

/-- How a command is run. -/
structure Mode where
  /-- Something else asks for its status, so that a failure does not end the script. -/
  tested : Bool
  /-- It is the last thing that the process does. -/
  last : Bool
deriving Repr, DecidableEq

namespace Mode

/-- One command of several. -/
def plain : Mode := ⟨false, false⟩

/-- A command whose status is asked for. -/
def asked : Mode := ⟨true, false⟩

/-- The last command of a process. -/
def final : Mode := ⟨false, true⟩

/-- A command that is followed by others. -/
def inner (m : Mode) : Mode := ⟨m.tested, false⟩

end Mode

/-- Something that a script does. -/
abbrev Run := ExceptT Jump (StateT Session Routine)

namespace Run

variable {α : Type}

/-- Makes a request. -/
def ask (r : Request) : Run r.Answer := fun s k => .request r fun answer => k (.ok answer, s)

/-- Runs a routine. -/
def routine (m : Routine α) : Run α := fun s k => m fun a => k (.ok a, s)

/-- Runs something and gives how it came out. -/
def outcome (m : Run α) : Run (Except Jump α) := fun s k => m s fun (r, s) => k (.ok r, s)

/-- Goes on with how something came out. -/
def conclude : Except Jump α → Run α
  | .ok a => pure a
  | .error j => throw j

/-- Writes a byte text to a descriptor. -/
def put (descriptor : Nat) (text : String) : Run (Except IoError Unit) :=
  routine (Routine.put descriptor (Text.Octets.toBytes text))

/-- Sets the status of the last command. -/
def setStatus (status : Nat) : Run Unit := modify fun s => { s with status := status }

/-- Writes a complaint. -/
def complain (message : String) : Run Unit := do
  let s ← get
  let command := match s.command with
    | some c => c ++ ": "
    | none => ""
  let _ ← put 2 (s.name ++ ": " ++ toString s.line ++ ": " ++ command ++ message ++ "\n")

/-- Complains and ends what cannot go on, with a status. -/
def failWith (status : Nat) (message : String) : Run α := do
  complain message
  setStatus status
  throw .failed

/-- Complains and ends what cannot go on. -/
def fail (message : String) : Run α := failWith 2 message

/-- Writes to the standard output for a command of the shell, with its status. -/
def emit (text : String) : Run Nat := do
  if text = "" then pure 0
  else
    match ← put 1 text with
    | .ok () => pure 0
    | .error _ => do
        complain (((← get).command).getD "" ++ ": I/O error")
        pure 1

/-- Begins a child that does something with the session as it is, and ends with its status. -/
def fork (m : Run Unit) : Run Nat := fun s k =>
  .fork (m s fun (_, s) => .finish (.code (s.status % 256))) fun number => k (.ok number, s)

/-- A moment passes. -/
def tick : Run Unit := do
  let _ ← ask .work

end Run

namespace Session

/-- The variable with a name. -/
def variableOf (s : Session) (name : String) : Option Variable := s.vars.lookup name

/-- The value of a variable. -/
def valueOf? (s : Session) (name : String) : Option String :=
  (s.variableOf name).bind (·.value)

/-- Sets what a name stands for. A new name comes last. -/
def setVariable (s : Session) (name : String) (found : Option Variable) : Session :=
  match found with
  | none => { s with vars := s.vars.filter (·.1 ≠ name) }
  | some v =>
      if s.vars.any (·.1 = name) then
        { s with vars := s.vars.map fun e => if e.1 = name then (name, v) else e }
      else { s with vars := s.vars ++ [(name, v)] }

/-- The place of a name among the variables that programs are given. -/
def namePlace (name : String) : Nat :=
  let codes := name.toList.map Char.toNat
  (codes.headD 0 * 16 + codes.foldl (· + ·) 0) % 39

/-- The variables that programs are given, in the order of their places. -/
def environment (s : Session) : Environment :=
  let given := s.vars.filterMap fun (name, v) =>
    if v.exported then v.value.map fun value => (name, value) else none
  given.mergeSort fun a b => namePlace a.1 ≤ namePlace b.1

/-- The directories that programs are looked for in. -/
def searchPath (s : Session) : List String :=
  ((Text.splitOn ':' ((s.valueOf? "PATH").getD "").toList).map String.ofList)

/-- The characters that values are split at. -/
def separators (s : Session) : List Char :=
  match s.valueOf? "IFS" with
  | some value => value.toList
  | none => [' ', '\t', '\n']

/-- The option is set. -/
def has (s : Session) (setting : Setting) : Bool := s.settings.contains setting

/-- Sets an option or takes it back. -/
def withSetting (s : Session) (setting : Setting) (isSet : Bool) : Session :=
  let others := s.settings.filter (· ≠ setting)
  { s with settings := if isSet then setting :: others else others }

/-- The letters of the options that are set. -/
def settingLetters (s : Session) : String :=
  String.ofList (Setting.all.reverse.filterMap fun (setting, letter, _) =>
    if s.has setting then letter else none)

/-- The value of a parameter other than the list of all arguments. -/
def parameter? (s : Session) (name : String) : Option String :=
  match name with
  | "0" => some s.name
  | "#" => some (toString s.args.length)
  | "?" => some (toString s.status)
  | "$" => some (toString s.root)
  | "!" => s.background.map toString
  | "-" => some s.settingLetters
  | name =>
      match name.toNat? with
      | some 0 => some s.name
      | some n => s.args[n - 1]?
      | none => s.valueOf? name

end Session

namespace Run

variable {α : Type}

/-- Gives a variable a value. -/
def assignMarked (name value : String) (exported : Bool) : Run Unit := do
  let s ← get
  let old := (s.variableOf name).getD ⟨none, false, false⟩
  if old.fixed then
    fail (name ++ ": is read only")
  else
    let v : Variable := ⟨some value, old.exported || exported || s.has .exportAll, false⟩
    set (s.setVariable name (some v))
    if name = "OPTIND" then
      modify fun s => { s with optionPlace := 0 }

/-- Gives a variable a value. -/
def assign (name value : String) : Run Unit := assignMarked name value false

/-- Goes on as another program. It comes to a value only when that cannot be. -/
def become (path name : String) (args : List String) : Run IoError := do
  routine (Routine.become path name args (← get).environment)

/-- Takes a variable away. -/
def unassign (name : String) : Run Unit := do
  let s ← get
  match s.variableOf name with
  | some v =>
      if v.fixed then fail (name ++ ": is read only")
      else set (s.setVariable name none)
  | none => pure ()

/-- Keeps what a name stands for, to be put back when the running function ends. -/
def keepLocal (name : String) : Run Unit :=
  modify fun s =>
    match s.locals with
    | [] => s
    | frame :: rest =>
        if frame.any (·.1 = name) then s
        else { s with locals := ((name, s.variableOf name) :: frame) :: rest }

/-- Puts back what the names of the innermost function stood for. -/
def dropLocals : Run Unit :=
  modify fun s =>
    match s.locals with
    | [] => s
    | frame :: rest =>
        { frame.foldl (fun s (name, v) => s.setVariable name v) s with locals := rest }

/-- Runs something, and then something else however it came out. -/
def followedBy (m : Run α) (after : Run Unit) : Run α := do
  let r ← outcome m
  after
  conclude r

/-- Runs something, and puts back what the names stood for that were kept in it. -/
def withLocals (m : Run α) : Run α := do
  modify fun s => { s with locals := [] :: s.locals }
  followedBy m dropLocals

end Run

end HostFlash.Shell
