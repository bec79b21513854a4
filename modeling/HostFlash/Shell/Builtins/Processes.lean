import HostFlash.Shell.Arguments
import HostFlash.Shell.Children

/-! # Commands on processes

The commands of the shell that send signals, say what happens when one comes, and wait for the
jobs of a script.
-/

namespace HostFlash.Shell.Builtins

/-! ## Signals -/

/-- A signal by its number or its name. Zero stands for the end of the script, which has a name
too where `withEnd` says so. -/
def signalOf? (withEnd : Bool) (text : String) : Option Nat :=
  if text ≠ "" && text.toList.all Char.isDigit then
    text.toNat?.bind fun n => if n < Signal.count then some n else none
  else if text.toUpper = "EXIT" then (if withEnd then some 0 else none)
  else Signal.ofName? text

/-- The name of a signal, or its number if it has none. -/
def signalName (number : Nat) : String :=
  if number = 0 then "EXIT" else (Signal.name? number).getD (toString number)

/-- How the command that sends signals is called. -/
def killUsage : String :=
  "Usage: kill [-s sigspec | -signum | -sigspec] [pid | job]... or\nkill -l [exitstatus]"

/-- The job that a text names. -/
def jobOf (text : String) : Run Job := do
  let jobs := (← get).jobs
  let found :=
    match text.toList.drop 1 with
    | [] | ['%'] | ['+'] => jobs.head?
    | ['-'] => jobs[1]?
    | cs => ((String.ofList cs).toNat?).bind fun n => jobs.find? (·.number = n)
  match found with
  | some job => pure job
  | none => Run.fail ("No such job: " ++ text)

/-- The process that a text stands for, below zero for a group of processes. -/
def processOf (text : String) : Run Int := do
  match text.toList with
  | '%' :: _ => pure (-((((← jobOf text).members.head?).map (·.1)).getD 0 : Nat))
  | '-' :: cs => pure (-(← Run.number (String.ofList cs)))
  | _ => pure (← Run.number text)

/-- The list of signals, or the name of the one behind a status. -/
def listSignals (args : List String) : Run Nat := do
  match args with
  | [] =>
      let names := (List.range 65).map fun n => if n = 0 then "0" else
        (Signal.name? n).getD (toString n)
      Run.emit (String.join (names.map (· ++ "\n")))
  | a :: _ => do
      let n ← Run.number a
      let signal := if n > 128 then n - 128 else n
      if 0 < signal && signal < Signal.count then
        Run.emit ((Signal.name? signal).getD (toString signal) ++ "\n")
      else Run.fail ("invalid signal number or exit status: " ++ a)

/-- Sends a signal to processes. -/
def sendAll (signal : Nat) (targets : List String) : Run Nat := do
  Run.reap Routine.always
  targets.foldlM (fun status target => do
    match ← Run.ask (.signal (← processOf target) signal) with
    | .ok () => pure status
    | .error e => do
        Run.complain (e.reason ++ "\n")
        pure 1) 0

/-- Sends signals, or lists them. -/
def kill (args : List String) : Run Nat := do
  match args with
  | [] => Run.fail killUsage
  | first :: rest => do
      let direct :=
        match first.toList with
        | '-' :: cs => signalOf? false (String.ofList cs)
        | _ => none
      match direct with
      | some signal => if rest = [] then Run.fail killUsage else sendAll signal rest
      | none => do
          let (options, targets) ←
            if first.toList.head? = some '-' then Run.options "ls:" args else pure ([], args)
          let signal ← options.foldlM (fun found (letter, text) => do
            if letter = 's' then
              match signalOf? false text with
              | some n => pure n
              | none => Run.fail ("invalid signal number or name: " ++ text)
            else pure found) 15
          let listing := options.any (·.1 = 'l')
          if listing && !options.any (·.1 = 's') then listSignals targets
          else if listing || targets = [] then Run.fail killUsage
          else sendAll signal targets

/-- The lines that show what is done when signals come. -/
def showTraps : Run Nat := do
  let s ← get
  let lines := (List.range Signal.count).filterMap fun n =>
    (s.traps.lookup n).map fun action =>
      "trap -- " ++ quote action ++ " " ++ signalName n ++ "\n"
  Run.emit (String.join lines)

/-- Says what is done when a signal comes. Without an action it is what the system does. -/
def setTrap (signal : Nat) (action : Option String) : Run Unit := do
  modify fun s =>
    let others := s.traps.filter (·.1 ≠ signal)
    { s with
      traps := match action with
        | some text => (signal, text) :: others
        | none => others }
  if signal ≠ 0 then
    let reaction : Reaction :=
      match action with
      | none => .default
      | some "" => .ignore
      | some _ => .notice
    let _ ← Run.ask (.react signal reaction)

/-- Sets what is done when signals come, up to a text that is none. -/
def setTraps (action : Option String) : List String → Run Nat
  | [] => pure 0
  | text :: rest => do
      match signalOf? true text with
      | some signal => do
          setTrap signal action
          setTraps action rest
      | none => do
          let _ ← Run.put 2 ("trap: " ++ text ++ ": bad trap\n")
          pure 1

/-- Says what is done when signals come, or shows it. -/
def trap (args : List String) : Run Nat := do
  let args ← Run.operands args
  match args with
  | [] => showTraps
  | first :: rest =>
      let isNumber := first ≠ "" && first.toList.all Char.isDigit && (signalOf? true first).isSome
      if rest = [] || isNumber then setTraps none args
      else setTraps (if first = "-" then none else some first) rest

/-! ## Jobs -/

/-- What has become of a job, in words. -/
def jobState (job : Job) : String :=
  if job.isRunning then "Running"
  else
    match (job.members.getLast?).bind (·.2) with
    | some (.code 0) => "Done"
    | some (.code n) => "Done(" ++ toString n ++ ")"
    | some (.signal n) => Signal.description n
    | none => "Done"

/-- The line that shows a job. -/
def jobLine (mark : Char) (job : Job) : String :=
  let front := "[" ++ toString job.number ++ "] " ++ String.singleton mark ++ " " ++ jobState job
  front ++ String.ofList (List.replicate (33 - front.length) ' ') ++ "\n"

/-- Shows the jobs, and forgets those that have ended. -/
def showJobs (args : List String) : Run Nat := do
  let _ ← Run.options "lp" args
  Run.reap Routine.always
  let jobs := (← get).jobs
  let lines := jobs.zipIdx.map fun (job, i) =>
    jobLine (if i = 0 then '+' else if i = 1 then '-' else ' ') job
  modify fun s => { s with jobs := s.jobs.filter (·.isRunning) }
  Run.emit (String.join lines)

/-- A signal came while the script waited. -/
def interrupted : Run Nat := do
  let caught ← Run.ask .caught
  modify fun s => { s with pending := s.pending ++ caught }
  pure (128 + (caught.getLast?.getD 0))

/-- Waits for the job of each argument. -/
def waitEach : List String → Nat → Run Nat
  | [], status => pure status
  | text :: rest, _ => do
      let job? ←
        if text.toList.head? = some '%' then do
          let job ← jobOf text
          pure (some job)
        else do
          let process ← Run.number text
          pure ((← get).jobs.find? (·.last = process))
      match job? with
      | none => waitEach rest 127
      | some job => do
          if ← Run.waitForJobs (·.number = job.number) true Routine.always then
            let ended := (← get).jobs.find? (·.number = job.number)
            waitEach rest ((ended.map (·.status)).getD 0)
          else interrupted

/-- Waits for jobs. -/
def wait (args : List String) : Run Nat := do
  let args ← Run.operands args
  if args = [] then
    if ← Run.waitForJobs (fun _ => true) false Routine.always then pure 0 else interrupted
  else waitEach args 127

end HostFlash.Shell.Builtins
