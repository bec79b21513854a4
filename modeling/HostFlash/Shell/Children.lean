import HostFlash.Shell.Session

/-! # Children of a script

Waiting for the processes that a script has begun, and the jobs that run beside it. A process that
ends is noted in the jobs, and one that is waited for is reported when a signal ended it.
-/

namespace HostFlash

/-- The status that the shell has for an exit. -/
def Exit.shellStatus : Exit → Nat
  | .code status => (status % 256).toNat
  | .signal number => 128 + number

namespace Shell

namespace Job

/-- Some process of the job has not ended. -/
def isRunning (j : Job) : Bool := j.members.any (·.2.isNone)

/-- The process that stands for the job. -/
def last (j : Job) : Nat := ((j.members.getLast?).map (·.1)).getD 0

/-- The status of the last process. -/
def status (j : Job) : Nat :=
  (((j.members.getLast?).bind (·.2)).map Exit.shellStatus).getD 0

/-- Notes how a process ended. -/
def note (number : Nat) (exit : Exit) (j : Job) : Job :=
  { j with members := j.members.map fun m => if m.1 = number then (number, some exit) else m }

end Job

namespace Run

/-- Reports that a signal ended a process, unless it is one that scripts end with silently. -/
def report (exit : Exit) : Run Unit := do
  match exit with
  | .code _ => pure ()
  | .signal number =>
      if number ≠ 2 && number ≠ 13 then
        let _ ← put 2 (Signal.description number ++ "\n")

/-- Notes in the jobs how a process ended. -/
def noteExit (number : Nat) (exit : Exit) : Run Unit :=
  modify fun s =>
    if s.jobs.isEmpty then s else { s with jobs := s.jobs.map (·.note number exit) }

/-- Waits until some processes have ended, with the ends that are known already. The fuel is a
bound on the number of waits. -/
def waitLoop (members : List Nat) : Nat → List (Nat × Exit) → Run (List (Nat × Exit))
  | 0, known => pure known
  | fuel + 1, known => do
      if members.all fun m => known.any (·.1 = m) then pure known
      else
        match ← ask (.await none true false) with
        | .ended child exit => do
            if members.contains child then
              report exit
              waitLoop members fuel ((child, exit) :: known)
            else
              noteExit child exit
              waitLoop members fuel known
        | _ => pure known

/-- Waits for processes that run as one, and gives the status of the last. -/
def waitFor (members : List Nat) : Run Nat := do
  let known ← waitLoop members Routine.always []
  match members.getLast? with
  | none => pure 0
  | some last => pure (((known.lookup last).map Exit.shellStatus).getD 0)

/-- Notes the processes that have ended. -/
def reap : Nat → Run Unit
  | 0 => pure ()
  | fuel + 1 => do
      match ← ask (.await none false false) with
      | .ended child exit =>
          noteExit child exit
          reap fuel
      | _ => pure ()

/-- Adds a job of processes and makes the last one the one in the background. -/
def addJob (members : List Nat) : Run Unit :=
  modify fun s =>
    let used := s.jobs.map (·.number)
    let number := ((List.range (used.length + 1)).map (· + 1)).find? fun n => !used.contains n
    { s with
      background := members.getLast?
      jobs := ⟨number.getD 1, members.map (·, none)⟩ :: s.jobs }

/-- Waits for a change to the jobs, with the answer whether there was one before a signal came. -/
def waitForChange (reported : List Nat) : Run (Option Bool) := do
  match ← ask (.await none true true) with
  | .ended child exit => do
      if reported.contains child then report exit
      noteExit child exit
      pure (some true)
  | .interrupted => pure none
  | _ => pure (some false)

/-- Waits for jobs until none of them runs, with the answer whether it came to that before a
signal came. -/
def waitForJobs (choose : Job → Bool) (reporting : Bool) : Nat → Run Bool
  | 0 => pure true
  | fuel + 1 => do
      let running := (← get).jobs.filter fun j => choose j && j.isRunning
      if running.isEmpty then pure true
      else
        let reported := if reporting then running.flatMap fun j => j.members.map (·.1) else []
        match ← waitForChange reported with
        | some true => waitForJobs choose reporting fuel
        | some false => pure true
        | none => pure false

/-- Forgets the traps that a child does not have, or with `keepText` only what they do. -/
def clearTraps (keepText : Bool) : Run Unit := do
  let s ← get
  s.traps.forM fun (number, action) => do
    if number ≠ 0 && action ≠ "" then
      let _ ← ask (.react number .default)
  if !keepText then
    modify fun s => { s with traps := s.traps.filter (·.2 = "") }

/-- Some signal or the end of the script has an action. -/
def hasTraps : Run Bool := do pure ((← get).traps.any (·.2 ≠ ""))

/-- Has a signal passed over. -/
def ignoreSignal (number : Nat) : Run Unit := do
  let _ ← ask (.react number .ignore)

end Run

end Shell

end HostFlash
