import HostFlash.Flash.Mediator
import HostFlash.Flash.Flasher
import HostFlash.Process.Child
import HostFlash.Settings

/-! # External programs

The flash tool and the mediation service as programs of the machine. Both run under a deadline if
the settings name one, and a program that is late is killed. The result of a program that ends is
the same with and without a deadline.
-/

namespace HostFlash

/-- A program with the name that messages call it by, and its deadline. -/
structure ExternalProgram where
  program : String
  name : String
  deadline : Option Duration
deriving Repr, DecidableEq

namespace ExternalProgram

variable {δ : Type}

/-- The deadline that a number of seconds in the settings stands for: none for zero. -/
def deadlineOf (seconds : Nat) : Option Duration :=
  if seconds = 0 then none else some (.ofSeconds seconds)

/-- Stands for a wait that has no end. -/
def endlessWait : String := "the wait for a program does not end"

/-- Waits for what may never come. Nothing comes back from a wait without an end. -/
def await {α : Type} : Option α → Action (World δ) α
  | some a => pure a
  | none => .unwind endlessWait

/-- The text of bytes from a pipe. Malformed ones are replaced, not refused. -/
def textOf (bytes : Array UInt8) : String := String.ofList (Text.Utf8.decodeLossy bytes.toList)

/-- What a program that has ended comes to. -/
def finish (exit : Exit) (output : String) : ToolAnswer := ⟨exit.status, output⟩

/-- What is done once the look at a child under a deadline is over. -/
def settle (p : ExternalProgram) (command : String) (deadline : Duration) (child : Child) :
    Supervision.Outcome → Action (World δ) (Except Failure ToolAnswer)
  | .ended exit => do
      let output ← await (child.drained? .output)
      -- Nothing is done with the errors, but their reader is waited for as well.
      let _ ← await (child.drained? .errors)
      pure (.ok (finish exit (textOf output)))
  | .expired => do
      World.warn (command ++ " exceeded " ++ deadline.text ++ ", killing it")
      pure (.error (.timedOut command deadline.seconds))
  | .refused cause => pure (.error (.notStarted p.program cause))

/-- Attends a child that was started, with the steps that are taken. Without a deadline both pipes
are read until they end, and then the child is waited for. Under a deadline it is looked at as
`looks` says, while each pipe has a reader of its own. -/
def attend (p : ExternalProgram) (args : List String) (child : Child)
    (looks : ∀ deadline, Supervision.Watch deadline) :
    Action (World δ) (List Supervision.Step × Except Failure ToolAnswer) :=
  match p.deadline with
  | none => do
      let (exit, read) ← await child.completed?
      pure ([.reap], .ok (finish exit (textOf read.output)))
  | some deadline => do
      let (steps, outcome) := (looks deadline).supervise
      let result ← p.settle (commandText p.name args) deadline child outcome
      pure (steps, result)

/-- Runs the program. -/
def run (p : ExternalProgram) (args : List String) :
    Action (World δ) (Except Failure ToolAnswer) := do
  match ← World.onMachine fun m => Child.start m p.deadline p.program args with
  | .error cause => pure (.error (.notStarted p.program cause))
  | .ok child => Prod.snd <$> p.attend args child child.watch

/-- A program that goes by the last name of its path, or by the whole path if that has none. -/
def byFileName (program : String) (deadline : Option Duration) : ExternalProgram :=
  ⟨program, (Path.fileName? program).getD program, deadline⟩

/-- The flash tool of the settings. -/
def ofToolSettings (settings : ToolSettings) : ExternalProgram :=
  byFileName settings.program (deadlineOf settings.timeoutSeconds)

/-- The program as a flash tool. -/
def tool (p : ExternalProgram) : Flasher δ := ⟨p.name, p.run⟩

end ExternalProgram

/-- The mediation service behind a bus client. -/
structure BusMediator where
  settings : MediatorSettings
  deadline : Option Duration
deriving Repr, DecidableEq

namespace BusMediator

variable {δ : Type}

/-- The service of the settings. -/
def ofSettings (settings : MediatorSettings) : BusMediator :=
  ⟨settings, ExternalProgram.deadlineOf settings.timeoutSeconds⟩

/-- The arguments that call a method of the service. -/
def callArgs (s : MediatorSettings) (method : String) : List String :=
  ["call", s.service, s.object, s.interface, method]

/-- The log line about a call. -/
def callLine (command method : String) : Except Failure ToolAnswer → LogLine
  | .ok out =>
      if out.success then ⟨.info, "hiomapd " ++ method ++ " done"⟩
      else
        ⟨.error, "Error in hiomapd " ++ method ++ ": " ++ command ++ " returned " ++
          toString out.status⟩
  | .error failure => ⟨.error, "Error in hiomapd " ++ method ++ ": " ++ failure.message⟩

/-- Calls a method of the service and logs how it went. -/
def call (m : BusMediator) (method : String) : Action (World δ) Unit := do
  let client : ExternalProgram := ⟨m.settings.busClient, m.settings.busClient, m.deadline⟩
  let args := callArgs m.settings method
  let answer ← client.run args
  World.report [callLine (commandText client.name args) method answer]

/-- The service as a mediator. -/
def mediator (m : BusMediator) : Mediator δ := ⟨m.call "Suspend", m.call "Resume"⟩

end BusMediator

end HostFlash
