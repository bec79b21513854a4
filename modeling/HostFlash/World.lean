import HostFlash.Action
import HostFlash.Host.Machine

/-! # The world of an operation

What an operation can see and change: the machine, the log, and the state of the device behind
the flash tool, of whatever type the tool needs.
-/

namespace HostFlash

/-- How serious a log line is. -/
inductive LogLevel where
  | info
  | warn
  | error
deriving Repr, DecidableEq

/-- A log line. -/
structure LogLine where
  level : LogLevel
  message : String
deriving Repr, DecidableEq

/-- The machine, the log in order, and the device. -/
structure World (δ : Type) where
  machine : Machine
  log : List LogLine
  device : δ

namespace World

variable {δ α : Type}

/-- Writes log lines. -/
def report (lines : List LogLine) : Action (World δ) Unit :=
  .modify fun w => { w with log := w.log ++ lines }

/-- Writes a log line. -/
def info (message : String) : Action (World δ) Unit := report [⟨.info, message⟩]

@[inherit_doc info]
def warn (message : String) : Action (World δ) Unit := report [⟨.warn, message⟩]

@[inherit_doc info]
def error (message : String) : Action (World δ) Unit := report [⟨.error, message⟩]

/-- Does something with the machine. -/
def onMachine (f : Machine → α × Machine) : Action (World δ) α := fun w =>
  (.returned (f w.machine).1, { w with machine := (f w.machine).2 })

/-- Does something with the device. -/
def onDevice (f : δ → α × δ) : Action (World δ) α := fun w =>
  (.returned (f w.device).1, { w with device := (f w.device).2 })

@[simp] theorem report_apply (lines : List LogLine) (w : World δ) :
    report lines w = (.returned (), { w with log := w.log ++ lines }) := rfl

@[simp] theorem onMachine_apply (f : Machine → α × Machine) (w : World δ) :
    onMachine f w = (.returned (f w.machine).1, { w with machine := (f w.machine).2 }) := rfl

@[simp] theorem onDevice_apply (f : δ → α × δ) (w : World δ) :
    onDevice f w = (.returned (f w.device).1, { w with device := (f w.device).2 }) := rfl

end World

end HostFlash
