import HostFlash.Failure
import HostFlash.World

/-! # The flash tool

All access to the flash goes through a tool that takes an argument vector and answers with a
status and a text. The tool is any action on the world: it may write files, change its device,
fail to run at all, or unwind. On top of it stand the few commands that the operations need.
-/

namespace HostFlash

/-- The status and the text of a run of the tool. -/
structure ToolAnswer where
  status : Int
  output : String
deriving Repr, DecidableEq

namespace ToolAnswer

/-- The tool reports success. -/
def success (out : ToolAnswer) : Bool := out.status == 0

/-- Success with a text. -/
def ok (output : String) : ToolAnswer := ⟨0, output⟩

/-- A status without a text. -/
def failed (status : Int) : ToolAnswer := ⟨status, ""⟩

end ToolAnswer

/-- How a partition is cleared. -/
inductive ClearKind where
  /-- Keeps the error correcting codes of the partition valid. -/
  | ecc
  /-- Erases the raw partition. -/
  | erase
deriving Repr, DecidableEq

namespace ClearKind

/-- The mode for a partition with or without error correcting codes. -/
def ofEcc (hasEcc : Bool) : ClearKind :=
  if hasEcc then ecc else erase

/-- The option that asks the tool for this mode. -/
def option : ClearKind → String
  | ecc => "-c"
  | erase => "-e"

/-- The name of the mode in messages. -/
def text : ClearKind → String
  | ecc => "ecc-clear"
  | erase => "erase"

end ClearKind

/-- A command line as shown in messages: the program and its arguments with a space in front of
each. -/
def commandText (program : String) (args : List String) : String :=
  args.foldl (fun line arg => line ++ " " ++ arg) program

/-- The program and its arguments stand with spaces between them. -/
theorem commandText_eq (program : String) (args : List String) :
    commandText program args = " ".intercalate (program :: args) := by
  unfold commandText
  induction args generalizing program with
  | nil => exact String.intercalate_singleton.symm
  | cons arg args ih =>
      rw [List.foldl_cons, ih, String.intercalate_cons_append, String.intercalate_cons_cons]

/-- A flash tool over devices of type `δ`, with the name that messages call it by. -/
structure Flasher (δ : Type) where
  name : String
  run : List String → Action (World δ) (Except Failure ToolAnswer)

namespace Flasher

variable {δ : Type} (tool : Flasher δ)

/-- The arguments that dump a partition into a file. -/
def dumpArgs (partition destination : String) : List String :=
  ["-P", partition, "-r", destination]

/-- The arguments that clear a partition without asking back. -/
def clearArgs (partition : String) (mode : ClearKind) : List String :=
  ["-P", partition, mode.option, "-f"]

/-- The arguments that list the partition table. -/
def listArgs : List String := ["-i"]

/-- What the answer of the tool means for a command that must succeed. -/
def checked (args : List String) : Except Failure ToolAnswer → Except Failure Unit
  | .error failure => .error failure
  | .ok out =>
      if out.success then .ok ()
      else .error (.badStatus (commandText tool.name args) out.status)

theorem checked_of_status_ne_zero {args : List String} {out : ToolAnswer} (h : out.status ≠ 0) :
    tool.checked args (.ok out) = .error (.badStatus (commandText tool.name args) out.status) := by
  simp [checked, ToolAnswer.success, h]

/-- Runs a command that must succeed. -/
def runToSuccess (args : List String) : Action (World δ) (Except Failure Unit) := do
  let answer ← tool.run args
  pure (tool.checked args answer)

/-- Dumps a partition into a file. -/
def dump (partition destination : String) : Action (World δ) (Except Failure Unit) :=
  tool.runToSuccess (dumpArgs partition destination)

/-- Clears a partition. -/
def clear (partition : String) (mode : ClearKind) :
    Action (World δ) (Except Failure Unit) :=
  tool.runToSuccess (clearArgs partition mode)

/-- Lists the partition table. The status is left to the caller, since the text may be of use
even after a failure. -/
def list : Action (World δ) (Except Failure ToolAnswer) :=
  tool.run listArgs

end Flasher

end HostFlash
