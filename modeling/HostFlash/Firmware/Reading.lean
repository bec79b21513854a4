import HostFlash.Firmware.Image
import HostFlash.Flash.Flasher

/-! # Reading the version partition

The tool dumps the partition into a file in a fresh scratch directory, and the dump is decoded.
The scratch directory is taken away again in every case, also when the tool unwinds.
-/

namespace HostFlash.Firmware

variable {δ : Type}

/-- The first part of the name of a scratch directory, and the name of the dump in it. -/
def dumpName : String := "version"

/-- Makes a scratch directory. -/
def makeScratch : Action (World δ) (Except Failure String) :=
  World.onMachine fun m =>
    match m.makeScratch dumpName with
    | (.error cause, m') => (.error (.noScratch (m.scratchPath dumpName) cause), m')
    | (.ok path, m') => (.ok path, m')

/-- Takes a scratch directory away. A failure is logged and otherwise ignored. -/
def removeScratch (path : String) : Action (World δ) Unit := do
  match ← World.onMachine fun m => m.removeScratch path with
  | .ok () => pure ()
  | .error cause =>
      World.error ("Failed to remove temp dir " ++ path ++ ": " ++ Failure.atPath cause path)

/-- Takes a scratch directory away while unwinding, when nothing is logged. -/
def discardScratch (path : String) : Action (World δ) Unit :=
  World.onMachine fun m => ((), (m.removeScratch path).2)

/-- Lets the tool dump the partition into a file and decodes the file. -/
def dumpedText (tool : Flasher δ) (partition dump : String) :
    Action (World δ) (Except Failure String) := do
  match ← tool.dump partition dump with
  | .error failure => pure (.error failure)
  | .ok () =>
      match ← World.onMachine fun m => (m.contentOf dump, m) with
      | .error cause => pure (.error (.unreadableImage dump cause))
      | .ok data => pure (.ok (Image.text data))

/-- Runs a body and takes the scratch directory away behind it. -/
def withScratch {α : Type} (path : String) (body : Action (World δ) α) : Action (World δ) α :=
  fun w =>
    match body w with
    | (.returned a, w') => (do removeScratch path; pure a : Action (World δ) α) w'
    | (.unwound reason, w') => (do discardScratch path; .unwind reason : Action (World δ) α) w'

/-- The version text in a partition. -/
def versionText (tool : Flasher δ) (partition : String) :
    Action (World δ) (Except Failure String) := do
  match ← makeScratch with
  | .error failure => pure (.error failure)
  | .ok path => withScratch path (dumpedText tool partition (Path.join path dumpName))

/-- The log line for a partition that cannot be read. -/
def unreadLine (partition : String) (failure : Failure) : String :=
  "Failed to read " ++ partition ++ ": " ++ failure.message

/-- The version text in a partition, and the empty text if it cannot be read. -/
def versionTextOrEmpty (tool : Flasher δ) (partition : String) : Action (World δ) String := do
  match ← versionText tool partition with
  | .ok text => pure text
  | .error failure =>
      World.error (unreadLine partition failure)
      pure ""

end HostFlash.Firmware
