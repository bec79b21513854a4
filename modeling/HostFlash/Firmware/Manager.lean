import HostFlash.Firmware.Reading
import HostFlash.Firmware.Registry

/-! # Managing the image

The registry together with the world that the flash is read in. Each operation changes the
registry as `Registry` says and logs what happened. A scan of the flash reads the version
partition first, so that the registry is touched only after a successful read.
-/

namespace HostFlash.Firmware

/-- A registry and the world around it. -/
structure Manager (δ : Type) where
  registry : Registry
  world : World δ

/-- What came of scanning the flash. -/
inductive ScanOutcome where
  /-- The version text was read. -/
  | read (outcome : PublishOutcome)
  /-- The version partition could not be read. -/
  | readFailed (failure : Failure)

/-- The id of the image that was published. -/
def ScanOutcome.id? : ScanOutcome → Option String
  | .read (.published id _) => some id
  | _ => none

namespace Manager

variable {δ α : Type}

/-- Does something in the world. -/
def onWorld (m : Action (World δ) α) : Action (Manager δ) α :=
  m.on (·.world) fun w manager => { manager with world := w }

/-- Does something with the registry. -/
def onRegistry (f : Registry → α × Registry) : Action (Manager δ) α := fun m =>
  (.returned (f m.registry).1, { m with registry := (f m.registry).2 })

/-- The log lines for a version text that names a version: one for each part that is missing. -/
def missingParts (text : String) (v : Version) : List LogLine :=
  (if v.version = "" then
      [⟨.error, "Failed to read version, VERSION=" ++ Text.quoted text⟩]
    else []) ++
    (if v.components = "" then
      [⟨.error, "Failed to read extendedVersion, VERSION=" ++ Text.quoted text⟩]
    else [])

/-- The log lines of processing a version text. -/
def processLog (text : String) : PublishOutcome → List LogLine
  | .blank => [⟨.info, "No version found, possibly a corrupted PNOR"⟩]
  | .published id state =>
      missingParts text (Version.parse text) ++
        [⟨.info, "Published host image " ++ id ++ " (" ++ state.text ++ ")"⟩]

/-- Publishes the image that a version text describes. -/
def processText (text : String) : Action (Manager δ) PublishOutcome := do
  let outcome ← onRegistry (·.processText text)
  onWorld (World.report (processLog text outcome))
  pure outcome

/-- Reads the version partition and publishes the image described there. -/
def scan (tool : Flasher δ) (partition : String) : Action (Manager δ) ScanOutcome := do
  match ← onWorld (versionText tool partition) with
  | .error failure =>
      onWorld (World.error (unreadLine partition failure))
      pure (.readFailed failure)
  | .ok text =>
      let outcome ← processText text
      pure (.read outcome)

/-- Notes the image that the host runs. -/
def setRunning (id : String) : Action (Manager δ) Unit :=
  onRegistry fun r => ((), r.setRunning id)

/-- The log line of erasing an image. -/
def eraseLine (id : String) (erased : Bool) : LogLine :=
  if erased then ⟨.info, "Erased version " ++ id⟩
  else ⟨.error, "Failed to find version " ++ id ++ " to erase"⟩

/-- Erases an image. -/
def erase (id : String) : Action (Manager δ) Bool := do
  let erased ← onRegistry (·.erase id)
  onWorld (World.report [eraseLine id erased])
  pure erased

/-- The log line of deleting a version record. -/
def deleteLine (id : String) (deleted : Bool) : LogLine :=
  if deleted then eraseLine id true
  else ⟨.error, "Failed to find version " ++ id ++ " to delete"⟩

/-- Deletes a version record. -/
def discard (id : String) : Action (Manager δ) Bool := do
  let deleted ← onRegistry (·.discard id)
  onWorld (World.report [deleteLine id deleted])
  pure deleted

/-- Erases the active image, if there is one. -/
def makeRoom : Action (Manager δ) Bool := do
  let active ← onRegistry fun r => (r.activeId?, r)
  match active with
  | some id => erase id
  | none => pure true

end Manager

end HostFlash.Firmware
