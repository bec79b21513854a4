import HostFlash.Firmware.Association
import HostFlash.Firmware.Directory
import HostFlash.Firmware.VersionText
import HostFlash.Settings

/-! # Published images

The registry of what is published about the image on the flash: an activation and a version
record under the id of the image, the associations of the software root, and the id of the image
that the host runs. Publishing an image replaces every image published before.
-/

namespace HostFlash.Firmware

/-- Whether an image is usable. -/
inductive ImageState where
  /-- The version text names a version and components. -/
  | active
  /-- The version text names a version alone. -/
  | invalid
deriving Repr, DecidableEq

namespace ImageState

/-- The state of an image with this version text. -/
def ofVersion (v : Version) : ImageState :=
  if v.isComplete then active else invalid

/-- The name of the state. -/
def text : ImageState → String
  | active => "Active"
  | invalid => "Invalid"

end ImageState

/-- What a version is for. -/
inductive Purpose where
  | host
deriving Repr, DecidableEq

/-- The name of the purpose. -/
def Purpose.text : Purpose → String
  | host => "Host"

/-- The object of a published image. Only an active image has a priority. -/
structure Activation where
  id : String
  path : String
  version : String
  components : String
  purpose : Purpose
  state : ImageState
  priority : Option Nat
  associations : List Association
deriving Repr, DecidableEq

/-- The version record beside an activation. The image is on the flash, so no file is named. -/
structure VersionRecord where
  id : String
  path : String
  version : String
  purpose : Purpose
  filePath : String
deriving Repr, DecidableEq

/-- Everything published, and the two paths that publications refer to. -/
structure Registry where
  softwareRoot : String
  hostInventory : String
  activations : Directory Activation
  versions : Directory VersionRecord
  associations : Associations
  functional : Option String
deriving Repr, DecidableEq

/-- What came of looking at a version text. -/
inductive PublishOutcome where
  /-- The image was published under this id. -/
  | published (id : String) (state : ImageState)
  /-- The text names no version, so nothing changed. -/
  | blank
deriving Repr, DecidableEq

namespace Registry

/-- The path without the slashes at its end. -/
def withoutFinalSlashes (path : String) : String :=
  String.ofList (path.toList.reverse.dropWhile (· = '/')).reverse

/-- Nothing published yet. -/
def empty (paths : PathSettings) : Registry where
  softwareRoot := withoutFinalSlashes paths.software
  hostInventory := paths.hostInventory
  activations := .empty
  versions := .empty
  associations := .empty
  functional := none

/-- The object path of an image id. -/
def pathOf (r : Registry) (id : String) : String :=
  r.softwareRoot ++ "/" ++ id

/-- The host runs the image with this id. -/
def isRunning (r : Registry) (id : String) : Bool := r.functional == some id

/-- Notes the image that the host runs and moves the edge for it there. -/
def setRunning (r : Registry) (id : String) : Registry :=
  { r with
    functional := some id
    associations := (r.associations.withoutForward Association.functional).add
      (.software Association.functional (r.pathOf id)) }

/-- Takes every publication away, with the edges to it. -/
def withdrawAll (r : Registry) : Registry :=
  { r with
    associations := r.activations.values.foldl (fun s a => s.withoutEndpoint a.path) r.associations
    activations := .empty
    versions := .empty }

/-- The activation of an image. -/
def activationFor (r : Registry) (v : Version) : Activation :=
  let state := ImageState.ofVersion v
  { id := v.id
    path := r.pathOf v.id
    version := v.version
    components := v.components
    purpose := .host
    state := state
    priority := if state = .active then some 0 else none
    associations :=
      if state = .active then
        [⟨Association.inventory, Association.activation, r.hostInventory⟩]
      else [] }

/-- The version record of an image. -/
def recordFor (r : Registry) (v : Version) : VersionRecord where
  id := v.id
  path := r.pathOf v.id
  version := v.version
  purpose := .host
  filePath := ""

/-- The edges from the software root to an image: `active` only for an active image. -/
def linkImage (s : Associations) (a : Activation) : Associations :=
  let s := if a.state = .active then s.add (.software Association.active a.path) else s
  s.add (.software Association.updateable a.path)

/-- Publishes an image in place of all others and notes it as the one that the host runs. -/
def publish (r : Registry) (v : Version) : Registry :=
  let r := r.withdrawAll
  let activation := r.activationFor v
  { r with
    associations := linkImage r.associations activation
    activations := r.activations.insert v.id activation
    versions := r.versions.insert v.id (r.recordFor v) }.setRunning v.id

/-- Publishes the image that a version text describes, unless it names no version. -/
def processText (r : Registry) (text : String) : PublishOutcome × Registry :=
  let v := Version.parse text
  if v.id = "" then (.blank, r)
  else (.published v.id (.ofVersion v), r.publish v)

/-- Something is published under the id. -/
def isPublished (r : Registry) (id : String) : Bool :=
  (r.activations.get? id).isSome || (r.versions.get? id).isSome

/-- Takes the publications under an id away, with the edges to its path and the note that the
host runs it. -/
def erase (r : Registry) (id : String) : Bool × Registry :=
  if r.isPublished id then
    (true,
      { r with
        activations := r.activations.erase id
        versions := r.versions.erase id
        associations := r.associations.withoutEndpoint (r.pathOf id)
        functional := if r.isRunning id then none else r.functional })
  else (false, r)

/-- Deletes the version record under an id, which erases the image. Without a record nothing is
deleted. -/
def discard (r : Registry) (id : String) : Bool × Registry :=
  if (r.versions.get? id).isSome then r.erase id else (false, r)

/-- The id of the first active image. -/
def activeId? (r : Registry) : Option String :=
  (r.activations.values.find? fun a => a.state = .active).map (·.id)

/-- Makes room by erasing the active image. There being none is success too. -/
def makeRoom (r : Registry) : Bool × Registry :=
  match r.activeId? with
  | some id => r.erase id
  | none => (true, r)

/-- Makes way for a priority. The single image has nothing to make way for. -/
def yieldPriority (r : Registry) (_value : Nat) (_id : String) : Registry := r

/-- Deletes all images but the one in use, which is the only one. -/
def deleteOthers (r : Registry) : Registry := r

end Registry

end HostFlash.Firmware
