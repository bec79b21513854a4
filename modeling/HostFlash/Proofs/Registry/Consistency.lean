import HostFlash.Firmware.Manager
import HostFlash.Proofs.Registry.Contents

/-!
# Consistency of the registry over runs

An activation, a version record and the edges of the software root describe one image. The
directories and the edges are kept apart, so `Registry.Consistent` says how they fit together, and
it is shown to hold after every run of the operations of a manager, in whatever order, over every
tool, and with whatever else happens to the world between them.
-/

namespace HostFlash.Firmware

/-! ## The invariant -/

/-- The directories, the edges and the marker of a registry agree. -/
structure Registry.Consistent (paths : PathSettings) (r : Registry) : Prop where
  softwareRoot : r.softwareRoot = withoutFinalSlashes paths.software
  /-- At most one image is published. -/
  single : r.activations.entries.length ≤ 1
  sameIds : r.activations.names = r.versions.names
  activation : ∀ id a, r.activations.get? id = some a →
    a.id = id ∧ a.path = r.pathOf id ∧ a.version ≠ "" ∧ id = Version.idOf a.version
  /-- Only an active image has a priority and an edge to the host inventory. -/
  active : ∀ id a, r.activations.get? id = some a → a.state = .active →
    a.priority = some 0 ∧
      a.associations = [⟨Association.inventory, Association.activation, paths.hostInventory⟩]
  invalid : ∀ id a, r.activations.get? id = some a → a.state = .invalid →
    a.priority = none ∧ a.associations = []
  record : ∀ id a, r.activations.get? id = some a → ∃ v, r.versions.get? id = some v ∧
    v.id = id ∧ v.path = r.pathOf id ∧ v.version = a.version
  /-- The edges of the software root, in order: those of the image, then that of the marker. -/
  edges : r.associations.entries =
    (r.activations.values.flatMap fun a =>
      (if a.state = .active then [.software Association.active (r.pathOf a.id)] else []) ++
        [.software Association.updateable (r.pathOf a.id)]) ++
      r.functional.toList.map fun id => .software Association.functional (r.pathOf id)

namespace Registry

variable {paths : PathSettings}

/-- The registry holds a nameable image, or none, and any marker. -/
def Holds (paths : PathSettings) (r : Registry) : Prop :=
  ∃ c : Contents, r = holding paths c ∧ ∀ v ∈ c.image, v.id ≠ ""

theorem version_ne_of_id_ne {v : Version} (hid : v.id ≠ "") : v.version ≠ "" := by
  intro hversion
  exact hid (by rw [Version.id, Version.idOf, if_pos hversion])

/-- A published activation is that of the image, under its id. -/
theorem activation_of_get?_holding {c : Contents} {id : String} {a : Activation}
    (ha : (holding paths c).activations.get? id = some a) :
    ∃ v, c.image = some v ∧ v.id = id ∧ a = (empty paths).activationFor v := by
  rw [activations_get?_holding] at ha
  obtain ⟨v, hv, rfl⟩ := Option.map_eq_some_iff.mp ha
  obtain ⟨himage, hid⟩ := Option.filter_eq_some_iff.mp hv
  exact ⟨v, himage, of_decide_eq_true hid, rfl⟩

/-- A registry that holds something is consistent. -/
theorem Holds.consistent {r : Registry} (hr : Holds paths r) : r.Consistent paths := by
  obtain ⟨c, rfl, hnamed⟩ := hr
  refine ⟨rfl, ?_, ?_, ?_, ?_, ?_, ?_, ?_⟩
  · cases c.image <;> simp [holding]
  · simp [holding, Directory.names, List.map_map, Function.comp_def]
  · intro id a ha
    obtain ⟨v, himage, rfl, rfl⟩ := activation_of_get?_holding ha
    exact ⟨rfl, rfl, version_ne_of_id_ne (hnamed v himage), rfl⟩
  · intro id a ha hstate
    obtain ⟨v, _, _, rfl⟩ := activation_of_get?_holding ha
    exact ⟨if_pos hstate, if_pos hstate⟩
  · intro id a ha hstate
    obtain ⟨v, _, _, rfl⟩ := activation_of_get?_holding ha
    have hinactive : ImageState.ofVersion v ≠ .active := by
      intro hactive
      cases hactive.symm.trans hstate
    exact ⟨if_neg hinactive, if_neg hinactive⟩
  · intro id a ha
    obtain ⟨v, himage, rfl, rfl⟩ := activation_of_get?_holding ha
    refine ⟨(empty paths).recordFor v, ?_, rfl, rfl, rfl⟩
    simp [versions_get?_holding, himage, Option.filter]
  · obtain ⟨image, running⟩ := c
    cases image with
    | none => rfl
    | some v => rfl

theorem holds_empty : Holds paths (empty paths) :=
  ⟨⟨none, none⟩, empty_eq_holding paths, by simp⟩

theorem Holds.setRunning {r : Registry} (hr : Holds paths r) (id : String) :
    Holds paths (r.setRunning id) := by
  obtain ⟨c, rfl, hnamed⟩ := hr
  exact ⟨_, setRunning_holding paths c id, hnamed⟩

theorem Holds.processText {r : Registry} (hr : Holds paths r) (text : String) :
    Holds paths (r.processText text).2 := by
  obtain ⟨c, rfl, hnamed⟩ := hr
  rw [processText_holding]
  split
  · exact ⟨c, rfl, hnamed⟩
  next hid =>
    refine ⟨_, rfl, ?_⟩
    intro v hv
    cases hv
    exact hid

theorem Holds.erase {r : Registry} (hr : Holds paths r) (id : String) :
    Holds paths (r.erase id).2 := by
  obtain ⟨c, rfl, hnamed⟩ := hr
  rw [erase_holding]
  split
  · exact ⟨_, rfl, by simp⟩
  · exact ⟨c, rfl, hnamed⟩

theorem Holds.discard {r : Registry} (hr : Holds paths r) (id : String) :
    Holds paths (r.discard id).2 := by
  have herase := hr.erase id
  obtain ⟨c, rfl, _⟩ := hr
  rw [discard_holding]
  exact herase

theorem Holds.makeRoom {r : Registry} (hr : Holds paths r) : Holds paths r.makeRoom.2 := by
  obtain ⟨c, rfl, hnamed⟩ := hr
  rw [makeRoom_holding]
  cases c.image.filter fun v => ImageState.ofVersion v = .active with
  | none => exact ⟨c, rfl, hnamed⟩
  | some v => exact ⟨_, rfl, by simp⟩

end Registry

/-! ## Operations and runs -/

namespace Manager

variable {δ : Type}

/-- What can happen to a manager: the operations on the image, and changes of the world that come
from elsewhere. -/
inductive Operation (δ : Type) where
  | scan
  | processText (text : String)
  | setRunning (id : String)
  | makeRoom
  | erase (id : String)
  | discard (id : String)
  | yieldPriority (value : Nat) (id : String)
  | deleteOthers
  | elsewhere (change : World δ → World δ)

/-- The manager after an operation. An operation that unwinds leaves what it did until then. -/
def after (tool : Flasher δ) (partition : String) (m : Manager δ) : Operation δ → Manager δ
  | .scan => (scan tool partition m).2
  | .processText text => (processText text m).2
  | .setRunning id => (setRunning id m).2
  | .makeRoom => (makeRoom m).2
  | .erase id => (erase id m).2
  | .discard id => (discard id m).2
  | .yieldPriority value id => { m with registry := m.registry.yieldPriority value id }
  | .deleteOthers => { m with registry := m.registry.deleteOthers }
  | .elsewhere change => { m with world := change m.world }

/-- The manager after a run of operations. -/
def afterAll (tool : Flasher δ) (partition : String) (m : Manager δ)
    (operations : List (Operation δ)) : Manager δ :=
  operations.foldl (after tool partition) m

theorem registry_processText (text : String) (m : Manager δ) :
    (processText text m).2.registry = (m.registry.processText text).2 := rfl

theorem registry_erase (id : String) (m : Manager δ) :
    (erase id m).2.registry = (m.registry.erase id).2 := rfl

theorem makeRoom_apply (m : Manager δ) :
    makeRoom m = match m.registry.activeId? with
      | some id => erase id m
      | none => (.returned true, m) := by
  have hactive : onRegistry (fun r => (r.activeId?, r)) m =
      (.returned m.registry.activeId?, m) := rfl
  rw [makeRoom, Action.bind_returned hactive]
  cases m.registry.activeId? with
  | none => rfl
  | some id => rfl

theorem registry_makeRoom (m : Manager δ) :
    (makeRoom m).2.registry = m.registry.makeRoom.2 := by
  rw [makeRoom_apply, Registry.makeRoom]
  cases m.registry.activeId? with
  | none => rfl
  | some id => exact registry_erase id m

/-- A scan changes the registry through the text that it reads, if it reads one. -/
theorem registry_scan (tool : Flasher δ) (partition : String) (m : Manager δ) :
    (scan tool partition m).2.registry = m.registry ∨
      ∃ text, (scan tool partition m).2.registry = (m.registry.processText text).2 := by
  unfold scan
  rw [Action.bind_apply]
  cases hread : onWorld (versionText tool partition) m with
  | mk ending m' =>
      have hregistry : m'.registry = m.registry := by
        rw [onWorld, Action.on_apply] at hread
        rw [← (Prod.mk.inj hread).2]
      cases ending with
      | unwound reason => exact Or.inl hregistry
      | returned result =>
          cases result with
          | error failure => exact Or.inl hregistry
          | ok text =>
              right
              refine ⟨text, ?_⟩
              rw [← hregistry]
              exact registry_processText text m'

/-- One operation keeps the registry holding something. -/
theorem holds_after {paths : PathSettings} (tool : Flasher δ) (partition : String)
    (m : Manager δ) (operation : Operation δ) (hm : m.registry.Holds paths) :
    (m.after tool partition operation).registry.Holds paths := by
  cases operation with
  | scan =>
      rcases registry_scan tool partition m with hscan | ⟨text, hscan⟩
      · exact hscan.symm ▸ hm
      · exact hscan.symm ▸ hm.processText text
  | processText text => exact hm.processText text
  | setRunning id => exact hm.setRunning id
  | makeRoom =>
      show (makeRoom m).2.registry.Holds paths
      rw [registry_makeRoom]
      exact hm.makeRoom
  | erase id => exact hm.erase id
  | discard id => exact hm.discard id
  | yieldPriority value id => exact hm
  | deleteOthers => exact hm
  | elsewhere change => exact hm

theorem holds_afterAll {paths : PathSettings} (tool : Flasher δ) (partition : String)
    (operations : List (Operation δ)) (m : Manager δ) (hm : m.registry.Holds paths) :
    (m.afterAll tool partition operations).registry.Holds paths := by
  induction operations generalizing m with
  | nil => exact hm
  | cons operation rest ih => exact ih _ (holds_after tool partition m operation hm)

end Manager

end HostFlash.Firmware
