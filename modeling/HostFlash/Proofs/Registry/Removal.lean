import HostFlash.Proofs.Registry.Reprocessing

/-!
# Taking the image away

An image can be erased under its id, through its version record, or to make room for another one.
The three ways look into different parts of the registry: the directories, the records alone and
the states of the activations. Over a registry that holds something they come to the same, and an
id under which nothing is published leaves everything as it is, the marker on that id included.
-/

namespace HostFlash.Firmware

namespace Registry

variable {paths : PathSettings}

/-! ## Erasing -/

/-- What erasing an id has made of a registry, and the answer to it. -/
structure Erasure (before : Registry) (id : String) (erased : Bool) (after : Registry) : Prop where
  activation : erased = true ↔ (before.activations.get? id).isSome = true
  record : erased = true ↔ (before.versions.get? id).isSome = true
  /-- There was one image only, so none is left. -/
  withdrawn : erased = true → after.activations = .empty ∧ after.versions = .empty
  unlinked : erased = true → ∀ a ∈ after.associations.entries, a.endpoint ≠ before.pathOf id
  marker : erased = true →
    after.functional = if before.functional = some id then none else before.functional
  /-- A marker on another id stays there, and so does its edge. -/
  elsewhere : erased = true → ∀ other, other ≠ id → before.functional = some other →
    after.functional = some other ∧
      .software Association.functional (before.pathOf other) ∈ before.associations.entries ∧
      .software Association.functional (before.pathOf other) ∈ after.associations.entries
  unchanged : erased = false → after = before

theorem entries_holding_of_no_image (running : Option String) :
    (holding paths ⟨none, running⟩).associations.entries =
      running.toList.map (empty paths).runningEdge := rfl

theorem runningEdge_mem_entries {c : Contents} {id : String} (hrunning : c.running = some id) :
    .software Association.functional ((empty paths).pathOf id) ∈
      (holding paths c).associations.entries := by
  apply List.mem_append_right
  rw [hrunning]
  exact List.mem_singleton_self _

theorem erasure_of_published {c : Contents} {id : String}
    (hid : c.image.map Version.id = some id) :
    Erasure (holding paths c) id true
      (holding paths ⟨none, if c.running = some id then none else c.running⟩) where
  activation := by simp [isSome_activations_get?_holding, hid]
  record := by simp [isSome_versions_get?_holding, hid]
  withdrawn _ := ⟨rfl, rfl⟩
  unlinked := by
    intro _ a ha
    rw [entries_holding_of_no_image] at ha
    obtain ⟨other, hother, rfl⟩ := List.mem_map.mp ha
    -- The edge that is left is that of a marker, and the marker is not on the id.
    intro hendpoint
    obtain rfl : other = id := (pathOf_inj (empty paths)).mp hendpoint
    split at hother
    next => simp at hother
    next hrunning => exact hrunning (Option.mem_toList.mp hother)
  marker _ := rfl
  elsewhere := by
    intro _ other hother hrunning
    have hmarker : c.running = some other := hrunning
    have hne : ¬ c.running = some id :=
      fun heq => hother (Option.some.inj (hmarker.symm.trans heq))
    have hkept : (if c.running = some id then none else c.running) = some other :=
      (if_neg hne).trans hmarker
    exact ⟨hkept, runningEdge_mem_entries hrunning, runningEdge_mem_entries hkept⟩
  unchanged h := nomatch h

theorem erasure_of_unpublished {c : Contents} {id : String}
    (hid : ¬ c.image.map Version.id = some id) :
    Erasure (holding paths c) id false (holding paths c) where
  activation := by simp [isSome_activations_get?_holding, hid]
  record := by simp [isSome_versions_get?_holding, hid]
  withdrawn h := nomatch h
  unlinked h := nomatch h
  marker h := nomatch h
  elsewhere h := nomatch h
  unchanged _ := rfl

theorem Holds.erasure {r : Registry} (hr : r.Holds paths) (id : String) :
    Erasure r id (r.erase id).1 (r.erase id).2 := by
  obtain ⟨c, rfl, _⟩ := hr
  rw [erase_holding]
  split
  next hid => exact erasure_of_published hid
  next hid => exact erasure_of_unpublished hid

/-- Deleting a version record is erasing its image. -/
theorem Holds.discard_eq {r : Registry} (hr : r.Holds paths) (id : String) :
    r.discard id = r.erase id := by
  obtain ⟨c, rfl, _⟩ := hr
  exact discard_holding paths c id

/-! ## Active images -/

/-- An active image is published under the id. -/
def ActiveUnder (r : Registry) (id : String) : Prop :=
  ∃ a, r.activations.get? id = some a ∧ a.state = .active

theorem Holds.activeId?_eq_some_iff {r : Registry} (hr : r.Holds paths) {id : String} :
    r.activeId? = some id ↔ r.ActiveUnder id := by
  obtain ⟨c, rfl, _⟩ := hr
  rw [activeId?_holding]
  constructor
  · intro h
    obtain ⟨v, hv, rfl⟩ := Option.map_eq_some_iff.mp h
    obtain ⟨himage, hstate⟩ := Option.filter_eq_some_iff.mp hv
    refine ⟨(empty paths).activationFor v, ?_, of_decide_eq_true hstate⟩
    simp [activations_get?_holding, himage, Option.filter]
  · rintro ⟨a, ha, hstate⟩
    obtain ⟨v, himage, rfl, rfl⟩ := activation_of_get?_holding ha
    have hactive : ImageState.ofVersion v = .active := hstate
    simp [himage, Option.filter, hactive]

theorem Holds.activeId?_eq_none_iff {r : Registry} (hr : r.Holds paths) :
    r.activeId? = none ↔ ∀ id, ¬ r.ActiveUnder id := by
  simp only [← hr.activeId?_eq_some_iff]
  exact Option.eq_none_iff_forall_ne_some

theorem Holds.erase_of_active {r : Registry} (hr : r.Holds paths) {id : String}
    (hactive : r.activeId? = some id) : (r.erase id).1 = true := by
  obtain ⟨a, ha, _⟩ := hr.activeId?_eq_some_iff.mp hactive
  rw [(hr.erasure id).activation, ha]
  rfl

/-- Behind making room there is no active image. -/
theorem Holds.activeId?_makeRoom {r : Registry} (hr : r.Holds paths) :
    r.makeRoom.2.activeId? = none := by
  unfold Registry.makeRoom
  cases hactive : r.activeId? with
  | none => exact hactive
  | some id =>
      rw [(hr.erase id).activeId?_eq_none_iff]
      rintro other ⟨a, ha, _⟩
      rw [((hr.erasure id).withdrawn (hr.erase_of_active hactive)).1] at ha
      cases ha

end Registry

namespace Manager

variable {δ : Type} {paths : PathSettings}

theorem erase_fst (id : String) (m : Manager δ) :
    (erase id m).1 = .returned (m.registry.erase id).1 := rfl

theorem discard_fst (id : String) (m : Manager δ) :
    (discard id m).1 = .returned (m.registry.discard id).1 := rfl

theorem registry_discard (id : String) (m : Manager δ) :
    (discard id m).2.registry = (m.registry.discard id).2 := rfl

theorem makeRoom_of_active {m : Manager δ} {id : String}
    (hactive : m.registry.activeId? = some id) : makeRoom m = erase id m := by
  rw [makeRoom_apply, hactive]

theorem makeRoom_of_none {m : Manager δ} (hactive : m.registry.activeId? = none) :
    makeRoom m = (.returned true, m) := by
  rw [makeRoom_apply, hactive]

/-- What making room does: it erases the image if that is active, and nothing if there is none. -/
structure MakesRoom (m : Manager δ) : Prop where
  succeeds : (makeRoom m).1 = .returned true
  erases : ∀ id, m.registry.ActiveUnder id → makeRoom m = erase id m
  keeps : (∀ id, ¬ m.registry.ActiveUnder id) → makeRoom m = (.returned true, m)
  clears : ∀ id, ¬ (makeRoom m).2.registry.ActiveUnder id
  /-- Making room twice is making room once. -/
  again : makeRoom (makeRoom m).2 = (.returned true, (makeRoom m).2)

theorem makesRoom {m : Manager δ} (hm : m.registry.Holds paths) : m.MakesRoom := by
  have hafter : (makeRoom m).2.registry.activeId? = none := by
    rw [registry_makeRoom]
    exact hm.activeId?_makeRoom
  have hholds : (makeRoom m).2.registry.Holds paths := by
    rw [registry_makeRoom]
    exact hm.makeRoom
  refine ⟨?_, ?_, ?_, hholds.activeId?_eq_none_iff.mp hafter, makeRoom_of_none hafter⟩
  · cases hactive : m.registry.activeId? with
    | none => rw [makeRoom_of_none hactive]
    | some id => rw [makeRoom_of_active hactive, erase_fst, hm.erase_of_active hactive]
  · exact fun id hid => makeRoom_of_active (hm.activeId?_eq_some_iff.mpr hid)
  · exact fun hnone => makeRoom_of_none (hm.activeId?_eq_none_iff.mpr hnone)

/-- After any run, erasing an id takes away what is published under it and nothing else, deleting
its version record does the same, and making room erases the image just if it is active. -/
theorem removal_reached (settings : Settings) (tool : Flasher δ) (world : World δ)
    (operations : List (Operation δ)) :
    let m := reached settings tool world operations
    (∀ id, ∃ erased m₁ m₂,
      erase id m = (.returned erased, m₁) ∧
        m.registry.Erasure id erased m₁.registry ∧
        discard id m = (.returned erased, m₂) ∧
        m₂.registry = m₁.registry) ∧
      m.MakesRoom := by
  intro m
  have hm : m.registry.Holds settings.paths := reached_holds settings tool world operations
  refine ⟨fun id => ?_, makesRoom hm⟩
  have hdiscard := hm.discard_eq id
  refine ⟨(m.registry.erase id).1, (erase id m).2, (discard id m).2, Prod.ext (erase_fst id m) rfl,
    hm.erasure id, Prod.ext ?_ rfl, ?_⟩
  · rw [discard_fst, hdiscard]
  · rw [registry_discard, hdiscard, registry_erase]

end Manager

end HostFlash.Firmware
