import HostFlash.Firmware.Registry

/-!
# What a registry holds

A registry spreads one image and one marker over two directories and a list of edges. `Contents`
is the image and the marker alone, and `holding` spreads them out again. A registry of this form
is taken to one of this form by every operation, so that whatever is true of `holding` is an
invariant of the registry, and two registries that hold the same are equal.
-/

namespace HostFlash.Firmware.Registry

/-- The published image, if there is one, and the id noted as the one that the host runs. -/
structure Contents where
  image : Option Version
  running : Option String
deriving Repr, DecidableEq

/-- The edges from the software root to a published image. -/
def imageEdges (r : Registry) (v : Version) : List Association :=
  (if ImageState.ofVersion v = .active then
      [.software Association.active (r.pathOf v.id)]
    else []) ++ [.software Association.updateable (r.pathOf v.id)]

/-- The edge from the software root to the image that the host runs, published or not. -/
def runningEdge (r : Registry) (id : String) : Association :=
  .software Association.functional (r.pathOf id)

/-- The registry that holds an image and a marker. -/
def holding (paths : PathSettings) (c : Contents) : Registry :=
  let base := empty paths
  { base with
    activations := ⟨c.image.toList.map fun v => (v.id, base.activationFor v)⟩
    versions := ⟨c.image.toList.map fun v => (v.id, base.recordFor v)⟩
    associations :=
      ⟨c.image.toList.flatMap base.imageEdges ++ c.running.toList.map base.runningEdge⟩
    functional := c.running }

variable (paths : PathSettings) (c : Contents)

theorem pathOf_inj (r : Registry) {id id' : String} : r.pathOf id = r.pathOf id' ↔ id = id' :=
  String.append_right_inj (r.softwareRoot ++ "/")

@[simp] theorem pathOf_holding (id : String) :
    (holding paths c).pathOf id = (empty paths).pathOf id := rfl

@[simp] theorem functional_holding : (holding paths c).functional = c.running := rfl

theorem empty_eq_holding : empty paths = holding paths ⟨none, none⟩ := rfl

/-! ## The edges of an image -/

theorem eq_of_mem_imageEdges {r : Registry} {v : Version} {a : Association}
    (ha : a ∈ r.imageEdges v) :
    a = .software Association.active (r.pathOf v.id) ∨
      a = .software Association.updateable (r.pathOf v.id) := by
  rw [imageEdges, List.mem_append] at ha
  rcases ha with ha | ha
  · split at ha
    · exact Or.inl (List.mem_singleton.mp ha)
    · cases ha
  · exact Or.inr (List.mem_singleton.mp ha)

theorem forward_of_mem_imageEdges {r : Registry} {v : Version} {a : Association}
    (ha : a ∈ r.imageEdges v) : a.forward ≠ Association.functional := by
  rcases eq_of_mem_imageEdges ha with rfl | rfl
  · simp [Association.software, Association.active, Association.functional]
  · simp [Association.software, Association.updateable, Association.functional]

theorem endpoint_of_mem_imageEdges {r : Registry} {v : Version} {a : Association}
    (ha : a ∈ r.imageEdges v) : a.endpoint = r.pathOf v.id := by
  rcases eq_of_mem_imageEdges ha with rfl | rfl
  · rfl
  · rfl

/-- Linking an image adds its edges behind any edges of other kinds. -/
theorem linkImage_entries (r : Registry) (v : Version) {s : Associations}
    (hs : ∀ a ∈ s.entries, a.forward = Association.functional) :
    (linkImage s (r.activationFor v)).entries = s.entries ++ r.imageEdges v := by
  have habsent : ∀ a ∈ r.imageEdges v, a ∉ s.entries :=
    fun a ha hmem => forward_of_mem_imageEdges ha (hs a hmem)
  by_cases hstate : ImageState.ofVersion v = .active
  · have hactive : Association.software Association.active (r.pathOf v.id) ∉ s.entries :=
      habsent _ (by simp [imageEdges, hstate])
    have hupdateable : Association.software Association.updateable (r.pathOf v.id) ∉ s.entries :=
      habsent _ (by simp [imageEdges])
    have hne : Association.software Association.updateable (r.pathOf v.id) ≠
        Association.software Association.active (r.pathOf v.id) := by
      simp [Association.software, Association.updateable, Association.active]
    simp [linkImage, activationFor, imageEdges, Associations.add, hstate, hactive, hupdateable, hne]
  · have hupdateable : Association.software Association.updateable (r.pathOf v.id) ∉ s.entries :=
      habsent _ (by simp [imageEdges])
    simp [linkImage, activationFor, imageEdges, Associations.add, hstate, hupdateable]

/-- The edges of an image are no edges for the running one. -/
theorem filter_imageEdges (r : Registry) (image : Option Version) :
    (image.toList.flatMap r.imageEdges).filter (·.forward ≠ Association.functional) =
      image.toList.flatMap r.imageEdges := by
  rw [List.filter_eq_self]
  intro a ha
  obtain ⟨v, _, hv⟩ := List.mem_flatMap.mp ha
  exact decide_eq_true (forward_of_mem_imageEdges hv)

theorem filter_eq_nil_of_functional {edges : List Association}
    (hedges : ∀ a ∈ edges, a.forward = Association.functional) :
    edges.filter (·.forward ≠ Association.functional) = [] := by
  rw [List.filter_eq_nil_iff]
  intro a ha
  simp [hedges a ha]

theorem forward_of_mem_runningEdges {r : Registry} {running : Option String} {a : Association}
    (ha : a ∈ running.toList.map r.runningEdge) : a.forward = Association.functional := by
  obtain ⟨id, _, rfl⟩ := List.mem_map.mp ha
  rfl

/-- Moving the marker puts its edge behind the edges of the image. -/
theorem setRunning_entries {r : Registry} {image : Option Version}
    (hr : (r.associations.withoutForward Association.functional).entries =
      image.toList.flatMap r.imageEdges) (id : String) :
    (r.setRunning id).associations.entries =
      image.toList.flatMap r.imageEdges ++ [r.runningEdge id] := by
  have habsent : r.runningEdge id ∉ image.toList.flatMap r.imageEdges := by
    intro hmem
    obtain ⟨v, _, hv⟩ := List.mem_flatMap.mp hmem
    exact forward_of_mem_imageEdges hv rfl
  show ((r.associations.withoutForward _).add (r.runningEdge id)).entries = _
  rw [Associations.add, hr, if_neg habsent]

/-! ## The operations -/

/-- Noting another image as running changes the marker alone. -/
theorem setRunning_holding (id : String) :
    (holding paths c).setRunning id = holding paths ⟨c.image, some id⟩ := by
  have hedges : ((holding paths c).associations.withoutForward Association.functional).entries =
      c.image.toList.flatMap (holding paths c).imageEdges := by
    show (c.image.toList.flatMap (empty paths).imageEdges ++
      c.running.toList.map (empty paths).runningEdge).filter _ = _
    rw [List.filter_append, filter_imageEdges,
      filter_eq_nil_of_functional fun a ha => forward_of_mem_runningEdges ha, List.append_nil]
    rfl
  have hentries := setRunning_entries hedges id
  exact congrArg
    (fun entries => { holding paths c with functional := some id, associations := ⟨entries⟩ })
    hentries

/-- Withdrawing the image leaves no edge but the one of the marker. -/
theorem withdrawAll_functional :
    ∀ a ∈ (holding paths c).withdrawAll.associations.entries,
      a.forward = Association.functional := by
  intro a ha
  obtain ⟨image, running⟩ := c
  cases image with
  | none => exact forward_of_mem_runningEdges ha
  | some v =>
      have hmem : a ∈ ((empty paths).imageEdges v ++
          running.toList.map (empty paths).runningEdge).filter
            (·.endpoint ≠ (empty paths).pathOf v.id) := by
        simpa [holding, withdrawAll, Directory.values, activationFor, Associations.withoutEndpoint]
          using ha
      rw [List.mem_filter, List.mem_append] at hmem
      rcases hmem.1 with himage | hrunning
      · exact absurd (endpoint_of_mem_imageEdges himage) (of_decide_eq_true hmem.2)
      · exact forward_of_mem_runningEdges hrunning

/-- Publishing leaves the new image and its marker, whatever was held before. -/
theorem publish_holding (v : Version) :
    (holding paths c).publish v = holding paths ⟨some v, some v.id⟩ := by
  -- The registry between the linking of the image and the setting of the marker.
  let linked : Registry :=
    { (holding paths c).withdrawAll with
      associations := linkImage (holding paths c).withdrawAll.associations
        ((empty paths).activationFor v)
      activations := ⟨[(v.id, (empty paths).activationFor v)]⟩
      versions := ⟨[(v.id, (empty paths).recordFor v)]⟩ }
  have hpublish : (holding paths c).publish v = linked.setRunning v.id := rfl
  have hlinked : (linked.associations.withoutForward Association.functional).entries =
      (some v).toList.flatMap linked.imageEdges := by
    show (linkImage _ ((empty paths).activationFor v)).entries.filter _ = _
    rw [linkImage_entries _ v (withdrawAll_functional paths c), List.filter_append,
      filter_eq_nil_of_functional (withdrawAll_functional paths c), List.nil_append]
    exact (congrArg _ (List.append_nil _).symm).trans (filter_imageEdges (empty paths) (some v))
  rw [hpublish]
  exact congrArg
    (fun entries => { linked with functional := some v.id, associations := ⟨entries⟩ })
    (setRunning_entries hlinked v.id)

/-- Looking at a version text publishes the image that it names, or changes nothing. -/
theorem processText_holding (text : String) :
    (holding paths c).processText text =
      if (Version.parse text).id = "" then (.blank, holding paths c)
      else (.published (Version.parse text).id (.ofVersion (Version.parse text)),
        holding paths ⟨some (Version.parse text), some (Version.parse text).id⟩) := by
  simp only [processText, publish_holding]

/-- A directory for one image has a value under the id of the image alone. -/
theorem get?_image {α : Type} (image : Option Version) (value : Version → α) (id : String) :
    (⟨image.toList.map fun v => (v.id, value v)⟩ : Directory α).get? id =
      (image.filter fun v => v.id = id).map value := by
  cases image with
  | none => rfl
  | some v =>
      by_cases hid : v.id = id
      · simp [Directory.get?, Option.filter, hid]
      · simp [Directory.get?, Option.filter, hid, Ne.symm hid]

theorem activations_get?_holding (id : String) :
    (holding paths c).activations.get? id =
      (c.image.filter fun v => v.id = id).map (empty paths).activationFor :=
  get?_image c.image _ id

theorem versions_get?_holding (id : String) :
    (holding paths c).versions.get? id =
      (c.image.filter fun v => v.id = id).map (empty paths).recordFor :=
  get?_image c.image _ id

theorem isSome_filter_id (image : Option Version) (id : String) :
    (image.filter fun v => v.id = id).isSome = true ↔ image.map Version.id = some id := by
  cases image with
  | none => simp
  | some v => by_cases hid : v.id = id <;> simp [Option.filter, hid]

theorem isSome_activations_get?_holding (id : String) :
    ((holding paths c).activations.get? id).isSome = true ↔ c.image.map Version.id = some id := by
  rw [activations_get?_holding, Option.isSome_map, isSome_filter_id]

theorem isSome_versions_get?_holding (id : String) :
    ((holding paths c).versions.get? id).isSome = true ↔ c.image.map Version.id = some id := by
  rw [versions_get?_holding, Option.isSome_map, isSome_filter_id]

theorem isPublished_holding (id : String) :
    (holding paths c).isPublished id = true ↔ c.image.map Version.id = some id := by
  rw [isPublished, Bool.or_eq_true, isSome_activations_get?_holding,
    isSome_versions_get?_holding, or_self]

/-- Taking the edges to a path away leaves the edge of the marker, unless it leads there too. -/
theorem withoutEndpoint_edges (r : Registry) (v : Version) (running : Option String) :
    (r.imageEdges v ++ running.toList.map r.runningEdge).filter (·.endpoint ≠ r.pathOf v.id) =
      (if running = some v.id then none else running).toList.map r.runningEdge := by
  have himage : (r.imageEdges v).filter (·.endpoint ≠ r.pathOf v.id) = [] := by
    rw [List.filter_eq_nil_iff]
    intro a ha
    simp [endpoint_of_mem_imageEdges ha]
  rw [List.filter_append, himage, List.nil_append]
  cases running with
  | none => rfl
  | some id =>
      by_cases hid : id = v.id
      · simp [hid, runningEdge, Association.software]
      · simp [hid, runningEdge, Association.software, pathOf_inj]

/-- Erasing takes the image away if it has the id, and the marker with it if that is on the id
too. Anything else is left as it is. -/
theorem erase_holding (id : String) :
    (holding paths c).erase id =
      if c.image.map Version.id = some id then
        (true, holding paths ⟨none, if c.running = some id then none else c.running⟩)
      else (false, holding paths c) := by
  unfold erase
  by_cases hid : c.image.map Version.id = some id
  · rw [if_pos ((isPublished_holding paths c id).mpr hid), if_pos hid]
    obtain ⟨image, running⟩ := c
    obtain ⟨v, rfl, rfl⟩ := Option.map_eq_some_iff.mp hid
    have hedges : (holding paths ⟨some v, running⟩).associations.withoutEndpoint
        ((empty paths).pathOf v.id) =
          ⟨(if running = some v.id then none else running).toList.map
            (empty paths).runningEdge⟩ := by
      rw [← withoutEndpoint_edges (empty paths) v running]
      simp [holding, Associations.withoutEndpoint]
    have hactivations : (holding paths ⟨some v, running⟩).activations.erase v.id = .empty := by
      simp [holding, Directory.erase, Directory.empty]
    have hversions : (holding paths ⟨some v, running⟩).versions.erase v.id = .empty := by
      simp [holding, Directory.erase, Directory.empty]
    have hmarker : (if (holding paths ⟨some v, running⟩).isRunning v.id then none
        else (holding paths ⟨some v, running⟩).functional) =
          if running = some v.id then none else running := by
      simp [isRunning]
    rw [pathOf_holding, hactivations, hversions, hmarker, hedges]
    rfl
  · have hnot : ¬ (holding paths c).isPublished id = true :=
      fun h => hid ((isPublished_holding paths c id).mp h)
    rw [if_neg hnot, if_neg hid]

/-- A version record is there exactly when the image is, so deleting it erases the image. -/
theorem discard_holding (id : String) :
    (holding paths c).discard id = (holding paths c).erase id := by
  unfold discard
  split
  · rfl
  next hrecord =>
    rw [isSome_versions_get?_holding] at hrecord
    rw [erase_holding, if_neg hrecord]

/-- The active image is the published one, if that is active. -/
theorem activeId?_holding :
    (holding paths c).activeId? =
      (c.image.filter fun v => ImageState.ofVersion v = .active).map Version.id := by
  obtain ⟨image, running⟩ := c
  cases image with
  | none => rfl
  | some v =>
      by_cases hstate : ImageState.ofVersion v = .active <;>
        simp [holding, activeId?, Directory.values, activationFor, hstate, Option.filter]

/-- Making room takes an active image away and leaves anything else as it is. -/
theorem makeRoom_holding :
    (holding paths c).makeRoom =
      (true, match c.image.filter fun v => ImageState.ofVersion v = .active with
        | some v => holding paths ⟨none, if c.running = some v.id then none else c.running⟩
        | none => holding paths c) := by
  unfold makeRoom
  rw [activeId?_holding]
  cases hactive : c.image.filter fun v => ImageState.ofVersion v = .active with
  | none => rfl
  | some v =>
      have himage : c.image.map Version.id = some v.id := by
        rw [(Option.filter_eq_some_iff.mp hactive).1, Option.map_some]
      rw [Option.map_some]
      show (holding paths c).erase v.id = _
      rw [erase_holding, if_pos himage]

end HostFlash.Firmware.Registry
