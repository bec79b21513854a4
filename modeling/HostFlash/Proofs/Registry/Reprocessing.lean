import HostFlash.Proofs.Registry.Consistency
import HostFlash.Proofs.Version.Naming

/-!
# Processing a text forgets the past

Publishing withdraws only the edges of what is published and leaves the marker to be moved, so a
registry that has seen erased images and foreign markers could keep something of them. It does not:
after a text that names a version, a registry that was reached by any run is the one that a fresh
registry would be, and a text that names none leaves it alone.
-/

namespace HostFlash.Firmware

namespace Registry

variable {paths : PathSettings}

/-- A text without a first line names no version, so that nothing changes. -/
theorem processText_blank (r : Registry) {text : String} (hline : Version.firstLine text = "") :
    r.processText text = (.blank, r) :=
  if_pos (Version.id_parse_eq_empty_iff.mpr hline)

/-- A text of one line is published as an image without components, which is of no use. -/
theorem processText_of_not_mem (r : Registry) {text : String} (htext : text ≠ "")
    (hline : '\n' ∉ text.toList) :
    r.processText text = (.published (Version.idOf text) .invalid, r.publish ⟨text, ""⟩) := by
  have hid : Version.idOf text ≠ "" := mt Version.idOf_eq_empty_iff.mp htext
  have hstate : ImageState.ofVersion ⟨text, ""⟩ = .invalid := by
    simp [ImageState.ofVersion, Version.isComplete]
  simp only [processText, Version.parse_of_not_mem hline, Version.id, if_neg hid, hstate]

/-- A text with a first line publishes its image and nothing else, whatever was held before. -/
theorem Holds.processText_eq {r : Registry} (hr : r.Holds paths) {text : String}
    (hline : Version.firstLine text ≠ "") :
    r.processText text =
      (.published (Version.idOf (Version.firstLine text)) (.ofVersion (Version.parse text)),
        holding paths ⟨some (Version.parse text), some (Version.parse text).id⟩) := by
  obtain ⟨c, rfl, _⟩ := hr
  rw [processText_holding, if_neg (mt Version.id_parse_eq_empty_iff.mp hline), Version.id,
    Version.version_parse]

end Registry

namespace Manager

variable {δ δ₁ δ₂ : Type}

/-- The manager that a run of operations on a fresh registry comes to. -/
def reached (settings : Settings) (tool : Flasher δ) (world : World δ)
    (operations : List (Operation δ)) : Manager δ :=
  afterAll tool settings.partitions.version ⟨.empty settings.paths, world⟩ operations

theorem reached_holds (settings : Settings) (tool : Flasher δ) (world : World δ)
    (operations : List (Operation δ)) :
    (reached settings tool world operations).registry.Holds settings.paths :=
  holds_afterAll tool _ operations _ Registry.holds_empty

theorem processText_fst (text : String) (m : Manager δ) :
    (processText text m).1 = .returned (m.registry.processText text).1 := rfl

/-- Two runs of whatever operations, over whatever tools and worlds, are told apart by nothing
once a text with a first line was processed. A text without one changes neither. -/
theorem processText_reached (settings : Settings) (tool₁ : Flasher δ₁) (tool₂ : Flasher δ₂)
    (world₁ : World δ₁) (world₂ : World δ₂) (operations₁ : List (Operation δ₁))
    (operations₂ : List (Operation δ₂)) (text : String) :
    let m₁ := reached settings tool₁ world₁ operations₁
    let m₂ := reached settings tool₂ world₂ operations₂
    if Version.firstLine text = "" then
      ((processText text m₁).1 = .returned .blank ∧
          (processText text m₁).2.registry = m₁.registry) ∧
        (processText text m₂).1 = .returned .blank ∧
          (processText text m₂).2.registry = m₂.registry
    else
      ∃ id state,
        (processText text m₁).1 = .returned (.published id state) ∧
          (processText text m₂).1 = .returned (.published id state) ∧
          (processText text m₁).2.registry = (processText text m₂).2.registry := by
  intro m₁ m₂
  have hm₁ : m₁.registry.Holds settings.paths := reached_holds settings tool₁ world₁ operations₁
  have hm₂ : m₂.registry.Holds settings.paths := reached_holds settings tool₂ world₂ operations₂
  simp only [processText_fst, registry_processText]
  split
  next hline =>
    rw [m₁.registry.processText_blank hline, m₂.registry.processText_blank hline]
    exact ⟨⟨rfl, rfl⟩, rfl, rfl⟩
  next hline =>
    rw [hm₁.processText_eq hline, hm₂.processText_eq hline]
    exact ⟨_, _, rfl, rfl, rfl⟩

end Manager

end HostFlash.Firmware
