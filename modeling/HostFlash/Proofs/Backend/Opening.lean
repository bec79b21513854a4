import HostFlash.Proofs.Backend.Grammar
import HostFlash.Proofs.Emulator.VersionPartition

/-!
# Opening a backend

Options are taken one after the other, and each may end the opening or change the emulator. Since
keys are distinct and one key is known, more than one option never opens anything, so that the
order in which options are taken does not matter to what is opened. The image goes into the
partition that the settings name for the version, and is what a reading of that partition finds.
-/

namespace HostFlash

namespace Emulator

variable {name : String}

theorem filter_updateFirst {change : Partition → Partition}
    (hchange : ∀ p, (change p).name = p.name) (partitions : List Partition) :
    (updateFirst name change partitions).filter (·.name ≠ name) =
      partitions.filter (·.name ≠ name) := by
  induction partitions with
  | nil => rfl
  | cons p rest ih =>
      rw [updateFirst]
      by_cases hname : p.name = name
      · have hchanged : (change p).name = name := (hchange p).trans hname
        rw [if_pos hname, List.filter_cons_of_neg (by simpa using hchanged),
          List.filter_cons_of_neg (by simpa using hname)]
      · rw [if_neg hname, List.filter_cons_of_pos (by simpa using hname),
          List.filter_cons_of_pos (by simpa using hname), ih]

/-- Storing leaves every partition of another name as it was, whether or not the name is new. -/
theorem filter_store (e : Emulator) (name : String) (data : List UInt8) :
    (e.store name data).partitions.filter (·.name ≠ name) =
      e.partitions.filter (·.name ≠ name) := by
  unfold store
  split
  · have hname : ∀ p : Partition, ({ p with data := data } : Partition).name = p.name :=
      fun _ => rfl
    exact filter_updateFirst hname e.partitions
  · rw [List.filter_append]
    simp

end Emulator

namespace Backend

open Firmware (dumpName versionText Image.text)

variable {machine : Machine} {settings : Settings}

/-- What a backend text opens, by the name and the options in it: the external programs, the usual
emulated flash, or that flash with an image in its version partition, which is logged. -/
inductive Opens (machine : Machine) (settings : Settings) :
    BackendSpec → Backend Emulator → Prop where
  | external : Opens machine settings ⟨"pflash", []⟩ (external settings)
  | standard : Opens machine settings ⟨"dummy", []⟩ (emulated .standard)
  | image {path : String} {data : List UInt8} (hread : machine.contentOf path = .ok data) :
      Opens machine settings ⟨"dummy", [("image", path)]⟩
        { emulated (Emulator.standard.store settings.partitions.version data) with
          log := [⟨.info, "Loaded " ++ toString data.length ++ " bytes into " ++
            settings.partitions.version⟩] }

theorem applyOption_eq_ok_iff {b b' : Backend Emulator} {key value : String} :
    applyOption machine settings b key value = .ok b' ↔
      key = "image" ∧ ∃ data, machine.contentOf value = .ok data ∧
        b' = b.load settings.partitions.version data := by
  unfold applyOption
  by_cases hkey : key = "image"
  · rw [if_pos hkey]
    cases hread : machine.contentOf value with
    | error cause => simp
    | ok data => simp [hkey, eq_comm]
  · rw [if_neg hkey]
    simp [hkey]

/-- Options with distinct keys can only be taken if there is one image at most. -/
theorem applyOptions_eq_ok_iff {opts : List (String × String)} {b b' : Backend Emulator}
    (hdistinct : (opts.map Prod.fst).Nodup) :
    applyOptions machine settings opts b = .ok b' ↔
      opts = [] ∧ b' = b ∨ ∃ path data, opts = [("image", path)] ∧
        machine.contentOf path = .ok data ∧ b' = b.load settings.partitions.version data := by
  match opts with
  | [] => simp [applyOptions, eq_comm]
  | [(key, value)] =>
      cases hstep : applyOption machine settings b key value with
      | error fault =>
          have hnone : ¬ ∃ b', applyOption machine settings b key value = .ok b' := by simp [hstep]
          simp only [applyOption_eq_ok_iff] at hnone
          simp only [applyOptions, hstep]
          constructor
          · intro h
            cases h
          · rintro (⟨h, _⟩ | ⟨path, data, h, hread, _⟩)
            · cases h
            · cases h
              exact absurd ⟨_, rfl, data, hread, rfl⟩ hnone
      | ok b₁ =>
          obtain ⟨rfl, data, hread, rfl⟩ := applyOption_eq_ok_iff.mp hstep
          simp [applyOptions, hstep, hread, eq_comm]
  | (key, value) :: (key', value') :: rest =>
      -- Two options that can both be taken have the same key.
      have hnone : applyOptions machine settings ((key, value) :: (key', value') :: rest) b ≠
          .ok b' := by
        intro h
        rw [applyOptions] at h
        split at h
        next => cases h
        next b₁ hfirst =>
        rw [applyOptions] at h
        split at h
        next => cases h
        next b₂ hsecond =>
        obtain ⟨rfl, _⟩ := applyOption_eq_ok_iff.mp hfirst
        obtain ⟨rfl, _⟩ := applyOption_eq_ok_iff.mp hsecond
        simp at hdistinct
      simp [hnone]

/-- A backend opens by its options in whatever order they are taken. -/
theorem ofSpec_eq_ok_iff {spec : BackendSpec} {order : List (String × String)}
    (hdistinct : (spec.options.map Prod.fst).Nodup) (hperm : order.Perm spec.options)
    {b : Backend Emulator} :
    ofSpec machine settings ⟨spec.name, order⟩ = .ok b ↔ Opens machine settings spec b := by
  have hdistinct' : (order.map Prod.fst).Nodup := (hperm.map Prod.fst).nodup_iff.mpr hdistinct
  obtain ⟨name, options⟩ := spec
  dsimp only at hperm hdistinct ⊢
  constructor
  · intro h
    simp only [ofSpec] at h
    split at h
    next hname =>
      subst hname
      split at h
      next hnone =>
        subst hnone
        obtain rfl := hperm.symm.eq_nil
        cases h
        exact .external
      next => cases h
    next =>
    split at h
    next hname =>
      subst hname
      rcases (applyOptions_eq_ok_iff hdistinct').mp h with
        ⟨rfl, rfl⟩ | ⟨path, data, rfl, hread, rfl⟩
      · obtain rfl := hperm.symm.eq_nil
        exact .standard
      · obtain rfl := List.perm_singleton.mp hperm.symm
        exact .image hread
    next => cases h
  · intro h
    cases h with
    | external =>
        obtain rfl := hperm.eq_nil
        rfl
    | standard =>
        obtain rfl := hperm.eq_nil
        rfl
    | @image path data hread =>
        obtain rfl := List.perm_singleton.mp hperm
        have happlied : applyOptions machine settings [("image", path)] (emulated .standard) =
            .ok ((emulated .standard).load settings.partitions.version data) :=
          (applyOptions_eq_ok_iff hdistinct').mpr (Or.inr ⟨path, data, rfl, hread, rfl⟩)
        exact happlied

theorem distinct_of_parse {text : String} {spec : BackendSpec}
    (hparse : BackendSpec.parse text = .ok spec) : (spec.options.map Prod.fst).Nodup :=
  (BackendSpec.parse_eq_ok_iff.mp hparse).distinct

theorem openFrom_eq_ok_iff {text : String} {b : Backend Emulator} :
    openFrom machine settings text = .ok b ↔
      ∃ spec, BackendSpec.parse text = .ok spec ∧ Opens machine settings spec b := by
  unfold openFrom
  cases hparse : BackendSpec.parse text with
  | error fault => simp
  | ok spec =>
      have hopens : ofSpec machine settings spec = .ok b ↔ Opens machine settings spec b :=
        ofSpec_eq_ok_iff (distinct_of_parse hparse) (.refl _)
      simp [hopens]

/-- What is read from the version partition of an emulated flash is the text of the image that was
stored there, in any world with room for the dump. -/
theorem versionText_store {w : World Emulator} (name : String) (data : List UInt8)
    (hdevice : w.device = Emulator.standard.store name data)
    (hscratch : w.machine.ScratchFor dumpName dumpName) :
    (versionText Emulator.tool name w).1 = .returned (.ok (Image.text data)) := by
  have hstatus : w.device.readStatus = 0 := by
    rw [hdevice, Emulator.readStatus_store]
    rfl
  have hdata : w.device.data? name = some data := by
    rw [hdevice, Emulator.data?_store]
  exact Firmware.versionText_of_attempts (Emulator.attempts_of_data hstatus hscratch hdata)

/-- A backend opens exactly if its text names the external programs without options, or the emulated
flash with no option but an image that can be read, and the order of the options does not matter.
With an image the version partition of the settings is read as the text of the image, whatever
partition of the usual table that is, and all others are as in that table. -/
theorem openFrom_backend (machine : Machine) (settings : Settings) (text : String) :
    (∀ b, openFrom machine settings text = .ok b ↔
        ∃ spec, BackendSpec.parse text = .ok spec ∧ Opens machine settings spec b) ∧
      (∀ spec, BackendSpec.parse text = .ok spec → ∀ order, order.Perm spec.options →
        ∀ b, ofSpec machine settings ⟨spec.name, order⟩ = .ok b ↔
          Opens machine settings spec b) ∧
      ∀ path data, BackendSpec.parse text = .ok ⟨"dummy", [("image", path)]⟩ →
        machine.contentOf path = .ok data →
        ∃ b, openFrom machine settings text = .ok b ∧
          b.device.partitions.filter (·.name ≠ settings.partitions.version) =
            Emulator.standard.partitions.filter (·.name ≠ settings.partitions.version) ∧
          ∀ w : World Emulator, w.device = b.device →
            w.machine.ScratchFor dumpName dumpName →
            (versionText b.tool settings.partitions.version w).1 =
              .returned (.ok (Image.text data)) := by
  refine ⟨fun _ => openFrom_eq_ok_iff, ?_, ?_⟩
  · intro spec hparse order hperm b
    exact ofSpec_eq_ok_iff (distinct_of_parse hparse) hperm
  · intro path data hparse hread
    refine ⟨_, openFrom_eq_ok_iff.mpr ⟨_, hparse, .image hread⟩, ?_, ?_⟩
    · exact Emulator.filter_store .standard settings.partitions.version data
    · intro w hdevice hscratch
      exact versionText_store settings.partitions.version data hdevice hscratch

/-- A host with an image, and a directory for temporary files. -/
def imageHost : Machine :=
  ⟨⟨[(["tmp"], .directory), (["v.img"], .file [0x76, 0x31, 0x00, 0xFF] false)]⟩, [], "/tmp", 0⟩

/-- The image is found also where the usual table has a partition of the name that is configured. -/
theorem imageHost_backend :
    let settings : Settings := { partitions := { version := "NVRAM" } }
    BackendSpec.parse "dummy:image=/v.img" = .ok ⟨"dummy", [("image", "/v.img")]⟩ ∧
      imageHost.contentOf "/v.img" = .ok [0x76, 0x31, 0x00, 0xFF] ∧
      imageHost.ScratchFor dumpName dumpName ∧
      ∃ b, openFrom imageHost settings "dummy:image=/v.img" = .ok b ∧
        (versionText b.tool "NVRAM" ⟨imageHost, [], b.device⟩).1 = .returned (.ok "v1") := by
  intro settings
  have hplain : BackendSpec.Plain ⟨"dummy", [("image", "/v.img")]⟩ :=
    ⟨by decide +kernel, by decide, by decide +kernel, by decide +kernel, by decide +kernel⟩
  have hrendered : BackendSpec.render ⟨"dummy", [("image", "/v.img")]⟩ = "dummy:image=/v.img" := by
    decide +kernel
  have hparse : BackendSpec.parse "dummy:image=/v.img" =
      .ok ⟨"dummy", [("image", "/v.img")]⟩ := by
    rw [← hrendered]
    exact hplain.writes_render.parse_eq
  have hread : imageHost.contentOf "/v.img" = .ok [0x76, 0x31, 0x00, 0xFF] := by decide +kernel
  have hscratch : imageHost.ScratchFor dumpName dumpName :=
    ⟨by decide, ⟨"/tmp/version000000", by decide +kernel⟩, by decide +kernel⟩
  have htext : Image.text [0x76, 0x31, 0x00, 0xFF] = "v1" := by decide +kernel
  obtain ⟨b, hopen, _, hversion⟩ :=
    (openFrom_backend imageHost settings "dummy:image=/v.img").2.2 "/v.img" _ hparse hread
  refine ⟨hparse, hread, hscratch, b, hopen, ?_⟩
  rw [← htext]
  exact hversion ⟨imageHost, [], b.device⟩ rfl hscratch

end Backend

end HostFlash
