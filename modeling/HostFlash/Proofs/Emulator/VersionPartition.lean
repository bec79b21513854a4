import HostFlash.Proofs.Emulator.Reset
import HostFlash.Proofs.Files.Scratch
import HostFlash.Proofs.Reading.Attempts
import HostFlash.Proofs.Registry.Reprocessing
import HostFlash.Proofs.Version.Image

/-!
# What is read from the emulator

The emulator dumps what it holds, so as long as it does not refuse to read and a file fits into a
scratch directory, what is read from a partition is the text of its data. That makes a stored
version text come back, and decides what a scan finds behind a clear.
-/

namespace HostFlash.Emulator

open Firmware

/-! ## The table -/

section Table

variable {e : Emulator} {name : String}

/-- A change that keeps the name is found in place of what it changes. -/
theorem find?_updateFirst {change : Partition → Partition} {partitions : List Partition}
    {p : Partition} (hchange : (change p).name = p.name)
    (hfound : partitions.find? (·.name == name) = some p) :
    (updateFirst name change partitions).find? (·.name == name) = some (change p) := by
  induction partitions with
  | nil => cases hfound
  | cons q rest ih =>
      rw [updateFirst]
      by_cases hname : q.name = name
      · rw [List.find?_cons_of_pos (by simpa using hname), Option.some_inj] at hfound
        subst hfound
        rw [if_pos hname, List.find?_cons_of_pos (by simpa [hchange] using hname)]
      · rw [List.find?_cons_of_neg (by simpa using hname)] at hfound
        rw [if_neg hname, List.find?_cons_of_neg (by simpa using hname), ih hfound]

/-- What was stored under a name is what the name stands for, be it new or not. -/
theorem data?_store (e : Emulator) (name : String) (data : List UInt8) :
    (e.store name data).data? name = some data := by
  rw [store, find?]
  cases hfound : e.partitions.find? (·.name == name) with
  | some p =>
      have hchanged : (updateFirst name ({ · with data := data }) e.partitions).find?
          (·.name == name) = some { p with data := data } := find?_updateFirst rfl hfound
      exact congrArg (Option.map (·.data)) hchanged
  | none =>
      let p : Partition := ⟨name, "----------", data⟩
      have hadded : (e.partitions ++ [p]).find? (·.name == name) = some p := by
        rw [List.find?_append, hfound, Option.none_or]
        exact List.find?_cons_of_pos (beq_self_eq_true name)
      exact congrArg (Option.map (·.data)) hadded

@[simp] theorem readStatus_store (e : Emulator) (name : String) (data : List UInt8) :
    (e.store name data).readStatus = e.readStatus := by
  unfold store
  split <;> rfl

/-- A clear that succeeds finds the partition and leaves it as large as it was. -/
theorem clear_of_success {mode : ClearKind} (hsuccess : (e.clear name mode).1.success) :
    ∃ data, e.data? name = some data ∧
      (e.clear name mode).2.data? name =
        some (List.replicate data.length (clearByte mode)) ∧
      (e.clear name mode).2.readStatus = e.readStatus := by
  unfold clear at hsuccess ⊢
  split at hsuccess
  next => cases hsuccess
  next hsound =>
  rw [if_neg hsound]
  cases hfound : e.find? name with
  | none =>
      rw [hfound] at hsuccess
      cases hsuccess
  | some p =>
      have hdata : e.data? name = some p.data := by simp [data?, hfound]
      refine ⟨p.data, hdata, ?_, rfl⟩
      have hfilled : (updateFirst name (·.fill (clearByte mode)) e.partitions).find?
          (·.name == name) = some (p.fill (clearByte mode)) := find?_updateFirst rfl hfound
      rw [Partition.fill_eq] at hfilled
      exact congrArg (Option.map (·.data)) hfilled

end Table

/-! ## The reading -/

section Reading

variable {partition : String} {data : List UInt8}

/-- The emulator dumps what it holds into the file that it is given. -/
theorem run_dump {w : World Emulator} {dump : String} {machine : Machine}
    (hstatus : w.device.readStatus = 0) (hdata : w.device.data? partition = some data)
    (hwrite : w.machine.writeFile dump data = (.ok (), machine)) :
    ∃ w', tool.run (Flasher.dumpArgs partition dump) w = (.returned (.ok (.ok "")), w') ∧
      w'.machine = machine := by
  let noted := w.device.record (.read partition dump)
  have hread : noted.read partition = .ok data := by
    have hstatus' : noted.readStatus = 0 := hstatus
    have hdata' : noted.data? partition = some data := hdata
    simp [read, hstatus', hdata']
  have hanswer : World.onDevice (fun e => (e.read partition, e)) { w with device := noted } =
      (.returned (.ok data), { w with device := noted }) := by
    rw [World.onDevice_apply, hread]
  have hwritten : World.onMachine (fun m => m.writeFile dump data) { w with device := noted } =
      (.returned (.ok ()), { w with machine := machine, device := noted }) := by
    rw [World.onMachine_apply, hwrite]
  have hperform : perform (.read partition dump) { w with device := noted } =
      (.returned (.ok ""), { w with machine := machine, device := noted }) := by
    rw [perform, Action.bind_returned hanswer]
    exact Action.bind_returned hwritten _
  have hnote : note (.read partition dump) w = (.returned (), { w with device := noted }) := rfl
  refine ⟨{ w with machine := machine, device := noted }, ?_, rfl⟩
  show (note (.read partition dump) >>= fun _ => _) w = _
  rw [Action.bind_returned hnote, Action.bind_returned hperform]
  rfl

/-- A reading of the partition gives the text, and a scan comes to what the text comes to. -/
structure ReadsAs (partition : String) (m : Manager Emulator) (text : String) : Prop where
  read : (versionText tool partition m.world).1 = .returned (.ok text)
  scan : Manager.ScansAs tool partition m text

/-- What the processing of the text does is what the registry does with it. -/
theorem ReadsAs.scan_eq {m : Manager Emulator} {text : String} (h : ReadsAs partition m text) :
    (Manager.scan tool partition m).1 =
        .returned (.read (m.registry.processText text).1) ∧
      (Manager.scan tool partition m).2.registry = (m.registry.processText text).2 := by
  obtain ⟨outcome, hprocess, hending, hregistry⟩ := h.scan
  rw [Manager.processText_fst] at hprocess
  cases hprocess
  exact ⟨hending, hregistry⟩

/-- An attempt ends with the data, as long as nothing stands in the way of a dump. -/
theorem attempts_of_data {w : World Emulator} (hstatus : w.device.readStatus = 0)
    (hscratch : w.machine.ScratchFor dumpName dumpName)
    (hdata : w.device.data? partition = some data) :
    Attempts tool partition w (.dumped data) := by
  have hplain : Path.Plain dumpName := ⟨by decide, by decide, by decide, by decide +kernel⟩
  obtain ⟨machine, hmade, hfits⟩ := hscratch.writeFile hplain (by decide)
  obtain ⟨machine', hwrite, hcontent⟩ := hfits data
  obtain ⟨w', hrun, hmachine⟩ := run_dump (w := { w with machine := machine }) hstatus hdata hwrite
  exact .dumped hmade hrun rfl (hmachine ▸ hcontent)

/-- What is read is the text of the data. -/
theorem readsAs_of_data {m : Manager Emulator} (hstatus : m.world.device.readStatus = 0)
    (hscratch : m.world.machine.ScratchFor dumpName dumpName)
    (hdata : m.world.device.data? partition = some data) :
    ReadsAs partition m (Image.text data) := by
  have hread := versionText_of_attempts (attempts_of_data hstatus hscratch hdata)
  exact ⟨hread, Manager.scan_of_read hread⟩

end Reading

/-- A machine with nothing but a directory for temporary files. -/
def bareMachine : Machine := ⟨⟨[(["tmp"], .directory)]⟩, [], "/tmp", 0⟩

theorem bareMachine_scratch : bareMachine.ScratchFor dumpName dumpName :=
  ⟨by decide, ⟨"/tmp/version000000", by decide +kernel⟩, by decide +kernel⟩

/-! ## Stored version texts -/

/-- The manager over another state of the emulator. -/
def withFlash (m : Manager Emulator) (e : Emulator) : Manager Emulator :=
  { m with world := { m.world with device := e } }

theorem readsAs_of_store {m : Manager Emulator} (hstatus : m.world.device.readStatus = 0)
    (hscratch : m.world.machine.ScratchFor dumpName dumpName) (name : String)
    (data : List UInt8) :
    ReadsAs name (withFlash m (m.world.device.store name data)) (Image.text data) :=
  readsAs_of_data (m := withFlash m (m.world.device.store name data))
    ((readStatus_store _ name data).trans hstatus) hscratch (data?_store _ name data)

/-- A version text comes back from its image up to the first NUL, and so it does from an emulator
that stored it. A plain image does this unless the text looks like a signed container. -/
theorem version_round_trip (t : String) :
    Image.text (Image.signed t) = Image.untilNul t ∧
      (¬ Image.LooksSigned t → Image.text (Image.plain t) = Image.untilNul t) ∧
      ∀ m : Manager Emulator, m.world.device.readStatus = 0 →
        m.world.machine.ScratchFor dumpName dumpName →
        ReadsAs versionPartition (withFlash m (m.world.device.storeSignedVersion t))
            (Image.untilNul t) ∧
          (¬ Image.LooksSigned t →
            ReadsAs versionPartition (withFlash m (m.world.device.storeVersion t))
              (Image.untilNul t)) := by
  refine ⟨Image.text_signed t, Image.text_plain, fun m hstatus hscratch => ⟨?_, fun ht => ?_⟩⟩
  · rw [← Image.text_signed t]
    exact readsAs_of_store hstatus hscratch versionPartition (Image.signed t)
  · rw [← Image.text_plain ht]
    exact readsAs_of_store hstatus hscratch versionPartition (Image.plain t)

/-- A host with nothing but a directory for temporary files, and some version partition. -/
def bareHost (data : List UInt8) : World Emulator where
  machine := bareMachine
  log := []
  device := { empty with partitions := [⟨versionPartition, "-----RV---", data⟩] }

/-- What stands behind a NUL is lost from either image. -/
theorem bareHost_round_trip :
    let m : Manager Emulator := ⟨.empty {}, bareHost [0xFF, 0xFF]⟩
    m.world.device.readStatus = 0 ∧ m.world.machine.ScratchFor dumpName dumpName ∧
      ¬ Image.LooksSigned "v2.2\n\tboot\x00rest" ∧
      ReadsAs versionPartition
        (withFlash m (m.world.device.storeSignedVersion "v2.2\n\tboot\x00rest")) "v2.2\n\tboot" ∧
      ReadsAs versionPartition
        (withFlash m (m.world.device.storeVersion "v2.2\n\tboot\x00rest")) "v2.2\n\tboot" := by
  intro m
  have hplain : ¬ Image.LooksSigned "v2.2\n\tboot\x00rest" := by decide +kernel
  have huntil : Image.untilNul "v2.2\n\tboot\x00rest" = "v2.2\n\tboot" := by decide +kernel
  obtain ⟨_, _, hread⟩ := version_round_trip "v2.2\n\tboot\x00rest"
  obtain ⟨hsigned, hstored⟩ := hread m rfl bareMachine_scratch
  rw [huntil] at hsigned hstored
  exact ⟨rfl, bareMachine_scratch, hplain, hsigned, hstored hplain⟩

/-! ## Cleared partitions -/

section Cleared

variable {partition : String} {mode : ClearKind} {w w' : World Emulator}

/-- A clear that succeeds through the tool leaves the machine alone and fills the partition. -/
theorem tool_clear_inv (hclear : tool.clear partition mode w = (.returned (.ok ()), w')) :
    w'.machine = w.machine ∧ w'.device.readStatus = w.device.readStatus ∧
      ∃ data, w.device.data? partition = some data ∧
        w'.device.data? partition = some (List.replicate data.length (clearByte mode)) := by
  let noted := w.device.record (.clear partition mode)
  have hrun : tool.clear partition mode w =
      (.returned (tool.checked (Flasher.clearArgs partition mode)
        (.ok (noted.clear partition mode).1)),
        { w with device := (noted.clear partition mode).2 }) := by
    cases mode with
    | ecc => rfl
    | erase => rfl
  rw [hclear] at hrun
  obtain ⟨hchecked, rfl⟩ := Prod.mk.inj hrun
  have hsuccess : (noted.clear partition mode).1.success := by
    rw [Ending.returned.injEq, Flasher.checked] at hchecked
    split at hchecked
    next h => exact h
    next => cases hchecked
  obtain ⟨data, hdata, hcleared, hstatus⟩ := clear_of_success hsuccess
  exact ⟨rfl, hstatus, data, hdata, hcleared⟩

/-- The text that is read from erased flash of some size. -/
def erasedText (size : Nat) : String := String.ofList (List.replicate size '\uFFFD')

/-- The text that is read from a partition of some size behind a clear. -/
def clearedText (size : Nat) : ClearKind → String
  | .ecc => ""
  | .erase => erasedText size

theorem text_replicate_clearByte (size : Nat) (mode : ClearKind) :
    Image.text (List.replicate size (clearByte mode)) = clearedText size mode := by
  cases mode with
  | ecc => exact Image.text_replicate_zero size
  | erase => exact Image.text_replicate_erased size

theorem ReadsAs.scan_of_empty {m : Manager Emulator} (h : ReadsAs partition m "") :
    (Manager.scan tool partition m).1 = .returned (.read .blank) ∧
      (Manager.scan tool partition m).2.registry = m.registry := by
  obtain ⟨hending, hregistry⟩ := h.scan_eq
  rw [hending, hregistry, m.registry.processText_blank rfl]
  exact ⟨rfl, rfl⟩

/-- The replacement characters make one line, which is taken for a version. -/
theorem ReadsAs.scan_of_erasedText {m : Manager Emulator} {size : Nat}
    (h : ReadsAs partition m (erasedText size)) (hsize : size ≠ 0) :
    (Manager.scan tool partition m).1 =
        .returned (.read (.published (Version.idOf (erasedText size)) .invalid)) ∧
      (Manager.scan tool partition m).2.registry =
        m.registry.publish ⟨erasedText size, ""⟩ := by
  have hne : erasedText size ≠ "" := by simpa [erasedText] using hsize
  have hline : '\n' ∉ (erasedText size).toList := by simp [erasedText]
  obtain ⟨hending, hregistry⟩ := h.scan_eq
  rw [hending, hregistry, m.registry.processText_of_not_mem hne hline]
  exact ⟨rfl, rfl⟩

theorem readsAs_of_clear (hstatus : w.device.readStatus = 0)
    (hscratch : w.machine.ScratchFor dumpName dumpName)
    (hclear : tool.clear partition mode w = (.returned (.ok ()), w')) (r : Registry) :
    ∃ data, w.device.data? partition = some data ∧
      ReadsAs partition ⟨r, w'⟩ (clearedText data.length mode) := by
  obtain ⟨hmachine, hkept, data, hdata, hcleared⟩ := tool_clear_inv hclear
  refine ⟨data, hdata, ?_⟩
  rw [← text_replicate_clearByte]
  exact readsAs_of_data (m := ⟨r, w'⟩) (hkept.trans hstatus) (hmachine ▸ hscratch) hcleared

/-- A scan finds nothing behind a clear that keeps the error correcting codes, nor in a partition
without bytes. Behind an erase of anything else it publishes an image that is named by one
replacement character for each erased byte, in place of what was published before. -/
theorem scan_of_clear (hstatus : w.device.readStatus = 0)
    (hscratch : w.machine.ScratchFor dumpName dumpName)
    (hclear : tool.clear partition mode w = (.returned (.ok ()), w')) (r : Registry) :
    ∃ data, w.device.data? partition = some data ∧
      if mode = .ecc ∨ data = [] then
        (Manager.scan tool partition ⟨r, w'⟩).1 = .returned (.read .blank) ∧
          (Manager.scan tool partition ⟨r, w'⟩).2.registry = r
      else
        (Manager.scan tool partition ⟨r, w'⟩).1 =
            .returned (.read (.published (Version.idOf (erasedText data.length)) .invalid)) ∧
          (Manager.scan tool partition ⟨r, w'⟩).2.registry =
            r.publish ⟨erasedText data.length, ""⟩ := by
  obtain ⟨data, hdata, hread⟩ := readsAs_of_clear hstatus hscratch hclear r
  refine ⟨data, hdata, ?_⟩
  split
  next hblank =>
    have hempty : clearedText data.length mode = "" := by
      rcases hblank with rfl | rfl
      · rfl
      · cases mode <;> rfl
    rw [hempty] at hread
    exact hread.scan_of_empty
  next hfull =>
    rw [not_or] at hfull
    cases mode with
    | ecc => exact absurd rfl hfull.1
    | erase => exact hread.scan_of_erasedText (mt List.length_eq_zero_iff.mp hfull.2)

/-- The erase of two bytes leaves an image behind that nobody stored. -/
theorem bareHost_scan_of_clear :
    ∃ w', (bareHost [0x76, 0x31]).device.readStatus = 0 ∧
      (bareHost [0x76, 0x31]).machine.ScratchFor dumpName dumpName ∧
      tool.clear versionPartition .erase (bareHost [0x76, 0x31]) = (.returned (.ok ()), w') ∧
      (Manager.scan tool versionPartition ⟨.empty {}, w'⟩).1 =
        .returned (.read (.published (Version.idOf "\uFFFD\uFFFD") .invalid)) ∧
      (Manager.scan tool versionPartition ⟨.empty {}, w'⟩).2.registry =
        (Registry.empty {}).publish ⟨"\uFFFD\uFFFD", ""⟩ := by
  have hclear : tool.clear versionPartition .erase (bareHost [0x76, 0x31]) =
      (.returned (.ok ()), (tool.clear versionPartition .erase (bareHost [0x76, 0x31])).2) := rfl
  obtain ⟨data, hdata, hscan⟩ := scan_of_clear rfl bareMachine_scratch hclear (.empty {})
  have hbytes : [0x76, 0x31] = data := Option.some.inj hdata
  subst hbytes
  exact ⟨_, rfl, bareMachine_scratch, hclear, hscan⟩

/-- A version partition that was erased is not taken for a blank one: the scan behind a successful
erase publishes an image where there was none. -/
theorem bareHost_erased_not_blank :
    ∃ w', (bareHost (List.replicate 16 0xFF)).device.readStatus = 0 ∧
      (bareHost (List.replicate 16 0xFF)).machine.ScratchFor dumpName dumpName ∧
      tool.clear versionPartition .erase (bareHost (List.replicate 16 0xFF)) =
        (.returned (.ok ()), w') ∧
      (Manager.scan tool versionPartition ⟨.empty {}, w'⟩).1 ≠ .returned (.read .blank) ∧
      (Manager.scan tool versionPartition ⟨.empty {}, w'⟩).2.registry ≠ .empty {} := by
  have hclear : tool.clear versionPartition .erase (bareHost (List.replicate 16 0xFF)) =
      (.returned (.ok ()),
        (tool.clear versionPartition .erase (bareHost (List.replicate 16 0xFF))).2) := rfl
  obtain ⟨data, hdata, hread⟩ := readsAs_of_clear rfl bareMachine_scratch hclear (.empty {})
  have hbytes : List.replicate 16 0xFF = data := Option.some.inj hdata
  obtain ⟨hending, hregistry⟩ := hread.scan_of_erasedText (by simp [← hbytes])
  refine ⟨_, rfl, bareMachine_scratch, hclear, ?_, ?_⟩
  · rw [hending]
    simp
  · -- The host runs the published image, and nothing was running before.
    rw [hregistry]
    exact fun heq => Option.some_ne_none _ (congrArg Registry.functional heq)

end Cleared

end HostFlash.Emulator
