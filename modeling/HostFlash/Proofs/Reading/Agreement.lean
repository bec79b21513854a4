import HostFlash.CommandLine.Report
import HostFlash.Proofs.Reading.Outcomes

/-!
# Two reports on one partition

The version report takes the version text apart on its own, and the status report shows what the
registry holds once the text was published. They tell a blank partition by different tests, the one
by the version and the other by the id. Over readings that end alike they agree all the same: on
what is blank, on what is printed about an image, and on the failure.
-/

namespace HostFlash

/-! ## Scratch paths -/

/-- The texts are the same, but where the one has `a` the other one has `b`. -/
def Text.SameBut (a b s t : String) : Prop :=
  ∃ pieces : List String, s = a.intercalate pieces ∧ t = b.intercalate pieces

theorem Text.sameBut_between (a b front back : String) :
    SameBut a b (front ++ (a ++ back)) (front ++ (b ++ back)) :=
  ⟨[front, back], by simp [String.intercalate_cons_cons, String.append_assoc],
    by simp [String.intercalate_cons_cons, String.append_assoc]⟩

theorem Text.sameBut_self (a b : String) : SameBut a b a b := by
  have h := sameBut_between a b "" ""
  rwa [String.empty_append, String.empty_append, String.append_empty, String.append_empty] at h

/-- The failures have the same cause, and their texts are the same but for `a` and `b`. -/
inductive Failure.SameBut (a b : String) : Failure → Failure → Prop where
  | notStarted {s t : String} (htext : Text.SameBut a b s t) (cause : IoError) :
      SameBut a b (.notStarted s cause) (.notStarted t cause)
  | badStatus {s t : String} (htext : Text.SameBut a b s t) (status : Int) :
      SameBut a b (.badStatus s status) (.badStatus t status)
  | timedOut {s t : String} (htext : Text.SameBut a b s t) (seconds : Nat) :
      SameBut a b (.timedOut s seconds) (.timedOut t seconds)
  | noScratch {s t : String} (htext : Text.SameBut a b s t) (cause : IoError) :
      SameBut a b (.noScratch s cause) (.noScratch t cause)
  | unreadableImage {s t : String} (htext : Text.SameBut a b s t) (cause : IoError) :
      SameBut a b (.unreadableImage s cause) (.unreadableImage t cause)
  | unreadableSettings {s t : String} (htext : Text.SameBut a b s t) (cause : IoError) :
      SameBut a b (.unreadableSettings s cause) (.unreadableSettings t cause)
  | malformedSettings {s t : String} (htext : Text.SameBut a b s t) :
      SameBut a b (.malformedSettings s) (.malformedSettings t)

namespace Machine

variable {m m' : Machine} {stem path : String}

/-- A name in a scratch directory that was made stands behind the path of the directory. -/
theorem join_of_makeScratch (hmade : m.makeScratch stem = (.ok path, m')) (name : String) :
    Path.join path name = m.scratchPath stem ++ ("/" ++ name) := by
  obtain ⟨rfl, ⟨number, hnumber⟩, _⟩ := makeScratch_eq_ok hmade
  obtain ⟨front, last, hend, hlast⟩ := toList_numberedPath m stem number
  rw [← hnumber] at hend
  apply String.toList_injective
  rw [Path.toList_join hend hlast, String.toList_append, String.toList_append]
  rfl

end Machine

/-! ## Readings -/

namespace Firmware

/-- The attempts end in the same way. The paths are left to the worlds, save in what the tool says,
where `a` stands for `b`. -/
inductive Attempt.EndsLike (a b : String) : Attempt → Attempt → Prop where
  | noScratch {p q : String} (cause : IoError) :
      EndsLike a b (.noScratch p cause) (.noScratch q cause)
  | unwound (reason : String) : EndsLike a b (.unwound reason) (.unwound reason)
  | refused {f g : Failure} (hsame : f.SameBut a b g) : EndsLike a b (.refused f) (.refused g)
  | badStatus {p q : String} (status : Int) :
      EndsLike a b (.badStatus p status) (.badStatus q status)
  | unreadable {p q : String} (cause : IoError) :
      EndsLike a b (.unreadable p cause) (.unreadable q cause)
  | dumped (data : List UInt8) : EndsLike a b (.dumped data) (.dumped data)

/-- The readings give the same, but for `a` and `b` in a failure. -/
inductive SameReading (a b : String) :
    Ending (Except Failure String) → Ending (Except Failure String) → Prop where
  | unwound (reason : String) : SameReading a b (.unwound reason) (.unwound reason)
  | failed {f g : Failure} (hsame : f.SameBut a b g) :
      SameReading a b (.returned (.error f)) (.returned (.error g))
  | text (text : String) : SameReading a b (.returned (.ok text)) (.returned (.ok text))

variable {δ : Type} {tool : Flasher δ} {partition dump : String} {w w' : World δ} {x y : Attempt}

theorem Attempts.dump_of_badStatus {status : Int}
    (hx : Attempts tool partition w (.badStatus dump status)) :
    dump = w.machine.scratchPath dumpName ++ ("/" ++ dumpName) := by
  generalize hattempt : Attempt.badStatus dump status = x at hx
  cases hx <;> cases hattempt
  next hmade _ _ => exact Machine.join_of_makeScratch hmade dumpName

theorem Attempts.dump_of_unreadable {cause : IoError}
    (hx : Attempts tool partition w (.unreadable dump cause)) :
    dump = w.machine.scratchPath dumpName ++ ("/" ++ dumpName) := by
  cases hx with
  | unreadable hmade _ _ _ => exact Machine.join_of_makeScratch hmade dumpName

/-- Attempts that end in the same way give the same readings, but for the scratch paths. -/
theorem Attempt.EndsLike.sameReading
    (hlike : x.EndsLike (w.machine.scratchPath dumpName) (w'.machine.scratchPath dumpName) y)
    (hx : Attempts tool partition w x) (hy : Attempts tool partition w' y) :
    SameReading (w.machine.scratchPath dumpName) (w'.machine.scratchPath dumpName)
      (x.ending tool.name partition) (y.ending tool.name partition) := by
  cases hlike with
  | noScratch cause =>
      cases hx
      cases hy
      exact .failed (.noScratch (Text.sameBut_self _ _) cause)
  | unwound reason => exact .unwound reason
  | refused hsame => exact .failed hsame
  | badStatus status =>
      rw [hx.dump_of_badStatus, hy.dump_of_badStatus]
      exact .failed (.badStatus (Text.sameBut_between _ _ _ _) status)
  | unreadable cause =>
      rw [hx.dump_of_unreadable, hy.dump_of_unreadable]
      have hdump := Text.sameBut_between (w.machine.scratchPath dumpName)
        (w'.machine.scratchPath dumpName) "" ("/" ++ dumpName)
      rw [String.empty_append, String.empty_append] at hdump
      exact .failed (.unreadableImage hdump cause)
  | dumped data => exact .text _

namespace Version

theorem getD_mem_hexDigits (n : Nat) : hexDigits.getD n '0' ∈ hexDigits := by
  rw [List.getD_eq_getElem?_getD]
  cases hdigit : hexDigits[n]? with
  | none => decide
  | some c => exact List.mem_of_getElem? hdigit

/-- An id is written in digits alone. -/
theorem mem_hexDigits_of_mem_idOf {version : String} (hversion : version ≠ "") {c : Char}
    (hc : c ∈ (idOf version).toList) : c ∈ hexDigits := by
  have hchars : version.toList ≠ [] := mt String.toList_eq_nil_iff.mp hversion
  rw [← String.ofList_toList (s := version), idOf_eq hchars, String.toList_ofList] at hc
  obtain ⟨byte, _, hbyte⟩ := List.mem_flatMap.mp (List.mem_of_mem_take hc)
  rw [hexByte, List.mem_pair] at hbyte
  rcases hbyte with rfl | rfl
  · exact getD_mem_hexDigits _
  · exact getD_mem_hexDigits _

end Version

end Firmware

/-! ## Reports -/

namespace CommandLine

open Firmware (Attempt Attempts ImageState Manager Registry SameReading ScanOutcome Version
  dumpName versionText)

/-- The version report and the status report agree on what is in the partition. -/
inductive Agree (settings : Settings) (a b : String) : Ending Report → Ending Report → Prop where
  | unwound (reason : String) : Agree settings a b (.unwound reason) (.unwound reason)
  | failed {f g : Failure} (hsame : f.SameBut a b g) :
      Agree settings a b (.returned (.failed f.message)) (.returned (.failed g.message))
  | blank :
      Agree settings a b
        (.returned (.ofLines [settings.partitions.version ++ " partition is blank"]))
        (.returned (.ofLines ["No host firmware found (blank or corrupted PNOR)"]))
  | active {raw : List String} {version components id path : String} (hversion : version ≠ "")
      (hcomponents : components ≠ "") (hid : id = Version.idOf version)
      (hpath : path = (Registry.empty settings.paths).pathOf id) :
      Agree settings a b
        (.returned (.ofLines
          (["Raw:"] ++ raw.map ("  " ++ ·) ++
            ["Version:          " ++ version, "Extended version: " ++ components] ++
            ["Id:               " ++ id])))
        (.returned (.ofLines
          ["Object:           " ++ path,
           "Version:          " ++ version,
           "Extended version: " ++ components,
           "Purpose:          Host",
           "Activation:       Active",
           "Priority:         0",
           "Association:      inventory / activation -> " ++ settings.paths.hostInventory,
           "Software root:    active -> " ++ path,
           "Software root:    updateable -> " ++ path,
           "Software root:    functional -> " ++ path,
           "Functional id:    " ++ id]))
  | invalid {raw : List String} {version id path : String} (hversion : version ≠ "")
      (hid : id = Version.idOf version)
      (hpath : path = (Registry.empty settings.paths).pathOf id) :
      Agree settings a b
        (.returned (.ofLines
          (["Raw:"] ++ raw.map ("  " ++ ·) ++
            ["Version:          " ++ version] ++ ["Id:               " ++ id])))
        (.returned (.ofLines
          ["Object:           " ++ path,
           "Version:          " ++ version,
           "Purpose:          Host",
           "Activation:       Invalid",
           "Software root:    updateable -> " ++ path,
           "Software root:    functional -> " ++ path,
           "Functional id:    " ++ id]))

namespace Report

variable {δ : Type} {settings : Settings} {tool : Flasher δ} {w w' : World δ} {a b : String}

/-- The lines about a text that names a version, by what the text was taken apart into. -/
theorem versionLines_of_version {partition text : String}
    (hversion : (Version.parse text).version ≠ "") :
    versionLines partition text =
      ["Raw:"] ++ ((Text.lines text.toList).map String.ofList).map ("  " ++ ·) ++
        (["Version:          " ++ (Version.parse text).version] ++
          componentLines (Version.parse text).components) ++
        ["Id:               " ++ (Version.parse text).id] := by
  simp [versionLines, hversion]

/-- The lines about a registry that holds nothing but an image, which the host runs. -/
theorem registryLines_holding (paths : PathSettings) (v : Version) :
    registryLines (.holding paths ⟨some v, some v.id⟩) v.id =
      activationLines ((Registry.empty paths).activationFor v) ++
        ((Registry.empty paths).imageEdges v ++ [(Registry.empty paths).runningEdge v.id]).map
          (fun e => "Software root:    " ++ e.forward ++ " -> " ++ e.endpoint) ++
        ["Functional id:    " ++ v.id] := by
  simp [registryLines, Registry.holding, Firmware.Directory.get?]

/-- An image without components gets no line about them, and is not active. -/
theorem registryLines_of_invalid {paths : PathSettings} {v : Version}
    (hcomponents : v.components = "") :
    registryLines (.holding paths ⟨some v, some v.id⟩) v.id =
      ["Object:           " ++ (Registry.empty paths).pathOf v.id,
       "Version:          " ++ v.version,
       "Purpose:          Host",
       "Activation:       Invalid",
       "Software root:    updateable -> " ++ (Registry.empty paths).pathOf v.id,
       "Software root:    functional -> " ++ (Registry.empty paths).pathOf v.id,
       "Functional id:    " ++ v.id] := by
  have hstate : ImageState.ofVersion v = .invalid := by
    simp [ImageState.ofVersion, Version.isComplete, hcomponents]
  rw [registryLines_holding]
  simp only [activationLines, Registry.activationFor, Registry.imageEdges, hstate, hcomponents]
  rfl

/-- An image with components is active: it has a line about them, a priority, an edge to the
inventory, and an edge from the root that says so. -/
theorem registryLines_of_active {paths : PathSettings} {v : Version}
    (hversion : v.version ≠ "") (hcomponents : v.components ≠ "") :
    registryLines (.holding paths ⟨some v, some v.id⟩) v.id =
      ["Object:           " ++ (Registry.empty paths).pathOf v.id,
       "Version:          " ++ v.version,
       "Extended version: " ++ v.components,
       "Purpose:          Host",
       "Activation:       Active",
       "Priority:         0",
       "Association:      inventory / activation -> " ++ paths.hostInventory,
       "Software root:    active -> " ++ (Registry.empty paths).pathOf v.id,
       "Software root:    updateable -> " ++ (Registry.empty paths).pathOf v.id,
       "Software root:    functional -> " ++ (Registry.empty paths).pathOf v.id,
       "Functional id:    " ++ v.id] := by
  have hstate : ImageState.ofVersion v = .active := by
    simp [ImageState.ofVersion, Version.isComplete, hversion, hcomponents]
  rw [registryLines_holding]
  simp only [activationLines, Registry.activationFor, Registry.imageEdges, hstate,
    componentLines, if_neg hcomponents]
  rfl

/-- What the two commands print about a text agrees. -/
theorem agree_of_text (settings : Settings) (a b text : String) :
    Agree settings a b (.returned (.ofLines (versionLines settings.partitions.version text)))
      (.returned (ofScan ((Registry.empty settings.paths).processText text).2
        (.read ((Registry.empty settings.paths).processText text).1))) := by
  by_cases hline : Version.firstLine text = ""
  · have hversion : (Version.parse text).version = "" := by rw [Version.version_parse, hline]
    rw [Registry.processText_blank _ hline, versionLines, if_pos hversion]
    exact .blank
  · have hversion : (Version.parse text).version ≠ "" := by rwa [Version.version_parse]
    rw [Registry.holds_empty.processText_eq hline, versionLines_of_version hversion,
      ← Version.version_parse]
    show Agree settings a b _ (.returned (.ofLines (registryLines _ (Version.parse text).id)))
    by_cases hcomponents : (Version.parse text).components = ""
    · rw [registryLines_of_invalid hcomponents, componentLines, if_pos hcomponents,
        List.append_nil]
      exact .invalid hversion rfl rfl
    · rw [registryLines_of_active hversion hcomponents, componentLines, if_neg hcomponents]
      exact .active hversion hcomponents rfl rfl

theorem version_fst (tool : Flasher δ) (partition : String) (w : World δ) :
    (version tool partition w).1 =
      match (versionText tool partition w).1 with
      | .unwound reason => .unwound reason
      | .returned (.error failure) => .returned (failed failure.message)
      | .returned (.ok text) => .returned (ofLines (versionLines partition text)) := by
  rw [version, Action.bind_apply]
  cases versionText tool partition w with
  | mk ending w' =>
  cases ending with
  | unwound reason => rfl
  | returned answer => cases answer <;> rfl

theorem status_of_returned {outcome : ScanOutcome} {r : Registry}
    (hending : (Manager.scan tool settings.partitions.version ⟨.empty settings.paths, w⟩).1 =
      .returned outcome)
    (hregistry : (Manager.scan tool settings.partitions.version
      ⟨.empty settings.paths, w⟩).2.registry = r) :
    (status tool settings w).1 = .returned (ofScan r outcome) := by
  unfold status
  generalize Manager.scan tool settings.partitions.version ⟨.empty settings.paths, w⟩ = s at *
  obtain ⟨ending, m⟩ := s
  cases hending
  cases hregistry
  rfl

theorem status_of_unwound {reason : String}
    (hending : (Manager.scan tool settings.partitions.version ⟨.empty settings.paths, w⟩).1 =
      .unwound reason) :
    (status tool settings w).1 = .unwound reason := by
  unfold status
  generalize Manager.scan tool settings.partitions.version ⟨.empty settings.paths, w⟩ = s at *
  obtain ⟨ending, m⟩ := s
  cases hending
  rfl

theorem status_fst (tool : Flasher δ) (settings : Settings) (w : World δ) :
    (status tool settings w).1 =
      match (versionText tool settings.partitions.version w).1 with
      | .unwound reason => .unwound reason
      | .returned (.error failure) => .returned (failed failure.message)
      | .returned (.ok text) =>
          .returned (ofScan ((Registry.empty settings.paths).processText text).2
            (.read ((Registry.empty settings.paths).processText text).1)) := by
  let m : Manager δ := ⟨.empty settings.paths, w⟩
  cases hread : (versionText tool settings.partitions.version m.world).1 with
  | unwound reason => exact status_of_unwound (Manager.scan_of_unwound (m := m) hread).1
  | returned answer =>
  cases answer with
  | error failure =>
      obtain ⟨hending, hregistry⟩ := Manager.scan_of_failed (m := m) hread
      exact status_of_returned hending hregistry
  | ok text =>
      obtain ⟨outcome, hprocess, hending, hregistry⟩ := Manager.scan_of_read (m := m) hread
      rw [Manager.processText_fst] at hprocess
      rw [Manager.registry_processText] at hregistry
      cases hprocess
      exact status_of_returned hending hregistry

/-- Over readings that give the same, the two commands agree. -/
theorem agree_of_sameReading (settings : Settings)
    (hsame : SameReading a b (versionText tool settings.partitions.version w).1
      (versionText tool settings.partitions.version w').1) :
    Agree settings a b (version tool settings.partitions.version w).1
      (status tool settings w').1 := by
  rw [version_fst, status_fst]
  generalize (versionText tool settings.partitions.version w).1 = x at hsame
  generalize (versionText tool settings.partitions.version w').1 = y at hsame
  cases hsame with
  | unwound reason => exact .unwound reason
  | failed hfailed => exact .failed hfailed
  | text text => exact agree_of_text settings a b text

/-! ## Blank partitions -/

/-- A report that ends in an id is none on a blank partition, since no digit is a `k`. -/
theorem ofLines_ne_blank {version : String} (hversion : version ≠ "") (front : List String)
    (partition : String) :
    ofLines (front ++ ["Id:               " ++ Version.idOf version]) ≠
      ofLines [partition ++ " partition is blank"] := by
  intro h
  have hid : (Version.idOf version).toList ≠ [] :=
    mt String.toList_eq_nil_iff.mp (mt Version.idOf_eq_empty_iff.mp hversion)
  have hblank : " partition is blank".toList = " partition is blan".toList ++ ['k'] := by decide
  have houtput := congrArg (fun r => r.output.toList) h
  simp only [ofLines, toList_joinLines, List.flatMap_append, List.flatMap_singleton,
    String.toList_append, hblank, ← List.append_assoc, List.append_cancel_right_eq] at houtput
  have hlast := congrArg List.getLast? houtput
  rw [List.getLast?_append_of_ne_nil _ hid, List.getLast?_concat] at hlast
  have hdigit := Version.mem_hexDigits_of_mem_idOf hversion (List.mem_of_getLast? hlast)
  exact absurd hdigit (by decide)

/-- A report on an object is none on a lack of firmware. -/
theorem ofLines_ne_none (path : String) (rest : List String) :
    ofLines (("Object:           " ++ path) :: rest) ≠
      ofLines ["No host firmware found (blank or corrupted PNOR)"] := by
  intro h
  have hhead := congrArg (fun r => r.output.toList.head?) h
  simp [ofLines, toList_joinLines] at hhead

end Report

/-- Where the two agree, they agree on what is blank. -/
theorem Agree.blank_iff {settings : Settings} {a b : String} {r s : Ending Report}
    (h : Agree settings a b r s) :
    r = .returned (.ofLines [settings.partitions.version ++ " partition is blank"]) ↔
      s = .returned (.ofLines ["No host firmware found (blank or corrupted PNOR)"]) := by
  -- Beside the blank partition, each report differs from the one for it at an end of its text.
  cases h with
  | unwound reason => simp
  | failed hsame => simp [Report.failed, Report.ofLines]
  | blank => simp
  | active hversion hcomponents hid hpath =>
      subst hid
      refine iff_of_false (fun hblank => ?_) (fun hnone => ?_)
      · exact Report.ofLines_ne_blank hversion _ _ (Ending.returned.inj hblank)
      · exact Report.ofLines_ne_none _ _ (Ending.returned.inj hnone)
  | invalid hversion hid hpath =>
      subst hid
      refine iff_of_false (fun hblank => ?_) (fun hnone => ?_)
      · exact Report.ofLines_ne_blank hversion _ _ (Ending.returned.inj hblank)
      · exact Report.ofLines_ne_none _ _ (Ending.returned.inj hnone)

namespace Report

variable {δ : Type}

end Report

end CommandLine

end HostFlash
