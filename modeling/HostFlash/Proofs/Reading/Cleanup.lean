import HostFlash.Proofs.Calls.Operations
import HostFlash.Proofs.Files.Erasing
import HostFlash.Proofs.Reading.Attempts

/-!
# What a reading leaves behind

A reading makes a scratch directory, calls the tool once to dump the partition into it, and takes
the directory away again, with whatever the tool has put there, on a return as well as when the
tool unwinds. Everything else is left as the tool has left it. Without a scratch directory the tool
is not called.
-/

namespace HostFlash.Firmware

variable {δ α : Type} {location : Location}

/-- Between the two worlds, the location and everything below it was taken away, and nothing else
has happened. -/
structure TakesAway (location : Location) (before after : World δ) : Prop where
  gone : ∀ below, after.machine.files.lookup? (location ++ below) = none
  outside : ∀ other, ¬ location <+: other →
    after.machine.files.lookup? other = before.machine.files.lookup? other
  rest : after =
    { before with machine := { before.machine with files := after.machine.files } }

/-! ## The scratch directory behind a body -/

section Scratch

variable {path : String} {body : Action (World δ) α} {w : World δ}

/-- The body returned or unwound: the directory is taken away in both cases. -/
theorem withScratch_of_removable (h : (body w).2.machine.Removable path location) :
    (withScratch path body w).2 =
      { (body w).2 with
        machine := { (body w).2.machine with
          files := (body w).2.machine.files.eraseTree location } } := by
  unfold withScratch
  cases hbody : body w with
  | mk ending w' =>
  rw [hbody] at h
  cases ending with
  | unwound reason => simp [discardScratch, Action.bind_apply, h.removeScratch]
  | returned a => simp [removeScratch, Action.bind_apply, h.removeScratch]

theorem takesAway_withScratch (hne : location ≠ [])
    (h : (body w).2.machine.Removable path location) :
    TakesAway location (body w).2 (withScratch path body w).2 := by
  rw [withScratch_of_removable h]
  refine ⟨fun below => ?_, fun other hother => ?_, rfl⟩
  · show ((body w).2.machine.files.eraseTree location).lookup? _ = none
    rw [FileSystem.lookup?_eraseTree hne, if_pos (List.prefix_append location below)]
  · show ((body w).2.machine.files.eraseTree location).lookup? _ = _
    rw [FileSystem.lookup?_eraseTree hne, if_neg hother]

theorem device_withScratch (path : String) (body : Action (World δ) α) (w : World δ) :
    (withScratch path body w).2.device = (body w).2.device := by
  obtain ⟨machine, log, heq⟩ := withScratch_eq path body w
  rw [heq]

end Scratch

/-! ## The call of the tool -/

section Reading

variable {tool : Flasher δ} {partition path : String} {w : World δ} {made : Machine}

/-- Reading the dump changes nothing, so the world is as the tool has left it. -/
theorem dumpedText_snd (tool : Flasher δ) (partition dump : String) (w : World δ) :
    (dumpedText tool partition dump w).2 =
      (tool.run (Flasher.dumpArgs partition dump) w).2 := by
  cases hrun : tool.run (Flasher.dumpArgs partition dump) w with
  | mk ending w' =>
  cases ending with
  | unwound reason => rw [dumpedText_of_unwound hrun]
  | returned answer =>
  cases answer with
  | error failure => rw [dumpedText_of_failed hrun rfl]
  | ok out =>
  by_cases hstatus : out.status = 0
  · rw [dumpedText_of_success hrun hstatus]
  · rw [dumpedText_of_failed hrun (checked_of_badStatus hstatus)]

/-- The calls of the reading over a recording device. -/
def readingCalls (tool : Flasher δ) (partition : String) (w : World δ) : List Call :=
  (versionText tool.recorded partition w.recorded).2.device.calls

theorem readingCalls_of_error {cause : IoError}
    (hmade : w.machine.makeScratch dumpName = (.error cause, made)) :
    readingCalls tool partition w = [] := by
  have hrecorded : w.recorded.machine.makeScratch dumpName = (.error cause, made) := hmade
  rw [readingCalls, versionText_eq_noScratch hrecorded]
  rfl

theorem readingCalls_of_ok (hmade : w.machine.makeScratch dumpName = (.ok path, made)) :
    readingCalls tool partition w =
      [.run (Flasher.dumpArgs partition (Path.join path dumpName))
        (tool.run (Flasher.dumpArgs partition (Path.join path dumpName))
          { w with machine := made }).1] := by
  have hrecorded : w.recorded.machine.makeScratch dumpName = (.ok path, made) := hmade
  -- Neither the reading of the dump nor the cleanup does anything to the device and its record.
  rw [readingCalls, versionText_eq_withScratch hrecorded, device_withScratch, dumpedText_snd]
  rfl

theorem takesAway_versionText {ending : Ending (Except Failure ToolAnswer)} {w' : World δ}
    (hmade : w.machine.makeScratch dumpName = (.ok path, made)) (hne : location ≠ [])
    (hrun : tool.run (Flasher.dumpArgs partition (Path.join path dumpName))
      { w with machine := made } = (ending, w'))
    (hremovable : w'.machine.Removable path location) :
    TakesAway location w' (versionText tool partition w).2 := by
  have hdumped : (dumpedText tool partition (Path.join path dumpName)
      { w with machine := made }).2 = w' := by rw [dumpedText_snd, hrun]
  rw [versionText_eq_withScratch hmade]
  subst hdumped
  exact takesAway_withScratch hne hremovable

/-! ## The text -/

/-- The text that was read, and the empty text without one. -/
def textOrEmpty : Except Failure String → String
  | .ok text => text
  | .error _ => ""

theorem versionTextOrEmpty_eq (tool : Flasher δ) (partition : String) (w : World δ) :
    (versionTextOrEmpty tool partition w).1 =
        (versionText tool partition w).1.map textOrEmpty ∧
      (versionTextOrEmpty tool partition w).2.machine =
        (versionText tool partition w).2.machine := by
  unfold versionTextOrEmpty
  rw [Action.bind_apply]
  cases versionText tool partition w with
  | mk ending w' =>
  cases ending with
  | unwound reason => exact ⟨rfl, rfl⟩
  | returned result =>
  cases result with
  | ok text => exact ⟨rfl, rfl⟩
  | error failure => exact ⟨rfl, rfl⟩

/-- Exactly one attempt to dump the partition happens, and it decides what the reading gives. If no
scratch directory can be made, then the tool is not called and no file has changed. Otherwise the
tool is called once, with the dump in a scratch directory that is new, and however that call ends,
the directory is gone behind it with everything in it, as long as it can be taken away. All else is
as the tool has left it. -/
theorem versionText_cleans_up (tool : Flasher δ) (partition : String) (w : World δ) :
    (∃ a, Attempts tool partition w a ∧ (∀ b, Attempts tool partition w b → b = a) ∧
      (versionText tool partition w).1 = a.ending tool.name partition ∧
      (versionTextOrEmpty tool partition w).1 =
        (a.ending tool.name partition).map textOrEmpty) ∧
    versionText tool partition w =
      ((versionText tool.recorded partition w.recorded).1,
        (versionText tool.recorded partition w.recorded).2.forget) ∧
    (versionTextOrEmpty tool partition w).2.machine = (versionText tool partition w).2.machine ∧
    (∀ cause made, w.machine.makeScratch dumpName = (.error cause, made) →
      readingCalls tool partition w = [] ∧
      (versionText tool partition w).2 = { w with machine := made } ∧
      made.files = w.machine.files) ∧
    ∀ path made, w.machine.makeScratch dumpName = (.ok path, made) →
      ∃ location ending w', w.machine.MakesScratch path location made ∧
        tool.run (Flasher.dumpArgs partition (Path.join path dumpName))
          { w with machine := made } = (ending, w') ∧
        readingCalls tool partition w =
          [.run (Flasher.dumpArgs partition (Path.join path dumpName)) ending] ∧
        (w'.machine.Removable path location →
          TakesAway location w' (versionText tool partition w).2) := by
  obtain ⟨a, ha⟩ := exists_attempts tool partition w
  have hread := versionText_of_attempts ha
  obtain ⟨htext, hmachine⟩ := versionTextOrEmpty_eq tool partition w
  refine ⟨⟨a, ha, fun _ hb => ha.unique hb, hread, hread ▸ htext⟩, ?_, hmachine, ?_, ?_⟩
  · exact (traces_versionText tool partition w.recorded).1
  · intro cause made hmade
    refine ⟨readingCalls_of_error hmade, ?_, Machine.files_of_error hmade⟩
    rw [versionText_eq_noScratch hmade]
  · intro path made hmade
    obtain ⟨location, hscratch⟩ := Machine.makesScratch_of_ok hmade
    -- The root is never free, so it is not what is taken away.
    have hne := FileSystem.ne_nil_of_free hscratch.free
    exact ⟨location, _, _, hscratch, rfl, readingCalls_of_ok hmade,
      takesAway_versionText hmade hne rfl⟩

end Reading

/-- A tool that writes a dump and a file beside it, and then unwinds. -/
def litteringTool : Flasher Unit where
  name := "pflash"
  run args := do
    let dump := args.getD 3 ""
    let _ ← World.onMachine fun m => m.writeFile dump "v2.2".toUTF8.toList
    let _ ← World.onMachine fun m => m.writeFile (dump ++ ".log") []
    .unwind "lost"

/-- A world without any files, also without a directory for temporary ones. -/
def bareWorld : World Unit := ⟨⟨⟨[]⟩, [], "/tmp", 0⟩, [], ()⟩

/-- A world with a directory for temporary files and nothing else. -/
def tidyWorld : World Unit := ⟨⟨⟨[(["tmp"], .directory)]⟩, [], "/tmp", 0⟩, [], ()⟩

/-- The files that the tool leaves there. -/
def litter : List (Location × Entry) :=
  [(["tmp", "version000000"], .directory),
    (["tmp", "version000000", "version"], .file "v2.2".toUTF8.toList false),
    (["tmp", "version000000", "version.log"], .file [] false)]

/-- What the tool has left in the scratch directory is taken away with it. Where no such directory
can be made, the tool leaves nothing. -/
theorem litteringTool_cleaned_up :
    readingCalls litteringTool "VERSION" bareWorld = [] ∧
      (versionText litteringTool "VERSION" tidyWorld).1 = .unwound "lost" ∧
      readingCalls litteringTool "VERSION" tidyWorld =
        [.run ["-P", "VERSION", "-r", "/tmp/version000000/version"] (.unwound "lost")] ∧
      ∃ w', w'.machine.files = ⟨tidyWorld.machine.files.entries ++ litter⟩ ∧
        TakesAway ["tmp", "version000000"] w'
          (versionText litteringTool "VERSION" tidyWorld).2 := by
  have hnone := ((versionText_cleans_up litteringTool "VERSION" bareWorld).2.2.2.1 .noEntry _ rfl).1
  have hmade : tidyWorld.machine.makeScratch dumpName = (.ok "/tmp/version000000",
      { tidyWorld.machine with
        files := ⟨tidyWorld.machine.files.entries ++ litter.take 1⟩, serial := 1 }) := by
    rfl
  have hlittered : litteringTool.run ["-P", "VERSION", "-r", "/tmp/version000000/version"]
      { tidyWorld with machine := { tidyWorld.machine with
          files := ⟨tidyWorld.machine.files.entries ++ litter.take 1⟩, serial := 1 } } =
      (.unwound "lost", { tidyWorld with machine := { tidyWorld.machine with
          files := ⟨tidyWorld.machine.files.entries ++ litter⟩, serial := 1 } }) := by
    rfl
  obtain ⟨⟨a, ha, _, hread, _⟩, _, _, _, hcleaned⟩ :=
    versionText_cleans_up litteringTool "VERSION" tidyWorld
  obtain ⟨location, ending, w', hscratch, hrun, hcalls, htaken⟩ := hcleaned _ _ hmade
  obtain ⟨rfl, rfl⟩ := Prod.mk.inj (hrun.symm.trans hlittered)
  obtain rfl : location = ["tmp", "version000000"] :=
    Except.ok.inj (hscratch.leads.symm.trans rfl)
  have hcleanup := htaken (hscratch.removable (FileSystem.keeps_append _ litter) rfl rfl)
  have hunwound := ha.unique (.unwound hmade hlittered)
  refine ⟨hnone, ?_, hcalls, _, rfl, hcleanup⟩
  rw [hread, ← hunwound]
  rfl

end HostFlash.Firmware
