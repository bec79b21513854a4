import HostFlash.Proofs.Registry.Consistency

/-!
# Attempts to read the flash

A reading can end at the machine, which makes no scratch directory, at the tool, which unwinds,
fails or reports a status, at the machine again, which has no dump to give, or with the dump. An
`Attempt` says which, and exactly one of them happens over every tool, in every world. It decides
what the reading gives, and a scan changes the registry only as the processing of the text in the
dump does.
-/

namespace HostFlash.Firmware

variable {δ α : Type}

/-- How an attempt to dump a partition ends. -/
inductive Attempt where
  /-- No scratch directory was made, so the tool was not called. -/
  | noScratch (path : String) (cause : IoError)
  | unwound (reason : String)
  /-- The call of the tool came to nothing. -/
  | refused (failure : Failure)
  | badStatus (dump : String) (status : Int)
  /-- The tool reported success and left no dump behind that can be read. -/
  | unreadable (dump : String) (cause : IoError)
  | dumped (data : List UInt8)

/-- An attempt to dump the partition in this world ends so. Each answer is given in the world that
the one before has left behind. -/
inductive Attempts (tool : Flasher δ) (partition : String) (w : World δ) : Attempt → Prop where
  | noScratch {cause : IoError} {machine : Machine}
      (hmade : w.machine.makeScratch dumpName = (.error cause, machine)) :
      Attempts tool partition w (.noScratch (w.machine.scratchPath dumpName) cause)
  | unwound {path reason : String} {machine : Machine} {w' : World δ}
      (hmade : w.machine.makeScratch dumpName = (.ok path, machine))
      (hrun : tool.run (Flasher.dumpArgs partition (Path.join path dumpName))
        { w with machine := machine } = (.unwound reason, w')) :
      Attempts tool partition w (.unwound reason)
  | refused {path : String} {failure : Failure} {machine : Machine} {w' : World δ}
      (hmade : w.machine.makeScratch dumpName = (.ok path, machine))
      (hrun : tool.run (Flasher.dumpArgs partition (Path.join path dumpName))
        { w with machine := machine } = (.returned (.error failure), w')) :
      Attempts tool partition w (.refused failure)
  | badStatus {path : String} {out : ToolAnswer} {machine : Machine} {w' : World δ}
      (hmade : w.machine.makeScratch dumpName = (.ok path, machine))
      (hrun : tool.run (Flasher.dumpArgs partition (Path.join path dumpName))
        { w with machine := machine } = (.returned (.ok out), w'))
      (hstatus : out.status ≠ 0) :
      Attempts tool partition w (.badStatus (Path.join path dumpName) out.status)
  | unreadable {path : String} {out : ToolAnswer} {cause : IoError} {machine : Machine}
      {w' : World δ} (hmade : w.machine.makeScratch dumpName = (.ok path, machine))
      (hrun : tool.run (Flasher.dumpArgs partition (Path.join path dumpName))
        { w with machine := machine } = (.returned (.ok out), w'))
      (hstatus : out.status = 0)
      (hread : w'.machine.contentOf (Path.join path dumpName) = .error cause) :
      Attempts tool partition w (.unreadable (Path.join path dumpName) cause)
  | dumped {path : String} {out : ToolAnswer} {data : List UInt8} {machine : Machine}
      {w' : World δ} (hmade : w.machine.makeScratch dumpName = (.ok path, machine))
      (hrun : tool.run (Flasher.dumpArgs partition (Path.join path dumpName))
        { w with machine := machine } = (.returned (.ok out), w'))
      (hstatus : out.status = 0)
      (hread : w'.machine.contentOf (Path.join path dumpName) = .ok data) :
      Attempts tool partition w (.dumped data)

/-- What the reading gives when the attempt ends so. -/
def Attempt.ending (toolName partition : String) : Attempt → Ending (Except Failure String)
  | noScratch path cause => .returned (.error (.noScratch path cause))
  | unwound reason => .unwound reason
  | refused failure => .returned (.error failure)
  | badStatus dump status =>
      .returned (.error
        (.badStatus (toolName ++ " -P " ++ partition ++ " -r " ++ dump) status))
  | unreadable dump cause => .returned (.error (.unreadableImage dump cause))
  | dumped data => .returned (.ok (Image.text data))

/-! ## Exactly one attempt -/

theorem exists_attempts (tool : Flasher δ) (partition : String) (w : World δ) :
    ∃ a, Attempts tool partition w a := by
  cases hmade : w.machine.makeScratch dumpName with
  | mk made machine =>
  cases made with
  | error cause => exact ⟨_, .noScratch hmade⟩
  | ok path =>
  cases hrun : tool.run (Flasher.dumpArgs partition (Path.join path dumpName))
      { w with machine := machine } with
  | mk ending w' =>
  cases ending with
  | unwound reason => exact ⟨_, .unwound hmade hrun⟩
  | returned answer =>
  cases answer with
  | error failure => exact ⟨_, .refused hmade hrun⟩
  | ok out =>
  by_cases hstatus : out.status = 0
  · cases hread : w'.machine.contentOf (Path.join path dumpName) with
    | error cause => exact ⟨_, .unreadable hmade hrun hstatus hread⟩
    | ok data => exact ⟨_, .dumped hmade hrun hstatus hread⟩
  · exact ⟨_, .badStatus hmade hrun hstatus⟩

theorem Attempts.unique {tool : Flasher δ} {partition : String} {w : World δ} {a b : Attempt}
    (ha : Attempts tool partition w a) (hb : Attempts tool partition w b) : b = a := by
  -- Two attempts part at the first answer that differs, and every answer is given once.
  cases ha <;> cases hb <;> simp_all

/-! ## The reading -/

theorem makeScratch_of_error {w : World δ} {cause : IoError} {machine : Machine}
    (hmade : w.machine.makeScratch dumpName = (.error cause, machine)) :
    makeScratch w = (.returned (.error (.noScratch (w.machine.scratchPath dumpName) cause)),
      { w with machine := machine }) := by
  simp only [makeScratch, World.onMachine_apply, hmade]

theorem makeScratch_of_ok {w : World δ} {path : String} {machine : Machine}
    (hmade : w.machine.makeScratch dumpName = (.ok path, machine)) :
    makeScratch w = (.returned (.ok path), { w with machine := machine }) := by
  simp only [makeScratch, World.onMachine_apply, hmade]

/-- Taking the scratch directory away is done on the machine and in the log alone, also when that
fails. -/
theorem withScratch_eq (path : String) (body : Action (World δ) α) (w : World δ) :
    ∃ machine log, withScratch path body w =
      ((body w).1, { (body w).2 with machine := machine, log := log }) := by
  unfold withScratch
  cases body w with
  | mk ending w' =>
  cases ending with
  | unwound reason => exact ⟨_, _, rfl⟩
  | returned a =>
      show ∃ machine log, (removeScratch path >>= fun _ => pure a : Action (World δ) α) w' = _
      cases hremoved : (w'.machine.removeScratch path).1 with
      | error cause => simp [removeScratch, Action.bind_apply, hremoved, World.error]
      | ok _ => simp [removeScratch, Action.bind_apply, hremoved]

theorem withScratch_fst (path : String) (body : Action (World δ) α) (w : World δ) :
    (withScratch path body w).1 = (body w).1 := by
  obtain ⟨machine, log, heq⟩ := withScratch_eq path body w
  rw [heq]

theorem versionText_eq_withScratch {tool : Flasher δ} {partition path : String} {w : World δ}
    {machine : Machine} (hmade : w.machine.makeScratch dumpName = (.ok path, machine)) :
    versionText tool partition w =
      withScratch path (dumpedText tool partition (Path.join path dumpName))
        { w with machine := machine } := by
  rw [versionText, Action.bind_returned (makeScratch_of_ok hmade)]

theorem versionText_eq_noScratch {tool : Flasher δ} {partition : String} {w : World δ}
    {cause : IoError} {machine : Machine}
    (hmade : w.machine.makeScratch dumpName = (.error cause, machine)) :
    versionText tool partition w =
      (.returned (.error (.noScratch (w.machine.scratchPath dumpName) cause)),
        { w with machine := machine }) := by
  rw [versionText, Action.bind_returned (makeScratch_of_error hmade)]
  rfl

theorem versionText_of_made {tool : Flasher δ} {partition path : String} {w : World δ}
    {machine : Machine} (hmade : w.machine.makeScratch dumpName = (.ok path, machine)) :
    (versionText tool partition w).1 =
      (dumpedText tool partition (Path.join path dumpName) { w with machine := machine }).1 := by
  rw [versionText_eq_withScratch hmade]
  exact withScratch_fst path _ _

section Dump

variable {tool : Flasher δ} {partition dump : String} {w w' : World δ}

theorem dump_of_returned {answer : Except Failure ToolAnswer}
    (hrun : tool.run (Flasher.dumpArgs partition dump) w = (.returned answer, w')) :
    tool.dump partition dump w =
      (.returned (tool.checked (Flasher.dumpArgs partition dump) answer), w') :=
  Action.bind_returned hrun _

theorem dumpedText_of_unwound {reason : String}
    (hrun : tool.run (Flasher.dumpArgs partition dump) w = (.unwound reason, w')) :
    dumpedText tool partition dump w = (.unwound reason, w') :=
  Action.bind_unwound (Action.bind_unwound hrun _) _

theorem dumpedText_of_failed {answer : Except Failure ToolAnswer} {failure : Failure}
    (hrun : tool.run (Flasher.dumpArgs partition dump) w = (.returned answer, w'))
    (hchecked : tool.checked (Flasher.dumpArgs partition dump) answer = .error failure) :
    dumpedText tool partition dump w = (.returned (.error failure), w') := by
  rw [dumpedText, Action.bind_returned (dump_of_returned hrun), hchecked]
  rfl

/-- A dump that the tool reports is read from the machine and decoded. -/
theorem dumpedText_of_success {out : ToolAnswer}
    (hrun : tool.run (Flasher.dumpArgs partition dump) w = (.returned (.ok out), w'))
    (hstatus : out.status = 0) :
    dumpedText tool partition dump w =
      (.returned (match w'.machine.contentOf dump with
        | .error cause => .error (.unreadableImage dump cause)
        | .ok data => .ok (Image.text data)), w') := by
  have hchecked : tool.checked (Flasher.dumpArgs partition dump) (.ok out) = .ok () := by
    simp [Flasher.checked, ToolAnswer.success, hstatus]
  rw [dumpedText, Action.bind_returned (dump_of_returned hrun), hchecked]
  cases hread : w'.machine.contentOf dump with
  | error cause => simp [Action.bind_apply, hread]
  | ok data => simp [Action.bind_apply, hread]

theorem checked_of_badStatus {out : ToolAnswer} (hstatus : out.status ≠ 0) :
    tool.checked (Flasher.dumpArgs partition dump) (.ok out) =
      .error (.badStatus (tool.name ++ " -P " ++ partition ++ " -r " ++ dump) out.status) := by
  have hcommand : commandText tool.name (Flasher.dumpArgs partition dump) =
      tool.name ++ " -P " ++ partition ++ " -r " ++ dump := by
    apply String.toList_injective
    simp [commandText, Flasher.dumpArgs]
  rw [tool.checked_of_status_ne_zero hstatus, hcommand]

end Dump

/-- The reading gives what the attempt decides. -/
theorem versionText_of_attempts {tool : Flasher δ} {partition : String} {w : World δ}
    {a : Attempt} (ha : Attempts tool partition w a) :
    (versionText tool partition w).1 = a.ending tool.name partition := by
  cases ha with
  | noScratch hmade =>
      rw [versionText_eq_noScratch hmade]
      rfl
  | unwound hmade hrun =>
      rw [versionText_of_made hmade, dumpedText_of_unwound hrun]
      rfl
  | refused hmade hrun =>
      rw [versionText_of_made hmade, dumpedText_of_failed hrun rfl]
      rfl
  | badStatus hmade hrun hstatus =>
      rw [versionText_of_made hmade, dumpedText_of_failed hrun (checked_of_badStatus hstatus)]
      rfl
  | unreadable hmade hrun hstatus hread =>
      rw [versionText_of_made hmade, dumpedText_of_success hrun hstatus, hread]
      rfl
  | dumped hmade hrun hstatus hread =>
      rw [versionText_of_made hmade, dumpedText_of_success hrun hstatus, hread]
      rfl

/-! ## The scan -/

theorem Registry.processText_snd_of_blank {r : Registry} {text : String}
    (hblank : (r.processText text).1 = .blank) : (r.processText text).2 = r := by
  rw [processText] at hblank ⊢
  split
  · rfl
  next hid =>
    rw [if_neg hid] at hblank
    cases hblank

namespace Manager

variable {tool : Flasher δ} {partition : String} {m : Manager δ}

/-- What is done in the world leaves the registry. -/
theorem onWorld_of_ending {body : Action (World δ) α} {ending : Ending α}
    (hbody : (body m.world).1 = ending) :
    onWorld body m = (ending, { m with world := (body m.world).2 }) := by
  rw [onWorld, Action.on_apply, hbody]

theorem scan_of_unwound {reason : String}
    (hread : (versionText tool partition m.world).1 = .unwound reason) :
    (scan tool partition m).1 = .unwound reason ∧
      (scan tool partition m).2.registry = m.registry := by
  rw [scan, Action.bind_unwound (onWorld_of_ending hread)]
  exact ⟨rfl, rfl⟩

theorem scan_of_failed {failure : Failure}
    (hread : (versionText tool partition m.world).1 = .returned (.error failure)) :
    (scan tool partition m).1 = .returned (.readFailed failure) ∧
      (scan tool partition m).2.registry = m.registry := by
  rw [scan, Action.bind_returned (onWorld_of_ending hread)]
  exact ⟨rfl, rfl⟩

/-- A scan comes to what the processing of a text comes to. -/
def ScansAs (tool : Flasher δ) (partition : String) (m : Manager δ) (text : String) : Prop :=
  ∃ outcome, (processText text m).1 = .returned outcome ∧
    (scan tool partition m).1 = .returned (.read outcome) ∧
    (scan tool partition m).2.registry = (processText text m).2.registry

theorem scan_of_read {text : String}
    (hread : (versionText tool partition m.world).1 = .returned (.ok text)) :
    ScansAs tool partition m text := by
  refine ⟨(m.registry.processText text).1, rfl, ?_⟩
  rw [scan, Action.bind_returned (onWorld_of_ending hread)]
  exact ⟨rfl, rfl⟩

theorem ScansAs.registry_of_blank {text : String} (hscan : ScansAs tool partition m text)
    (hblank : (scan tool partition m).1 = .returned (.read .blank)) :
    (scan tool partition m).2.registry = m.registry := by
  obtain ⟨outcome, hprocess, hending, hregistry⟩ := hscan
  rw [hending] at hblank
  cases hblank
  have hprocessed : (m.registry.processText text).1 = .blank := Ending.returned.inj hprocess
  rw [hregistry, registry_processText, Registry.processText_snd_of_blank hprocessed]

/-- Exactly one attempt to dump the partition happens during a scan. Unless it ends with a dump,
the registry is left alone, and the scan fails with what the attempt ended with or unwinds as the
tool did. With a dump the scan comes to what the processing of the text in it comes to. -/
theorem scan_atomic (tool : Flasher δ) (partition : String) (m : Manager δ) :
    ∃ a, Attempts tool partition m.world a ∧ (∀ b, Attempts tool partition m.world b → b = a) ∧
      match a.ending tool.name partition with
      | .unwound reason =>
          (scan tool partition m).1 = .unwound reason ∧
            (scan tool partition m).2.registry = m.registry
      | .returned (.error failure) =>
          (scan tool partition m).1 = .returned (.readFailed failure) ∧
            (scan tool partition m).2.registry = m.registry
      | .returned (.ok text) =>
          ScansAs tool partition m text ∧
            ((scan tool partition m).1 = .returned (.read .blank) →
              (scan tool partition m).2.registry = m.registry) := by
  obtain ⟨a, ha⟩ := exists_attempts tool partition m.world
  refine ⟨a, ha, fun b hb => ha.unique hb, ?_⟩
  have hread := versionText_of_attempts ha
  split
  next hending => exact scan_of_unwound (hread.trans hending)
  next hending => exact scan_of_failed (hread.trans hending)
  next hending =>
    have hscan := scan_of_read (hread.trans hending)
    exact ⟨hscan, hscan.registry_of_blank⟩

end Manager

end HostFlash.Firmware
