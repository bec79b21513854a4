import HostFlash.Proofs.Calls.Recording

/-!
# The calls of the operations

Which calls a scan, a factory reset and the clearing of the guard records make, over a tool that
may answer as it likes, fail or unwind at every call. The clears of a factory reset are a `Sweep`
of the candidates that the listing gave.
-/

namespace HostFlash

open Recording (silently)

variable {δ α β : Type} (tool : Flasher δ) (mediator : Mediator δ)

/-! ## The tool -/

/-- One call and no other. It returned if the action did, with an answer that gives the value. -/
def Call.only (args : List String) (result : Except Failure ToolAnswer → α)
    (ending : Ending α) (made : List Call) : Prop :=
  (∃ answer, ending = .returned (result answer) ∧ made = [.run args (.returned answer)]) ∨
    ∃ reason, ending = .unwound reason ∧ made = [.run args (.unwound reason)]

theorem Call.only_run {args : List String} {result : Except Failure ToolAnswer → α}
    {ending : Ending α} {made : List Call} (h : Call.only args result ending made) :
    ∃ answered, made = [.run args answered] := by
  rcases h with ⟨answer, _, hmade⟩ | ⟨reason, _, hmade⟩
  · exact ⟨_, hmade⟩
  · exact ⟨_, hmade⟩

namespace Flasher

theorem traces_run (args : List String) :
    World.recording.Traces (tool.recorded.run args) (tool.run args) (Call.only args id) := by
  apply (World.traces_record (tool.run args) (.run args)).mono
  rintro ending made rfl
  cases ending with
  | returned answer => exact Or.inl ⟨answer, rfl, rfl⟩
  | unwound reason => exact Or.inr ⟨reason, rfl, rfl⟩

/-- What is done silently with the value of a call leaves it the only one. -/
theorem traces_only_bind {args : List String} {result : Except Failure ToolAnswer → α}
    {M : Action (World (Recorded δ)) α} {m : Action (World δ) α}
    {F : α → Action (World (Recorded δ)) β} {f : α → Action (World δ) β} {g : α → β}
    (hm : World.recording.Traces M m (Call.only args result))
    (hf : ∀ a, World.recording.Traces (F a) (f a) (silently (· = g a))) :
    World.recording.Traces (M >>= F) (m >>= f) (Call.only args (g ∘ result)) := by
  apply (hm.bind hf).mono
  rintro ending made (⟨reason, rfl, hfirst⟩ | ⟨a, first, rest, rfl, hfirst, hrest⟩)
  · rcases hfirst with ⟨answer, hending, _⟩ | ⟨reason', hending, rfl⟩
    · cases hending
    · cases hending
      exact Or.inr ⟨reason, rfl, rfl⟩
  · obtain ⟨⟨b, rfl, rfl⟩, rfl⟩ := hrest
    rcases hfirst with ⟨answer, hending, rfl⟩ | ⟨reason, hending, _⟩
    · cases hending
      exact Or.inl ⟨answer, rfl, rfl⟩
    · cases hending

theorem traces_runToSuccess (args : List String) :
    World.recording.Traces (tool.recorded.runToSuccess args) (tool.runToSuccess args)
      (Call.only args (tool.checked args)) :=
  traces_only_bind (tool.traces_run args) fun _ => Recording.traces_pure rfl

end Flasher

/-! ## Scanning -/

namespace Firmware

/-- At most one call, which dumps the partition. -/
def atMostOneDump (partition : String) (made : List Call) : Prop :=
  made = [] ∨ ∃ dump answered, made = [.run (Flasher.dumpArgs partition dump) answered]

theorem traces_removeScratch (path : String) :
    (World.recording (δ := δ)).Traces (removeScratch path) (removeScratch path)
      (silently fun _ => True) := by
  apply (World.traces_onMachine _).afterSilent
  intro removed _
  cases removed with
  | ok _ => exact Recording.traces_pure trivial
  | error cause => exact World.traces_report _

/-- Taking the scratch directory away behind an action calls nobody. -/
theorem traces_withScratch (path : String) {M : Action (World (Recorded δ)) α}
    {m : Action (World δ) α} {P : Ending α → List Call → Prop}
    (h : World.recording.Traces M m P) :
    World.recording.Traces (withScratch path M) (withScratch path m) P := by
  intro w
  obtain ⟨hrun, made, hmade, hP⟩ := h w
  unfold withScratch
  rw [hrun]
  -- The cleanup differs with the ending, so this is neither a sequence nor `ensuring`.
  cases hM : M w with
  | mk ending w' =>
      rw [hM] at hmade hP
      cases ending with
      | returned a =>
          have hclose : World.recording.Traces
              (do removeScratch path; pure a : Action (World (Recorded δ)) α)
              (do removeScratch path; pure a) (silently (· = a)) :=
            (traces_removeScratch path).afterSilent fun _ _ => Recording.traces_pure rfl
          obtain ⟨hrest, rest, hcalls, ⟨b, hending, rfl⟩, rfl⟩ := hclose w'
          refine ⟨hrest, made, ?_, ?_⟩
          · rw [hcalls, hmade, List.append_nil]
          · show P ((removeScratch path >>= fun _ => pure b) w').1 made
            rw [hending]
            exact hP
      | unwound reason =>
          have hclose : World.recording.Traces
              (do discardScratch path; .unwind reason : Action (World (Recorded δ)) α)
              (do discardScratch path; .unwind reason)
              fun ending made => ending = .unwound reason ∧ made = [] :=
            (World.traces_onMachine _).afterSilent fun _ _ => Recording.traces_unwind reason
          obtain ⟨hrest, rest, hcalls, hending, rfl⟩ := hclose w'
          refine ⟨hrest, made, ?_, ?_⟩
          · rw [hcalls, hmade, List.append_nil]
          · show P ((discardScratch path >>= fun _ => .unwind reason) w').1 made
            rw [hending]
            exact hP

theorem traces_dumpedText (partition dump : String) :
    World.recording.Traces (dumpedText tool.recorded partition dump)
      (dumpedText tool partition dump) fun _ made => atMostOneDump partition made := by
  unfold dumpedText
  refine Recording.Traces.mono (Recording.Traces.bind (Q := fun _ => silently fun _ => True)
    (tool.traces_runToSuccess (Flasher.dumpArgs partition dump)) ?read) ?calls
  case read =>
    intro result
    cases result with
    | error failure => exact Recording.traces_pure trivial
    | ok _ =>
        apply (World.traces_onMachine _).afterSilent
        intro content _
        cases content with
        | error cause => exact Recording.traces_pure trivial
        | ok data => exact Recording.traces_pure trivial
  case calls =>
    rintro ending made (⟨reason, rfl, hfirst⟩ | ⟨result, first, rest, rfl, hfirst, _, rfl⟩)
    · exact Or.inr ⟨dump, Call.only_run hfirst⟩
    · rw [List.append_nil]
      exact Or.inr ⟨dump, Call.only_run hfirst⟩

/-- Reading the version text dumps the partition, or does not come to that. -/
theorem traces_versionText (partition : String) :
    World.recording.Traces (versionText tool.recorded partition) (versionText tool partition)
      fun _ made => atMostOneDump partition made := by
  apply (World.traces_onMachine _).afterSilent
  intro scratch _
  cases scratch with
  | error failure =>
      exact (Recording.traces_pure (P := fun _ => True) trivial).mono fun _ _ h => Or.inl h.2
  | ok path => exact traces_withScratch path (traces_dumpedText tool partition _)

namespace Manager

theorem traces_processText (text : String) :
    (recording (δ := δ)).Traces (processText text) (processText text)
      (silently fun _ => True) :=
  (traces_onRegistry _).afterSilent fun _ _ =>
    (traces_onWorld (World.traces_report _)).afterSilent fun _ _ =>
      Recording.traces_pure trivial

theorem traces_scan (partition : String) :
    recording.Traces (scan tool.recorded partition) (scan tool partition)
      fun _ made => atMostOneDump partition made := by
  unfold scan
  refine Recording.Traces.mono (Recording.Traces.bind (Q := fun _ => silently fun _ => True)
    (traces_onWorld (traces_versionText tool partition)) ?publish) ?calls
  case publish =>
    intro result
    cases result with
    | error failure =>
        exact (traces_onWorld (World.traces_report _)).afterSilent fun _ _ =>
          Recording.traces_pure trivial
    | ok text =>
        exact (traces_processText text).afterSilent fun _ _ => Recording.traces_pure trivial
  case calls =>
    rintro ending made (⟨reason, rfl, hfirst⟩ | ⟨result, first, rest, rfl, hfirst, _, rfl⟩)
    · exact hfirst
    · rwa [List.append_nil]

end Manager

end Firmware

/-! ## Clearing -/

/-- The clears of candidates in order, each called once, up to the first that unwinds. -/
inductive Sweep : List Candidate → List Call → Prop where
  | done : Sweep [] []
  | cleared (c : Candidate) (answer : Except Failure ToolAnswer) {rest : List Candidate}
      {made : List Call} (hrest : Sweep rest made) :
      Sweep (c :: rest) (.run (Flasher.clearArgs c.name c.clearKind) (.returned answer) :: made)
  | broken (c : Candidate) (rest : List Candidate) (reason : String) :
      Sweep (c :: rest) [.run (Flasher.clearArgs c.name c.clearKind) (.unwound reason)]

/-- The clears of candidates in order, all of which return, and what they come to. -/
inductive Reported : List Candidate → List ClearOutcome → List Call → Prop where
  | done : Reported [] [] []
  | cleared (c : Candidate) (answer : Except Failure ToolAnswer) {rest : List Candidate}
      {outcomes : List ClearOutcome} {made : List Call} (hrest : Reported rest outcomes made) :
      Reported (c :: rest)
        (⟨c.name, c.clearKind,
          tool.checked (Flasher.clearArgs c.name c.clearKind) answer⟩ :: outcomes)
        (.run (Flasher.clearArgs c.name c.clearKind) (.returned answer) :: made)

namespace FactoryReset

theorem traces_clear (name : String) (mode : ClearKind) :
    World.recording.Traces (clear tool.recorded name mode) (clear tool name mode)
      (Call.only (Flasher.clearArgs name mode)
        fun answer => ⟨name, mode, tool.checked (Flasher.clearArgs name mode) answer⟩) := by
  unfold clear
  refine Flasher.traces_only_bind (g := fun result => (⟨name, mode, result⟩ : ClearOutcome))
    (tool.traces_runToSuccess (Flasher.clearArgs name mode)) fun result => ?_
  exact (World.traces_report _).afterSilent fun _ _ => Recording.traces_pure rfl

/-- The candidates are swept. If none of the clears unwinds, each has its outcome. -/
theorem traces_clearAll (candidates : List Candidate) :
    World.recording.Traces (clearAll tool.recorded candidates) (clearAll tool candidates)
      fun ending made => Sweep candidates made ∧
        ∀ outcomes, ending = .returned outcomes → Reported tool candidates outcomes made := by
  induction candidates with
  | nil =>
      apply (Recording.traces_pure (P := (· = [])) rfl).mono
      rintro ending made ⟨⟨_, rfl, rfl⟩, rfl⟩
      refine ⟨.done, fun outcomes heq => ?_⟩
      cases heq
      exact .done
  | cons c rest ih =>
      unfold clearAll
      apply ((traces_clear tool c.name c.clearKind).bind fun outcome => ih.map (outcome :: ·)).mono
      rintro ending made (⟨reason, rfl, hfirst⟩ | ⟨outcome, first, last, rfl, hfirst, hlast⟩)
      · rcases hfirst with ⟨answer, hending, _⟩ | ⟨reason', hending, rfl⟩
        · cases hending
        · exact ⟨.broken c rest reason', fun outcomes heq => nomatch heq⟩
      · rcases hfirst with ⟨answer, hending, rfl⟩ | ⟨reason, hending, _⟩
        · cases hending
          obtain ⟨before, rfl, hsweep, hreported⟩ := hlast
          refine ⟨.cleared c answer hsweep, fun outcomes heq => ?_⟩
          cases before with
          | unwound reason => cases heq
          | returned others =>
              cases heq
              exact .cleared c answer (hreported others rfl)
        · cases hending

end FactoryReset

namespace Mediator

/-- Both signals return, as those of a service that never reports back do. -/
def Returns (mediator : Mediator δ) : Prop :=
  (∀ w, (mediator.suspend w).1 = .returned ()) ∧ ∀ w, (mediator.resume w).1 = .returned ()

variable {mediator}

theorem traces_suspend (hmediator : mediator.Returns) :
    World.recording.Traces mediator.recorded.suspend mediator.suspend
      fun ending made => ending = .returned () ∧ made = [.suspend] :=
  fun w => ⟨rfl, _, rfl, hmediator.1 w.forget, rfl⟩

theorem traces_resume (hmediator : mediator.Returns) :
    World.recording.Traces mediator.recorded.resume mediator.resume
      fun ending made => ending = .returned () ∧ made = [.resume] :=
  fun w => ⟨rfl, _, rfl, hmediator.2 w.forget, rfl⟩

/-- The calls of the body stand between a suspend and a resume, however the body ends. -/
theorem traces_whileSuspended (hmediator : mediator.Returns)
    {M : Action (World (Recorded δ)) α} {m : Action (World δ) α}
    {P : Ending α → List Call → Prop} (h : World.recording.Traces M m P) :
    World.recording.Traces (mediator.recorded.whileSuspended M) (mediator.whileSuspended m)
      fun ending made => ∃ body, made = .suspend :: (body ++ [.resume]) ∧ P ending body := by
  apply ((traces_suspend hmediator).bind fun _ =>
    h.ensuring (traces_resume hmediator)).mono
  rintro ending made (⟨reason, _, hsuspend, _⟩ |
    ⟨_, first, rest, rfl, ⟨_, rfl⟩, before, _, body, last, rfl, rfl, hP, rfl, rfl⟩)
  · cases hsuspend
  · exact ⟨body, rfl, hP⟩

end Mediator

namespace Listing

theorem traces_query :
    World.recording.Traces (query tool.recorded) (query tool)
      (Call.only Flasher.listArgs fun answer => (ofAnswer answer).2) :=
  Flasher.traces_only_bind (g := fun answer => (ofAnswer answer).2)
    (tool.traces_run Flasher.listArgs) fun _ =>
      (World.traces_report _).afterSilent fun _ _ => Recording.traces_pure rfl

end Listing

namespace FactoryReset

variable {mediator}

/-- A factory reset lists the partitions. If that returns, it suspends the service, sweeps the
candidates and resumes the service. -/
theorem traces_run (hmediator : mediator.Returns) :
    World.recording.Traces (run tool.recorded mediator.recorded) (run tool mediator)
      fun _ made =>
        (∃ reason, made = [.run Flasher.listArgs (.unwound reason)]) ∨
          ∃ answer body, made = .run Flasher.listArgs (.returned answer) :: .suspend ::
            (body ++ [.resume]) ∧ Sweep (Listing.ofAnswer answer).2 body := by
  unfold run
  refine Recording.Traces.mono (Recording.Traces.bind
    (Q := fun candidates _ made =>
      ∃ body, made = .suspend :: (body ++ [.resume]) ∧ Sweep candidates body)
    (Listing.traces_query tool) ?clears) ?calls
  case clears =>
    intro candidates
    refine (World.traces_report _).afterSilent fun _ _ => ?_
    apply (Mediator.traces_whileSuspended hmediator
      ((traces_clearAll tool candidates).map ResetSummary.mk)).mono
    rintro ending made ⟨body, rfl, before, _, hsweep, _⟩
    exact ⟨body, rfl, hsweep⟩
  case calls =>
    rintro ending made
      (⟨reason, rfl, hlist⟩ | ⟨candidates, first, rest, rfl, hlist, body, rfl, hsweep⟩)
    · rcases hlist with ⟨answer, hending, _⟩ | ⟨reason', _, rfl⟩
      · cases hending
      · exact Or.inl ⟨reason', rfl⟩
    · rcases hlist with ⟨answer, hending, rfl⟩ | ⟨reason, hending, _⟩
      · cases hending
        exact Or.inr ⟨answer, body, rfl, hsweep⟩
      · cases hending

theorem traces_clearGuard (hmediator : mediator.Returns) (guard : String) :
    World.recording.Traces (clearGuard tool.recorded mediator.recorded guard)
      (clearGuard tool mediator guard) fun _ made =>
        ∃ answered, made = [.suspend, .run (Flasher.clearArgs guard .ecc) answered, .resume] := by
  apply (Mediator.traces_whileSuspended hmediator (traces_clear tool guard .ecc)).mono
  rintro ending made ⟨body, rfl, hbody⟩
  obtain ⟨answered, rfl⟩ := Call.only_run hbody
  exact ⟨answered, rfl⟩

end FactoryReset

end HostFlash
