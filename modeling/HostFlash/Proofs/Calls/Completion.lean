import HostFlash.CommandLine.Program
import HostFlash.Flash.Script
import HostFlash.Proofs.Calls.Operations
import HostFlash.Proofs.Listing.Lines

/-!
# What a successful reset has done

A factory reset that is confirmed reports one outcome for each of its clears, so a run of it that
ends with status 0 has made every clear that the listing asks for, and the tool has reported
success for each. A listing that could not be made asks for none: the reset then succeeds without
having cleared anything.
-/

namespace HostFlash

variable {δ α : Type}

/-! ## Reported clears -/

theorem Flasher.checked_eq_ok_iff {tool : Flasher δ} {args : List String}
    {answer : Except Failure ToolAnswer} :
    tool.checked args answer = .ok () ↔ ∃ out, answer = .ok out ∧ out.status = 0 := by
  cases answer with
  | error failure => simp [Flasher.checked]
  | ok out => simp [Flasher.checked, ToolAnswer.success]

theorem ClearOutcome.isOk_iff (o : ClearOutcome) : o.isOk = true ↔ o.result = .ok () := by
  unfold isOk
  cases o.result with
  | error failure => simp
  | ok value => simp

theorem Reported.eq_nil {tool : Flasher δ} {outcomes : List ClearOutcome} {made : List Call}
    (h : Reported tool [] outcomes made) : made = [] := by
  cases h
  rfl

/-- If every outcome is a success, then every candidate was cleared. -/
theorem Reported.exists_clear {tool : Flasher δ} {candidates : List Candidate}
    {outcomes : List ClearOutcome} {made : List Call} (h : Reported tool candidates outcomes made)
    (hok : ∀ o ∈ outcomes, o.isOk = true) :
    ∀ c ∈ candidates, ∃ out : ToolAnswer,
      .run (Flasher.clearArgs c.name c.clearKind) (.returned (.ok out)) ∈ made ∧
        out.status = 0 := by
  induction h with
  | done => exact fun c hc => nomatch hc
  | cleared c answer hrest ih =>
      rw [List.forall_mem_cons] at hok
      obtain ⟨hfirst, hothers⟩ := hok
      obtain ⟨out, rfl, hstatus⟩ :=
        Flasher.checked_eq_ok_iff.mp ((ClearOutcome.isOk_iff _).mp hfirst)
      rintro other (_ | ⟨_, hother⟩)
      · exact ⟨out, List.mem_cons_self, hstatus⟩
      · obtain ⟨out', hmade, hstatus'⟩ := ih hothers other hother
        exact ⟨out', List.mem_cons_of_mem _ hmade, hstatus'⟩

/-! ## Calls up to a return -/

/-- An action that returns while the service is suspended had both signals around it. This holds
for signals that may unwind too. -/
theorem Mediator.traces_whileSuspended_returned {mediator : Mediator δ}
    {M : Action (World (Recorded δ)) α} {m : Action (World δ) α}
    {P : Ending α → List Call → Prop} (h : World.recording.Traces M m P) :
    World.recording.Traces (mediator.recorded.whileSuspended M) (mediator.whileSuspended m)
      fun ending made => ∀ a, ending = .returned a →
        ∃ body, made = .suspend :: (body ++ [.resume]) ∧ P (.returned a) body := by
  apply ((World.traces_record mediator.suspend fun _ => .suspend).bind fun _ =>
    h.ensuring (World.traces_record mediator.resume fun _ => .resume)).mono
  rintro ending made (⟨reason, rfl, _⟩ |
    ⟨_, first, rest, rfl, rfl, before, closing, body, last, rfl, rfl, hP, rfl⟩) a hending
  · cases hending
  · -- A resume that unwinds leaves no value, so what was returned is what the body returned.
    cases closing with
    | unwound reason => cases hending
    | returned _ =>
        have hbefore : before = .returned a := hending
        subst hbefore
        exact ⟨body, rfl, hP⟩

/-- The calls of a factory reset that returns, over any tool and any mediator. -/
def ResetCalls (tool : Flasher δ) (summary : ResetSummary) (made : List Call) : Prop :=
  ∃ answer clears,
    made = .run Flasher.listArgs (.returned answer) :: .suspend :: (clears ++ [.resume]) ∧
      Reported tool (Listing.ofAnswer answer).2 summary.outcomes clears

theorem FactoryReset.traces_run_returned (tool : Flasher δ) (mediator : Mediator δ) :
    World.recording.Traces (run tool.recorded mediator.recorded) (run tool mediator)
      fun ending made => ∀ summary, ending = .returned summary → ResetCalls tool summary made := by
  unfold run
  refine Recording.Traces.mono (Recording.Traces.bind
    (Q := fun candidates ending made => ∀ summary : ResetSummary, ending = .returned summary →
      ∃ clears, made = .suspend :: (clears ++ [.resume]) ∧
        Reported tool candidates summary.outcomes clears)
    (Listing.traces_query tool) ?clears) ?calls
  case clears =>
    intro candidates
    refine (World.traces_report _).afterSilent fun _ _ => ?_
    apply (Mediator.traces_whileSuspended_returned
      ((traces_clearAll tool candidates).map ResetSummary.mk)).mono
    intro ending made hmade summary hending
    obtain ⟨clears, rfl, before, hbefore, _, hreported⟩ := hmade summary hending
    obtain ⟨outcomes, rfl, rfl⟩ := Ending.map_eq_returned_iff.mp hbefore.symm
    exact ⟨clears, rfl, hreported outcomes rfl⟩
  case calls =>
    rintro ending made (⟨reason, rfl, _⟩ | ⟨candidates, first, rest, rfl, hlist, hrest⟩)
      summary hending
    · cases hending
    · obtain ⟨clears, rfl, hreported⟩ := hrest summary hending
      rcases hlist with ⟨answer, hanswer, rfl⟩ | ⟨reason, hanswer, _⟩
      · cases hanswer
        exact ⟨answer, clears, rfl, hreported⟩
      · cases hanswer

/-- What the tool has answered to a call of it. -/
def Call.answer? : Call → Option ToolAnswer
  | .run _ (.returned (.ok out)) => some out
  | _ => none

namespace CommandLine

/-! ## The command -/

theorem status_ofReport_eq_zero_iff {machine : Machine} {report : Report} :
    (ofReport machine report).status = 0 ↔ report.failure = none := by
  unfold ofReport
  cases report.failure with
  | none => simp
  | some message => simp [failedRun]

theorem Report.isOk_of_ofReset {summary : ResetSummary}
    (hsuccess : (ofReset summary).failure = none) : ∀ o ∈ summary.outcomes, o.isOk = true := by
  unfold ofReset at hsuccess
  split at hsuccess
  next hcomplete => exact List.all_eq_true.mp hcomplete
  next => cases hsuccess

theorem Report.traces_factoryReset (tool : Flasher δ) (mediator : Mediator δ) :
    World.recording.Traces (factoryReset tool.recorded mediator.recorded true)
      (factoryReset tool mediator true) fun ending made => ∀ report, ending = .returned report →
        ∃ summary, report = ofReset summary ∧ ResetCalls tool summary made := by
  apply ((FactoryReset.traces_run_returned tool mediator).map ofReset).mono
  rintro ending made ⟨before, rfl, hmade⟩ report hending
  obtain ⟨summary, rfl, rfl⟩ := Ending.map_eq_returned_iff.mp hending
  exact ⟨summary, rfl, hmade summary rfl⟩

/-- A confirmed factory reset that ends with status 0 has listed the partitions. If the tool has
answered, every line that begins like an entry and describes a candidate was followed by a clear
of that candidate for which the tool has reported success. If the tool could not be run for the
listing, nothing was cleared. -/
theorem factoryReset_success (tool : Flasher δ) (mediator : Mediator δ) (w : World δ)
    {report : Report} {w' : World δ}
    (hreturned : Report.factoryReset tool mediator true w = (.returned report, w'))
    (hstatus : (ofReport w'.machine report).status = 0) :
    ∃ (recorded : World (Recorded δ)) (answer : Except Failure ToolAnswer) (clears : List Call),
      Report.factoryReset tool.recorded mediator.recorded true w.recorded =
          (.returned report, recorded) ∧
        recorded.forget = w' ∧
        recorded.device.calls =
          .run Flasher.listArgs (.returned answer) :: .suspend :: (clears ++ [.resume]) ∧
        (∀ failure, answer = .error failure → clears = []) ∧
        ∀ out, answer = .ok out →
          ∀ line ∈ Text.lines out.output.toList, ['I', 'D'] <+: line →
            ∀ c, Listing.candidate? line = some c →
              ∃ cleared : ToolAnswer,
                .run (Flasher.clearArgs c.name c.clearKind) (.returned (.ok cleared)) ∈ clears ∧
                  cleared.status = 0 := by
  obtain ⟨hrun, made, hmade, hcalls⟩ := Report.traces_factoryReset tool mediator w.recorded
  obtain ⟨hending, hworld⟩ := Prod.mk.inj (hreturned.symm.trans hrun)
  obtain ⟨summary, rfl, answer, clears, rfl, hreported⟩ := hcalls report hending.symm
  have hok := Report.isOk_of_ofReset (status_ofReport_eq_zero_iff.mp hstatus)
  refine ⟨_, answer, clears, Prod.ext hending.symm rfl, hworld.symm, hmade, ?_, ?_⟩
  · rintro failure rfl
    exact hreported.eq_nil
  · rintro out rfl line hline hentry c hc
    apply hreported.exists_clear hok
    rw [Listing.ofAnswer, Listing.candidates_entryLines_eq, List.mem_filterMap]
    refine ⟨line, List.mem_filter.mpr ⟨hline, ?_⟩, hc⟩
    exact List.isPrefixOf_iff_prefix.mpr hentry

/-- A world in which the tool follows a script. -/
def scripted (rules : List Script.Rule) : World Script where
  machine := ⟨⟨[]⟩, [], "/tmp", 0⟩
  log := []
  device := ⟨rules, []⟩

/-- A listing with a protected partition that is to be cleared. -/
def protectedListing : ToolAnswer := .ok "ID=01  HBEL 0x00008000 [E----F-C-]\n"

/-- A script in which the tool lists that partition and answers everything else with success. -/
def listedRules : List Script.Rule := [⟨["-i"], none, .answer none protectedListing⟩]

theorem scripted_success :
    ∃ report w' recorded clears,
      Report.factoryReset (Script.tool "pflash") Script.mediator true (scripted listedRules) =
          (.returned report, w') ∧
        (ofReport w'.machine report).status = 0 ∧
        Report.factoryReset (Script.tool "pflash").recorded Script.mediator.recorded true
            (scripted listedRules).recorded = (.returned report, recorded) ∧
        recorded.device.calls =
          .run ["-i"] (.returned (.ok protectedListing)) :: .suspend :: (clears ++ [.resume]) ∧
        ∃ cleared : ToolAnswer,
          .run ["-P", "HBEL", "-c", "-f"] (.returned (.ok cleared)) ∈ clears ∧
            cleared.status = 0 := by
  have hsuccess : (Report.factoryReset (Script.tool "pflash") Script.mediator true
      (scripted listedRules)).1.map (·.failure) = .returned none := by
    decide +kernel
  have hlisted : (Report.factoryReset (Script.tool "pflash").recorded Script.mediator.recorded true
      (scripted listedRules).recorded).2.device.calls.head?.bind Call.answer? =
        some protectedListing := by
    decide +kernel
  cases hreturned : Report.factoryReset (Script.tool "pflash") Script.mediator true
      (scripted listedRules) with
  | mk ending w' =>
  rw [hreturned] at hsuccess
  obtain ⟨report, rfl, hfailure⟩ := Ending.map_eq_returned_iff.mp hsuccess
  have hstatus : (ofReport w'.machine report).status = 0 :=
    status_ofReport_eq_zero_iff.mpr hfailure
  obtain ⟨recorded, answer, clears, hrun, _, hcalls, _, hcleared⟩ :=
    factoryReset_success (Script.tool "pflash") Script.mediator (scripted listedRules) hreturned
      hstatus
  -- The listing is the first call, and the script says what it was answered with.
  rw [hrun, hcalls, List.head?_cons, Option.bind_some] at hlisted
  have hanswer : answer = .ok protectedListing := by
    cases answer with
    | error failure => cases hlisted
    | ok out => exact congrArg Except.ok (Option.some.inj hlisted)
  subst hanswer
  refine ⟨report, w', recorded, clears, rfl, hstatus, hrun, hcalls, ?_⟩
  exact hcleared protectedListing rfl "ID=01  HBEL 0x00008000 [E----F-C-]".toList
    (by decide +kernel) (by decide +kernel) ⟨"HBEL", true, true⟩ (by decide +kernel)

/-- A script in which the tool is not found when it is asked for the listing. -/
def missingRules : List Script.Rule := [⟨["-i"], none, .missing⟩]

/-- A reset whose listing could not be made ends with status 0 all the same. -/
theorem scripted_missing :
    ∃ report w' recorded,
      Report.factoryReset (Script.tool "pflash") Script.mediator true (scripted missingRules) =
          (.returned report, w') ∧
        (ofReport w'.machine report).status = 0 ∧
        Report.factoryReset (Script.tool "pflash").recorded Script.mediator.recorded true
            (scripted missingRules).recorded = (.returned report, recorded) ∧
        recorded.device.calls =
          [.run ["-i"] (.returned (.error (.notStarted "pflash" .noEntry))), .suspend, .resume] ∧
        ∀ out, Call.run ["-i"] (.returned (.ok out)) ∉ recorded.device.calls := by
  have hcalls : ∀ out, Call.run ["-i"] (.returned (.ok out)) ∉
      [.run ["-i"] (.returned (.error (.notStarted "pflash" .noEntry))), .suspend, .resume] := by
    simp
  exact ⟨_, _, _, rfl, rfl, rfl, rfl, hcalls⟩

end CommandLine

end HostFlash
