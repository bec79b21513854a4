import Mathlib.Data.List.Basic
import HostFlash.Proofs.Calls.Completion

/-!
# Every candidate is attempted and reported

Over a tool all of whose calls return, a factory reset returns too, however its clears are
answered. It calls the tool once for each candidate, in the order of the listing, and the entry of
the report for a candidate says how that one call was answered. The report falls apart into what
was cleared and what failed.
-/

namespace HostFlash

/-! ## Actions that return -/

namespace Action

variable {σ α β : Type}

/-- The action returns from every state. -/
def Total (m : Action σ α) : Prop := ∀ s, ∃ a s', m s = (.returned a, s')

theorem total_of_fst {m : Action σ α} (h : ∀ s, ∃ a, (m s).1 = .returned a) : m.Total := by
  intro s
  obtain ⟨a, ha⟩ := h s
  exact ⟨a, (m s).2, Prod.ext ha rfl⟩

theorem total_pure (a : α) : (pure a : Action σ α).Total := fun s => ⟨a, s, rfl⟩

theorem Total.bind {m : Action σ α} {f : α → Action σ β} (hm : m.Total) (hf : ∀ a, (f a).Total) :
    (m >>= f).Total := by
  intro s
  obtain ⟨a, s', hs⟩ := hm s
  obtain ⟨b, s'', hs'⟩ := hf a s'
  exact ⟨b, s'', (bind_returned hs f).trans hs'⟩

theorem Total.ensuring {body : Action σ α} {cleanup : Action σ Unit} (hbody : body.Total)
    (hcleanup : cleanup.Total) : (body.ensuring cleanup).Total := by
  intro s
  obtain ⟨a, s', hs⟩ := hbody s
  obtain ⟨_, s'', hs'⟩ := hcleanup s'
  exact ⟨a, s'', ensuring_apply hs hs'⟩

end Action

variable {δ : Type}

theorem World.total_report (lines : List LogLine) : (World.report (δ := δ) lines).Total :=
  fun w => ⟨(), _, World.report_apply lines w⟩

/-- Every call of the tool returns, with whatever answer. -/
def Flasher.Returns (tool : Flasher δ) : Prop :=
  ∀ args w, ∃ answer, (tool.run args w).1 = .returned answer

theorem Flasher.Returns.total_run {tool : Flasher δ} (htool : tool.Returns) (args : List String) :
    (tool.run args).Total :=
  Action.total_of_fst (htool args)

theorem Mediator.Returns.total_whileSuspended {α : Type} {mediator : Mediator δ}
    (hmediator : mediator.Returns) {body : Action (World δ) α} (hbody : body.Total) :
    (mediator.whileSuspended body).Total := by
  have hsuspend : mediator.suspend.Total :=
    Action.total_of_fst fun w => ⟨(), hmediator.1 w⟩
  have hresume : mediator.resume.Total :=
    Action.total_of_fst fun w => ⟨(), hmediator.2 w⟩
  exact hsuspend.bind fun _ => hbody.ensuring hresume

namespace FactoryReset

variable {tool : Flasher δ} {mediator : Mediator δ}

theorem total_clear (htool : tool.Returns) (name : String) (mode : ClearKind) :
    (clear tool name mode).Total := by
  have hresult : (tool.clear name mode).Total :=
    (htool.total_run _).bind fun _ => Action.total_pure _
  exact hresult.bind fun _ => (World.total_report _).bind fun _ => Action.total_pure _

theorem total_clearAll (htool : tool.Returns) (candidates : List Candidate) :
    (clearAll tool candidates).Total := by
  induction candidates with
  | nil => exact Action.total_pure []
  | cons c rest ih =>
      exact (total_clear htool c.name c.clearKind).bind fun _ => ih.bind fun _ =>
        Action.total_pure _

theorem total_run (htool : tool.Returns) (hmediator : mediator.Returns) :
    (run tool mediator).Total := by
  have hquery : (Listing.query tool).Total :=
    (htool.total_run _).bind fun _ => (World.total_report _).bind fun _ => Action.total_pure _
  refine hquery.bind fun candidates => (World.total_report _).bind fun _ => ?_
  exact hmediator.total_whileSuspended
    ((total_clearAll htool candidates).bind fun _ => Action.total_pure _)

end FactoryReset

/-! ## Entries of the report -/

/-- The arguments that clear a candidate in its mode. -/
def Candidate.clearCommand (c : Candidate) : List String :=
  ["-P", c.name, if c.hasEcc then "-c" else "-e", "-f"]

theorem Candidate.clearArgs_clearKind (c : Candidate) :
    Flasher.clearArgs c.name c.clearKind = c.clearCommand := by
  unfold Flasher.clearArgs clearKind clearCommand
  cases c.hasEcc with
  | true => rfl
  | false => rfl

theorem commandText_clear (toolName name : String) (hasEcc : Bool) :
    commandText toolName ["-P", name, if hasEcc then "-c" else "-e", "-f"] =
      toolName ++ " -P " ++ name ++ (if hasEcc then " -c" else " -e") ++ " -f" := by
  apply String.toList_injective
  cases hasEcc with
  | true => simp [commandText]
  | false => simp [commandText]

/-- The outcome says how the clear of a candidate was answered. -/
structure ClearOutcome.Truthful (tool : Flasher δ) (c : Candidate)
    (answer : Except Failure ToolAnswer) (o : ClearOutcome) : Prop where
  name : o.name = c.name
  mode : o.mode = if c.hasEcc then .ecc else .erase
  ok : o.result = .ok () ↔ ∃ out, answer = .ok out ∧ out.status = 0
  /-- A status other than zero is reported with the command line of the call. -/
  badStatus : ∀ out, answer = .ok out → out.status ≠ 0 →
    o.result = .error (.badStatus
      (tool.name ++ " -P " ++ c.name ++ (if c.hasEcc then " -c" else " -e") ++ " -f") out.status)
  /-- A call without an answer is reported with its own failure. -/
  failure : ∀ failure, answer = .error failure → o.result = .error failure

theorem ClearOutcome.truthful_checked (tool : Flasher δ) (c : Candidate)
    (answer : Except Failure ToolAnswer) :
    Truthful tool c answer ⟨c.name, c.clearKind, tool.checked c.clearCommand answer⟩ where
  name := rfl
  mode := rfl
  ok := Flasher.checked_eq_ok_iff
  badStatus := by
    rintro out rfl hstatus
    rw [← commandText_clear]
    exact tool.checked_of_status_ne_zero hstatus
  failure := by
    rintro failure rfl
    rfl

namespace Reported

variable {tool : Flasher δ} {candidates : List Candidate} {outcomes : List ClearOutcome}
  {made : List Call}

theorem length_eq (h : Reported tool candidates outcomes made) :
    made.length = candidates.length ∧ outcomes.length = candidates.length := by
  induction h with
  | done => exact ⟨rfl, rfl⟩
  | cleared c answer hrest ih =>
      simp only [List.length_cons]
      exact ⟨congrArg (· + 1) ih.1, congrArg (· + 1) ih.2⟩

/-- Calls and outcomes are in the places of their candidates. -/
theorem getElem? (h : Reported tool candidates outcomes made) {i : Nat} {c : Candidate}
    (hc : candidates[i]? = some c) :
    ∃ answer o, made[i]? = some (.run c.clearCommand (.returned answer)) ∧
      outcomes[i]? = some o ∧ o.Truthful tool c answer := by
  induction h generalizing i with
  | done => cases hc
  | cleared c' answer hrest ih =>
      cases i with
      | zero =>
          obtain rfl := Option.some.inj hc
          rw [Candidate.clearArgs_clearKind]
          exact ⟨answer, _, rfl, rfl, ClearOutcome.truthful_checked tool c' answer⟩
      | succ i => exact ih hc

end Reported

/-! ## Parts of the report -/

/-- A report is what was cleared and what failed, each in the order of the report. -/
structure ResetSummary.Parted (r : ResetSummary) : Prop where
  cleared_sublist : r.cleared.Sublist r.outcomes
  failed_sublist : r.failed.Sublist r.outcomes
  /-- No outcome is lost, and none is in both parts. -/
  perm : (r.cleared ++ r.failed).Perm r.outcomes
  cleared_ok : ∀ o ∈ r.cleared, o.result = .ok ()
  failed_error : ∀ o ∈ r.failed, ∃ failure, o.result = .error failure
  isComplete : r.isComplete = true ↔ r.failed = []

theorem ResetSummary.parted (r : ResetSummary) : r.Parted where
  cleared_sublist := List.filter_sublist
  failed_sublist := List.filter_sublist
  perm := List.filter_append_perm ClearOutcome.isOk r.outcomes
  cleared_ok := fun o ho => (ClearOutcome.isOk_iff o).mp (List.mem_filter.mp ho).2
  failed_error := by
    intro o ho
    have hfailed : ¬ o.result = .ok () := by
      rw [← ClearOutcome.isOk_iff]
      simpa using (List.mem_filter.mp ho).2
    cases hresult : o.result with
    | ok value => exact absurd hresult hfailed
    | error failure => exact ⟨failure, rfl⟩
  isComplete := by simp [isComplete, failed]

namespace FactoryReset

/-- Over a tool whose calls all return, and a mediator whose signals do, a factory reset returns a
report. Behind the listing it calls the tool once for each candidate, in order and whatever the
calls before were answered, and the report has one entry for each, which says how that call was
answered. -/
theorem run_reports_each {tool : Flasher δ} {mediator : Mediator δ} (htool : tool.Returns)
    (hmediator : mediator.Returns) (w : World δ) :
    ∃ (summary : ResetSummary) (recorded : World (Recorded δ))
        (listed : Except Failure ToolAnswer) (clears : List Call),
      run tool mediator w = (.returned summary, recorded.forget) ∧
        run tool.recorded mediator.recorded w.recorded = (.returned summary, recorded) ∧
        recorded.device.calls =
          .run Flasher.listArgs (.returned listed) :: .suspend :: (clears ++ [.resume]) ∧
        clears.length = (Listing.ofAnswer listed).2.length ∧
        summary.outcomes.length = (Listing.ofAnswer listed).2.length ∧
        (∀ (i : Nat) (c : Candidate), (Listing.ofAnswer listed).2[i]? = some c →
          ∃ answer o, clears[i]? = some (.run c.clearCommand (.returned answer)) ∧
            summary.outcomes[i]? = some o ∧ o.Truthful tool c answer) ∧
        summary.Parted := by
  obtain ⟨summary, w', hreturned⟩ := total_run htool hmediator w
  obtain ⟨hrun, made, hmade, hcalls⟩ := traces_run_returned tool mediator w.recorded
  obtain ⟨hending, hworld⟩ := Prod.mk.inj (hreturned.symm.trans hrun)
  obtain ⟨listed, clears, rfl, hreported⟩ := hcalls summary hending.symm
  refine ⟨summary, _, listed, clears, ?_, Prod.ext hending.symm rfl, hmade,
    hreported.length_eq.1, hreported.length_eq.2, fun _ _ hc => hreported.getElem? hc,
    summary.parted⟩
  rw [hreturned, hworld]
  rfl

/-- A listing of three candidates. -/
def wornListing : ToolAnswer :=
  .ok "ID=01 HBEL 0 [E-F]\nID=02 NVRAM 0 [--F]\nID=03 GUARD 0 [E-F]\n"

/-- A tool over a flash that wears out: the first clear succeeds, the second one reports a status,
and then the tool cannot be started. The device counts the clears. -/
def wearingTool : Flasher Nat where
  name := "pflash"
  run args :=
    if args = Flasher.listArgs then pure (.ok wornListing)
    else World.onDevice fun count =>
      (match count with
        | 0 => .ok (.ok "")
        | 1 => .ok (.failed 5)
        | _ => .error (.notStarted "pflash" .noEntry), count + 1)

/-- A mediator whose signals do nothing. -/
def idleMediator : Mediator Nat := ⟨pure (), pure ()⟩

/-- A world with a fresh flash. -/
def freshFlash : World Nat := ⟨⟨⟨[]⟩, [], "/tmp", 0⟩, [], 0⟩

theorem wearingTool_reports :
    wearingTool.Returns ∧ idleMediator.Returns ∧
      ∃ (summary : ResetSummary) (recorded : World (Recorded Nat)) (clears : List Call),
        run wearingTool idleMediator freshFlash = (.returned summary, recorded.forget) ∧
          recorded.device.calls =
            .run ["-i"] (.returned (.ok wornListing)) :: .suspend :: (clears ++ [.resume]) ∧
          clears.length = 3 ∧
          summary.outcomes.map (fun o => (o.name, o.mode, o.isOk)) =
            [("HBEL", .ecc, true), ("NVRAM", .erase, false), ("GUARD", .ecc, false)] ∧
          (∃ answer o, clears[1]? = some (.run ["-P", "NVRAM", "-e", "-f"] (.returned answer)) ∧
            summary.outcomes[1]? = some o ∧ o.Truthful wearingTool ⟨"NVRAM", false, true⟩ answer) ∧
          summary.Parted := by
  have hwearing : wearingTool.Returns := by
    intro args w
    by_cases hargs : args = Flasher.listArgs
    · exact ⟨.ok wornListing, by simp [wearingTool, hargs]⟩
    · simp [wearingTool, hargs]
  have hidle : idleMediator.Returns := ⟨fun _ => rfl, fun _ => rfl⟩
  have hsummary : (run wearingTool idleMediator freshFlash).1.map
      (fun summary => summary.outcomes.map fun o => (o.name, o.mode, o.isOk)) =
        .returned [("HBEL", .ecc, true), ("NVRAM", .erase, false), ("GUARD", .ecc, false)] := by
    decide +kernel
  have hlisted : (run wearingTool.recorded idleMediator.recorded
      freshFlash.recorded).2.device.calls.head?.bind Call.answer? = some wornListing := by
    decide +kernel
  have hsecond : (Listing.ofAnswer (.ok wornListing)).2[1]? = some ⟨"NVRAM", false, true⟩ := by
    decide +kernel
  obtain ⟨summary, recorded, listed, clears, hrun, hrecorded, hcalls, hclears, houtcomes, heach,
    hparted⟩ := run_reports_each hwearing hidle freshFlash
  rw [hrun] at hsummary
  have hentries : summary.outcomes.map (fun o => (o.name, o.mode, o.isOk)) =
      [("HBEL", .ecc, true), ("NVRAM", .erase, false), ("GUARD", .ecc, false)] :=
    Ending.returned.inj hsummary
  -- The listing is the first call, and the tool is known to answer it with three candidates.
  rw [hrecorded, hcalls, List.head?_cons, Option.bind_some] at hlisted
  have hanswer : listed = .ok wornListing := by
    cases listed with
    | error failure => cases hlisted
    | ok out => exact congrArg Except.ok (Option.some.inj hlisted)
  subst hanswer
  have hthree : summary.outcomes.length = 3 := by simpa using congrArg List.length hentries
  have hlength : clears.length = 3 := (hclears.trans houtcomes.symm).trans hthree
  exact ⟨hwearing, hidle, summary, recorded, clears, hrun, hcalls, hlength, hentries,
    heach 1 _ hsecond, hparted⟩

end FactoryReset

end HostFlash
