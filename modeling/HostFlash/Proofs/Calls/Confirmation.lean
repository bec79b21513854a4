import HostFlash.Proofs.Calls.Printing

/-!
# Commands that destroy data

Without a confirmation neither command that destroys data calls the tool or the mediator. With it,
a factory reset prints the line about the clear of each candidate in the order of the listing, and
how many lines of each kind that are. The status says whether any clear has failed. The clearing of
the guard records prints the line for its partition, and its status says how that clear went. Names
are printed as they are, so a partition of the settings whose name has a line break is told of on
more than one line.
-/

namespace HostFlash

variable {δ : Type}

/-- The backend over a recording device. -/
def Backend.recorded (backend : Backend δ) : Backend (Recorded δ) :=
  ⟨backend.tool.recorded, backend.mediator.recorded, ⟨backend.device, []⟩, backend.log⟩

/-- The clears of candidates in order, with their answers. -/
def clearCalls (candidates : List Candidate) (answers : List (Except Failure ToolAnswer)) :
    List Call :=
  List.zipWith (fun c answer => .run c.clearCommand (.returned answer)) candidates answers

namespace CommandLine

open Flasher (Succeeds)
open Listing (taken)
open Report (outcomeLine)
open Text (Unbroken)

/-! ## What a reset tells -/

/-- The lines tell of each candidate in its place how its clear was answered, and so many of them
are of each kind. -/
structure Tells (toolName : String) (candidates : List Candidate)
    (answers : List (Except Failure ToolAnswer)) (lines : List String) (cleared failed : Nat) :
    Prop where
  answered : answers.length = candidates.length
  lines_eq : lines = List.zipWith (fun c answer => clearLine toolName c.name c.hasEcc answer)
    candidates answers
  mark : ∀ (i : Nat) c answer line, candidates[i]? = some c → answers[i]? = some answer →
    lines[i]? = some line →
      (MarkedCleared c.name line ↔ Succeeds answer) ∧ (MarkedFailed c.name line ↔ ¬ Succeeds answer)
  cleared_eq : cleared = (candidates.zip lines).countP fun e => MarkedCleared e.1.name e.2
  failed_eq : failed = (candidates.zip lines).countP fun e => MarkedFailed e.1.name e.2
  total : cleared + failed = candidates.length
  complete : failed = 0 ↔ ∀ answer ∈ answers, Succeeds answer

section Telling

variable {toolName : String} {candidates : List Candidate}
  {answers : List (Except Failure ToolAnswer)} {lines : List String} {cleared failed : Nat}

theorem Tells.told (h : Tells toolName candidates answers lines cleared failed) :
    lines.length = candidates.length := by
  rw [h.lines_eq, List.length_zipWith, h.answered, Nat.min_self]

theorem tells_nil : Tells toolName [] [] [] 0 0 := by
  constructor <;> simp

/-- The line about one more clear counts with those of its kind. -/
theorem Tells.cons (h : Tells toolName candidates answers lines cleared failed) (c : Candidate)
    {answer : Except Failure ToolAnswer} {isOk : Bool} (hok : isOk = true ↔ Succeeds answer) :
    Tells toolName (c :: candidates) (answer :: answers)
      (clearLine toolName c.name c.hasEcc answer :: lines)
      (cleared + if isOk then 1 else 0) (failed + if !isOk then 1 else 0) := by
  have hcleared : MarkedCleared c.name (clearLine toolName c.name c.hasEcc answer) ↔
      isOk = true :=
    markedCleared_clearLine.trans hok.symm
  have hfailed : MarkedFailed c.name (clearLine toolName c.name c.hasEcc answer) ↔
      ¬ isOk = true :=
    markedFailed_clearLine.trans (not_congr hok.symm)
  constructor
  case answered => simp [h.answered]
  case lines_eq => simp [h.lines_eq]
  case mark =>
    rintro (_ | i) c' answer' line' hc hanswer hline
    · cases hc
      cases hanswer
      cases hline
      exact ⟨markedCleared_clearLine, markedFailed_clearLine⟩
    · exact h.mark i c' answer' line' hc hanswer hline
  case cleared_eq => simp [List.countP_cons, h.cleared_eq, hcleared]
  case failed_eq => simp [List.countP_cons, h.failed_eq, hfailed]
  case total =>
    have htotal := h.total
    rw [List.length_cons]
    cases isOk with
    | true =>
        simp only [Bool.not_true, if_true, Bool.false_eq_true, if_false]
        omega
    | false =>
        simp only [Bool.not_false, if_true, Bool.false_eq_true, if_false]
        omega
  case complete =>
    -- A failed clear is counted, so no later one can make up for it.
    rw [List.forall_mem_cons, Nat.add_eq_zero_iff, h.complete, ← hok]
    cases isOk with
    | true => simp
    | false => simp

/-- The lines about candidates whose names have no line break are lines where they are printed. -/
theorem Tells.unbroken (h : Tells toolName candidates answers lines cleared failed)
    (hnames : ∀ c ∈ candidates, Unbroken c.name) (htool : Unbroken toolName)
    (hfailures : ∀ failure, .error failure ∈ answers → Unbroken failure.message) :
    ∀ line ∈ lines, Unbroken line := by
  intro line hline
  rw [h.lines_eq, ← List.map_uncurry_zip_eq_zipWith, List.mem_map] at hline
  obtain ⟨⟨c, answer⟩, hmem, rfl⟩ := hline
  obtain ⟨hc, hanswer⟩ := List.of_mem_zip hmem
  refine unbroken_clearLine htool (hnames c hc) ?_
  rintro failure rfl
  exact hfailures failure hanswer

end Telling

theorem unbroken_of_mem_taken {listed : Except Failure ToolAnswer} :
    ∀ c ∈ taken listed, Unbroken c.name := by
  intro c hc
  cases listed with
  | error failure => cases hc
  | ok out => exact (Listing.name_of_mem_entries hc).2.2

/-- The lines about the outcomes of a reset tell how its clears were answered. -/
theorem tells_of_reported {tool : Flasher δ} {candidates : List Candidate}
    {outcomes : List ClearOutcome} {made : List Call}
    (h : Reported tool candidates outcomes made) :
    ∃ answers, made = clearCalls candidates answers ∧
      Tells tool.name candidates answers (outcomes.map outcomeLine) (outcomes.countP (·.isOk))
        (outcomes.countP (!·.isOk)) := by
  induction h with
  | done => exact ⟨[], rfl, tells_nil⟩
  | @cleared c answer rest outcomes made hrest ih =>
      obtain ⟨answers, rfl, htells⟩ := ih
      refine ⟨answer :: answers, ?_, ?_⟩
      · rw [Candidate.clearArgs_clearKind]
        rfl
      · have htold := htells.cons c (isOk_answeredOutcome tool c.name c.hasEcc answer)
        rw [← outcomeLine_answeredOutcome] at htold
        rw [List.map_cons, List.countP_cons, List.countP_cons]
        exact htold

/-! ## What a reset prints -/

/-- The line for having nothing to clear. -/
def nothingLine : String := "No partitions flagged for reprovisioning"

/-- The line with how many partitions were cleared and how many were not. -/
def tallyLine (cleared failed : Nat) : String :=
  toString cleared ++ " cleared, " ++ toString failed ++ " failed"

theorem unbroken_tallyLine (cleared failed : Nat) : Unbroken (tallyLine cleared failed) :=
  Text.unbroken_append (Text.unbroken_append (Text.unbroken_append
    (Text.unbroken_toString_nat cleared) (by decide)) (Text.unbroken_toString_nat failed))
    (by decide)

/-- A line about an outcome is never the line for having nothing to clear. -/
theorem joinLines_outcomeLine_ne (o : ClearOutcome) (rest : List String) :
    joinLines (outcomeLine o :: rest) ≠ nothingLine ++ "\n" := by
  intro h
  -- One begins with a space and the other one with a letter.
  have hhead := congrArg (fun text => text.toList.head?) h
  simp [toList_joinLines, outcomeLine, nothingLine] at hhead

theorem output_ofReset (summary : ResetSummary) :
    (Report.ofReset summary).output =
      joinLines (if summary.outcomes = [] then [nothingLine]
        else summary.outcomes.map outcomeLine ++
          [tallyLine (summary.outcomes.countP (·.isOk)) (summary.outcomes.countP (!·.isOk))]) := by
  unfold Report.ofReset Report.summaryLines ResetSummary.cleared ResetSummary.failed tallyLine
  cases summary.outcomes with
  | nil => rfl
  | cons o rest => simp only [reduceCtorEq, if_false, List.countP_eq_length_filter]

theorem output_ofReset_eq_nothing_iff (summary : ResetSummary) :
    (Report.ofReset summary).output = nothingLine ++ "\n" ↔ summary.outcomes = [] := by
  rw [output_ofReset]
  cases summary.outcomes with
  | nil => simp [joinLines]
  | cons o rest => simp [joinLines_outcomeLine_ne]

/-- A reset fails if a clear has failed, with how many have. -/
theorem failure_ofReset (summary : ResetSummary) :
    (Report.ofReset summary).failure =
      if summary.outcomes.countP (!·.isOk) = 0 then none
      else some (toString (summary.outcomes.countP (!·.isOk)) ++
        " partition(s) could not be cleared") := by
  have hcomplete : summary.isComplete = true ↔ summary.outcomes.countP (!·.isOk) = 0 := by
    rw [summary.parted.isComplete, ResetSummary.failed, List.countP_eq_length_filter,
      List.length_eq_zero_iff]
  simp only [Report.ofReset, hcomplete, ResetSummary.failed, List.countP_eq_length_filter]

/-! ## Runs of the commands -/

theorem ofReport_eq (machine : Machine) (report : Report) :
    ofReport machine report =
      ⟨if report.failure = none then 0 else 1, report.output,
        match report.failure with
        | none => ""
        | some message => "Error: " ++ message ++ "\n", machine⟩ := by
  unfold ofReport failedRun
  cases report.failure with
  | none => rfl
  | some message => rfl

/-- The calls of a run over a recording device. -/
def callsOn (machine : Machine) (settings : Settings) (backend : Backend δ) (i : Invocation) :
    List Call :=
  (Report.run backend.recorded.tool backend.recorded.mediator settings i.command i.confirmed
    ⟨machine, backend.recorded.log, backend.recorded.device⟩).2.device.calls

section Runs

variable (machine : Machine) (settings : Settings) (backend : Backend δ) (i : Invocation)

/-- A command that returns leaves the same behind over a recording device, with the calls that are
traced to it. -/
theorem runOn_of_traces {P : Ending Report → List Call → Prop}
    (htotal : (Report.run backend.tool backend.mediator settings i.command i.confirmed).Total)
    (htraces : World.recording.Traces
      (Report.run backend.recorded.tool backend.recorded.mediator settings i.command i.confirmed)
      (Report.run backend.tool backend.mediator settings i.command i.confirmed) P) :
    ∃ report machine', runOn machine settings backend i = ofReport machine' report ∧
      runOn machine settings backend.recorded i = ofReport machine' report ∧
      P (.returned report) (callsOn machine settings backend i) := by
  obtain ⟨report, w', hrun⟩ := htotal ⟨machine, backend.log, backend.device⟩
  obtain ⟨hsame, made, hmade, hP⟩ := htraces ⟨machine, backend.recorded.log, backend.recorded.device⟩
  cases hrecorded : Report.run backend.recorded.tool backend.recorded.mediator settings i.command
      i.confirmed ⟨machine, backend.recorded.log, backend.recorded.device⟩ with
  | mk ending recorded =>
  rw [hrecorded] at hsame hmade hP
  -- The two runs end alike and on the same machine, since they differ in the record alone.
  obtain ⟨rfl, rfl⟩ := Prod.mk.inj (hrun.symm.trans hsame)
  have hcalls : callsOn machine settings backend i = made := by
    rw [callsOn, hrecorded]
    exact hmade
  refine ⟨report, recorded.machine, ?_, ?_, hcalls ▸ hP⟩
  · simp only [runOn, hrun]
    rfl
  · simp only [runOn, hrecorded]

/-- Nobody is called for a command that is not confirmed. -/
theorem runOn_of_unconfirmed (hcommand : i.command = .factoryReset ∨ i.command = .clearGuard)
    (hconfirmed : i.confirmed = false) :
    runOn machine settings backend i =
        ⟨1, "", "Error: " ++ (i.command.word ++
          " destroys partition contents, pass --yes to proceed") ++ "\n", machine⟩ ∧
      callsOn machine settings backend i = [] := by
  obtain ⟨command, path, spec, confirmed⟩ := i
  obtain rfl : confirmed = false := hconfirmed
  rcases hcommand with hcommand | hcommand
  · obtain rfl : command = .factoryReset := hcommand
    exact ⟨rfl, rfl⟩
  · obtain rfl : command = .clearGuard := hcommand
    exact ⟨rfl, rfl⟩

/-- A command that is not confirmed fails, also when there are no settings or no backend for it. -/
theorem runInvocation_of_unconfirmed
    (hcommand : i.command = .factoryReset ∨ i.command = .clearGuard)
    (hconfirmed : i.confirmed = false) :
    (runInvocation machine i).status = 1 ∧ (runInvocation machine i).machine = machine := by
  unfold runInvocation
  split
  next => exact ⟨rfl, rfl⟩
  next =>
    split
    next => exact ⟨rfl, rfl⟩
    next =>
      rw [(runOn_of_unconfirmed machine _ _ i hcommand hconfirmed).1]
      exact ⟨rfl, rfl⟩

/-- A reset that is confirmed, with the answers that its calls were given. Its output is one line for
each candidate of the listing and one for the counts, unless the tool has a name or tells of a
failure with a line break in it. -/
structure Resets (toolName : String) (outcome : Outcome) (calls : List Call)
    (listed : Except Failure ToolAnswer) (answers : List (Except Failure ToolAnswer))
    (lines : List String) (cleared failed : Nat) : Prop where
  calls_eq : calls = .run ["-i"] (.returned listed) :: .suspend ::
    (clearCalls (taken listed) answers ++ [.resume])
  tells : Tells toolName (taken listed) answers lines cleared failed
  prints : Prints outcome.output
    (if taken listed = [] then [nothingLine] else lines ++ [tallyLine cleared failed])
  unbroken : Unbroken toolName →
    (∀ failure, .error failure ∈ answers → Unbroken failure.message) →
      ∀ line ∈ lines ++ [tallyLine cleared failed], Unbroken line
  nothing_iff : outcome.output = nothingLine ++ "\n" ↔ taken listed = []
  status_eq : outcome.status = if failed = 0 then 0 else 1
  errors_eq : outcome.errors =
    if failed = 0 then ""
    else "Error: " ++ (toString failed ++ " partition(s) could not be cleared") ++ "\n"

theorem resets_of_confirmed (htool : backend.tool.Returns) (hmediator : backend.mediator.Returns)
    (hcommand : i.command = .factoryReset) (hconfirmed : i.confirmed = true) :
    runOn machine settings backend.recorded i = runOn machine settings backend i ∧
      ∃ listed answers lines cleared failed,
        Resets backend.tool.name (runOn machine settings backend i)
          (callsOn machine settings backend i) listed answers lines cleared failed := by
  have hrun (δ : Type) (tool : Flasher δ) (mediator : Mediator δ) :
      Report.run tool mediator settings i.command i.confirmed =
        Report.factoryReset tool mediator true := by
    rw [hcommand, hconfirmed]
    rfl
  have htotal : (Report.factoryReset backend.tool backend.mediator true).Total :=
    (FactoryReset.total_run htool hmediator).bind fun _ => Action.total_pure _
  obtain ⟨report, machine', houtcome, hrecorded, hcalls⟩ :=
    runOn_of_traces machine settings backend i
      (by rw [hrun]; exact htotal)
      (by rw [hrun, hrun]; exact Report.traces_factoryReset backend.tool backend.mediator)
  obtain ⟨summary, rfl, listed, clears, hmade, hreported⟩ := hcalls report rfl
  rw [Listing.ofAnswer_snd] at hreported
  obtain ⟨answers, rfl, htells⟩ := tells_of_reported hreported
  -- There is an outcome for each candidate, so there are none of both or some of both.
  have hnone : summary.outcomes = [] ↔ taken listed = [] := by
    rw [← List.length_eq_zero_iff, ← List.length_eq_zero_iff, ← htells.told, List.length_map]
  refine ⟨hrecorded.trans houtcome.symm, listed, answers, summary.outcomes.map outcomeLine,
    summary.outcomes.countP (·.isOk), summary.outcomes.countP (!·.isOk), ?_⟩
  constructor
  case calls_eq => exact hmade
  case tells => exact htells
  case prints =>
    rw [houtcome, ofReport_eq, output_ofReset]
    simp only [hnone]
    exact prints_joinLines _
  case unbroken =>
    intro hname hfailures
    rw [List.forall_mem_append, List.forall_mem_singleton]
    exact ⟨htells.unbroken unbroken_of_mem_taken hname hfailures, unbroken_tallyLine _ _⟩
  case nothing_iff => rw [houtcome, ofReport_eq, output_ofReset_eq_nothing_iff, hnone]
  case status_eq =>
    rw [houtcome, ofReport_eq, failure_ofReset]
    simp
  case errors_eq =>
    rw [houtcome, ofReport_eq, failure_ofReset]
    by_cases hfailed : summary.outcomes.countP (!·.isOk) = 0
    · simp [hfailed]
    · simp [hfailed]

/-- A clearing of the guard records that is confirmed, with the answer that its call was given. Its
output is one line, unless the partition or the tool has a name with a line break in it, or the tool
tells of such a failure. -/
structure ClearsGuard (toolName guard : String) (outcome : Outcome) (calls : List Call)
    (answer : Except Failure ToolAnswer) (line : String) : Prop where
  calls_eq : calls = [.suspend, .run ["-P", guard, "-c", "-f"] (.returned answer), .resume]
  line_eq : line = clearLine toolName guard true answer
  prints : Prints outcome.output [line]
  unbroken : Unbroken guard → Unbroken toolName →
    (∀ failure, answer = .error failure → Unbroken failure.message) → Unbroken line
  cleared_iff : MarkedCleared guard line ↔ Succeeds answer
  failed_iff : MarkedFailed guard line ↔ ¬ Succeeds answer
  status_zero_iff : outcome.status = 0 ↔ Succeeds answer
  status_one_iff : outcome.status = 1 ↔ ¬ Succeeds answer
  errors_eq : outcome.errors =
    (clearFault? toolName guard true answer).elim "" fun reason => "Error: " ++ reason ++ "\n"

theorem Report.traces_clearGuard (tool : Flasher δ) (mediator : Mediator δ) (guard : String) :
    World.recording.Traces (clearGuard tool.recorded mediator.recorded guard true)
      (clearGuard tool mediator guard true) fun ending made => ∀ report, ending = .returned report →
        ∃ answer, report = ofOutcome (answeredOutcome tool guard true answer) ∧
          made = [.suspend, .run ["-P", guard, "-c", "-f"] (.returned answer), .resume] := by
  refine Recording.Traces.mono ((Mediator.traces_whileSuspended_returned
    (FactoryReset.traces_clear tool guard .ecc)).map ofOutcome) ?_
  rintro ending made ⟨before, rfl, hmade⟩ report hending
  obtain ⟨outcome, rfl, rfl⟩ := Ending.map_eq_returned_iff.mp hending
  obtain ⟨body, rfl, ⟨answer, houtcome, rfl⟩ | ⟨reason, houtcome, _⟩⟩ := hmade outcome rfl
  · cases houtcome
    exact ⟨answer, rfl, rfl⟩
  · cases houtcome

theorem clearsGuard_of_confirmed (htool : backend.tool.Returns)
    (hmediator : backend.mediator.Returns) (hcommand : i.command = .clearGuard)
    (hconfirmed : i.confirmed = true) :
    runOn machine settings backend.recorded i = runOn machine settings backend i ∧
      ∃ answer line,
        ClearsGuard backend.tool.name settings.partitions.guard (runOn machine settings backend i)
          (callsOn machine settings backend i) answer line := by
  have hrun (δ : Type) (tool : Flasher δ) (mediator : Mediator δ) :
      Report.run tool mediator settings i.command i.confirmed =
        Report.clearGuard tool mediator settings.partitions.guard true := by
    rw [hcommand, hconfirmed]
    rfl
  have htotal : (Report.clearGuard backend.tool backend.mediator settings.partitions.guard
      true).Total :=
    (hmediator.total_whileSuspended (FactoryReset.total_clear htool _ _)).bind fun _ =>
      Action.total_pure _
  obtain ⟨report, machine', houtcome, hrecorded, hcalls⟩ :=
    runOn_of_traces machine settings backend i
      (by rw [hrun]; exact htotal)
      (by rw [hrun, hrun]; exact Report.traces_clearGuard backend.tool backend.mediator _)
  obtain ⟨answer, rfl, hmade⟩ := hcalls report rfl
  have hfailure := failure_ofOutcome_answeredOutcome backend.tool settings.partitions.guard true
    answer
  have hnone : clearFault? backend.tool.name settings.partitions.guard true answer = none ↔
      Succeeds answer :=
    clearFault?_eq_none_iff
  refine ⟨hrecorded.trans houtcome.symm, answer,
    clearLine backend.tool.name settings.partitions.guard true answer, ?_⟩
  constructor
  case calls_eq => exact hmade
  case line_eq => rfl
  case prints =>
    rw [houtcome, ofReport_eq, ← outcomeLine_answeredOutcome]
    exact prints_joinLines _
  case unbroken => exact fun hguard hname hfault => unbroken_clearLine hname hguard hfault
  case cleared_iff => exact markedCleared_clearLine
  case failed_iff => exact markedFailed_clearLine
  case status_zero_iff =>
    rw [← hnone, houtcome, ofReport_eq, hfailure]
    simp
  case status_one_iff =>
    rw [← hnone, houtcome, ofReport_eq, hfailure]
    simp
  case errors_eq =>
    rw [houtcome, ofReport_eq, hfailure]
    cases clearFault? backend.tool.name settings.partitions.guard true answer with
    | none => rfl
    | some reason => rfl

end Runs

/-- Without a confirmation, the commands that destroy data fail, call neither the tool nor the
mediator and leave the machine as it is, whatever the settings and the backend are, also when there
are none. With one, over a tool and a mediator whose calls return, what they print and the status
they end with say how the clears were answered. -/
theorem runOn_destructive {backend : Backend δ} (htool : backend.tool.Returns)
    (hmediator : backend.mediator.Returns) (machine : Machine) (settings : Settings)
    (i : Invocation) :
    (i.command = .factoryReset ∨ i.command = .clearGuard → i.confirmed = false →
      runOn machine settings backend i =
          ⟨1, "", "Error: " ++ (i.command.word ++
            " destroys partition contents, pass --yes to proceed") ++ "\n", machine⟩ ∧
        callsOn machine settings backend i = [] ∧
        (runInvocation machine i).status = 1 ∧ (runInvocation machine i).machine = machine) ∧
    (i.command = .factoryReset → i.confirmed = true →
      runOn machine settings backend.recorded i = runOn machine settings backend i ∧
      ∃ listed answers lines cleared failed,
        Resets backend.tool.name (runOn machine settings backend i)
          (callsOn machine settings backend i) listed answers lines cleared failed) ∧
    (i.command = .clearGuard → i.confirmed = true →
      runOn machine settings backend.recorded i = runOn machine settings backend i ∧
      ∃ answer line,
        ClearsGuard backend.tool.name settings.partitions.guard (runOn machine settings backend i)
          (callsOn machine settings backend i) answer line) := by
  refine ⟨fun hcommand hconfirmed => ?_, resets_of_confirmed machine settings backend i htool hmediator,
    clearsGuard_of_confirmed machine settings backend i htool hmediator⟩
  obtain ⟨hrun, hcalls⟩ := runOn_of_unconfirmed machine settings backend i hcommand hconfirmed
  obtain ⟨hstatus, hmachine⟩ := runInvocation_of_unconfirmed machine i hcommand hconfirmed
  exact ⟨hrun, hcalls, hstatus, hmachine⟩

/-- A tool that clears one of two candidates, and the guard records. -/
def stubbornTool : Flasher Unit where
  name := "pflash"
  run args := pure <|
    if args = Flasher.listArgs then .ok (.ok "ID=01 HBEL 0 [E-F]\nID=02 NVRAM 0 [--F]\n")
    else if args.contains "NVRAM" then .ok (.failed 5)
    else .ok (.ok "")

/-- The tool with a mediator whose signals do nothing. -/
def stubbornBackend : Backend Unit := ⟨stubbornTool, ⟨pure (), pure ()⟩, (), []⟩

/-- A machine without files. -/
def bareMachine : Machine := ⟨⟨[]⟩, [], "/tmp", 0⟩

theorem runOn_stubborn :
    stubbornBackend.tool.Returns ∧ stubbornBackend.mediator.Returns ∧
      callsOn bareMachine {} stubbornBackend ⟨.factoryReset, none, "pflash", false⟩ = [] ∧
      (∃ listed answers lines cleared failed,
        Resets "pflash" (runOn bareMachine {} stubbornBackend ⟨.factoryReset, none, "pflash", true⟩)
          (callsOn bareMachine {} stubbornBackend ⟨.factoryReset, none, "pflash", true⟩) listed
          answers lines cleared failed) ∧
      (runOn bareMachine {} stubbornBackend ⟨.factoryReset, none, "pflash", true⟩).output =
        "  HBEL             cleared (ecc-clear)\n" ++
          "  NVRAM            FAILED: 'pflash -P NVRAM -e -f' failed with return code 5\n" ++
          "1 cleared, 1 failed\n" ∧
      ∃ answer line,
        ClearsGuard "pflash" "GUARD"
          (runOn bareMachine {} stubbornBackend ⟨.clearGuard, none, "pflash", true⟩)
          (callsOn bareMachine {} stubbornBackend ⟨.clearGuard, none, "pflash", true⟩)
          answer line := by
  have htool : stubbornBackend.tool.Returns := fun _ _ => ⟨_, rfl⟩
  have hmediator : stubbornBackend.mediator.Returns := ⟨fun _ => rfl, fun _ => rfl⟩
  have hrun := runOn_destructive htool hmediator bareMachine {}
  exact ⟨htool, hmediator, ((hrun _).1 (.inl rfl) rfl).2.1, ((hrun _).2.1 rfl rfl).2,
    by decide +kernel, ((hrun _).2.2 rfl rfl).2⟩

/-- Settings that name the partition of the guard records with a line break. -/
def brokenSettings : Settings := { partitions := { guard := "A\nB" } }

/-- A name with a line break is printed as it is, so what is printed about the clear of such a
partition is no single line, although the clear succeeds. -/
theorem runOn_broken :
    (runOn bareMachine brokenSettings stubbornBackend ⟨.clearGuard, none, "pflash", true⟩).status =
        0 ∧
      (runOn bareMachine brokenSettings stubbornBackend ⟨.clearGuard, none, "pflash", true⟩).output =
        "  A\nB              cleared (ecc-clear)\n" ∧
      ¬ ∃ line, Unbroken line ∧
        Prints (runOn bareMachine brokenSettings stubbornBackend
          ⟨.clearGuard, none, "pflash", true⟩).output [line] := by
  have houtput : (runOn bareMachine brokenSettings stubbornBackend
      ⟨.clearGuard, none, "pflash", true⟩).output =
        "  A\nB              cleared (ecc-clear)\n" := by
    decide +kernel
  refine ⟨by decide +kernel, houtput, ?_⟩
  rw [houtput]
  rintro ⟨line, hline, hprints⟩
  -- The same text is two lines, and it cannot be both.
  have htwo : Prints "  A\nB              cleared (ecc-clear)\n"
      ["  A", "B              cleared (ecc-clear)"] := by
    decide +kernel
  have hsame := hprints.unique (List.forall_mem_singleton.mpr hline) htwo (by decide +kernel)
  exact absurd (congrArg List.length hsame) (by simp)

end CommandLine

end HostFlash
