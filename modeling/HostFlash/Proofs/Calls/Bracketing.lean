import Mathlib.Data.List.Forall2
import HostFlash.Flash.Script
import HostFlash.Proofs.Calls.Operations

/-!
# Bracketing of the clears over whole runs

A run is any sequence of scans, factory resets and clearings of the guard records on the same
objects, where a task that unwinds is followed by the next one. Its calls are a row of segments,
one for each task, and so every clear stands between a suspend and a resume with nothing but
clears around it, and suspends and resumes alternate.
-/

namespace HostFlash

/-- A task for the flash. -/
inductive Task where
  | scan
  | factoryReset
  | clearGuard
deriving Repr, DecidableEq

namespace Task

open Firmware (Manager)

variable {δ : Type}

/-- The manager after a task. A task that unwinds leaves what it did until then. -/
def after (tool : Flasher δ) (mediator : Mediator δ) (partitions : PartitionSettings)
    (m : Manager δ) : Task → Manager δ
  | scan => (Manager.scan tool partitions.version m).2
  | factoryReset => (Manager.onWorld (FactoryReset.run tool mediator) m).2
  | clearGuard =>
      (Manager.onWorld (FactoryReset.clearGuard tool mediator partitions.guard) m).2

/-- The manager after a run of tasks. -/
def afterAll (tool : Flasher δ) (mediator : Mediator δ) (partitions : PartitionSettings)
    (m : Manager δ) (tasks : List Task) : Manager δ :=
  tasks.foldl (after tool mediator partitions) m

/-- The calls that a task makes. -/
inductive Segment (partitions : PartitionSettings) : Task → List Call → Prop where
  /-- The scan did not come to the tool. -/
  | unread : Segment partitions scan []
  | read (dump : String) (ending : Ending (Except Failure ToolAnswer)) :
      Segment partitions scan [.run (Flasher.dumpArgs partitions.version dump) ending]
  /-- The listing unwound, so that there was nothing to clear. -/
  | unlisted (reason : String) :
      Segment partitions factoryReset [.run Flasher.listArgs (.unwound reason)]
  | swept (answer : Except Failure ToolAnswer) {clears : List Call}
      (hclears : Sweep (Listing.ofAnswer answer).2 clears) :
      Segment partitions factoryReset
        (.run Flasher.listArgs (.returned answer) :: .suspend :: (clears ++ [.resume]))
  | guardCleared (ending : Ending (Except Failure ToolAnswer)) :
      Segment partitions clearGuard
        [.suspend, .run (Flasher.clearArgs partitions.guard .ecc) ending, .resume]

/-! ## From actions to runs -/

variable (tool : Flasher δ) {mediator : Mediator δ} (partitions : PartitionSettings)

/-- A task over a recording device does what it does over the plain one, and records a segment. -/
theorem after_recorded (hmediator : mediator.Returns) (m : Manager (Recorded δ)) (task : Task) :
    (after tool.recorded mediator.recorded partitions m task).forget =
        after tool mediator partitions m.forget task ∧
      ∃ made, Manager.recording.calls (after tool.recorded mediator.recorded partitions m task) =
        Manager.recording.calls m ++ made ∧ Segment partitions task made := by
  cases task with
  | scan =>
      obtain ⟨hrun, made, hmade, hdump⟩ := Manager.traces_scan tool partitions.version m
      refine ⟨(congrArg Prod.snd hrun).symm, made, hmade, ?_⟩
      rcases hdump with rfl | ⟨dump, ending, rfl⟩
      · exact .unread
      · exact .read dump ending
  | factoryReset =>
      obtain ⟨hrun, made, hmade, hcalls⟩ :=
        Manager.traces_onWorld (FactoryReset.traces_run tool hmediator) m
      refine ⟨(congrArg Prod.snd hrun).symm, made, hmade, ?_⟩
      rcases hcalls with ⟨reason, rfl⟩ | ⟨answer, clears, rfl, hclears⟩
      · exact .unlisted reason
      · exact .swept answer hclears
  | clearGuard =>
      obtain ⟨hrun, made, hmade, ending, rfl⟩ :=
        Manager.traces_onWorld (FactoryReset.traces_clearGuard tool hmediator partitions.guard) m
      exact ⟨(congrArg Prod.snd hrun).symm, _, hmade, .guardCleared ending⟩

theorem afterAll_recorded (hmediator : mediator.Returns) (tasks : List Task)
    (m : Manager (Recorded δ)) :
    (afterAll tool.recorded mediator.recorded partitions m tasks).forget =
        afterAll tool mediator partitions m.forget tasks ∧
      ∃ segments, Manager.recording.calls
          (afterAll tool.recorded mediator.recorded partitions m tasks) =
        Manager.recording.calls m ++ segments.flatten ∧
          List.Forall₂ (Segment partitions) tasks segments := by
  induction tasks generalizing m with
  | nil => exact ⟨rfl, [], (List.append_nil _).symm, .nil⟩
  | cons task rest ih =>
      obtain ⟨hforget, made, hmade, hsegment⟩ :=
        after_recorded tool partitions hmediator m task
      obtain ⟨hrun, segments, hcalls, hsegments⟩ :=
        ih (after tool.recorded mediator.recorded partitions m task)
      refine ⟨?_, made :: segments, ?_, .cons hsegment hsegments⟩
      · rw [hforget] at hrun
        exact hrun
      · rw [List.flatten_cons, ← List.append_assoc, ← hmade]
        exact hcalls

end Task

/-! ## Brackets -/

namespace Call

/-- The call clears a partition. -/
def IsClear (call : Call) : Prop :=
  ∃ name mode ending, call = .run (Flasher.clearArgs name mode) ending

/-- The call is one of the mediator. -/
def isSignal : Call → Bool
  | run _ _ => false
  | suspend => true
  | resume => true

/-- Every clear has a suspend in front of it and a resume behind it, and only clears between. -/
def Bracketed (trace : List Call) : Prop :=
  ∀ before call after, trace = before ++ call :: after → call.IsClear →
    ∃ earlier between between' later, before = earlier ++ .suspend :: between ∧
      after = between' ++ .resume :: later ∧ ∀ c ∈ between ++ between', c.IsClear

/-- The calls of the mediator are suspends and resumes in turn, beginning with a suspend and
ending with a resume. -/
def Alternating (trace : List Call) : Prop :=
  ∃ n, trace.filter isSignal = (List.replicate n [suspend, resume]).flatten

theorem IsClear.not_isSignal {call : Call} (h : call.IsClear) : ¬ call.isSignal = true := by
  obtain ⟨name, mode, ending, rfl⟩ := h
  exact Bool.false_ne_true

theorem not_isClear_dump (partition dump : String)
    (ending : Ending (Except Failure ToolAnswer)) :
    ¬ (run (Flasher.dumpArgs partition dump) ending).IsClear := by
  rintro ⟨name, mode, ending', heq⟩
  cases mode <;> simp [Flasher.dumpArgs, Flasher.clearArgs, ClearKind.option] at heq

theorem not_isClear_list (ending : Ending (Except Failure ToolAnswer)) :
    ¬ (run Flasher.listArgs ending).IsClear := by
  rintro ⟨name, mode, ending', heq⟩
  simp [Flasher.listArgs, Flasher.clearArgs] at heq

theorem bracketed_nil : Bracketed [] := by
  intro before call after heq
  simp at heq

theorem bracketed_singleton {call : Call} (hcall : ¬ call.IsClear) : Bracketed [call] := by
  intro before call' after heq hclear
  cases before with
  | nil =>
      cases heq
      exact absurd hclear hcall
  | cons first rest => simp at heq

theorem Bracketed.append {first second : List Call} (hfirst : Bracketed first)
    (hsecond : Bracketed second) : Bracketed (first ++ second) := by
  intro before call after heq hclear
  -- Either the call is in the second part, or it is in the first and its brackets are too.
  rcases List.append_eq_append_iff.mp heq with ⟨rest, rfl, hrest⟩ | ⟨rest, rfl, hrest⟩
  · obtain ⟨earlier, between, between', later, rfl, hafter, hclears⟩ :=
      hsecond rest call after hrest hclear
    exact ⟨first ++ earlier, between, between', later, by simp, hafter, hclears⟩
  · cases rest with
    | nil =>
        obtain ⟨earlier, between, between', later, hbefore, hafter, hclears⟩ :=
          hsecond [] call after hrest.symm hclear
        simp at hbefore
    | cons call' rest =>
        obtain ⟨rfl, rfl⟩ := List.cons.inj hrest
        obtain ⟨earlier, between, between', later, hbefore, rfl, hclears⟩ :=
          hfirst before call rest rfl hclear
        exact ⟨earlier, between, between', later ++ second, hbefore, by simp, hclears⟩

/-- Clears between a suspend and a resume are bracketed. -/
theorem bracketed_clears {clears : List Call} (hclears : ∀ c ∈ clears, c.IsClear) :
    Bracketed (.suspend :: (clears ++ [.resume])) := by
  intro before call after heq hclear
  cases before with
  | nil =>
      obtain ⟨rfl, _⟩ := List.cons.inj heq
      exact absurd rfl hclear.not_isSignal
  | cons first rest =>
      obtain ⟨rfl, hrest⟩ := List.cons.inj heq
      -- The call is behind the clears, where only the resume is, or it is one of them.
      rcases List.append_eq_append_iff.mp hrest with ⟨tail, rfl, htail⟩ | ⟨tail, rfl, htail⟩
      · cases tail with
        | nil =>
            obtain ⟨rfl, _⟩ := List.cons.inj htail
            exact absurd rfl hclear.not_isSignal
        | cons first' tail => simp at htail
      · cases tail with
        | nil =>
            obtain ⟨rfl, _⟩ := List.cons.inj htail
            exact absurd rfl hclear.not_isSignal
        | cons call' tail =>
            obtain ⟨rfl, rfl⟩ := List.cons.inj htail
            refine ⟨[], rest, tail, [], rfl, rfl, ?_⟩
            intro c hc
            rcases List.mem_append.mp hc with hc | hc
            · exact hclears c (List.mem_append_left _ hc)
            · exact hclears c (List.mem_append_right _ (List.mem_cons_of_mem _ hc))

theorem alternating_nil : Alternating [] := ⟨0, rfl⟩

theorem Alternating.append {first second : List Call} (hfirst : Alternating first)
    (hsecond : Alternating second) : Alternating (first ++ second) := by
  obtain ⟨n, hn⟩ := hfirst
  obtain ⟨k, hk⟩ := hsecond
  refine ⟨n + k, ?_⟩
  rw [List.filter_append, hn, hk, List.replicate_add, List.flatten_append]

end Call

theorem Sweep.isClear {candidates : List Candidate} {made : List Call}
    (h : Sweep candidates made) : ∀ c ∈ made, c.IsClear := by
  induction h with
  | done => simp
  | cleared c answer hrest ih =>
      intro call hcall
      rcases List.mem_cons.mp hcall with rfl | hcall
      · exact ⟨_, _, _, rfl⟩
      · exact ih call hcall
  | broken c rest reason =>
      intro call hcall
      rw [List.mem_singleton.mp hcall]
      exact ⟨_, _, _, rfl⟩

/-- Clears are no calls of the mediator. -/
theorem filter_isSignal_of_clears {clears : List Call} (hclears : ∀ c ∈ clears, c.IsClear) :
    clears.filter Call.isSignal = [] := by
  rw [List.filter_eq_nil_iff]
  exact fun c hc => (hclears c hc).not_isSignal

namespace Task

variable {δ : Type} {partitions : PartitionSettings} {task : Task} {made : List Call}

theorem Segment.bracketed (h : Segment partitions task made) : Call.Bracketed made := by
  cases h with
  | unread => exact Call.bracketed_nil
  | read dump ending => exact Call.bracketed_singleton (Call.not_isClear_dump _ dump ending)
  | unlisted reason => exact Call.bracketed_singleton (Call.not_isClear_list _)
  | swept answer hclears =>
      exact (Call.bracketed_singleton (Call.not_isClear_list _)).append
        (Call.bracketed_clears hclears.isClear)
  | guardCleared ending =>
      have hclear : ∀ c ∈ [Call.run (Flasher.clearArgs partitions.guard .ecc) ending],
          c.IsClear := by
        intro c hc
        rw [List.mem_singleton.mp hc]
        exact ⟨_, _, _, rfl⟩
      exact Call.bracketed_clears hclear

theorem Segment.alternating (h : Segment partitions task made) : Call.Alternating made := by
  cases h with
  | unread => exact ⟨0, rfl⟩
  | read dump ending => exact ⟨0, rfl⟩
  | unlisted reason => exact ⟨0, rfl⟩
  | swept answer hclears =>
      refine ⟨1, ?_⟩
      show List.filter Call.isSignal (.suspend :: (_ ++ [.resume])) = _
      rw [List.filter_cons_of_pos rfl, List.filter_append,
        filter_isSignal_of_clears hclears.isClear]
      rfl
  | guardCleared ending => exact ⟨1, rfl⟩

/-- A task that suspends the service resumes it last. -/
theorem Segment.resumed (h : Segment partitions task made) (hsuspend : .suspend ∈ made) :
    made.getLast? = some .resume := by
  cases h with
  | unread => simp at hsuspend
  | read dump ending => simp at hsuspend
  | unlisted reason => simp at hsuspend
  | swept answer hclears =>
      rw [← List.cons_append, ← List.cons_append, List.getLast?_concat]
  | guardCleared ending => rfl

theorem bracketed_flatten {tasks : List Task} {segments : List (List Call)}
    (h : List.Forall₂ (Segment partitions) tasks segments) :
    Call.Bracketed segments.flatten ∧ Call.Alternating segments.flatten := by
  induction h with
  | nil => exact ⟨Call.bracketed_nil, Call.alternating_nil⟩
  | cons hsegment _ ih =>
      rw [List.flatten_cons]
      exact ⟨hsegment.bracketed.append ih.1, hsegment.alternating.append ih.2⟩

theorem exists_segment {tasks : List Task} {segments : List (List Call)}
    (h : List.Forall₂ (Segment partitions) tasks segments) :
    ∀ segment ∈ segments, ∃ task, Segment partitions task segment := by
  induction h with
  | nil => simp
  | cons hsegment _ ih =>
      intro segment hmem
      rcases List.mem_cons.mp hmem with rfl | hmem
      · exact ⟨_, hsegment⟩
      · exact ih segment hmem

/-- The calls of a whole run are one segment for each task. Every clear among them is bracketed by
a suspend and a resume, which alternate, and each task that suspends the service resumes it last.
Recording the calls does not change what the run does. -/
theorem afterAll_segments (tool : Flasher δ) {mediator : Mediator δ}
    (hmediator : mediator.Returns) (partitions : PartitionSettings) (tasks : List Task)
    (m : Firmware.Manager δ) :
    (afterAll tool.recorded mediator.recorded partitions m.recorded tasks).forget =
        afterAll tool mediator partitions m tasks ∧
      ∃ segments, (afterAll tool.recorded mediator.recorded partitions m.recorded
          tasks).world.device.calls = segments.flatten ∧
        List.Forall₂ (Segment partitions) tasks segments ∧
        Call.Bracketed segments.flatten ∧ Call.Alternating segments.flatten ∧
        ∀ segment ∈ segments, .suspend ∈ segment → segment.getLast? = some .resume := by
  obtain ⟨hforget, segments, hcalls, hsegments⟩ :=
    afterAll_recorded tool partitions hmediator tasks m.recorded
  obtain ⟨hbracketed, halternating⟩ := bracketed_flatten hsegments
  refine ⟨hforget, segments, hcalls, hsegments, hbracketed, halternating, ?_⟩
  intro segment hmem
  obtain ⟨task, hsegment⟩ := exists_segment hsegments segment hmem
  exact hsegment.resumed

/-- A script whose listing names two candidates, and whose first clear of the second unwinds. -/
def brokenScript : Script where
  rules :=
    [⟨["-i"], none, .answer none (.ok "ID=01 HBEL 0 [E-F]\nID=02 NVRAM 0 [--F]\n")⟩,
     ⟨["-P", "NVRAM"], some 1, .unwind⟩]
  trace := []

/-- A manager on a machine without files, over the broken script. -/
def brokenManager : Firmware.Manager Script :=
  ⟨.empty {}, ⟨⟨⟨[]⟩, [], "/tmp", 0⟩, [], brokenScript⟩⟩

theorem brokenManager_segments :
    Script.mediator.Returns ∧
      ∃ segments, (afterAll (Script.tool "pflash").recorded Script.mediator.recorded {}
          brokenManager.recorded
          [factoryReset, clearGuard, scan, factoryReset]).world.device.calls = segments.flatten ∧
        List.Forall₂ (Segment {}) [factoryReset, clearGuard, scan, factoryReset] segments ∧
        Call.Bracketed segments.flatten ∧ Call.Alternating segments.flatten ∧
        ∀ segment ∈ segments, .suspend ∈ segment → segment.getLast? = some .resume := by
  have hreturns : Script.mediator.Returns := ⟨fun _ => rfl, fun _ => rfl⟩
  exact ⟨hreturns, (afterAll_segments (Script.tool "pflash") hreturns {}
    [factoryReset, clearGuard, scan, factoryReset] brokenManager).2⟩

end Task

end HostFlash
