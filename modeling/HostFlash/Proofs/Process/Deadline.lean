import HostFlash.Flash.ExternalTool
import HostFlash.Proofs.Process.Children
import HostFlash.Proofs.Process.Looks

/-!
# Programs under a deadline

A program with a deadline is looked at until one look decides how its run comes out. It is late
exactly when that look still finds it running, and then it is stopped before the run comes back.
When its end is seen, however late that is, the run comes to what it comes to without a deadline.
-/

namespace HostFlash

open Supervision

namespace ExternalProgram

variable {δ : Type} {p : ExternalProgram} {args : List String} {w : World δ}

/-- The program with this deadline, or without any. -/
def within (p : ExternalProgram) (deadline : Option Duration) : ExternalProgram :=
  { p with deadline := deadline }

/-- What is logged about a program that is late. -/
def lateLine (p : ExternalProgram) (args : List String) (deadline : Duration) : LogLine :=
  ⟨.warn, " ".intercalate (p.name :: args) ++ " exceeded " ++ deadline.text ++ ", killing it"⟩

/-- What a program comes to with this exit and these arrivals from its pipes. -/
def answerOf (exit : Exit) (arrivals : Arrivals) : ToolAnswer :=
  ⟨exit.status, String.ofList (Text.Utf8.decodeLossy (arrivals.through .output))⟩

/-! ## The two ways to wait -/

section Waiting

variable {child : Child} {exit : Exit}

theorem await_some {α : Type} (a : α) : await (some a) w = (.returned a, w) := rfl

theorem await_none {α : Type} : await (none : Option α) w = (.unwound endlessWait, w) := rfl

theorem finish_textOf {bytes : Array UInt8} {arrivals : Arrivals}
    (h : bytes.toList = arrivals.through .output) :
    finish exit (textOf bytes) = answerOf exit arrivals := by
  rw [finish, textOf, h, answerOf]

theorem attend_of_unlimited {looks : ∀ deadline, Watch deadline} (h : p.deadline = none) :
    p.attend args child looks w =
      (await child.completed? >>= fun ended =>
        pure ([.reap], .ok (finish ended.1 (textOf ended.2.output)))) w := by
  rw [attend, h]

theorem attend_unlimited {looks : ∀ deadline, Watch deadline} {lifetime : Duration}
    (h : p.deadline = none) (hclosed : child.closed = true)
    (hended : child.ended = some (exit, lifetime)) :
    p.attend args child looks w =
      (.returned ([.reap], .ok (answerOf exit child.arrivals)), w) := by
  obtain ⟨read, hread, hbytes⟩ := Child.completed?_of_closed hclosed hended
  rw [attend_of_unlimited h, hread, Action.bind_returned (await_some _), finish_textOf hbytes]
  rfl

/-- Without a deadline nothing comes back as long as something can write to the pipes. -/
theorem attend_unlimited_of_open {looks : ∀ deadline, Watch deadline} (h : p.deadline = none)
    (hopen : child.closed = false) :
    p.attend args child looks w = (.unwound endlessWait, w) := by
  rw [attend_of_unlimited h, Child.completed?_of_open hopen, Action.bind_unwound await_none]

theorem settle_of_closed {command : String} {deadline : Duration} (hclosed : child.closed = true) :
    p.settle command deadline child (.ended exit) w =
      (.returned (.ok (answerOf exit child.arrivals)), w) := by
  obtain ⟨output, houtput, hbytes⟩ := Child.drained?_of_closed hclosed .output
  obtain ⟨errors, herrors, _⟩ := Child.drained?_of_closed hclosed .errors
  rw [settle, houtput, Action.bind_returned (await_some _), herrors,
    Action.bind_returned (await_some _), finish_textOf hbytes]
  rfl

theorem settle_of_open {command : String} {deadline : Duration} (hopen : child.closed = false) :
    p.settle command deadline child (.ended exit) w = (.unwound endlessWait, w) := by
  rw [settle, Child.drained?_of_open hopen, Action.bind_unwound await_none]

end Waiting

/-! ## What the deciding look says -/

section Deciding

variable {deadline : Duration} {child : Child} {looks : ∀ deadline, Watch deadline} {n : Nat}

/-- The steps are those of the wait, and the rest is what is done once it is over. -/
theorem attend_within (h : p.deadline = some deadline) (hn : (looks deadline).Decides n) :
    p.attend args child looks w =
      (Prod.mk (rounds n ++ .look :: ((looks deadline).look n).outcome.closing) <$>
        p.settle (" ".intercalate (p.name :: args)) deadline child
          ((looks deadline).look n).outcome) w := by
  rw [attend, h]
  dsimp only
  rw [hn.supervise_eq, commandText_eq]
  rfl

theorem attend_of_running (h : p.deadline = some deadline) (hn : (looks deadline).Decides n)
    (hrunning : ((looks deadline).look n).answer = .running) :
    p.attend args child looks w =
      (.returned (rounds n ++ [.look, .kill, .reap],
          .error (.timedOut (" ".intercalate (p.name :: args))
            (deadline.nanoseconds / 1000000000))),
        { w with log := w.log ++ [p.lateLine args deadline] }) := by
  rw [attend_within h hn, Look.outcome, hrunning]
  rfl

theorem attend_of_refused {cause : IoError} (h : p.deadline = some deadline)
    (hn : (looks deadline).Decides n)
    (hrefused : ((looks deadline).look n).answer = .refused cause) :
    p.attend args child looks w =
      (.returned (rounds n ++ [.look, .kill, .reap], .error (.notStarted p.program cause)), w) := by
  rw [attend_within h hn, Look.outcome, hrefused]
  rfl

theorem attend_of_ended {exit : Exit} (h : p.deadline = some deadline)
    (hn : (looks deadline).Decides n) (hclosed : child.closed = true)
    (hended : ((looks deadline).look n).answer = .ended exit) :
    p.attend args child looks w =
      (.returned (rounds n ++ [.look], .ok (answerOf exit child.arrivals)), w) := by
  rw [attend_within h hn, Look.outcome, hended]
  exact Action.map_returned (settle_of_closed hclosed) _

theorem attend_of_ended_open {exit : Exit} (h : p.deadline = some deadline)
    (hn : (looks deadline).Decides n) (hopen : child.closed = false)
    (hended : ((looks deadline).look n).answer = .ended exit) :
    p.attend args child looks w = (.unwound endlessWait, w) := by
  rw [attend_within h hn, Look.outcome, hended]
  exact Action.map_unwound (settle_of_open hopen) _

end Deciding

/-- The look `n` of a watch decides how a child is attended, from the world before to the ending,
which has the steps that were taken. -/
structure Decided (p : ExternalProgram) (args : List String) {deadline : Duration}
    (watch : Watch deadline) (child : Child) (n : Nat) (before : World δ)
    (ending : Ending (List Step × Except Failure ToolAnswer) × World δ) : Prop where
  decides : watch.Decides n
  only : ∀ m, watch.Decides m → m = n
  bounded : ∀ i, deadline ≤ (watch.look i).elapsed → n ≤ i
  timedOut_iff : (∃ steps command seconds,
    ending.1 = .returned (steps, .error (.timedOut command seconds))) ↔
      (watch.look n).answer = .running
  late : (watch.look n).answer = .running →
    ending = (.returned (rounds n ++ [.look, .kill, .reap],
        .error (.timedOut (" ".intercalate (p.name :: args))
          (deadline.nanoseconds / 1000000000))),
      { before with log := before.log ++ [p.lateLine args deadline] })
  refused : ∀ cause, (watch.look n).answer = .refused cause →
    ending = (.returned (rounds n ++ [.look, .kill, .reap],
      .error (.notStarted p.program cause)), before)
  exited : ∀ code, (watch.look n).answer = .ended (.code code) → child.closed = true →
    ending = (.returned (rounds n ++ [.look],
      .ok ⟨code, String.ofList (Text.Utf8.decodeLossy (child.arrivals.through .output))⟩),
      before)
  killed : ∀ signal, (watch.look n).answer = .ended (.signal signal) → child.closed = true →
    ending = (.returned (rounds n ++ [.look],
      .ok ⟨-1, String.ofList (Text.Utf8.decodeLossy (child.arrivals.through .output))⟩),
      before)

theorem decided_attend {deadline : Duration} {child : Child}
    {looks : ∀ deadline, Watch deadline} {n : Nat} (h : p.deadline = some deadline)
    (hn : (looks deadline).Decides n) :
    p.Decided args (looks deadline) child n w (p.attend args child looks w) where
  decides := hn
  only _ hm := hn.unique hm
  bounded _ hi := hn.le (Watch.not_goesOn_of_deadline_le hi)
  timedOut_iff := by
    cases hanswer : ((looks deadline).look n).answer with
    | running => simp [attend_of_running h hn hanswer]
    | refused cause => simp [attend_of_refused h hn hanswer]
    | ended exit =>
        cases hclosed : child.closed with
        | true => simp [attend_of_ended h hn hclosed hanswer]
        | false => simp [attend_of_ended_open h hn hclosed hanswer]
  late hrunning := attend_of_running h hn hrunning
  refused _ hrefused := attend_of_refused h hn hrefused
  exited _ hended hclosed := attend_of_ended h hn hclosed hended
  killed _ hended hclosed := attend_of_ended h hn hclosed hended

/-- The two ways to wait come to one answer, however the pieces from the pipes are cut and in
whatever order those of the two pipes come. -/
theorem attend_agrees {deadline : Duration} {child child' : Child} {exit : Exit}
    {lifetime : Duration} {looks looks' : ∀ deadline, Watch deadline} {n : Nat}
    (hn : (looks deadline).Decides n) (hseen : ((looks deadline).look n).answer = .ended exit)
    (hclosed : child.closed = true) (hclosed' : child'.closed = true)
    (hended : child'.ended = some (exit, lifetime))
    (hsame : child'.arrivals.through .output = child.arrivals.through .output) :
    ∃ answer,
      (p.within (some deadline)).attend args child looks w =
          (.returned (rounds n ++ [.look], .ok answer), w) ∧
        (p.within none).attend args child' looks' w = (.returned ([.reap], .ok answer), w) := by
  refine ⟨answerOf exit child.arrivals, attend_of_ended rfl hn hclosed hseen, ?_⟩
  have hanswer : answerOf exit child'.arrivals = answerOf exit child.arrivals := by
    rw [answerOf, answerOf, hsame]
  rw [attend_unlimited rfl hclosed' hended, hanswer]

/-! ## Runs of programs of the machine -/

theorem run_of_started {child : Child} {machine : Machine}
    (h : Child.start w.machine p.deadline p.program args = (.ok child, machine)) :
    p.run args w =
      (Prod.snd <$> p.attend args child child.watch) { w with machine := machine } := by
  have hstart : (World.onMachine fun m => Child.start m p.deadline p.program args) w =
      (.returned (.ok child), { w with machine := machine }) := by
    rw [World.onMachine_apply, h]
  rw [run, Action.bind_returned hstart]

theorem run_of_unstarted {cause : IoError} {machine : Machine}
    (h : Child.start w.machine p.deadline p.program args = (.error cause, machine)) :
    p.run args w =
      (.returned (.error (.notStarted p.program cause)), { w with machine := machine }) := by
  have hstart : (World.onMachine fun m => Child.start m p.deadline p.program args) w =
      (.returned (.error cause), { w with machine := machine }) := by
    rw [World.onMachine_apply, h]
  rw [run, Action.bind_returned hstart]
  rfl

/-- The child of the program is still running at the look that decides. -/
def RunsLate (p : ExternalProgram) (deadline : Duration) (args : List String)
    (w : World δ) : Prop :=
  ∃ child machine n, Child.start w.machine (some deadline) p.program args =
    (.ok child, machine) ∧ (child.watch deadline).Decides n ∧
      ((child.watch deadline).look n).answer = .running

theorem run_of_late {deadline : Duration} (h : p.RunsLate deadline args w) :
    ((p.within (some deadline)).run args w).1 =
      .returned (.error (.timedOut (" ".intercalate (p.name :: args))
        (deadline.nanoseconds / 1000000000))) := by
  obtain ⟨child, machine, n, hstart, hn, hrunning⟩ := h
  rw [run_of_started (p := p.within (some deadline)) hstart,
    Action.map_returned (attend_of_running rfl hn hrunning)]
  rfl

/-- A child of the machine whose end is seen comes to the same both ways, also if its pipes never
end. -/
theorem run_agrees {deadline : Duration} {child : Child} {n : Nat}
    (hn : (child.watch deadline).Decides n)
    (hseen : ((child.watch deadline).look n).answer ≠ .running) :
    (Prod.snd <$> (p.within (some deadline)).attend args child child.watch) w =
      (Prod.snd <$> (p.within none).attend args child child.watch) w := by
  obtain ⟨exit, lifetime, hended, hanswer⟩ := Child.answer_watch hseen
  cases hclosed : child.closed with
  | true =>
      rw [Action.map_returned (attend_of_ended rfl hn hclosed hanswer),
        Action.map_returned (attend_unlimited rfl hclosed hended)]
  | false =>
      rw [Action.map_unwound (attend_of_ended_open rfl hn hclosed hanswer),
        Action.map_unwound (attend_unlimited_of_open rfl hclosed)]

theorem run_of_not_late {deadline : Duration} (h : ¬ p.RunsLate deadline args w) :
    (p.within (some deadline)).run args w = (p.within none).run args w := by
  rcases Child.start_unlimited w.machine deadline p.program args with
    hsame | ⟨child, machine, hstart, hendless⟩
  · cases hstart : Child.start w.machine (some deadline) p.program args with
    | mk started machine =>
    have hfree : Child.start w.machine none p.program args = (started, machine) := by
      rw [hsame, hstart]
    cases started with
    | error cause =>
        rw [run_of_unstarted (p := p.within (some deadline)) hstart,
          run_of_unstarted (p := p.within none) hfree]
        rfl
    | ok child =>
        obtain ⟨n, hn⟩ := (child.watch deadline).exists_decides
        have hseen : ((child.watch deadline).look n).answer ≠ .running := fun hrunning =>
          h ⟨child, machine, n, hstart, hn, hrunning⟩
        rw [run_of_started (p := p.within (some deadline)) hstart,
          run_of_started (p := p.within none) hfree]
        exact run_agrees hn hseen
  · -- A child without an end is found running by every look.
    obtain ⟨n, hn⟩ := (child.watch deadline).exists_decides
    refine absurd ⟨child, machine, n, hstart, hn, ?_⟩ h
    by_contra hseen
    obtain ⟨exit, lifetime, hended, _⟩ := Child.answer_watch hseen
    rw [hendless] at hended
    cases hended

/-- One look decides how a child is attended under a deadline, whatever the looks find and however
the clock goes: it is the first that does not find the child running before the deadline, and it
comes no later than the first at which the deadline is reached. The child is late exactly when this
look finds it running, and it is killed and waited for before a late child or a failed look is
reported. A child whose end is seen comes to the answer that it comes to without a deadline, where
both pipes are read at once and in other pieces. Every run of a program of the machine that is not
late is the run without a deadline. -/
theorem run_under_deadline (p : ExternalProgram) (deadline : Duration) (args : List String)
    (w : World δ) :
    (∀ (child : Child) (looks : ∀ deadline, Watch deadline),
      ∃ n, (p.within (some deadline)).Decided args (looks deadline) child n w
          ((p.within (some deadline)).attend args child looks w) ∧
        ∀ exit, ((looks deadline).look n).answer = .ended exit → child.closed = true →
          ∀ (child' : Child) (looks' : ∀ deadline, Watch deadline) lifetime,
            child'.ended = some (exit, lifetime) → child'.closed = true →
            child'.arrivals.through .output = child.arrivals.through .output →
            ∃ answer,
              (p.within (some deadline)).attend args child looks w =
                  (.returned (rounds n ++ [.look], .ok answer), w) ∧
                (p.within none).attend args child' looks' w =
                  (.returned ([.reap], .ok answer), w)) ∧
      (p.RunsLate deadline args w →
        ((p.within (some deadline)).run args w).1 =
          .returned (.error (.timedOut (" ".intercalate (p.name :: args))
            (deadline.nanoseconds / 1000000000)))) ∧
      (¬ p.RunsLate deadline args w →
        (p.within (some deadline)).run args w = (p.within none).run args w) := by
  refine ⟨fun child looks => ?_, run_of_late, run_of_not_late⟩
  obtain ⟨n, hn⟩ := (looks deadline).exists_decides
  refine ⟨n, decided_attend rfl hn, ?_⟩
  intro exit hseen hclosed child' looks' lifetime hended hclosed' hsame
  exact attend_agrees hn hseen hclosed hclosed' hended hsame

/-- A child that the first look finds running, and that all others find ended, long after the
deadline. -/
def lateLooks (exit : Exit) (deadline : Duration) : Watch deadline where
  look i := if i = 0 then ⟨.running, ⟨0⟩⟩ else ⟨.ended exit, deadline + .ofSeconds i⟩
  monotone i := by
    rcases i with _ | i
    · exact Nat.zero_le _
    · show deadline.nanoseconds + (i + 1) * 1000000000 ≤
        deadline.nanoseconds + (i + 2) * 1000000000
      omega
  reach := 1
  reaches := Nat.le_add_right _ _

theorem lateLooks_decides (exit : Exit) : (lateLooks exit (.ofSeconds 1)).Decides 1 where
  before i hi := by
    obtain rfl : i = 0 := Nat.lt_one_iff.mp hi
    exact ⟨rfl, Nat.zero_lt_succ _⟩
  stops := by
    rintro ⟨hrunning, _⟩
    cases hrunning

/-- A child that ends like this after two seconds. -/
def writer (exit : Exit) (arrivals : Arrivals) : Child :=
  ⟨some (exit, .ofSeconds 2), arrivals, true⟩

/-- A program that sleeps. -/
def sleeper : ExternalProgram := ⟨"/bin/sleep", "sleep", none⟩

/-- A world with this program and nothing else. -/
def quietWorld : World Unit :=
  ⟨⟨⟨[(["bin"], .directory), (["bin", "sleep"], .program "sleep")]⟩, [], "/tmp", 0⟩, [], ()⟩

/-- How the program sleeps there for five seconds, under a deadline or without any. -/
def sleep (deadline : Option Duration) : Child × Machine :=
  Child.run quietWorld.machine (deadline.map fun d => Child.interval.times (Child.lastLook d))
    ⟨"sleep", "/bin/sleep", ["5"]⟩

theorem start_sleeper (deadline : Option Duration) :
    Child.start quietWorld.machine deadline sleeper.program ["5"] =
      (.ok (sleep deadline).1, (sleep deadline).2) :=
  Child.start_of_found rfl rfl

theorem sleeper_late : sleeper.RunsLate (.ofSeconds 1) ["5"] quietWorld := by
  have hkilled : (sleep (some (.ofSeconds 1))).1 = ⟨none, [], false⟩ := by decide +kernel
  refine ⟨_, _, 20, start_sleeper _, ?_⟩
  rw [hkilled]
  exact ⟨⟨by decide +kernel, by decide +kernel⟩, by decide +kernel⟩

theorem sleeper_not_late : ¬ sleeper.RunsLate (.ofSeconds 6) ["5"] quietWorld := by
  have hslept : (sleep (some (.ofSeconds 6))).1 = ⟨some (.code 0, ⟨5001000000⟩), [], true⟩ := by
    decide +kernel
  rintro ⟨child, machine, n, hstart, hn, hrunning⟩
  rw [start_sleeper, hslept] at hstart
  cases hstart
  have hdecides : (Child.watch ⟨some (.code 0, ⟨5001000000⟩), [], true⟩ (.ofSeconds 6)).Decides
      101 :=
    ⟨by decide +kernel, by decide +kernel⟩
  rw [hdecides.unique hn] at hrunning
  exact absurd hrunning (by decide +kernel)

/-- Five seconds of sleep are too long for a deadline of one second, and as good as without any for
one of six. A deadline of no time at all stops a child at the first look. An end that is seen after
the deadline counts, with its status or with -1 for a signal. -/
theorem sleeper_under_deadline :
    ((sleeper.within (some (.ofSeconds 1))).run ["5"] quietWorld).1 =
        .returned (.error (.timedOut "sleep 5" 1)) ∧
      (sleeper.within (some (.ofSeconds 6))).run ["5"] quietWorld =
        (sleeper.within none).run ["5"] quietWorld ∧
      (sleeper.within (some (.ofSeconds 0))).attend ["5"] ⟨none, [], false⟩
          (Child.watch ⟨none, [], false⟩) quietWorld =
        (.returned ([.look, .kill, .reap], .error (.timedOut "sleep 5" 0)),
          { quietWorld with log := [⟨.warn, "sleep 5 exceeded 0ns, killing it"⟩] }) ∧
      (sleeper.within (some (.ofSeconds 1))).attend ["5"]
          (writer (.code 4) [(.output, [111]), (.errors, [33]), (.output, [255])])
          (lateLooks (.code 4)) quietWorld =
        (.returned ([.look, .pause, .look], .ok ⟨4, "o\uFFFD"⟩), quietWorld) ∧
      (sleeper.within (some (.ofSeconds 1))).attend ["5"]
          (writer (.signal 9) [(.errors, [33]), (.output, [111, 255])])
          (lateLooks (.signal 9)) quietWorld =
        (.returned ([.look, .pause, .look], .ok ⟨-1, "o\uFFFD"⟩), quietWorld) ∧
      ∃ answer,
        (sleeper.within (some (.ofSeconds 1))).attend ["5"]
            (writer (.code 4) [(.output, [111]), (.errors, [33]), (.output, [255])])
            (lateLooks (.code 4)) quietWorld =
          (.returned ([.look, .pause, .look], .ok answer), quietWorld) ∧
        (sleeper.within none).attend ["5"]
            (writer (.code 4) [(.errors, [33]), (.output, [111, 255])])
            (lateLooks (.code 4)) quietWorld =
          (.returned ([.reap], .ok answer), quietWorld) := by
  obtain ⟨hattend, hlate, _⟩ := run_under_deadline sleeper (.ofSeconds 1) ["5"] quietWorld
  obtain ⟨_, _, hearly⟩ := run_under_deadline sleeper (.ofSeconds 6) ["5"] quietWorld
  obtain ⟨hzero, _, _⟩ := run_under_deadline sleeper (.ofSeconds 0) ["5"] quietWorld
  obtain ⟨k, hstopped, _⟩ := hzero ⟨none, [], false⟩ (Child.watch ⟨none, [], false⟩)
  obtain rfl : 0 = k := hstopped.only 0 ⟨fun i hi => absurd hi (Nat.not_lt_zero i), by decide⟩
  obtain ⟨n, hcode, hsame⟩ :=
    hattend (writer (.code 4) [(.output, [111]), (.errors, [33]), (.output, [255])])
      (lateLooks (.code 4))
  obtain rfl : 1 = n := hcode.only 1 (lateLooks_decides _)
  obtain ⟨m, hsignal, _⟩ :=
    hattend (writer (.signal 9) [(.errors, [33]), (.output, [111, 255])]) (lateLooks (.signal 9))
  obtain rfl : 1 = m := hsignal.only 1 (lateLooks_decides _)
  exact ⟨hlate sleeper_late, hearly sleeper_not_late, hstopped.late rfl, hcode.exited 4 rfl rfl,
    hsignal.killed 9 rfl rfl,
    hsame (.code 4) rfl rfl (writer (.code 4) [(.errors, [33]), (.output, [111, 255])])
      (lateLooks (.code 4)) _ rfl rfl rfl⟩

end ExternalProgram

end HostFlash
