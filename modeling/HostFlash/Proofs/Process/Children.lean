import HostFlash.Process.Child

/-!
# Children with and without a limit

What a child of the machine does in time it does as well when it has all the time there is. Its
pipes come to the same for a reader of one of them and for a reader of both.
-/

namespace HostFlash

/-! ## Runs with and without a limit -/

/-- A limit that does not keep a run from its goal makes no difference to it. -/
theorem Kernel.run_of_reached {behavior : Behavior} {limit : Duration} {goal : Kernel → Bool}
    {fuel : Nat} {k : Kernel} (h : goal (k.run behavior (some limit) goal fuel).2 = true) :
    k.run behavior none goal fuel = k.run behavior (some limit) goal fuel := by
  induction fuel generalizing k with
  | zero => rfl
  | succ fuel ih =>
      simp only [run] at h ⊢
      split at h
      next hgoal => simp only [hgoal, if_true]
      next hgoal =>
        simp only [hgoal]
        cases hstep : k.step behavior with
        | none => rfl
        | some k' =>
            simp only [hstep] at h ⊢
            split at h
            -- A run that the limit stops has not reached its goal.
            next hlate => exact absurd h hgoal
            next hearly =>
              simp only [hearly, if_false]
              exact ih h

namespace Child

variable {machine : Machine} {deadline : Duration} {child : Child}

/-- A child that has ended within a limit does all that it does without one. -/
theorem run_of_ended {limit : Duration} {program : Program}
    (h : (run machine (some limit) program).1.ended ≠ none) :
    run machine none program = run machine (some limit) program := by
  unfold run at h ⊢
  dsimp only at h ⊢
  cases hend : endOf? ((Kernel.start machine (Utility.behavior program environment)).run
      Utility.behavior (some limit) (fun k => (endOf? k).isSome) Routine.always).2 with
  | none =>
      rw [hend] at h
      exact absurd rfl h
  | some ended =>
      -- The goal of the limited run is this very end, so the other run is the same up to it.
      rw [Kernel.run_of_reached (by rw [hend]; rfl), hend]

variable {limit : Option Duration} {after : Machine} {name : String} {args : List String}

theorem start_of_found {program : Program}
    (hfind : Program.find machine.files machine.workingDirectory name args = .ok program)
    (hrun : run machine (limit.map fun d => interval.times (lastLook d)) program =
      (child, after)) :
    start machine limit name args = (.ok child, after) := by
  unfold start
  split
  next e herror =>
    rw [hfind] at herror
    cases herror
  next found hfound =>
    rw [hfind] at hfound
    cases hfound
    -- The run must be known before it is taken apart, or all of it would be worked out.
    dsimp -iota only
    rw [hrun]

theorem start_of_not_found {cause : IoError}
    (hfind : Program.find machine.files machine.workingDirectory name args = .error cause) :
    start machine limit name args = (.error cause, machine) := by
  rw [start, hfind]

/-- Whether a program can be started does not depend on its deadline, and a child that ends within
the deadline is the same child without it. -/
theorem start_unlimited (machine : Machine) (deadline : Duration) (name : String)
    (args : List String) :
    start machine none name args = start machine (some deadline) name args ∨
      ∃ child after, start machine (some deadline) name args = (.ok child, after) ∧
        child.ended = none := by
  cases hfind : Program.find machine.files machine.workingDirectory name args with
  | error cause =>
      left
      rw [start_of_not_found hfind, start_of_not_found hfind]
  | ok program =>
      cases hrun : run machine (some (interval.times (lastLook deadline))) program with
      | mk child after =>
      have hstart : start machine (some deadline) name args = (.ok child, after) :=
        start_of_found hfind hrun
      by_cases hended : child.ended = none
      · exact Or.inr ⟨child, after, hstart, hended⟩
      · left
        rw [hstart]
        refine start_of_found hfind ?_
        rw [Option.map_none, run_of_ended (by rwa [hrun]), hrun]

/-- A look that does not find a child of the machine running sees how it has ended. -/
theorem answer_watch {i : Nat} (h : ((child.watch deadline).look i).answer ≠ .running) :
    ∃ exit lifetime, child.ended = some (exit, lifetime) ∧
      ((child.watch deadline).look i).answer = .ended exit := by
  simp only [watch, answerAt] at h ⊢
  cases hended : child.ended with
  | none =>
      rw [hended] at h
      exact absurd rfl h
  | some ended =>
      obtain ⟨exit, lifetime⟩ := ended
      rw [hended] at h
      dsimp only at h ⊢
      split at h
      next htime => exact ⟨exit, lifetime, rfl, if_pos htime⟩
      next => exact absurd rfl h

/-! ## What is read from the pipes -/

theorem drained?_of_closed (h : child.closed = true) (pipe : Pipe) :
    ∃ bytes, child.drained? pipe = some bytes ∧ bytes.toList = child.arrivals.through pipe := by
  refine ⟨child.arrivals.drain pipe #[], if_pos h, ?_⟩
  rw [Arrivals.toList_drain]
  rfl

theorem drained?_of_open (h : child.closed = false) (pipe : Pipe) : child.drained? pipe = none := by
  rw [drained?, h]
  rfl

theorem completed?_of_open (h : child.closed = false) : child.completed? = none := by
  rw [completed?, h]
  rfl

theorem completed?_of_closed {exit : Exit} {lifetime : Duration} (h : child.closed = true)
    (hended : child.ended = some (exit, lifetime)) :
    ∃ read, child.completed? = some (exit, read) ∧
      read.output.toList = child.arrivals.through .output := by
  refine ⟨child.arrivals.gather ⟨#[], #[]⟩, ?_, ?_⟩
  · rw [completed?, if_pos h, hended]
    rfl
  · exact Arrivals.toList_gather ⟨#[], #[]⟩ .output child.arrivals

end Child

end HostFlash
