import HostFlash.Process.Duration
import HostFlash.Host.IoError

/-! # Waiting with a deadline

A child process is asked again and again whether it has ended. Each time the answer comes before
the clock: a child that is seen to have ended has ended in time, however late that is, and only a
child that is seen running at or past the deadline is killed. `supervise` gives the steps taken
and how the wait came out, over any sequence of answers and any clock that reaches the deadline.
-/

namespace HostFlash

/-- How a process ended. -/
inductive Exit where
  | code (status : Int)
  | signal (number : Nat)
deriving Repr, DecidableEq

/-- The status that stands for an exit: that of the process, and `-1` for a signal. -/
def Exit.status : Exit → Int
  | code status => status
  | signal _ => -1

namespace Supervision

/-- What a child answers when it is asked for its end. -/
inductive Answer where
  | running
  | ended (exit : Exit)
  | refused (cause : IoError)
deriving Repr, DecidableEq

/-- One look at the child, with the time since the start of the wait. -/
structure Look where
  answer : Answer
  elapsed : Duration
deriving Repr, DecidableEq

/-- All looks at a child, with a clock that never goes back and reaches the deadline. -/
structure Watch (deadline : Duration) where
  look : Nat → Look
  monotone : ∀ i, (look i).elapsed ≤ (look (i + 1)).elapsed
  reach : Nat
  reaches : deadline ≤ (look reach).elapsed

/-- What is done with a child. -/
inductive Step where
  | look
  | pause
  | kill
  | reap
deriving Repr, DecidableEq

/-- How a wait comes out. -/
inductive Outcome where
  | ended (exit : Exit)
  | expired
  | refused (cause : IoError)
deriving Repr, DecidableEq

/-- The steps that end a child which may be running. -/
def stop : List Step := [.kill, .reap]

namespace Watch

variable {deadline : Duration} (w : Watch deadline)

/-- Later looks have later clocks. -/
theorem elapsed_le {i j : Nat} (h : i ≤ j) : (w.look i).elapsed ≤ (w.look j).elapsed := by
  induction h with
  | refl => exact Nat.le_refl _
  | step _ ih => exact Nat.le_trans ih (w.monotone _)

/-- The clock is past the deadline from the look `reach` on. -/
theorem deadline_le {i : Nat} (h : w.reach ≤ i) : deadline ≤ (w.look i).elapsed :=
  Nat.le_trans w.reaches (w.elapsed_le h)

/-- Looks from the look `i` on until the child has ended, refuses to answer, or is past its
deadline. -/
def superviseFrom (i : Nat) : List Step × Outcome :=
  match (w.look i).answer with
  | .ended exit => ([.look], .ended exit)
  | .refused cause => (.look :: stop, .refused cause)
  | .running =>
      if deadline ≤ (w.look i).elapsed then (.look :: stop, .expired)
      else
        let (steps, outcome) := superviseFrom (i + 1)
        (.look :: .pause :: steps, outcome)
termination_by w.reach - i
decreasing_by
  rename_i h
  have : i < w.reach := Nat.lt_of_not_le fun hle => h (w.deadline_le hle)
  omega

/-- The whole wait. -/
def supervise : List Step × Outcome := w.superviseFrom 0

end Watch

end Supervision

end HostFlash
