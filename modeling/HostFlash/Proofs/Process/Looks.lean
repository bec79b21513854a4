import Mathlib.Data.Nat.Find
import HostFlash.Process.Supervision

/-!
# The look that decides a wait

A wait under a deadline goes on as long as the child is seen running before the deadline. The first
look at which that does not hold decides everything: how many rounds are made, how the wait comes
out, and whether the child is stopped. There is such a look, because the clock reaches the deadline.
-/

namespace HostFlash.Supervision

variable {deadline : Duration}

/-- The wait goes on after this look. -/
def Look.GoesOn (deadline : Duration) (l : Look) : Prop :=
  l.answer = .running ∧ l.elapsed < deadline

instance (deadline : Duration) (l : Look) : Decidable (l.GoesOn deadline) :=
  inferInstanceAs (Decidable (_ ∧ _))

/-- How a wait comes out that ends with this look. -/
def Look.outcome (l : Look) : Outcome :=
  match l.answer with
  | .running => .expired
  | .ended exit => .ended exit
  | .refused cause => .refused cause

/-- What is done with the child before the wait comes back. A child that has ended by itself was
waited for by the look that has seen it. -/
def Outcome.closing : Outcome → List Step
  | .ended _ => []
  | .expired | .refused _ => stop

/-- So many looks with a pause behind each. -/
def rounds (n : Nat) : List Step := (List.replicate n [.look, .pause]).flatten

theorem rounds_succ (n : Nat) : rounds (n + 1) = .look :: .pause :: rounds n := rfl

namespace Watch

variable {w : Watch deadline} {i n : Nat}

/-- This look is the first that does not let the wait go on. -/
structure Decides (w : Watch deadline) (n : Nat) : Prop where
  before : ∀ i < n, (w.look i).GoesOn deadline
  stops : ¬ (w.look n).GoesOn deadline

/-! ## The first such look -/

theorem not_goesOn_of_deadline_le (h : deadline ≤ (w.look i).elapsed) :
    ¬ (w.look i).GoesOn deadline := by
  rintro ⟨_, hlt⟩
  exact Nat.not_lt_of_le h hlt

theorem exists_decides (w : Watch deadline) : ∃ n, w.Decides n := by
  have hstops : ∃ n, ¬ (w.look n).GoesOn deadline :=
    ⟨w.reach, not_goesOn_of_deadline_le w.reaches⟩
  refine ⟨Nat.find hstops, ?_, Nat.find_spec hstops⟩
  -- Every look before the least one that stops the wait lets it go on.
  intro i hi
  exact Decidable.not_not.mp (Nat.find_min hstops hi)

/-- A look that does not let the wait go on is not before the first such look. -/
theorem Decides.le (h : w.Decides n) (hi : ¬ (w.look i).GoesOn deadline) : n ≤ i := by
  refine Nat.le_of_not_lt fun hlt => ?_
  exact hi (h.before i hlt)

theorem Decides.unique {m : Nat} (h : w.Decides n) (hm : w.Decides m) : m = n :=
  Nat.le_antisymm (hm.le h.stops) (h.le hm.stops)

/-! ## What the wait does -/

theorem superviseFrom_of_goesOn (h : (w.look i).GoesOn deadline) :
    w.superviseFrom i =
      (.look :: .pause :: (w.superviseFrom (i + 1)).1, (w.superviseFrom (i + 1)).2) := by
  obtain ⟨hrunning, hlt⟩ := h
  rw [superviseFrom, hrunning]
  exact if_neg (Nat.not_le_of_lt hlt)

theorem superviseFrom_of_stops (h : ¬ (w.look i).GoesOn deadline) :
    w.superviseFrom i = (.look :: (w.look i).outcome.closing, (w.look i).outcome) := by
  rw [superviseFrom, Look.outcome]
  cases hanswer : (w.look i).answer with
  | running =>
      have hle : deadline ≤ (w.look i).elapsed :=
        Nat.le_of_not_lt fun hlt => h ⟨hanswer, hlt⟩
      exact if_pos hle
  | ended exit => rfl
  | refused cause => rfl

/-- As long as the looks let it, the wait goes round. -/
theorem superviseFrom_rounds (count : Nat) {i : Nat}
    (h : ∀ j < count, (w.look (i + j)).GoesOn deadline) :
    w.superviseFrom i =
      (rounds count ++ (w.superviseFrom (i + count)).1, (w.superviseFrom (i + count)).2) := by
  induction count generalizing i with
  | zero => rfl
  | succ count ih =>
      have hfirst : (w.look i).GoesOn deadline := h 0 (Nat.succ_pos count)
      have hrest := ih (i := i + 1) fun j hj => by
        have hnext := h (j + 1) (Nat.succ_lt_succ hj)
        rwa [Nat.add_right_comm]
      rw [superviseFrom_of_goesOn hfirst, hrest, rounds_succ, Nat.add_right_comm]
      rfl

/-- The whole wait: a round for each look before the one that decides, and then what that says. -/
theorem Decides.supervise_eq (h : w.Decides n) :
    w.supervise =
      (rounds n ++ .look :: (w.look n).outcome.closing, (w.look n).outcome) := by
  have hrounds := superviseFrom_rounds (w := w) (i := 0) n fun j hj => by
    rw [Nat.zero_add]
    exact h.before j hj
  rw [supervise, hrounds, Nat.zero_add, superviseFrom_of_stops h.stops]

end Watch

end HostFlash.Supervision
