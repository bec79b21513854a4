import HostFlash.Process.Kernel
import HostFlash.Process.Supervision
import HostFlash.Utility.Catalog

/-! # Child processes

Running a program of the machine as a child. The run is followed from outside by looks at regular
intervals, and a child that has to be killed does nothing after the look that finds it late.
-/

namespace HostFlash

/-- What is known of a child: how and when it ends, if it ever does, what arrives from its pipes,
and whether they come to an end. A pipe ends when nothing is left that can write to it. -/
structure Child where
  ended : Option (Exit × Duration)
  arrivals : Arrivals
  closed : Bool
deriving Repr, DecidableEq

namespace Child

/-- The time between two looks. -/
def interval : Duration := .ofMilliseconds 50

/-- The first look at or past a deadline. -/
def lastLook (deadline : Duration) : Nat :=
  (deadline.nanoseconds + (interval.nanoseconds - 1)) / interval.nanoseconds

/-- What the child answers at a time. -/
def answerAt (c : Child) (time : Duration) : Supervision.Answer :=
  match c.ended with
  | some (exit, lifetime) => if lifetime ≤ time then .ended exit else .running
  | none => .running

/-- The looks at a child. -/
def watch (c : Child) (deadline : Duration) : Supervision.Watch deadline where
  look i := ⟨c.answerAt (interval.times i), interval.times i⟩
  monotone i := by
    simp only [Duration.le_def, Duration.times]
    exact Nat.mul_le_mul_right _ (Nat.le_succ i)
  reach := lastLook deadline
  reaches := by
    simp only [Duration.le_def, Duration.times, lastLook, interval, Duration.ofMilliseconds]
    omega

/-- One pipe, read to its end, if it has one. -/
def drained? (c : Child) (pipe : Pipe) : Option (Array UInt8) :=
  if c.closed then some (c.arrivals.drain pipe #[]) else none

/-- Both pipes, read to their ends, and then the exit, if it comes to that. -/
def completed? (c : Child) : Option (Exit × Gathered) :=
  if c.closed then c.ended.map fun (exit, _) => (exit, c.arrivals.gather ⟨#[], #[]⟩) else none

/-- The variables of a program that nothing else has begun. -/
def environment : Environment := [("HOME", "/root"), ("PATH", ":".intercalate Program.searchPath)]

/-- How and when the first process ended. -/
def endOf? (k : Kernel) : Option (Exit × Duration) :=
  (k.process? Kernel.firstProcess).bind (·.ended)

/-- Some process can still write to the outside. -/
def isOpen (k : Kernel) : Bool := k.isHeld fun c => c matches .outside _

/-- Runs a program up to a time at which it is killed. When it has ended in time, its pipes are
followed until nothing can write to them any more. -/
def run (machine : Machine) (limit : Option Duration) (program : Program) : Child × Machine :=
  let start := Kernel.start machine (Utility.behavior program environment)
  let (_, k) := start.run Utility.behavior limit (fun k => (endOf? k).isSome) Routine.always
  match endOf? k with
  | none => (⟨none, k.written.reverse, false⟩, { machine with files := k.files })
  | some ended =>
      let (closed, k) := k.run Utility.behavior none (fun k => !isOpen k) Routine.always
      (⟨some ended, k.written.reverse, closed⟩, { machine with files := k.files })

/-- Starts the program that a name stands for. With a deadline it is killed at the first look that
finds it late. -/
def start (machine : Machine) (deadline : Option Duration) (name : String) (args : List String) :
    Except IoError Child × Machine :=
  match Program.find machine.files machine.workingDirectory name args with
  | .error e => (.error e, machine)
  | .ok program =>
      let limit := deadline.map fun d => interval.times (lastLook d)
      let (child, machine) := run machine limit program
      (.ok child, machine)

end Child

end HostFlash
