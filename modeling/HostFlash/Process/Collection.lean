/-! # What a child writes

A child writes into two pipes, one for its output and one for its errors, and what it writes comes
out of them piece by piece. `drain` reads one pipe and leaves the other to somebody else; `gather`
reads both as the pieces arrive. In the end either has all that came through a pipe, whatever the
pieces are and however those of the two pipes alternate.
-/

namespace HostFlash

/-- A pipe of a child. -/
inductive Pipe where
  | output
  | errors
deriving Repr, DecidableEq

/-- The pieces that come out of the pipes of a child, in order. -/
abbrev Arrivals : Type := List (Pipe × List UInt8)

/-- What has been read from both pipes. -/
structure Gathered where
  output : Array UInt8
  errors : Array UInt8
deriving Repr, DecidableEq

namespace Gathered

/-- What has been read from one of the pipes. -/
def buffer (g : Gathered) : Pipe → Array UInt8
  | .output => g.output
  | .errors => g.errors

/-- Puts a piece behind what has been read from its pipe. -/
def add (g : Gathered) (bytes : List UInt8) : Pipe → Gathered
  | .output => { g with output := g.output ++ bytes }
  | .errors => { g with errors := g.errors ++ bytes }

@[simp] theorem buffer_add_self (g : Gathered) (bytes : List UInt8) (pipe : Pipe) :
    (g.add bytes pipe).buffer pipe = g.buffer pipe ++ bytes := by
  cases pipe <;> rfl

theorem buffer_add_of_ne {p pipe : Pipe} (h : p ≠ pipe) (g : Gathered) (bytes : List UInt8) :
    (g.add bytes p).buffer pipe = g.buffer pipe := by
  cases p <;> cases pipe <;> first | rfl | exact absurd rfl h

end Gathered

namespace Arrivals

/-- All that comes through a pipe. -/
def through (pipe : Pipe) (arrivals : Arrivals) : List UInt8 :=
  (arrivals.filter (·.1 = pipe)).flatMap (·.2)

/-- Reads a pipe to its end, behind what has been read. -/
def drain (pipe : Pipe) (buffer : Array UInt8) : Arrivals → Array UInt8
  | [] => buffer
  | (p, bytes) :: rest => drain pipe (if p = pipe then buffer ++ bytes else buffer) rest

/-- Reads both pipes to their ends, behind what has been read. -/
def gather (read : Gathered) : Arrivals → Gathered
  | [] => read
  | (p, bytes) :: rest => gather (read.add bytes p) rest

@[simp] theorem through_nil (pipe : Pipe) : through pipe [] = [] := rfl

@[simp] theorem through_cons_self (pipe : Pipe) (bytes : List UInt8) (rest : Arrivals) :
    through pipe ((pipe, bytes) :: rest) = bytes ++ through pipe rest := by
  simp [through]

theorem through_cons_of_ne {p pipe : Pipe} (h : p ≠ pipe) (bytes : List UInt8) (rest : Arrivals) :
    through pipe ((p, bytes) :: rest) = through pipe rest := by
  simp [through, h]

theorem toList_drain (pipe : Pipe) (buffer : Array UInt8) (arrivals : Arrivals) :
    (drain pipe buffer arrivals).toList = buffer.toList ++ through pipe arrivals := by
  induction arrivals generalizing buffer with
  | nil => simp [drain]
  | cons piece rest ih =>
      obtain ⟨p, bytes⟩ := piece
      rw [drain, ih]
      by_cases hp : p = pipe
      · subst hp
        simp
      · rw [if_neg hp, through_cons_of_ne hp]

theorem toList_gather (read : Gathered) (pipe : Pipe) (arrivals : Arrivals) :
    ((gather read arrivals).buffer pipe).toList =
      (read.buffer pipe).toList ++ through pipe arrivals := by
  induction arrivals generalizing read with
  | nil => simp [gather]
  | cons piece rest ih =>
      obtain ⟨p, bytes⟩ := piece
      rw [gather, ih]
      by_cases hp : p = pipe
      · subst hp
        simp
      · rw [Gathered.buffer_add_of_ne hp, through_cons_of_ne hp]

end Arrivals

end HostFlash
