import HostFlash.Flash.Flasher
import HostFlash.Text.Lines

/-! # The partition listing

The tool lists the partition table with one entry per line: an id, the name of the partition, its
place, and flags in brackets. The flag `F` marks a partition to be cleared by a factory reset and
`E` one that is protected by error correcting codes. Only the partitions to be cleared are taken
from a listing, and a line that is no entry is passed over.
-/

namespace HostFlash

/-- A partition that a factory reset clears. -/
structure Candidate where
  name : String
  hasEcc : Bool
  reprovision : Bool
deriving Repr, DecidableEq

/-- How the partition has to be cleared. -/
def Candidate.clearKind (c : Candidate) : ClearKind := .ofEcc c.hasEcc

namespace Listing

/-- The flag of partitions to be cleared. -/
def reprovisionFlag : Char := 'F'

/-- The flag of partitions with error correcting codes. -/
def eccFlag : Char := 'E'

/-- The part of a line from its first bracket on, which holds the flags. -/
def flagBlock (line : List Char) : List Char :=
  line.dropWhile (· ≠ '[')

/-- The second word of a line, if a space follows it. Words are separated by spaces alone. -/
def secondWord? (line : List Char) : Option (List Char) :=
  let rest := (line.dropWhile (· ≠ ' ')).dropWhile (· = ' ')
  match Text.cutAt? ' ' rest with
  | none => none
  | some (word, _) => if word = [] then none else some word

/-- The candidate that a line describes. -/
def candidate? (line : List Char) : Option Candidate :=
  let flags := flagBlock line
  if flags.contains reprovisionFlag then
    (secondWord? line).map fun name =>
      { name := String.ofList name, hasEcc := flags.contains eccFlag, reprovision := true }
  else none

/-- The candidates of a listing, in order. -/
def candidates (listing : String) : List Candidate :=
  (Text.lines listing.toList).filterMap candidate?

/-- A line that may describe a candidate: it begins like an entry and carries the flag. -/
def mayDescribe (line : List Char) : Bool :=
  ['I', 'D'].isPrefixOf line && line.contains reprovisionFlag

/-- The listing cut down to the lines that may describe a candidate. -/
def entryLines (listing : String) : String :=
  String.ofList (((Text.lines listing.toList).filter mayDescribe).flatMap (· ++ ['\n']))

variable {δ : Type}

/-- The candidates in the answer of the tool, with what is logged about the answer. A tool that
does not run gives none; one that reports a failure is still believed. -/
def ofAnswer : Except Failure ToolAnswer → List LogLine × List Candidate
  | .error failure => ([⟨.error, "Failed to list partitions: " ++ failure.message⟩], [])
  | .ok out =>
      (if out.success then []
        else [⟨.warn, "Partition listing returned " ++ toString out.status⟩],
        candidates (entryLines out.output))

/-- Asks the tool for the partition table and takes the candidates from it. -/
def query (tool : Flasher δ) : Action (World δ) (List Candidate) := do
  let answer ← tool.list
  World.report (ofAnswer answer).1
  pure (ofAnswer answer).2

end Listing

end HostFlash
