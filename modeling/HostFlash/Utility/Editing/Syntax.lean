import HostFlash.Text.Regex

/-! # Editing scripts

The scripts by which a text is edited line by line: instructions that each say for which lines they
are, and what is to be done with the line that is at hand.
-/

namespace HostFlash.Utility.Editing

/-- A pattern with how it is matched. -/
structure Pattern where
  regex : Text.Regex
  folded : Bool
  manyLines : Bool

/-- Lines that an instruction is for. -/
inductive Address where
  | line (number : Nat)
  | last
  /-- The lines that fit a pattern, or the pattern that was used last. -/
  | fits (pattern : Option Pattern)
  /-- One line and every so many lines after it. -/
  | every (first step : Nat)

/-- Where a range of lines ends. -/
inductive Limit where
  | address (a : Address)
  /-- So many lines behind the first. -/
  | lines (count : Nat)
  /-- The next line whose number is a multiple. -/
  | multiple (factor : Nat)

/-- The lines an instruction is for. -/
structure Selection where
  start : Address
  limit : Option Limit

/-- How letters are written from a place on. -/
inductive Casing where
  | kept
  | upper
  | lower
deriving Repr, DecidableEq

/-- A part of what is put in the place of a match. -/
inductive Part where
  | char (c : Char)
  | group (number : Nat)
  /-- All letters from here on. -/
  | casing (casing : Casing)
  /-- The next letter only. -/
  | next (casing : Casing)
deriving Repr, DecidableEq

/-- A substitution of matches. -/
structure Substitution where
  pattern : Option Pattern
  replacement : List Part
  /-- Which match is the first that is replaced. -/
  first : Nat
  /-- All matches behind it are replaced as well. -/
  all : Bool
  prints : Bool
  target : Option String

/-- When a jump is made. -/
inductive Occasion where
  | always
  | replaced
  | notReplaced
deriving Repr, DecidableEq

/-- Where a text goes. -/
inductive Side where
  | before
  | after
  | instead
deriving Repr, DecidableEq

/-- What is to be done. -/
inductive Command where
  /-- To go on behind the block, which ends at an instruction, with lines that it is not for. -/
  | block (last : Nat)
  | blockEnd
  | label (name : String)
  | branch (occasion : Occasion) (label : String)
  | substitute (s : Substitution)
  | convert (table : List (Char × Char))
  | text (side : Side) (text : String)
  | delete
  | deleteFirst
  | print
  | printFirst
  | list (width : Option Nat)
  | lineNumber
  | fileName
  /-- To copy to the store, or to put behind what is there. -/
  | hold (behind : Bool)
  | get (behind : Bool)
  | exchange
  | empty
  | next
  | nextBehind
  | quit (prints : Bool) (status : Nat)
  | readFile (path : String)
  | readLine (path : String)
  /-- To write the lines that are at hand, or the first of them, to a file. -/
  | writeFile (path : String)
  | writeFirst (path : String)

/-- An instruction. -/
structure Instruction where
  selection : Option Selection
  /-- It is for all other lines. -/
  negated : Bool
  command : Command

/-- A script. -/
structure Script where
  instructions : Array Instruction
  /-- Lines are not printed by themselves. -/
  quiet : Bool

namespace Script

/-- The files that a script writes. -/
def targets (s : Script) : List String :=
  (s.instructions.toList.filterMap fun i =>
    match i.command with
    | .substitute r => r.target
    | .writeFile path | .writeFirst path => some path
    | _ => none).eraseDups

/-- The place of a label. -/
def labelled? (s : Script) (name : String) : Option Nat :=
  s.instructions.findIdx? fun i =>
    match i.command with
    | .label n => n == name
    | _ => false

end Script

end HostFlash.Utility.Editing
