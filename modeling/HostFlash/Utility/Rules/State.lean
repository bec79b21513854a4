import Std.Data.HashMap
import HostFlash.Utility.Launching
import HostFlash.Utility.Rules.Parser

/-! # The state of a program of rules

The variables, arrays, fields and open files of a program while it runs. A function sees its own
variables and those of the program. A variable that was not set yet and is given to a function
becomes an array where the function takes it for one.
-/

namespace HostFlash.Utility.Rules

/-- An array: its values, each with the number under which it came in. -/
structure Table where
  entries : Std.HashMap String (Nat × Value)
  serial : Nat

namespace Table

/-- The array without values. -/
def empty : Table := ⟨{}, 0⟩

/-- Puts a value under a key. -/
def put (t : Table) (key : String) (v : Value) : Table :=
  match t.entries[key]? with
  | some (n, _) => { t with entries := t.entries.insert key (n, v) }
  | none => ⟨t.entries.insert key (t.serial, v), t.serial + 1⟩

/-- The number that places a key among others. -/
def hash (key : String) : Nat :=
  key.toList.foldl (fun h c => (Nat.xor h c.toNat * 16777619) % 4294967296) 2166136261

/-- How many places there are for so many keys. The fuel is a bound on the doublings. -/
def places : Nat → Nat → Nat → Nat
  | 0, n, _ => n
  | fuel + 1, n, size => if size > 12 * n then places fuel (2 * n) size else n

/-- The keys in the order in which they are visited: by their places, and the newest first in each
of them. -/
def keys (t : Table) : List String :=
  let count := places 40 64 t.entries.size
  let placed := t.entries.toList.map fun (key, n, _) => (hash key % count, n, key)
  (placed.mergeSort fun a b => a.1 < b.1 || (a.1 = b.1 && b.2.1 ≤ a.2.1)).map (·.2.2)

end Table

/-! ## Cutting texts -/

/-- The first match from a place on that is not empty. The fuel is a bound on the characters. -/
def solidMatch? (m : Text.Regex.Matching) (r : Text.Regex) : Nat → Nat → Option (Nat × Nat)
  | 0, _ => none
  | fuel + 1, i =>
      match Text.Regex.find? m r i with
      | none => none
      | some (a, b) =>
          if a < b then some (a, b)
          else if a < m.text.size then solidMatch? m r fuel (a + 1)
          else none

/-- A text cut at the matches of a regular expression that are not empty. The fuel is a bound on the
matches. -/
def cutAtMatches (m : Text.Regex.Matching) (r : Text.Regex) : Nat → Nat → List String
  | 0, _ => []
  | fuel + 1, start =>
      let piece (j : Nat) : String := String.ofList (m.text.extract start j).toList
      match solidMatch? m r (m.text.size + 1) start with
      | none => [piece m.text.size]
      | some (a, b) => piece a :: cutAtMatches m r fuel b

/-- The words of a text between blanks and line ends. -/
def wordsOf (text : String) : List String :=
  let isGap (c : Char) : Bool := c = ' ' || c = '\t' || c = '\n'
  ((text.toList.splitBy fun a b => isGap a == isGap b).filter fun w =>
    !(w.head?.map isGap).getD true).map String.ofList

/-- A text cut at a regular expression. -/
def cutAtRegex (r : Text.Regex) (text : String) : List String :=
  let m : Text.Regex.Matching := ⟨text.toList.toArray, false, false⟩
  if text = "" then [] else cutAtMatches m r (text.length + 1) 0

/-! ## The parts of the state -/

/-- What a name stands for. -/
inductive Slot where
  | unset
  | scalar (v : Value)
  /-- An array, by its place. -/
  | array (place : Nat)
  /-- A variable of a caller, by the place of its frame, or of the program, that was not set. -/
  | link (frame : Option Nat) (name : String)

/-- A file, or the output of a command, that records are read from. -/
structure Source where
  name : String
  number : Nat
  child : Option Nat
  /-- What was read and does not belong to a record yet. -/
  pending : List Char
  finished : Bool

/-- A file, or the input of a command, that is written. -/
structure Sink where
  name : String
  number : Nat
  child : Option Nat
  /-- What is held back, newest first, and its size. -/
  held : List String
  heldSize : Nat

/-- The state of a program. -/
structure State where
  program : Program
  globals : Std.HashMap String Slot
  /-- The variables of the functions that run, the outermost first. -/
  frames : Array (List (String × Slot))
  tables : Array Table
  record : String
  fields : Array Value
  /-- The number of the argument that is read next. -/
  argument : Nat
  /-- An argument named a file. -/
  named : Bool
  main : Option Source
  sources : List Source
  /-- Those that were used last come first. -/
  sinks : List Sink
  /-- Which rules are within their range of records. -/
  within : Array Bool
  seed : Value
  /-- What the next random number is made of. -/
  random : Nat
  status : Nat
  /-- Counts what was done again and again. -/
  ticks : Nat

/-- Why a program leaves what it is in. -/
inductive Halt where
  | next
  | nextFile
  | leave
  | again
  | back (v : Value)
  | exit
  /-- To end without the rules for the end. -/
  | stop

/-- What a program does. -/
abbrev Act := ExceptT Halt (StateT State Tool)

namespace Act

/-- Does what any program of the machine can do. -/
def tool {α : Type} (m : Tool α) : Act α := fun s => do
  let a ← m
  pure (.ok a, s)

/-- Makes a request. -/
def ask (r : Request) : Act r.Answer := tool (Tool.ask r)

/-- Runs a routine. -/
def routine {α : Type} (m : Routine α) : Act α := tool (Tool.routine m)

/-- Ends the program with a complaint. -/
def fatal {α : Type} (message : String) : Act α := do
  tool do Tool.say ((← get).name ++ ": " ++ message ++ "\n")
  modify fun s => { s with status := 2 }
  throw .stop

/-- How often something is done until the system is asked for more time. -/
def ticksAtOnce : Nat := 32

/-- Does something once more, which takes its time. -/
def tick : Act Unit := do
  let s ← get
  set { s with ticks := s.ticks + 1 }
  if s.ticks % ticksAtOnce = 0 then ask .work

/-! ## Variables -/

/-- What a name stands for in a frame, or in the program. -/
def slotIn (frame : Option Nat) (name : String) : Act Slot := do
  let s ← get
  match frame with
  | none => pure (s.globals.getD name .unset)
  | some n => pure (((s.frames.getD n []).lookup name).getD .unset)

/-- Says what a name stands for in a frame, or in the program. -/
def setSlotIn (frame : Option Nat) (name : String) (slot : Slot) : Act Unit :=
  modify fun s =>
    match frame with
    | none => { s with globals := s.globals.insert name slot }
    | some n =>
        { s with frames := s.frames.modify n fun vars =>
            vars.map fun v => if v.1 = name then (name, slot) else v }

/-- The frame that a name belongs to. -/
def frameOf (name : String) : Act (Option Nat) := do
  let s ← get
  match s.frames.back? with
  | none => pure none
  | some vars =>
      pure (if vars.any (·.1 = name) then some (s.frames.size - 1) else none)

/-- What a name stands for. -/
def slotOf (name : String) : Act Slot := do slotIn (← frameOf name) name

/-- Makes a name that was not set, and all that it is linked to, stand for an array. The fuel is a
bound on the links. -/
def becomeArray (place : Nat) : Nat → Option Nat → String → Act Unit
  | 0, _, _ => pure ()
  | fuel + 1, frame, name => do
      match ← slotIn frame name with
      | .link outer other => becomeArray place fuel outer other
      | _ => pure ()
      setSlotIn frame name (.array place)

/-- The place of the array that a name stands for. -/
def tableOf (name : String) : Act Nat := do
  let frame ← frameOf name
  match ← slotIn frame name with
  | .array place => pure place
  | .scalar _ => fatal ("type error: cannot use " ++ name ++ " as an array")
  | _ => do
      let s ← get
      let place := s.tables.size
      set { s with tables := s.tables.push .empty }
      becomeArray place (s.frames.size + 1) frame name
      pure place

/-- The array at a place. -/
def table (place : Nat) : Act Table := do return (← get).tables.getD place .empty

/-- Changes the array at a place. -/
def changeTable (place : Nat) (change : Table → Table) : Act Unit :=
  modify fun s => { s with tables := s.tables.modify place change }

/-- The value of an element, which comes to be by this. -/
def elementAt (place : Nat) (key : String) : Act Value := do
  match (← table place).entries[key]? with
  | some (_, v) => pure v
  | none => do
      changeTable place (·.put key .unset)
      pure .unset

/-- The value of a variable. -/
def valueOf (name : String) : Act Value := do
  if name = "NF" then return .ofInt (← get).fields.size
  else
    match ← slotOf name with
    | .scalar v => pure v
    | .array _ => fatal ("type error: cannot use array " ++ name ++ " as a value")
    | _ => pure .unset

/-- The format of numbers that stand for texts. -/
def numberFormat : Act String := do
  match ← slotIn none "CONVFMT" with
  | .scalar (.text s) | .scalar (.input s) => pure s
  | _ => pure "%.6g"

/-- A value as text. -/
def textOf (v : Value) : Act String := do
  match v with
  | .unset => pure ""
  | .text s | .input s => pure s
  | v => return v.toText (← numberFormat)

/-- The text of a variable of the program. -/
def setting (name : String) : Act String := do
  match ← slotIn none name with
  | .scalar v => textOf v
  | _ => pure ""

/-- Ends the program with a complaint about what it does. -/
def runFault {α : Type} (message : String) : Act α := do
  let place := "\tFILENAME=\"" ++ (← setting "FILENAME") ++ "\" FNR=" ++ (← setting "FNR") ++
    " NR=" ++ (← setting "NR")
  fatal ("run time error: " ++ message ++ "\n" ++ place)

/-! ## Fields -/

/-- A text cut at a separator: a blank for any gap, one character for itself, and anything else for
a regular expression. -/
def cutAt (separator text : String) : Act (List String) := do
  if text = "" then pure []
  else
    match separator.toList with
    | [' '] => pure (wordsOf text)
    | [] => pure (text.toList.map String.singleton)
    | [c] => pure ((Text.splitOn c text.toList).map String.ofList)
    | _ =>
        match regexOf separator with
        | .ok r => pure (cutAtRegex r text)
        | .error e => runFault (regexFault e separator)

/-- The fields of a text. -/
def fieldsOf (text : String) : Act (Array Value) := do
  return ((← cutAt (← setting "FS") text).map Value.input).toArray

/-- Sets the record. -/
def setRecord (text : String) : Act Unit := do
  let fields ← fieldsOf text
  modify fun s => { s with record := text, fields := fields }

/-- Makes the record anew from its fields. -/
def joinFields : Act Unit := do
  let s ← get
  let texts ← s.fields.toList.mapM textOf
  let separator ← setting "OFS"
  set { s with record := separator.intercalate texts }

/-- The number of a field. -/
def fieldNumber (v : Value) : Act Nat := do
  let n := wholePart v.toNumber
  if n < 0 then runFault ("negative field index $" ++ toString n)
  else pure n.toNat

/-- The value of a field. -/
def fieldValue (n : Nat) : Act Value := do
  let s ← get
  pure (if n = 0 then .input s.record else s.fields.getD (n - 1) .unset)

/-- Sets a field. -/
def setField (n : Nat) (v : Value) : Act Unit := do
  if n = 0 then setRecord (← textOf v)
  else
    modify fun s =>
      let missing := Array.replicate (n - s.fields.size) Value.unset
      { s with fields := (s.fields ++ missing).set! (n - 1) v }
    joinFields

/-- Sets a variable. -/
def setVariable (name : String) (v : Value) : Act Unit := do
  if name = "NF" then
    let n := (wholePart v.toNumber).toNat
    modify fun s =>
      let missing := Array.replicate (n - s.fields.size) Value.unset
      { s with fields := (s.fields ++ missing).extract 0 n }
    joinFields
  else
    let frame ← frameOf name
    match ← slotIn frame name with
    | .array _ => fatal ("type error: cannot assign to array " ++ name)
    | _ => setSlotIn frame name (.scalar v)

/-- The number that a variable of the program stands for. -/
def globalNumber (name : String) : Act Float := do
  match ← slotIn none name with
  | .scalar v => pure v.toNumber
  | _ => pure 0

/-- Counts a variable of the program up by one. -/
def countUp (name : String) : Act Unit := do
  setSlotIn none name (.scalar (.number ((← globalNumber name) + 1)))

end Act

end HostFlash.Utility.Rules
