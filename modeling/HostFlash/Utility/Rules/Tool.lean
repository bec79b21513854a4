import HostFlash.Utility.Rules.Running

/-! # The program that runs programs of rules

The program is the first argument, or comes from files. The other arguments name the files that
records are read from.
-/

namespace HostFlash.Utility.Rules

open Tool

/-- What the options ask for. -/
structure Choices where
  separator : Option String
  /-- The variables that are set, the last one first. -/
  assignments : List String
  /-- The files that the program is in, the last one first. -/
  programs : List String
deriving Repr, DecidableEq

namespace Choices

/-- An option with a value. -/
def add (c : Choices) (letter : Char) (value : String) : Choices :=
  match letter with
  | 'F' => { c with separator := some value }
  | 'v' => { c with assignments := value :: c.assignments }
  | 'f' => { c with programs := value :: c.programs }
  | _ => c

/-- Reads the options. The answer holds the other arguments. -/
def read : List String → Choices → Except String (Choices × List String)
  | [], c => .ok (c, [])
  | "--" :: rest, c => .ok (c, rest)
  | arg :: rest, c =>
      match arg.toList with
      | '-' :: letter :: value =>
          if ['F', 'v', 'f', 'W'].contains letter then
            match value, rest with
            | [], next :: rest => read rest (c.add letter next)
            | [], [] => .error ("option requires an argument -- " ++ String.singleton letter)
            | value, rest => read rest (c.add letter (String.ofList value))
          else .error ("not an option: " ++ arg)
      | _ => .ok (c, arg :: rest)

end Choices

/-- A complaint that ends the program. -/
def refuseToRun {α : Type} (message : String) : Tool α := do
  say ((← get).name ++ ": " ++ message ++ "\n")
  exit 2

/-- The text of the program, and the arguments behind it. -/
def programText (c : Choices) (operands : List String) : Tool (String × List String) := do
  match c.programs, operands with
  | [], text :: rest => pure (text, rest)
  | [], [] => exit 0
  | files, rest => do
      let texts ← files.reverse.mapM fun path => do
        match ← readFile path with
        | .ok text => pure text
        | .error e => refuseToRun ("cannot open \"" ++ path ++ "\" (" ++ e.reason ++ ")")
      pure ("\n".intercalate texts, rest)

/-- An array of texts by their keys. -/
def tableOfTexts (entries : List (String × String)) : Table :=
  entries.foldl (fun t (key, text) => t.put key (.input text)) .empty

/-- The variables that every program begins with. -/
def startingValues (count : Nat) : List (String × Value) :=
  [("FS", .text " "), ("OFS", .text " "), ("ORS", .text "\n"), ("RS", .text "\n"),
   ("SUBSEP", .text "\x1c"), ("CONVFMT", .text "%.6g"), ("OFMT", .text "%.6g"),
   ("NR", .number 0), ("FNR", .number 0), ("RSTART", .number 0), ("RLENGTH", .number (-1)),
   ("FILENAME", .text ""), ("ARGC", .number (Float.ofNat count))]

/-- The state of a program before it runs. -/
def startingState (p : Program) (args : List String) (environment : Environment)
    (given : List (String × Value)) : State :=
  let scalars := (startingValues args.length ++ given).map fun (name, v) => (name, Slot.scalar v)
  let arrays := [("ARGV", Slot.array 0), ("ENVIRON", Slot.array 1)]
  { program := p
    globals := Std.HashMap.ofList (scalars ++ arrays)
    frames := #[]
    tables := #[tableOfTexts (args.zipIdx.map fun (text, n) => (toString n, text)),
      tableOfTexts environment]
    record := ""
    fields := #[]
    argument := 1
    named := false
    main := none
    sources := []
    sinks := []
    within := Array.replicate p.rules.length false
    seed := .number 0
    random := 1
    status := 0
    ticks := 0 }

/-- The value that a text sets, with its escapes taken for what they stand for. -/
def unescaped (text : String) : String :=
  String.ofList (Token.unescape (text.length + 1) text.toList)

/-- Runs a program of rules. -/
def rulesTool : Tool Unit := do
  modify fun s => { s with failure := 2 }
  let desk ← get
  match Choices.read desk.args ⟨none, [], []⟩ with
  | .error message => refuseToRun message
  | .ok (c, operands) => do
      let (text, operands) ← programText c operands
      let assigned ← c.assignments.reverse.mapM fun text =>
        match Act.assignment? text with
        | some (name, value) => pure (name, Value.input value)
        | none => refuseToRun ("improper assignment: -v " ++ text)
      match Program.ofText text with
      | .error fault => refuseToRun fault.text
      | .ok p => do
          let separators := c.separator.toList.map fun text => ("FS", Value.text (unescaped text))
          let start := startingState p (desk.name :: operands) desk.environment
            (separators ++ assigned)
          let (_, s) ← (Act.runProgram.run).run start
          modify fun desk => { desk with status := s.status }

end HostFlash.Utility.Rules
