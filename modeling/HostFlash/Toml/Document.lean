import HostFlash.Toml.Scalar

/-! # Settings documents

A document is a sequence of statements: headers that open a table, and keys with values for the
table that is open. `parse` reads the statements and puts the table together.
-/

namespace HostFlash.Toml

/-- A statement. A path is never empty. -/
inductive Statement where
  | header (path : List String)
  | repeatedHeader (path : List String)
  | assignment (path : List String) (value : Value)

/-- How deep values may be nested, and how many parts a key may have: less than this. -/
def nestingLimit : Nat := 80

/-- A character of a key without quotes. -/
def isKeyChar (c : Char) : Bool := c.isAlphanum || c = '_' || c = '-'

/-- One part of a key. The fuel is a bound on the characters. -/
def simpleKey (fuel : Nat) : Reader String := fun cs =>
  match cs with
  | '"' :: rest => (basicString fuel rest).map fun (k, rest) => (String.ofList k, rest)
  | '\'' :: rest => (literalString rest).map fun (k, rest) => (String.ofList k, rest)
  | cs =>
      match cs.takeWhile isKeyChar with
      | [] => none
      | k => some (String.ofList k, cs.dropWhile isKeyChar)

/-- So many parts of a key at most, with points between them and with gaps around each part. The
fuel is a bound on the characters. -/
def keyParts (fuel : Nat) : Nat → Reader (List String)
  | 0, _ => none
  | count + 1, cs =>
      (simpleKey fuel (skipGaps cs)).bind fun (part, rest) =>
        match skipGaps rest with
        | '.' :: rest => (keyParts fuel count rest).map fun (parts, rest) => (part :: parts, rest)
        | rest => some ([part], rest)

/-- A key. The fuel is a bound on the characters. -/
def key (fuel : Nat) : Reader (List String) := keyParts fuel (nestingLimit - 1)

/-- Skips gaps, line ends and comments between the values of an array. The fuel bounds the
lines. -/
def skipLines : Nat → List Char → List Char
  | 0, cs => cs
  | fuel + 1, cs =>
      match newline? (skipComment (skipGaps cs)) with
      | some rest => skipLines fuel rest
      | none => skipGaps cs

/-- Gives a value to the key in a table. -/
def assignTo (t : DraftTable) (path : List String) (v : Value) : Option DraftTable :=
  match path.getLast? with
  | none => none
  | some last => t.assign last v path.dropLast

mutual

/-- A value. The first number is fuel, which bounds the characters, the second one how many levels
of nesting are left. -/
def value : Nat → Nat → Reader Value
  | 0, _, _ => none
  | fuel + 1, levels, cs =>
      match cs with
      | '[' :: rest =>
          match levels with
          | 0 => none
          | levels + 1 =>
              (arrayItems fuel levels rest).map fun (items, rest) => (.array items, rest)
      | '\x7b' :: rest =>
          match levels with
          | 0 => none
          | levels + 1 =>
              match skipGaps rest with
              | '\x7d' :: rest => some (.table [], rest)
              | rest =>
                  (inlineEntries fuel levels [] rest).map fun (t, rest) =>
                    (.table (Draft.freezeTable t), rest)
      | '"' :: _ | '\'' :: _ =>
          (string fuel cs).map fun (s, rest) => (.string (String.ofList s), rest)
      | cs => plainValue cs

/-- The items of an array behind its bracket. A comma may stand behind the last one. -/
def arrayItems : Nat → Nat → Reader (List Value)
  | 0, _, _ => none
  | fuel + 1, levels, cs =>
      match skipLines (fuel + 1) cs with
      | ']' :: rest => some ([], rest)
      | cs =>
          (value fuel levels cs).bind fun (v, rest) =>
            match skipLines fuel rest with
            | ',' :: rest =>
                (arrayItems fuel levels rest).map fun (items, rest) => (v :: items, rest)
            | ']' :: rest => some ([v], rest)
            | _ => none

/-- The entries of a table in braces, added to those read so far. -/
def inlineEntries : Nat → Nat → DraftTable → Reader DraftTable
  | 0, _, _, _ => none
  | fuel + 1, levels, t, cs =>
      (key fuel cs).bind fun (path, rest) =>
        match rest with
        | '=' :: rest =>
            (value fuel levels (skipGaps rest)).bind fun (v, rest) =>
              (assignTo t path v).bind fun t =>
                match skipGaps rest with
                | ',' :: rest => inlineEntries fuel levels t rest
                | '\x7d' :: rest => some (t, rest)
                | _ => none
        | _ => none

end

/-- The rest behind the end of a line, which may have a comment in front. -/
def lineEnd? (cs : List Char) : Option (List Char) :=
  match skipComment (skipGaps cs) with
  | [] => some []
  | rest => newline? rest

/-- A statement, up to the end of its line. The fuel is a bound on the characters. -/
def statement (fuel : Nat) : Reader Statement := fun cs =>
  match cs with
  | '[' :: '[' :: rest =>
      match key fuel rest with
      | some (path, ']' :: ']' :: rest) =>
          (lineEnd? rest).map fun rest => (.repeatedHeader path, rest)
      | _ => none
  | '[' :: rest =>
      match key fuel rest with
      | some (path, ']' :: rest) => (lineEnd? rest).map fun rest => (.header path, rest)
      | _ => none
  | cs =>
      match key fuel cs with
      | some (path, '=' :: rest) =>
          (value fuel (nestingLimit - 1) (skipGaps rest)).bind fun (v, rest) =>
            (lineEnd? rest).map fun rest => (.assignment path v, rest)
      | _ => none

/-- The statements of a document. Lines without one are passed over. The fuel bounds the
characters. -/
def statements : Nat → List Char → Option (List Statement)
  | 0, _ => none
  | fuel + 1, cs =>
      match skipGaps cs with
      | [] => some []
      | cs =>
          match lineEnd? cs with
          | some rest => statements fuel rest
          | none =>
              (statement (fuel + 1) cs).bind fun (s, rest) =>
                (statements fuel rest).map fun more => s :: more

/-- A document that is put together: its table, and the path of the table that is open. -/
structure Assembly where
  root : DraftTable
  current : List String

namespace Assembly

/-- Nothing read yet. -/
def empty : Assembly := ⟨[], []⟩

/-- Opens something at a path. -/
def openAt (a : Assembly) (path : List String)
    (change : String → DraftTable → Option DraftTable) : Option Assembly :=
  path.getLast?.bind fun last =>
    (DraftTable.below (change last) path.dropLast a.root).map fun root => ⟨root, path⟩

/-- Adds a statement. -/
def add (a : Assembly) : Statement → Option Assembly
  | .header path => a.openAt path DraftTable.openTable
  | .repeatedHeader path => a.openAt path DraftTable.openElement
  | .assignment path v =>
      (DraftTable.below (fun t => assignTo t path v) a.current a.root).map fun root =>
        ⟨root, a.current⟩

end Assembly

/-- The text without a byte order mark. -/
def withoutMark : List Char → List Char
  | '\uFEFF' :: rest => rest
  | cs => cs

/-- The table of a document. -/
def parse (text : String) : Option Table := do
  let cs := withoutMark text.toList
  let parsed ← statements (cs.length + 1) cs
  let assembly ← parsed.foldlM Assembly.add Assembly.empty
  pure (Draft.freezeTable assembly.root)

end HostFlash.Toml
