/-! # Values of a settings document

The tree that a document stands for, and the tables from which it is put together. While a
document is read, a table remembers how it came about, because that decides whether it can still
be added to: a header may complete a table that so far only follows from the headers of its
subtables, and dotted keys may add to a table that came about by dotted keys.
-/

namespace HostFlash.Toml

/-- A value. Floats and dates are kept as they are written. -/
inductive Value where
  | string (s : String)
  | integer (n : Int)
  | float (text : String)
  | boolean (b : Bool)
  | date (text : String)
  | array (items : List Value)
  | table (entries : List (String × Value))
deriving Repr

/-- A table: its entries in the order of the document, each key at most once. -/
abbrev Table := List (String × Value)

/-- How a table came about. -/
inductive Origin where
  /-- It has a header of its own. -/
  | header
  /-- It follows from the header of a table below it. -/
  | implied
  /-- It follows from a dotted key. -/
  | dotted
deriving Repr, DecidableEq

/-- A part of a document that may still be added to. -/
inductive Draft where
  | value (v : Value)
  | table (origin : Origin) (entries : List (String × Draft))
  /-- The tables of a repeated header. The last one can be added to. -/
  | tables (elements : List (List (String × Draft)))
deriving Repr

/-- The entries of a table that may still be added to. -/
abbrev DraftTable := List (String × Draft)

namespace Draft

mutual

/-- The value of a part. -/
def freeze : Draft → Value
  | value v => v
  | table _ entries => .table (freezeTable entries)
  | tables elements => .array (freezeTables elements)

/-- The table of entries. -/
def freezeTable : List (String × Draft) → Table
  | [] => []
  | (key, d) :: rest => (key, d.freeze) :: freezeTable rest

/-- The values of tables. -/
def freezeTables : List (List (String × Draft)) → List Value
  | [] => []
  | entries :: rest => .table (freezeTable entries) :: freezeTables rest

end

end Draft

namespace DraftTable

/-- Puts a part under a key, in place of the one there. -/
def put (t : DraftTable) (key : String) (d : Draft) : DraftTable :=
  if t.any (·.1 == key) then t.map fun e => if e.1 == key then (key, d) else e
  else t ++ [(key, d)]

/-- Changes the table at a path of headers. Tables that are missing on the way follow from this,
and repeated headers lead to the last table of theirs. -/
def below (change : DraftTable → Option DraftTable) :
    List String → DraftTable → Option DraftTable
  | [], t => change t
  | key :: path, t =>
      match t.lookup key with
      | none => (below change path []).map fun sub => t.put key (.table .implied sub)
      | some (.table origin sub) =>
          (below change path sub).map fun sub => t.put key (.table origin sub)
      | some (.tables elements) =>
          (below change path (elements.getLast?.getD [])).map fun sub =>
            t.put key (.tables (elements.dropLast ++ [sub]))
      | some (.value _) => none

/-- Opens the table of a header. Only one that does not exist, or that follows from others, can be
opened. -/
def openTable (key : String) (t : DraftTable) : Option DraftTable :=
  match t.lookup key with
  | none => some (t.put key (.table .header []))
  | some (.table .implied sub) => some (t.put key (.table .header sub))
  | some _ => none

/-- Opens one more table of a repeated header. -/
def openElement (key : String) (t : DraftTable) : Option DraftTable :=
  match t.lookup key with
  | none => some (t.put key (.tables [[]]))
  | some (.tables elements) => some (t.put key (.tables (elements ++ [[]])))
  | some _ => none

/-- Gives a value to a dotted key: `path` is all but its last part. The tables on the way must not
have a header, and the one that the value goes into must come from dotted keys. -/
def assign (key : String) (v : Value) : List String → DraftTable → Option DraftTable
  | [], t => if (t.lookup key).isSome then none else some (t.put key (.value v))
  | step :: path, t =>
      match t.lookup step with
      | none => (assign key v path []).map fun sub => t.put step (.table .dotted sub)
      | some (.table origin sub) =>
          if origin = .header || (path = [] && origin ≠ .dotted) then none
          else (assign key v path sub).map fun sub => t.put step (.table origin sub)
      | some (.tables elements) =>
          if path = [] then none
          else
            (assign key v path (elements.getLast?.getD [])).map fun sub =>
              t.put step (.tables (elements.dropLast ++ [sub]))
      | some (.value _) => none

end DraftTable

end HostFlash.Toml
