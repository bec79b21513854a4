import HostFlash.Failure
import HostFlash.Host.FileSystem
import HostFlash.Settings
import HostFlash.Toml.Document

/-! # Reading settings

Settings from the table of a document. Every key stands for one field, a key that is missing
leaves the default of its field, and a key that is not known is refused. A section may also be
written as an array, whose items are the values of its keys in their order.
-/

namespace HostFlash

open Toml (Table Value)

namespace Settings

/-- The text in a value. -/
def text? : Value → Option String
  | .string s => some s
  | _ => none

/-- The number of seconds in a value. -/
def seconds? : Value → Option Nat
  | .integer n => if 0 ≤ n then some n.toNat else none
  | _ => none

/-- A key of a section, and how a value for it goes into the section. -/
structure Field (α : Type) where
  key : String
  set : Value → α → Option α

variable {α β : Type}

/-- A key whose value is read by `read` and goes into the section by `put`. -/
def Field.reading (key : String) (read : Value → Option β) (put : β → α → α) : Field α :=
  ⟨key, fun v s => (read v).map fun x => put x s⟩

/-- The keys of the section about the flash tool. -/
def toolFields : List (Field ToolSettings) :=
  [.reading "path" text? fun x s => { s with program := x },
   .reading "timeout_secs" seconds? fun x s => { s with timeoutSeconds := x }]

/-- The keys of the section about the mediation service. -/
def mediatorFields : List (Field MediatorSettings) :=
  [.reading "busctl" text? fun x s => { s with busClient := x },
   .reading "service" text? fun x s => { s with service := x },
   .reading "object" text? fun x s => { s with object := x },
   .reading "interface" text? fun x s => { s with interface := x },
   .reading "timeout_secs" seconds? fun x s => { s with timeoutSeconds := x }]

/-- The keys of the section about object paths. -/
def pathFields : List (Field PathSettings) :=
  [.reading "software" text? fun x s => { s with software := x },
   .reading "host_inventory" text? fun x s => { s with hostInventory := x }]

/-- The keys of the section about partitions. -/
def partitionFields : List (Field PartitionSettings) :=
  [.reading "version" text? fun x s => { s with version := x },
   .reading "guard" text? fun x s => { s with guard := x }]

/-- Puts the value of one key into a section. -/
def setKey (fields : List (Field α)) (current : α) (entry : String × Value) : Option α :=
  match fields.find? (·.key == entry.1) with
  | none => none
  | some field => field.set entry.2 current

/-- Puts values into the fields of a section in their order. Values without a field are passed
over. -/
def setInOrder : List (Field α) → List Value → α → Option α
  | field :: fields, v :: vs, s => (field.set v s).bind (setInOrder fields vs)
  | _, _, s => some s

/-- A section, over its defaults. -/
def section? (fields : List (Field α)) (defaults : α) : Value → Option α
  | .table entries => entries.foldlM (setKey fields) defaults
  | .array items => setInOrder fields items defaults
  | _ => none

/-- The sections of a document. -/
def sections : List (Field Settings) :=
  [.reading "tool" (section? toolFields {}) fun x s => { s with tool := x },
   .reading "mediator" (section? mediatorFields {}) fun x s => { s with mediator := x },
   .reading "paths" (section? pathFields {}) fun x s => { s with paths := x },
   .reading "partitions" (section? partitionFields {}) fun x s => { s with partitions := x }]

/-- The settings in the table of a document. -/
def ofTable? (table : Table) : Option Settings :=
  table.foldlM (setKey sections) {}

/-- The settings in the table of a document, or the failure for a table that holds others. -/
def ofTable (table : Table) : Except Failure Settings :=
  match ofTable? table with
  | some settings => .ok settings
  | none => .error (.malformedSettings "unknown key or invalid value")

/-- The settings in the text of a document. -/
def ofText (text : String) : Except Failure Settings :=
  match Toml.parse text with
  | some table => ofTable table
  | none => .error (.malformedSettings "invalid document")

/-- The settings in a file. -/
def ofFile (files : FileSystem) (base : Location) (path : String) : Except Failure Settings :=
  match files.readText base path with
  | .error cause => .error (.unreadableSettings path cause)
  | .ok text => ofText text

end Settings

end HostFlash
