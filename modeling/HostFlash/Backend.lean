import HostFlash.Flash.Emulator
import HostFlash.Flash.ExternalTool
import HostFlash.Text.Blank
import HostFlash.Text.Quoted

/-! # Backends

A backend is a flash tool with the mediator that belongs to it. It is named by a text: the name of
the backend, and options as `key=value` behind a colon, with commas between them. Keys are
trimmed and appear once; a value is taken as it stands.
-/

namespace HostFlash

/-- The name of a backend with its options, in the order of the text. -/
structure BackendSpec where
  name : String
  options : List (String × String)
deriving Repr, DecidableEq

namespace BackendSpec

/-- Why a text names no backend. -/
inductive Fault where
  | missingName (text : String)
  | missingValue (piece : String)
  | emptyKey (piece : String)
  | repeatedKey (key : String)
deriving Repr, DecidableEq

/-- The message of a fault. -/
def Fault.message : Fault → String
  | missingName text => "Missing tool name in '" ++ text ++ "'"
  | missingValue piece => "Invalid tool option '" ++ piece ++ "' (expected key=value)"
  | emptyKey piece => "Empty option name in '" ++ piece ++ "'"
  | repeatedKey key => "Tool option '" ++ key ++ "' given more than once"

/-- The key and the value in a piece. -/
def readOption (piece : List Char) : Except Fault (String × String) :=
  match Text.cutAt? '=' piece with
  | none => .error (.missingValue (String.ofList piece))
  | some (key, value) =>
      if Text.trim key = [] then .error (.emptyKey (String.ofList piece))
      else .ok (String.ofList (Text.trim key), String.ofList value)

/-- Reads pieces behind the options that were read before. -/
def readOptions (before : List (String × String)) :
    List (List Char) → Except Fault (List (String × String))
  | [] => .ok before
  | piece :: rest =>
      match readOption piece with
      | .error fault => .error fault
      | .ok (key, value) =>
          if before.any (·.1 == key) then .error (.repeatedKey key)
          else readOptions (before ++ [(key, value)]) rest

/-- The name in a text, trimmed, and the pieces behind the colon. -/
def parts (cs : List Char) : List Char × List (List Char) :=
  match Text.cutAt? ':' cs with
  | none => (Text.trim cs, [])
  | some (name, rest) => (Text.trim name, Text.splitOn ',' rest)

/-- Reads a text. -/
def parse (text : String) : Except Fault BackendSpec :=
  let (name, pieces) := parts text.toList
  if name = [] then .error (.missingName text)
  else
    match readOptions [] pieces with
    | .error fault => .error fault
    | .ok opts => .ok ⟨String.ofList name, opts⟩

end BackendSpec

/-- A flash tool and its mediator over the device that they work on, with what was logged while they
were set up. -/
structure Backend (δ : Type) where
  tool : Flasher δ
  mediator : Mediator δ
  device : δ
  log : List LogLine

namespace Backend

/-- Why a backend cannot be opened. -/
inductive Fault where
  | spec (fault : BackendSpec.Fault)
  | needlessOptions
  | unknownOption (key : String)
  | unreadableImage (path : String) (cause : IoError)
  | unknownTool (name : String)
deriving Repr, DecidableEq

/-- The message of a fault. -/
def Fault.message : Fault → String
  | spec fault => fault.message
  | needlessOptions => "pflash takes no parameters, use the [tool] config section"
  | unknownOption key => "Unknown dummy parameter: " ++ key
  | unreadableImage path cause => "Failed to read image " ++ path ++ ": " ++ cause.message
  | unknownTool name => "Unknown tool: " ++ name

/-- The names of the backends, with what they are. -/
def available : List (String × String) :=
  [("pflash", "External pflash binary, access mediated through hiomapd"),
   ("dummy", "In-memory PNOR emulator (image=<VERSION partition file>)")]

/-- The external programs of the settings. They leave the device alone. -/
def external (settings : Settings) : Backend Emulator where
  tool := (ExternalProgram.ofToolSettings settings.tool).tool
  mediator := (BusMediator.ofSettings settings.mediator).mediator
  device := .empty
  log := []

/-- An emulated flash. -/
def emulated (e : Emulator) : Backend Emulator := ⟨Emulator.tool, Emulator.mediator, e, []⟩

/-- Puts an image into a partition of an emulated flash. -/
def load (b : Backend Emulator) (partition : String) (data : List UInt8) : Backend Emulator :=
  { b with
    device := b.device.store partition data
    log := b.log ++
      [⟨.info, "Loaded " ++ toString data.length ++ " bytes into " ++ partition⟩] }

/-- Changes an emulated flash as one option says. -/
def applyOption (machine : Machine) (settings : Settings) (b : Backend Emulator)
    (key value : String) : Except Fault (Backend Emulator) :=
  if key = "image" then
    match machine.contentOf value with
    | .error cause => .error (.unreadableImage value cause)
    | .ok data => .ok (b.load settings.partitions.version data)
  else .error (.unknownOption key)

/-- Changes an emulated flash as options say, one after the other. -/
def applyOptions (machine : Machine) (settings : Settings) :
    List (String × String) → Backend Emulator → Except Fault (Backend Emulator)
  | [], b => .ok b
  | (key, value) :: rest, b =>
      match applyOption machine settings b key value with
      | .error fault => .error fault
      | .ok b => applyOptions machine settings rest b

/-- Opens the backend of a name with options. -/
def ofSpec (machine : Machine) (settings : Settings) (spec : BackendSpec) :
    Except Fault (Backend Emulator) :=
  if spec.name = "pflash" then
    if spec.options = [] then .ok (external settings) else .error .needlessOptions
  else if spec.name = "dummy" then
    applyOptions machine settings spec.options (emulated .standard)
  else .error (.unknownTool spec.name)

/-- Opens the backend that a text names. -/
def openFrom (machine : Machine) (settings : Settings) (text : String) :
    Except Fault (Backend Emulator) :=
  match BackendSpec.parse text with
  | .error fault => .error (.spec fault)
  | .ok spec => ofSpec machine settings spec

end Backend

end HostFlash
