import HostFlash.Firmware.Image
import HostFlash.Flash.Mediator
import HostFlash.Flash.Flasher
import HostFlash.Text.Column

/-! # The emulated flash

A flash in memory that answers the commands of the flash tool, with failures that can be injected.
Every command it understands, and every signal of the mediator that belongs to it, leaves one
event in a history. No command changes the partition table: only a clear that succeeds changes
the data of a partition, and keeps its size.
-/

namespace HostFlash

namespace Emulator

/-- What happened to the flash. -/
inductive Event where
  | suspend
  | resume
  | list
  | read (partition destination : String)
  | clear (partition : String) (mode : ClearKind)
deriving Repr, DecidableEq

/-- A partition with the flags that the listing shows. -/
structure Partition where
  name : String
  flags : String
  data : List UInt8
deriving Repr, DecidableEq

namespace Partition

/-- A partition of erased bytes. -/
def erased (name flags : String) (size : Nat) : Partition :=
  ⟨name, flags, List.replicate size 0xFF⟩

/-- The partition with every byte replaced. -/
def fill (p : Partition) (byte : UInt8) : Partition :=
  { p with data := p.data.map fun _ => byte }

end Partition

end Emulator

/-- An emulated flash: the partition table in order, the injected failures, and the history. -/
structure Emulator where
  partitions : List Emulator.Partition
  clearFailures : List String
  readStatus : Int
  listStatus : Int
  history : List Emulator.Event
deriving Repr, DecidableEq

namespace Emulator

/-- A flash without partitions. -/
def empty : Emulator := ⟨[], [], 0, 0, []⟩

/-- The table of a usual host, with a blank version partition. -/
def standard : Emulator :=
  { empty with
    partitions :=
      [.erased "part" "----R-----" 0x2000,
       .erased "HBEL" "E-----F-C-" 0x24000,
       .erased "GUARD" "E--P--F-C-" 0x5000,
       .erased "NVRAM" "---P--F---" 0x90000,
       .erased "SECBOOT" "E--P------" 0x24000,
       .erased "MVPD" "E--P--F-C-" 0x90000,
       ⟨"VERSION", "-----RV---", List.replicate 0x1000 0⟩] }

/-- The first partition of a name. -/
def find? (e : Emulator) (name : String) : Option Partition :=
  e.partitions.find? (·.name == name)

/-- The data of a partition. -/
def data? (e : Emulator) (name : String) : Option (List UInt8) :=
  (e.find? name).map (·.data)

/-- Changes the first partition of a name. -/
def updateFirst (name : String) (change : Partition → Partition) :
    List Partition → List Partition
  | [] => []
  | p :: rest => if p.name = name then change p :: rest else p :: updateFirst name change rest

/-- Replaces the data of a partition. A name that is not in the table is added to it without
flags. -/
def store (e : Emulator) (name : String) (data : List UInt8) : Emulator :=
  match e.find? name with
  | some _ => { e with partitions := updateFirst name ({ · with data := data }) e.partitions }
  | none => { e with partitions := e.partitions ++ [⟨name, "----------", data⟩] }

/-- The partition in which `storeVersion` and `storeSignedVersion` put a version text. -/
def versionPartition : String := "VERSION"

/-- Stores a version text. -/
def storeVersion (e : Emulator) (text : String) : Emulator :=
  e.store versionPartition (Firmware.Image.plain text)

/-- Stores a version text in a signed container. -/
def storeSignedVersion (e : Emulator) (text : String) : Emulator :=
  e.store versionPartition (Firmware.Image.signed text)

/-- Lets the clears of a partition fail. -/
def withFailingClear (e : Emulator) (name : String) : Emulator :=
  { e with clearFailures := name :: e.clearFailures }

/-- Lets reads return a status. -/
def withReadStatus (e : Emulator) (status : Int) : Emulator := { e with readStatus := status }

/-- Lets the listing return a status; its text stays. -/
def withListStatus (e : Emulator) (status : Int) : Emulator := { e with listStatus := status }

/-- Writes an event into the history. -/
def record (e : Emulator) (event : Event) : Emulator :=
  { e with history := e.history ++ [event] }

/-- How often an event is in the history. -/
def count (e : Emulator) (event : Event) : Nat := e.history.count event

/-- The line of the listing for the partition at a place in the table. -/
def listingLine (index offset : Nat) (p : Partition) : String :=
  let size := p.data.length
  "ID=" ++ Text.digits 10 2 index ++ " " ++ Text.padLeft 15 p.name ++
    " 0x" ++ Text.digits 16 8 offset ++ "..0x" ++ Text.digits 16 8 (offset + size) ++
    " (actual=0x" ++ Text.digits 16 8 size ++ ") [" ++ p.flags ++ "]\n"

/-- The lines of the listing from a place on. Each partition begins where the one before ends. -/
def listingLines : Nat → Nat → List Partition → List String
  | _, _, [] => []
  | index, offset, p :: rest =>
      listingLine index offset p :: listingLines (index + 1) (offset + p.data.length) rest

/-- The head of the listing. -/
def listingHead : String := "TOC@0x00000000 Partitions:\n-----------\n"

/-- The listing of the partition table. -/
def listing (e : Emulator) : String :=
  (listingLines 0 0 e.partitions).foldl (· ++ ·) listingHead

/-- The status for a command or a partition that the emulator does not know. -/
def unknownStatus : Int := 1

/-- The status of an injected failure of a clear. -/
def injectedStatus : Int := 2

/-- The byte that a clear leaves behind. -/
def clearByte : ClearKind → UInt8
  | .ecc => 0x00
  | .erase => 0xFF

/-- Clears a partition. -/
def clear (e : Emulator) (name : String) (mode : ClearKind) : ToolAnswer × Emulator :=
  if e.clearFailures.contains name then (.failed injectedStatus, e)
  else
    match e.find? name with
    | none => (.failed unknownStatus, e)
    | some _ =>
        (.ok "", { e with partitions := updateFirst name (·.fill (clearByte mode)) e.partitions })

/-- What a read comes to: the data to be written, or the status of the failure. -/
def read (e : Emulator) (name : String) : Except Int (List UInt8) :=
  if e.readStatus ≠ 0 then .error e.readStatus
  else
    match e.data? name with
    | none => .error unknownStatus
    | some data => .ok data

/-- The commands that the emulator understands. -/
inductive Command where
  | list
  | read (partition destination : String)
  | clear (partition : String) (mode : ClearKind)
deriving Repr, DecidableEq

/-- The command that an argument vector asks for. -/
def command? : List String → Option Command
  | ["-i"] => some .list
  | ["-P", name, "-r", destination] => some (.read name destination)
  | ["-P", name, "-c", "-f"] => some (.clear name .ecc)
  | ["-P", name, "-e", "-f"] => some (.clear name .erase)
  | _ => none

/-- The event that a command leaves in the history. -/
def Command.event : Command → Event
  | list => .list
  | read partition destination => .read partition destination
  | clear partition mode => .clear partition mode

/-- Carries a command out. -/
def perform : Command → Action (World Emulator) ToolAnswer
  | .list => World.onDevice fun e => (⟨e.listStatus, e.listing⟩, e)
  | .clear partition mode => World.onDevice fun e => e.clear partition mode
  | .read partition destination => do
      match ← World.onDevice fun e => (e.read partition, e) with
      | .error status => pure (.failed status)
      | .ok data =>
          match ← World.onMachine fun m => m.writeFile destination data with
          | .error _ => pure (.failed unknownStatus)
          | .ok () => pure (.ok "")

/-- Writes an event into the history of the device. -/
def note (event : Event) : Action (World Emulator) Unit :=
  World.onDevice fun e => ((), e.record event)

/-- Runs an argument vector. -/
def run (args : List String) : Action (World Emulator) (Except Failure ToolAnswer) :=
  match command? args with
  | none => pure (.ok (.failed unknownStatus))
  | some command => do
      note command.event
      let out ← perform command
      pure (.ok out)

/-- The emulator as a flash tool. -/
def tool : Flasher Emulator := ⟨"dummy", run⟩

/-- The mediator that writes its signals into the log and into the history of the device. -/
def mediator : Mediator Emulator where
  suspend := do
    World.info "dummy: mediator suspended"
    note .suspend
  resume := do
    World.info "dummy: mediator resumed"
    note .resume

end Emulator

end HostFlash
