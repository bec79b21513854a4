import HostFlash.Host.Machine
import HostFlash.Process.Activity
import HostFlash.Process.Collection
import HostFlash.Process.Program
import HostFlash.Process.Signal
import HostFlash.Text.Octets

/-! # The system

Processes that run side by side on the files of a machine. Each process has a clock of its own,
and the process whose clock is furthest behind moves next; a request that cannot be answered yet
lets the others move first. Requests take the time that they would take, so that a run comes out
the same each time.
-/

namespace HostFlash

/-- What an open file leads to. -/
inductive Channel where
  | file (location : Location)
  | directory (location : Location)
  | device (device : Device)
  | source (pipe : Nat)
  | sink (pipe : Nat)
  /-- A pipe that is read outside of the system. -/
  | outside (pipe : Pipe)
deriving Repr, DecidableEq

/-- An open file, with the place that is read or written next. -/
structure Opened where
  channel : Channel
  reading : Bool
  writing : Bool
  appending : Bool
  place : Nat
deriving Repr, DecidableEq

/-- A number under which a process has an open file. One that is not `kept` is closed when the
process goes on as another program. -/
structure Descriptor where
  number : Nat
  opened : Nat
  kept : Bool
deriving Repr, DecidableEq

/-- A process. -/
structure Process where
  number : Nat
  parent : Nat
  /-- The number of the process that leads its group. -/
  group : Nat
  clock : Duration
  activity : Activity
  descriptors : List Descriptor
  directory : Location
  reactions : List (Nat × Reaction)
  caught : List Nat
  stopped : Bool
  /-- How and when it ended. It stays until its parent asks for it. -/
  ended : Option (Exit × Duration)

/-- The system. Open files and pipes are known by their places in the tables. -/
structure Kernel where
  files : FileSystem
  clock : Duration
  opened : Array Opened
  pipes : Array (List UInt8)
  processes : List Process
  next : Nat
  /-- What was written into the pipes that are read outside, newest first. -/
  written : Arrivals

namespace Process

/-- The open file under a number. -/
def descriptor? (p : Process) (number : Nat) : Option Descriptor :=
  p.descriptors.find? (·.number = number)

/-- What is done with a signal. -/
def reaction (p : Process) (signal : Nat) : Reaction :=
  (p.reactions.lookup signal).getD .default

/-- The process neither has ended nor is stopped. -/
def canMove (p : Process) : Bool := p.ended.isNone && !p.stopped

/-- The first number from `least` on that is free, looked for among so many. -/
def freeNumber (p : Process) : Nat → Nat → Nat
  | 0, least => least
  | count + 1, least =>
      if (p.descriptor? least).isSome then freeNumber p count (least + 1) else least

/-- Closes a number. -/
def close (p : Process) (number : Nat) : Process :=
  { p with descriptors := p.descriptors.filter (·.number ≠ number) }

/-- Has an open file under a number. -/
def hold (p : Process) (d : Descriptor) : Process :=
  { p.close d.number with descriptors := d :: (p.close d.number).descriptors }

end Process

namespace Kernel

/-- The number of the first process. -/
def firstProcess : Nat := 4711

/-- How much a pipe holds. -/
def pipeCapacity : Nat := 65536

/-- The time that it takes to begin a program. -/
def programTime : Duration := .ofMilliseconds 1

/-- The time that it takes to begin a child. -/
def forkTime : Duration := ⟨200000⟩

/-- The time that a request takes. -/
def Request.time : Request → Duration
  | .work => ⟨2000⟩
  | .sleep span => span
  | _ => ⟨500⟩

/-- Changes a process. -/
def update (k : Kernel) (number : Nat) (change : Process → Process) : Kernel :=
  { k with processes := k.processes.map fun p => if p.number = number then change p else p }

/-- The process with a number. -/
def process? (k : Kernel) (number : Nat) : Option Process :=
  k.processes.find? (·.number = number)

/-- Some process has a file open that leads to such a channel. -/
def isHeld (k : Kernel) (test : Channel → Bool) : Bool :=
  k.processes.any fun p =>
    p.descriptors.any fun d =>
      match k.opened[d.opened]? with
      | some o => test o.channel
      | none => false

/-- Leaves a caught signal for a process. -/
def leaveSignal (number : Nat) (p : Process) : Process :=
  if p.caught.contains number then p else { p with caught := (number :: p.caught).mergeSort }

/-- What is left of the children of a process that has ended: nobody asks for those that have
ended as well. -/
def orphan (parent : Nat) (c : Process) : Option Process :=
  if c.parent ≠ parent then some c
  else if c.ended.isSome then none
  else some { c with parent := 0 }

/-- Ends a process. Its files are closed, its children are nobody's, and its parent is told. -/
def terminate (k : Kernel) (number : Nat) (exit : Exit) : Kernel :=
  match k.process? number with
  | none => k
  | some p =>
      if p.ended.isSome then k
      else
        let k := k.update number fun p =>
          { p with
            ended := some (exit, k.clock)
            descriptors := []
            caught := []
            activity := .finish exit }
        let k := { k with processes := k.processes.filterMap (orphan number) }
        k.update p.parent fun q =>
          if q.ended.isNone && q.reaction 17 = .notice then leaveSignal 17 q else q

/-- Sends a signal to a process. -/
def deliver (k : Kernel) (number signal : Nat) : Kernel :=
  match k.process? number with
  | none => k
  | some p =>
      if signal = 0 || p.ended.isSome then k
      else
        let k := if signal = 18 then k.update number fun p => { p with stopped := false } else k
        match if Signal.isSovereign signal then .default else p.reaction signal with
        | .ignore => k
        | .notice => k.update number (leaveSignal signal)
        | .default =>
            match Signal.effect signal with
            | .ignore | .resume => k
            | .stop => k.update number fun p => { p with stopped := true }
            | .terminate => k.terminate number (.signal signal)

/-- What is open under a number of a process, with its place in the table. -/
def openedAt? (k : Kernel) (p : Process) (number : Nat) : Option (Nat × Opened) :=
  (p.descriptor? number).bind fun d => (k.opened[d.opened]?).map fun o => (d.opened, o)

/-- Moves the place of an open file. -/
def moveTo (k : Kernel) (index place : Nat) : Kernel :=
  { k with opened := k.opened.modify index fun o => { o with place := place } }

/-- A content with bytes written at a place. -/
def splice (content : List UInt8) (place : Nat) (bytes : List UInt8) : List UInt8 :=
  content.take place ++ List.replicate (place - content.length) 0 ++ bytes ++
    content.drop (place + bytes.length)

/-- The content of the file at a location. -/
def contentAt (k : Kernel) (location : Location) : List UInt8 :=
  match k.files.lookup? location with
  | some (.file content _) => content
  | some (.program _) => FileSystem.programHead
  | _ => []

/-- Reads from an open file with `choose`, which takes a part of what is there. Nothing comes of it
as long as a pipe is empty and can still be written, or `complete` asks for more. -/
def readWith (k : Kernel) (p : Process) (number : Nat) (choose : List UInt8 → List UInt8)
    (complete : List UInt8 → Bool) (zeros : Nat) :
    Option (Except IoError (List UInt8) × Kernel) :=
  match k.openedAt? p number with
  | none => some (.error .badDescriptor, k)
  | some (index, o) =>
      if !o.reading then some (.error .badDescriptor, k)
      else
        match o.channel with
        | .directory _ => some (.error .isDirectory, k)
        | .file location =>
            let bytes := choose ((k.contentAt location).drop o.place)
            some (.ok bytes, k.moveTo index (o.place + bytes.length))
        | .source pipe =>
            let content := k.pipes[pipe]?.getD []
            let bytes := choose content
            if (content = [] || !complete bytes) && content.length < pipeCapacity &&
                k.isHeld (· == .sink pipe) then none
            else
              some (.ok bytes,
                { k with pipes := k.pipes.modify pipe fun _ => content.drop bytes.length })
        | .device .zero | .device .full => some (.ok (List.replicate zeros 0), k)
        | _ => some (.ok [], k)

/-- Reads one line, with its end. -/
def upToNewline (bytes : List UInt8) : List UInt8 :=
  let line := bytes.takeWhile (· ≠ 10)
  bytes.take (line.length + 1)

/-- Writes to an open file. -/
def write (k : Kernel) (p : Process) (number : Nat) (content : List UInt8) :
    Option (Except IoError Nat × Kernel) :=
  match k.openedAt? p number with
  | none => some (.error .badDescriptor, k)
  | some (index, o) =>
      let count := content.length
      if !o.writing then some (.error .badDescriptor, k)
      else
        match o.channel with
        | .outside pipe => some (.ok count, { k with written := (pipe, content) :: k.written })
        | .file location =>
            let place := if o.appending then (k.contentAt location).length else o.place
            let files := k.files.editAt location fun old => splice old place content
            some (.ok count, ({ k with files := files }).moveTo index (place + count))
        | .sink pipe =>
            if !k.isHeld (· == .source pipe) then
              some (.error .brokenPipe, k.deliver p.number 13)
            else
              let old := k.pipes[pipe]?.getD []
              let room := pipeCapacity - old.length
              if room = 0 || (room < count && count ≤ 4096) then none
              else
                let bytes := content.take room
                some (.ok bytes.length,
                  { k with pipes := k.pipes.modify pipe fun _ => old ++ bytes })
        | .device .full => some (.error .noSpace, k)
        | _ => some (.ok count, k)

/-- Puts an open file into the table and under the first free number of a process. -/
def take (k : Kernel) (p : Process) (o : Opened) (least : Nat) (kept : Bool) : Nat × Kernel :=
  let number := p.freeNumber (p.descriptors.length + 1) least
  let index := k.opened.size
  (number,
    ({ k with opened := k.opened.push o }).update p.number fun p =>
      p.hold ⟨number, index, kept⟩)

/-- Where the file is that a process opens. A file that may be made has no slash behind it. -/
def fileToOpen (k : Kernel) (p : Process) (path : String) (access : Access) :
    Except IoError Location :=
  if access.creating && Path.endsInSlash path then
    (k.files.resolve p.directory (Path.trimmed path)).bind fun _ => .error .isDirectory
  else k.files.resolve p.directory path

/-- Opens a file for a process. -/
def openFile (k : Kernel) (p : Process) (path : String) (access : Access) (least : Nat) :
    Except IoError (Nat × Kernel) :=
  match k.fileToOpen p path access with
  | .error e => .error e
  | .ok location =>
      let give (k : Kernel) (channel : Channel) : Except IoError (Nat × Kernel) :=
        .ok (k.take p ⟨channel, access.reading, access.writing, access.appending, 0⟩ least true)
      match k.files.lookup? location with
      | none =>
          if access.creating then
            give { k with files := k.files.put location (.file [] false) } (.file location)
          else .error .noEntry
      | some entry =>
          if access.excluding && !(entry matches .device _) then .error .occupied
          else
            match entry with
            | .directory =>
                if access.writing then .error .isDirectory else give k (.directory location)
            | .file .. =>
                let files :=
                  if access.emptying then k.files.editAt location fun _ => [] else k.files
                give { k with files := files } (.file location)
            | .program _ => give k (.file location)
            | .link _ => .error .tooManyLinks
            | .device (.stream number) =>
                match k.openedAt? p number with
                | none => .error .noEntry
                | some (_, o) => give k o.channel
            | .device .terminal => .error .noDevice
            | .device device => give k (.device device)

/-- What is known of an entry. -/
def infoOf (location : Location) : Entry → FileInfo
  | .directory => ⟨location, .directory, 4096, true⟩
  | .file content executable => ⟨location, .regular, content.length, executable⟩
  | .program _ => ⟨location, .regular, 100000, true⟩
  | .link target => ⟨location, .link, target.utf8ByteSize, true⟩
  | .device _ => ⟨location, .device, 0, false⟩

/-- What is known of the file at a path. -/
def inspect (k : Kernel) (p : Process) (path : String) (follow : Bool) :
    Except IoError FileInfo :=
  match k.files.locate follow p.directory path with
  | .error e => .error e
  | .ok location =>
      match k.files.lookup? location with
      | none => .error .noEntry
      | some (.device (.stream number)) =>
          match k.openedAt? p number with
          | none => .error .noEntry
          | some _ => .ok ⟨location, .device, 0, false⟩
      | some entry => .ok (infoOf location entry)

/-- What is known of an open file. -/
def inspectOpen (k : Kernel) (p : Process) (number : Nat) : Except IoError FileInfo :=
  match k.openedAt? p number with
  | none => .error .badDescriptor
  | some (_, o) =>
      match o.channel with
      | .file location =>
          .ok (((k.files.lookup? location).map (infoOf location)).getD
            ⟨location, .regular, 0, false⟩)
      | .directory location => .ok (infoOf location .directory)
      | .device device => .ok (infoOf [] (.device device))
      | _ => .ok ⟨[], .pipe, 0, false⟩

/-- Takes away the empty directory at a path, which may have slashes behind it. -/
def removeDirectory (k : Kernel) (p : Process) (path : String) : Except IoError FileSystem :=
  if (Path.pieces (Path.trimmed path)).getLast? = some "." then .error .invalidArgument
  else k.files.removeDirectory p.directory (Path.trimmed path)

/-- Gives what is at a path another path. Slashes behind them are for directories only. -/
def rename (k : Kernel) (p : Process) (source target : String) : Except IoError FileSystem :=
  let last (path : String) : Option String := (Path.pieces (Path.trimmed path)).getLast?
  if [last source, last target].any fun name => name = some "." || name = some ".." then
    .error .busy
  else
    let isDirectory : Bool :=
      match k.files.locate false p.directory (Path.trimmed source) with
      | .ok location => k.files.lookup? location = some .directory
      | .error _ => false
    if isDirectory then
      k.files.rename p.directory (Path.trimmed source) (Path.trimmed target)
    else if Path.endsInSlash source || Path.endsInSlash target then
      (k.files.locate false p.directory source).bind fun location =>
        .error (if (k.files.lookup? location).isSome then .notDirectory else .noEntry)
    else k.files.rename p.directory source target

/-- Changes the files. -/
def alter (k : Kernel) (p : Process) (alteration : Alteration) : Except IoError Kernel :=
  let text := Text.Octets.toText
  let result :=
    match alteration with
    | .makeDirectory path => k.files.makeDirectory p.directory (Path.trimmed (text path))
    | .makeLink path target => k.files.make p.directory (text path) (.link (text target))
    | .removeFile path => k.files.removeFile p.directory (text path)
    | .removeDirectory path => k.removeDirectory p (text path)
    | .rename source target => k.rename p (text source) (text target)
    | .setExecutable path executable =>
        k.files.setExecutable p.directory (text path) executable
  result.map fun files => { k with files := files }

/-- Looks for a child that has ended. -/
def await (k : Kernel) (p : Process) (child : Option Nat) (patient alert : Bool) :
    Option (Waited × Kernel) :=
  let children := k.processes.filter fun c =>
    c.parent = p.number && (child matches none || child == some c.number)
  match children.filterMap fun c => c.ended.map fun (exit, time) => (c.number, exit, time) with
  | (number, exit, time) :: rest =>
      let first := rest.foldl (fun a b => if b.2.2 < a.2.2 then b else a) (number, exit, time)
      some (.ended first.1 first.2.1,
        { k with processes := k.processes.filter (·.number ≠ first.1) })
  | [] =>
      if children.isEmpty then some (.noChild, k)
      else if !patient then some (.running, k)
      else if alert && !p.caught.isEmpty then some (.interrupted, k)
      else none

/-- Answers a request, unless that has to wait. -/
def serve (k : Kernel) (p : Process) : (r : Request) → Option (r.Answer × Kernel)
  | .work => some ((), k)
  | .sleep _ => some ((), k)
  | .openFile path access least =>
      match k.openFile p (Text.Octets.toText path) access least with
      | .ok (number, k) => some (.ok number, k)
      | .error e => some (.error e, k)
  | .close number =>
      if (p.descriptor? number).isNone then some (.error .badDescriptor, k)
      else some (.ok (), k.update p.number (·.close number))
  | .copy source target =>
      match p.descriptor? source with
      | none => some (.error .badDescriptor, k)
      | some d =>
          if source = target then some (.ok (), k)
          else some (.ok (), k.update p.number (·.hold ⟨target, d.opened, true⟩))
  | .spare source least =>
      match p.descriptor? source with
      | none => some (.error .badDescriptor, k)
      | some d =>
          let number := p.freeNumber (p.descriptors.length + 1) least
          some (.ok number, k.update p.number (·.hold ⟨number, d.opened, false⟩))
  | .pipe =>
      let index := k.pipes.size
      let k := { k with pipes := k.pipes.push [] }
      let (source, k) := k.take p ⟨.source index, true, false, false, 0⟩ 0 true
      match k.process? p.number with
      | none => some ((source, source), k)
      | some p =>
          let (sink, k) := k.take p ⟨.sink index, false, true, false, 0⟩ 0 true
          some ((source, sink), k)
  | .read number count => k.readWith p number (·.take count) (fun _ => true) count
  | .readLine number =>
      k.readWith p number upToNewline (fun bytes => bytes.getLast? == some 10) pipeCapacity
  | .unread number count =>
      match k.openedAt? p number with
      | none => some (.error .badDescriptor, k)
      | some (index, o) =>
          match o.channel with
          | .file _ => some (.ok (), k.moveTo index (o.place - count))
          | _ => some (.error .noSeek, k)
  | .seek number place =>
      match k.openedAt? p number with
      | none => some (.error .badDescriptor, k)
      | some (index, o) =>
          match o.channel with
          | .file _ => some (.ok (), k.moveTo index place)
          | .device _ => some (.ok (), k)
          | _ => some (.error .noSeek, k)
  | .truncate number size =>
      match k.openedAt? p number with
      | none => some (.error .badDescriptor, k)
      | some (_, o) =>
          match o.channel with
          | .file location =>
              let cut (old : List UInt8) : List UInt8 :=
                old.take size ++ List.replicate (size - old.length) 0
              some (.ok (), { k with files := k.files.editAt location cut })
          | _ => some (.error .invalidArgument, k)
  | .write number content => k.write p number content
  | .await child patient alert => k.await p child patient alert
  | .signal target number =>
      let targets := k.processes.filter fun q =>
        if target > 0 then q.number = target.toNat
        else q.group = (if target = 0 then p.group else target.natAbs)
      if targets.isEmpty then some (.error .noProcess, k)
      else some (.ok (), targets.foldl (fun k q => k.deliver q.number number) k)
  | .lead => some ((), k.update p.number fun p => { p with group := p.number })
  | .react number reaction =>
      some ((), k.update p.number fun p =>
        { p with reactions := (number, reaction) :: p.reactions.filter (·.1 ≠ number) })
  | .caught => some (p.caught, k.update p.number fun p => { p with caught := [] })
  | .changeDirectory path =>
      match k.inspect p (Text.Octets.toText path) true with
      | .error e => some (.error e, k)
      | .ok info =>
          if info.kind = .directory then
            some (.ok (), k.update p.number fun p => { p with directory := info.location })
          else some (.error .notDirectory, k)
  | .directory => some (Text.Octets.ofText (Path.ofLocation p.directory), k)
  | .inspect path follow => some (k.inspect p (Text.Octets.toText path) follow, k)
  | .inspectOpen number => some (k.inspectOpen p number, k)
  | .list path =>
      match k.inspect p (Text.Octets.toText path) true with
      | .error e => some (.error e, k)
      | .ok info =>
          if info.kind = .directory then
            some (.ok ((k.files.children info.location).map Text.Octets.ofText), k)
          else some (.error .notDirectory, k)
  | .linkTarget path =>
      match k.files.locate false p.directory (Text.Octets.toText path) with
      | .error e => some (.error e, k)
      | .ok location =>
          match k.files.lookup? location with
          | none => some (.error .noEntry, k)
          | some (.link target) => some (.ok (Text.Octets.ofText target), k)
          | some _ => some (.error .invalidArgument, k)
  | .alter alteration =>
      match k.alter p alteration with
      | .ok k => some (.ok (), k)
      | .error e => some (.error e, k)
  | .identity => some (p.number, k)
  | .origin => some (p.parent, k)

/-- Lets a process go on, unless it has ended. -/
def resume (k : Kernel) (number : Nat) (time : Duration) (activity : Activity) : Kernel :=
  k.update number fun p =>
    if p.ended.isSome then p else { p with activity := activity, clock := k.clock + time }

/-- How programs behave: what a program of the machine does with its name, its arguments and its
variables. -/
abbrev Behavior := Program → Environment → Activity

/-- Moves one process on, unless its request has to wait. -/
def advance (behavior : Behavior) (k : Kernel) (p : Process) : Option Kernel :=
  let k := if k.clock ≤ p.clock then { k with clock := p.clock } else k
  match p.activity with
  | .finish exit => some (k.terminate p.number exit)
  | .request r next =>
      (k.serve p r).map fun (answer, k) => k.resume p.number (Request.time r) (next answer)
  | .fork child next =>
      let number := k.next
      let c : Process :=
        { p with
          number := number
          parent := p.number
          clock := k.clock + forkTime
          activity := child
          caught := [] }
      let k := { k with processes := k.processes ++ [c], next := number + 1 }
      some (k.resume p.number ⟨50000⟩ (next number))
  | .become path name args environment failed =>
      match Program.atPath k.files p.directory path name args with
      | .error e => some (k.resume p.number ⟨500⟩ (failed e))
      | .ok program =>
          let k := k.update p.number fun p =>
            { p with
              descriptors := p.descriptors.filter (·.kept)
              reactions := p.reactions.filter (·.2 = .ignore) }
          some (k.resume p.number programTime (behavior program environment))

/-- Moves the first process on that can move, of those that wait the longest first. -/
def step (behavior : Behavior) (k : Kernel) : Option Kernel :=
  let order := (k.processes.filter (·.canMove)).mergeSort fun a b => a.clock ≤ b.clock
  order.findSome? (k.advance behavior)

/-- Moves processes on until the goal is reached, with the answer whether it was. Moves after the
limit are not made. -/
def run (behavior : Behavior) (limit : Option Duration) (goal : Kernel → Bool) :
    Nat → Kernel → Bool × Kernel
  | 0, k => (false, k)
  | fuel + 1, k =>
      if goal k then (true, k)
      else
        match k.step behavior with
        | none => (false, k)
        | some k' =>
            match limit with
            | none => run behavior limit goal fuel k'
            | some limit =>
                if limit < k'.clock then (false, k) else run behavior limit goal fuel k'

/-- A system with one process, which has nothing to read and whose pipes are read outside. -/
def start (machine : Machine) (activity : Activity) : Kernel where
  files := machine.files
  clock := ⟨0⟩
  opened := #[⟨.device .null, true, false, false, 0⟩,
    ⟨.outside .output, false, true, false, 0⟩, ⟨.outside .errors, false, true, false, 0⟩]
  pipes := #[]
  processes :=
    [{ number := firstProcess
       parent := 0
       group := firstProcess
       clock := programTime
       activity := activity
       descriptors := [⟨0, 0, true⟩, ⟨1, 1, true⟩, ⟨2, 2, true⟩]
       directory := machine.workingDirectory
       reactions := []
       caught := []
       stopped := false
       ended := none }]
  next := firstProcess + 1
  written := []

end Kernel

end HostFlash
