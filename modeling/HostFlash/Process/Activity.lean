import HostFlash.Host.FileSystem
import HostFlash.Process.Duration
import HostFlash.Process.Supervision

/-! # Activities

What a process does, as a tree of the requests that it makes to the system. A request names the
type of its answer, and behind it the activity goes on with any answer of that type. Whoever runs
an activity decides the answers and when they come, so that the same activity can be run alone or
among others.

A `Routine` is a piece of an activity that comes to a value. Routines are put together like any
computation, and `Routine.ask` is the routine of a single request.
-/

namespace HostFlash

/-- How a file is opened. -/
structure Access where
  reading : Bool
  writing : Bool
  /-- A file is made where nothing is. -/
  creating : Bool
  /-- The old content is dropped. -/
  emptying : Bool
  /-- Each write goes behind the end. -/
  appending : Bool
  /-- A file that is there already is refused. -/
  excluding : Bool
deriving Repr, DecidableEq

namespace Access

/-- To read a file. -/
def reader : Access := ⟨true, false, false, false, false, false⟩

/-- To write a file anew. -/
def writer : Access := ⟨false, true, true, true, false, false⟩

/-- To write behind the end of a file. -/
def appender : Access := ⟨false, true, true, false, true, false⟩

/-- To write a file that is not there yet. -/
def maker : Access := ⟨false, true, true, false, false, true⟩

/-- To read and write a file that is kept. -/
def both : Access := ⟨true, true, true, false, false, false⟩

/-- To write into a file that is kept. -/
def patcher : Access := ⟨false, true, true, false, false, false⟩

end Access

/-- What kind of thing is at a path, or open under a number. -/
inductive FileKind where
  | directory
  | regular
  | link
  | device
  | pipe
deriving Repr, DecidableEq

/-- What is known of a file. -/
structure FileInfo where
  location : Location
  kind : FileKind
  size : Nat
  executable : Bool
deriving Repr, DecidableEq

/-- What a process does with a signal. -/
inductive Reaction where
  | default
  | ignore
  | notice
deriving Repr, DecidableEq

/-- A change to the files other than to the content of one. -/
inductive Alteration where
  | makeDirectory (path : String)
  | makeLink (path target : String)
  | removeFile (path : String)
  | removeDirectory (path : String)
  | rename (source target : String)
  | setExecutable (path : String) (executable : Bool)
deriving Repr, DecidableEq

/-- What a wait for a child comes to. -/
inductive Waited where
  | ended (child : Nat) (exit : Exit)
  | running
  | interrupted
  | noChild
deriving Repr, DecidableEq

/-- What a process can ask of the system. Paths are byte texts. -/
inductive Request where
  /-- To compute for a moment. -/
  | work
  | sleep (span : Duration)
  /-- To open a file under the first free number from `least` on. -/
  | openFile (path : String) (access : Access) (least : Nat)
  | close (descriptor : Nat)
  /-- To have what is open under one number under another as well. -/
  | copy (source target : Nat)
  /-- To have it under the first free number from `least` on, until another program is begun. -/
  | spare (source least : Nat)
  | pipe
  | read (descriptor count : Nat)
  /-- To read up to the end of a line. -/
  | readLine (descriptor : Nat)
  /-- To go back over bytes that were read. -/
  | unread (descriptor count : Nat)
  /-- To go to a place in a file. -/
  | seek (descriptor place : Nat)
  | truncate (descriptor size : Nat)
  | write (descriptor : Nat) (content : List UInt8)
  /-- To wait for a child, or for any child, to end. Without `patient` the answer comes at once,
  and with `alert` a signal that is caught ends the wait. -/
  | await (child : Option Nat) (patient alert : Bool)
  /-- To send a signal to a process, to its own group for a target of zero, or to another group for
  a target below zero. -/
  | signal (target : Int) (number : Nat)
  /-- To lead a group of its own. -/
  | lead
  | react (number : Nat) (reaction : Reaction)
  /-- The signals that were caught since the last time. -/
  | caught
  | changeDirectory (path : String)
  | directory
  | inspect (path : String) (follow : Bool)
  | inspectOpen (descriptor : Nat)
  | list (path : String)
  | linkTarget (path : String)
  | alter (alteration : Alteration)
  /-- The number of the process. -/
  | identity
  /-- The number of the process that began it. -/
  | origin
deriving Repr, DecidableEq

/-- The type of the answers to a request. -/
@[reducible] def Request.Answer : Request → Type
  | .work | .sleep _ | .react .. | .lead => Unit
  | .openFile .. | .spare .. | .write .. => Except IoError Nat
  | .close _ | .copy .. | .unread .. | .seek .. | .truncate .. | .signal .. | .changeDirectory _
  | .alter _ => Except IoError Unit
  | .pipe => Nat × Nat
  | .read .. | .readLine _ => Except IoError (List UInt8)
  | .await .. => Waited
  | .caught => List Nat
  | .directory => String
  | .inspect .. | .inspectOpen _ => Except IoError FileInfo
  | .list _ => Except IoError (List String)
  | .linkTarget _ => Except IoError String
  | .identity | .origin => Nat

/-- The variables that a program is given. -/
abbrev Environment := List (String × String)

/-- What a process does from some point on. -/
inductive Activity where
  | finish (exit : Exit)
  | request (r : Request) (next : r.Answer → Activity)
  /-- To begin a child that does something else. -/
  | fork (child : Activity) (next : Nat → Activity)
  /-- To go on as the program at a path, called by a name, or with the reason why that cannot be. -/
  | become (path name : String) (args : List String) (environment : Environment)
      (failed : IoError → Activity)

/-- A piece of an activity that comes to a value. -/
def Routine (α : Type) : Type :=
  (α → Activity) → Activity

namespace Routine

variable {α β : Type}

instance : Monad Routine where
  pure a := fun k => k a
  bind m f := fun k => m fun a => f a k

/-- Makes a request. -/
def ask (r : Request) : Routine r.Answer := fun k => .request r k

/-- Ends the process. -/
def quit (exit : Exit) : Routine α := fun _ => .finish exit

/-- Begins a child and gives its number. -/
def fork (child : Activity) : Routine Nat := fun k => .fork child k

/-- Goes on as another program. It comes to a value only when that cannot be. -/
def become (path name : String) (args : List String) (environment : Environment) :
    Routine IoError :=
  fun k => .become path name args environment k

/-- The activity of a program that comes to a status. -/
def program (m : Routine Nat) : Activity := m fun status => .finish (.code status)

/-- Writes all of some bytes. The fuel is a bound on their number. -/
def writeAll (descriptor : Nat) : Nat → List UInt8 → Routine (Except IoError Unit)
  | 0, _ => pure (.ok ())
  | _ + 1, [] => pure (.ok ())
  | fuel + 1, content => do
      match ← ask (.write descriptor content) with
      | .error e => pure (.error e)
      | .ok count => writeAll descriptor fuel (content.drop count)

/-- Writes bytes. -/
def put (descriptor : Nat) (content : List UInt8) : Routine (Except IoError Unit) :=
  writeAll descriptor (content.length + 1) content

/-- How many bytes are read at a time. -/
def blockSize : Nat := 65536

/-- Reads all that is left. The fuel is a bound on the number of blocks. -/
def readBlocks (descriptor : Nat) : Nat → List (List UInt8) →
    Routine (Except IoError (List UInt8))
  | 0, read => pure (.ok read.reverse.flatten)
  | fuel + 1, read => do
      match ← ask (.read descriptor blockSize) with
      | .error e => pure (.error e)
      | .ok [] => pure (.ok read.reverse.flatten)
      | .ok block => readBlocks descriptor fuel (block :: read)

/-- A bound on anything that goes on until it is stopped. -/
def always : Nat := 1000000000

/-- Reads all that is left. -/
def readAll (descriptor : Nat) : Routine (Except IoError (List UInt8)) :=
  readBlocks descriptor always []

end Routine

end HostFlash
