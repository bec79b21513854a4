import HostFlash.Flash.Mediator
import HostFlash.Flash.Flasher

/-! # A scripted tool

A flash tool that follows a script: rules say how to answer which argument vectors, and every run
and every signal of the mediator leaves one event in a trace. The first rule that matches and is
not used up decides; an argument vector without a rule is answered with success.
-/

namespace HostFlash

namespace Script

/-- What happened to the tool and its mediator. -/
inductive Event where
  | run (args : List String)
  | suspend
  | resume
deriving Repr, DecidableEq

/-- How a rule answers. -/
inductive Response where
  /-- The tool unwinds. -/
  | unwind
  /-- The tool is not found. -/
  | missing
  /-- The tool is killed at its deadline. -/
  | late (seconds : Nat)
  /-- The tool answers, after it has written the dump that a read asks for. -/
  | answer (dump : Option (List UInt8)) (out : ToolAnswer)
deriving Repr, DecidableEq

/-- A rule for the argument vectors that begin with `args`. It is used up after `limit` uses. -/
structure Rule where
  args : List String
  limit : Option Nat
  response : Response
deriving Repr, DecidableEq

namespace Rule

/-- The rule decides about the argument vector. -/
def decides (r : Rule) (args : List String) : Bool :=
  r.args.isPrefixOf args && r.limit != some 0

/-- The rule after one use. -/
def used (r : Rule) : Rule := { r with limit := r.limit.map (· - 1) }

end Rule

end Script

/-- A script: what is left of the rules, and the trace. -/
structure Script where
  rules : List Script.Rule
  trace : List Script.Event
deriving Repr, DecidableEq

namespace Script

/-- Writes an event into the trace. -/
def note (event : Event) : Action (World Script) Unit :=
  World.onDevice fun s => ((), { s with trace := s.trace ++ [event] })

/-- The answer without a rule. -/
def defaultResponse : Response := .answer none (.ok "")

/-- The response to an argument vector, and the rules after it. -/
def choose (args : List String) : List Rule → Response × List Rule
  | [] => (defaultResponse, [])
  | r :: rest =>
      if r.decides args then (r.response, r.used :: rest)
      else
        let (response, rest') := choose args rest
        (response, r :: rest')

/-- Takes the response to an argument vector from the script. -/
def nextResponse (args : List String) : Action (World Script) Response :=
  World.onDevice fun s =>
    let (response, rules) := choose args s.rules
    (response, { s with rules := rules })

/-- Where a read puts its dump. -/
def dumpPath? : List String → Option String
  | [_, _, "-r", path] => some path
  | _ => none

/-- Writes the dump of a read. A file that cannot be written is passed over. -/
def writeDump (args : List String) (dump : Option (List UInt8)) : Action (World Script) Unit :=
  match dump, dumpPath? args with
  | some data, some path => do
      let _ ← World.onMachine fun m => m.writeFile path data
      pure ()
  | _, _ => pure ()

/-- The reason that a scripted tool unwinds with. -/
def unwindReason : String := "scripted panic"

/-- Answers an argument vector. -/
def respond (name : String) (args : List String) :
    Response → Action (World Script) (Except Failure ToolAnswer)
  | .unwind => .unwind unwindReason
  | .missing => pure (.error (.notStarted name .noEntry))
  | .late seconds => pure (.error (.timedOut (commandText name args) seconds))
  | .answer dump out => do
      writeDump args dump
      pure (.ok out)

/-- The flash tool that follows the script of the device. -/
def tool (name : String) : Flasher Script where
  name := name
  run args := do
    note (.run args)
    let response ← nextResponse args
    respond name args response

/-- The mediator that writes its signals into the trace. -/
def mediator : Mediator Script where
  suspend := note .suspend
  resume := note .resume

end Script

end HostFlash
