import HostFlash.Process.Activity
import HostFlash.Text.Octets
import HostFlash.Utility.Options

/-! # Programs of the machine

What the programs have in common that every machine has: they read their options, work through
their input, hold their output back until there is enough of it, and complain under the name that
they were called by. A program ends with the status that it comes to, or at once with another.
-/

namespace HostFlash.Utility

/-- What a running program keeps track of. -/
structure Desk where
  name : String
  args : List String
  environment : Environment
  /-- Output that is held back, newest first, and its size. -/
  held : List String
  heldSize : Nat
  status : Nat
  /-- The status for complaints. -/
  failure : Nat

/-- What a program does. -/
abbrev Tool := ExceptT Nat (StateT Desk Routine)

namespace Tool

variable {α : Type}

/-- Makes a request. -/
def ask (r : Request) : Tool r.Answer := fun s k => .request r fun answer => k (.ok answer, s)

/-- Runs a routine. -/
def routine (m : Routine α) : Tool α := fun s k => m fun a => k (.ok a, s)

/-- Ends the program. -/
def exit (status : Nat) : Tool α := throw status

/-- Writes a byte text where complaints go. -/
def say (text : String) : Tool Unit := do
  let _ ← routine (Routine.put 2 (Text.Octets.toBytes text))

/-- Writes what is held back. -/
def flush : Tool Unit := do
  let s ← get
  if !s.held.isEmpty then
    set { s with held := [], heldSize := 0 }
    match ← routine (Routine.put 1 (Text.Octets.toBytes (String.join s.held.reverse))) with
    | .ok () => pure ()
    | .error e => do
        say (s.name ++ ": write error: " ++ e.reason ++ "\n")
        exit s.failure

/-- Says something under the name of the program, behind all output. -/
def warn (message : String) : Tool Unit := do
  flush
  say ((← get).name ++ ": " ++ message ++ "\n")

/-- Complains, and does not end well. -/
def complain (message : String) : Tool Unit := do
  warn message
  modify fun s => { s with status := s.failure }

/-- Complains about something that the system refused. -/
def complainOf (subject : String) (e : IoError) : Tool Unit :=
  complain (subject ++ ": " ++ e.reason)

/-- Complains and ends. -/
def fail (message : String) : Tool α := do
  complain message
  exit (← get).failure

/-- Complains about the arguments and ends. -/
def misused (message : String) : Tool α := do
  complain message
  let s ← get
  say ("Try '" ++ s.name ++ " --help' for more information.\n")
  exit s.failure

/-- How much output is held back. -/
def holdSize : Nat := 4096

/-- Writes a byte text. -/
def write (text : String) : Tool Unit := do
  let s ← get
  let size := s.heldSize + text.length
  set { s with held := text :: s.held, heldSize := size }
  if size ≥ holdSize then flush

/-- Writes a line. -/
def writeLine (text : String) : Tool Unit := write (text ++ "\n")

/-- Reads the arguments of a program that has such options. -/
def arguments (specs : List OptionSpec) (mixed : Bool) : Tool Arguments := do
  match Arguments.read specs mixed (← get).args with
  | .ok a => pure a
  | .error message => misused message

/-- A name in quotes for complaints. -/
def quoted (text : String) : String := "'" ++ text ++ "'"

/-! ## Input -/

/-- Opens an input, which a dash stands for the standard input of. -/
def openInput (path : String) : Tool (Except IoError Nat) := do
  if path = "-" then pure (.ok 0) else ask (.openFile path .reader 0)

/-- Closes an input. -/
def closeInput (number : Nat) : Tool Unit := do
  if number ≠ 0 then
    let _ ← ask (.close number)

/-- Works through the blocks of an open file with a state until there are none, or `step` gives
the answer that it is enough. The fuel is a bound on the number of blocks. -/
def foldBlocks {σ : Type} (number : Nat) (step : σ → String → Tool (σ × Bool)) :
    Nat → σ → Tool (Except IoError σ)
  | 0, s => pure (.ok s)
  | fuel + 1, s => do
      match ← ask (.read number Routine.blockSize) with
      | .error e => pure (.error e)
      | .ok [] => pure (.ok s)
      | .ok bytes => do
          match ← step s (Text.Octets.ofBytes bytes) with
          | (s, true) => foldBlocks number step fuel s
          | (s, false) => pure (.ok s)

/-- Works through the blocks of an open file until there are none, or `step` says that it is
enough. -/
def eachBlock (number : Nat) (step : String → Tool Bool) : Tool (Except IoError Unit) :=
  foldBlocks number (fun () text => do pure ((), ← step text)) Routine.always ()

/-- The complete lines at the front of a text and what is left behind the last one. -/
def cutLines (text : String) : List String × String :=
  let pieces := text.toList.foldr (fun c pieces =>
    match pieces with
    | [] => [[c]]
    | p :: rest => if c = '\n' then [] :: p :: rest else (c :: p) :: rest) [[]]
  let lines := pieces.map String.ofList
  (lines.dropLast, lines.getLast?.getD "")

/-- Works through lines with a state until there are none, or `step` gives the answer that it is
enough. -/
def foldOf {σ : Type} (step : σ → String → Tool (σ × Bool)) : List String → σ → Tool (σ × Bool)
  | [], s => pure (s, true)
  | line :: rest, s => do
      match ← step s line with
      | (s, true) => foldOf step rest s
      | (s, false) => pure (s, false)

/-- Works through the lines of an open file behind a text that was read already. The step is told
whether the end of the line was there. The fuel is a bound on the number of blocks. -/
def foldFrom {σ : Type} (number : Nat) (step : σ → String → Bool → Tool (σ × Bool)) :
    Nat → String → σ → Tool (Except IoError (σ × Bool))
  | 0, _, s => pure (.ok (s, true))
  | fuel + 1, left, s => do
      match ← ask (.read number Routine.blockSize) with
      | .error e => pure (.error e)
      | .ok [] => do
          if left = "" then pure (.ok (s, true)) else pure (.ok (← step s left false))
      | .ok bytes => do
          let (lines, left) := cutLines (left ++ Text.Octets.ofBytes bytes)
          match ← foldOf (step · · true) lines s with
          | (s, true) => foldFrom number step fuel left s
          | (s, false) => pure (.ok (s, false))

/-- Works through the lines of an open file with a state. The answer holds whether all of them were
wanted. -/
def foldLines {σ : Type} (number : Nat) (step : σ → String → Bool → Tool (σ × Bool)) (s : σ) :
    Tool (Except IoError (σ × Bool)) :=
  foldFrom number step Routine.always "" s

/-- Works through the lines of files with a state, one file after the other, and complains about
those that cannot be read. -/
def foldFileLines {σ : Type} (step : σ → String → Bool → Tool (σ × Bool)) :
    List String → σ → Tool σ
  | [], s => pure s
  | path :: rest, s => do
      match ← openInput path with
      | .error e => do
          complainOf path e
          foldFileLines step rest s
      | .ok number => do
          let r ← foldLines number step s
          closeInput number
          match r with
          | .error e => do
              complainOf path e
              foldFileLines step rest s
          | .ok (s, true) => foldFileLines step rest s
          | .ok (s, false) => pure s

/-- Works through the lines of the files that are named, or of the standard input where there are
none, with a state. -/
def foldInputLines {σ : Type} (paths : List String) (step : σ → String → Bool → Tool (σ × Bool))
    (s : σ) : Tool σ :=
  foldFileLines step (if paths = [] then ["-"] else paths) s

/-- Works through the lines of the files that are named, or of the standard input. -/
def eachInputLine (paths : List String) (step : String → Bool → Tool Bool) : Tool Unit :=
  foldInputLines paths (fun () line ended => do pure ((), ← step line ended)) ()

/-- The whole of a file. -/
def readFile (path : String) : Tool (Except IoError String) := do
  match ← openInput path with
  | .error e => pure (.error e)
  | .ok number => do
      let content ← routine (Routine.readAll number)
      closeInput number
      match content with
      | .ok bytes => pure (.ok (Text.Octets.ofBytes bytes))
      | .error e => pure (.error e)

/-! ## Running -/

/-- What a program does when it is called. -/
def activity (m : Tool Unit) (name : String) (args : List String) (environment : Environment) :
    Activity :=
  let desk : Desk := ⟨name, args, environment, [], 0, 0, 1⟩
  let whole : Routine Nat := do
    let (r, desk) ← m.run.run desk
    let early : Nat :=
      match r with
      | .ok () => desk.status
      | .error status => status
    let (r, _) ← (flush.run).run desk
    match r with
    | .ok () => pure early
    | .error status => pure status
  Routine.program whole

end Tool

end HostFlash.Utility
