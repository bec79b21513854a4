import HostFlash.Utility.Rules.State

/-! # Output of a program of rules

Files and commands that were written to stay open until they are closed or the program ends, and
what goes to them is held back until there is enough of it. What is held back for the standard
output is written before a command begins, and the rest too if the command is waited for. The files
with the names of the standard outputs stand for these.
-/

namespace HostFlash.Utility.Rules.Act

/-- What the name of the standard output stands for. -/
def isStandardOutput (name : String) : Bool := name = "/dev/stdout" || name = "-"

/-- Ends the program since a file cannot be written. -/
def writeFault {α : Type} (name : String) (e : IoError) : Act α :=
  fatal ("close failed on file \"" ++ name ++ "\" (" ++ e.reason ++ ")")

/-- Writes what the program holds back for its standard output. -/
def flushStandard : Act Unit := do
  let desk ← tool get
  if !desk.held.isEmpty then
    tool (set { desk with held := [], heldSize := 0 })
    match ← routine (Routine.put 1 (Text.Octets.toBytes (String.join desk.held.reverse))) with
    | .ok () => pure ()
    | .error e => writeFault "/dev/stdout" e

/-- Writes a text to the standard output. -/
def writeStandard (text : String) : Act Unit := do
  let desk ← tool get
  let size := desk.heldSize + text.length
  tool (set { desk with held := text :: desk.held, heldSize := size })
  if size ≥ Tool.holdSize then flushStandard

/-- Writes what is held back for a file. -/
def flushSink (sink : Sink) : Act Sink := do
  if sink.held.isEmpty then pure sink
  else
    let text := String.join sink.held.reverse
    match ← routine (Routine.put sink.number (Text.Octets.toBytes text)) with
    | .ok () => pure { sink with held := [], heldSize := 0 }
    | .error e => do
        modify fun s => { s with sinks := s.sinks.filter (·.number ≠ sink.number) }
        writeFault sink.name e

/-- Writes all that is held back. -/
def flushAll : Act Unit := do
  flushStandard
  let sinks ← (← get).sinks.mapM flushSink
  modify fun s => { s with sinks := sinks }

/-- The status that an end of a command counts as. -/
def statusOf : Exit → Int
  | .code n => n.toNat % 256
  | .signal n => 256 + n

/-- Waits for a command. -/
def await (child : Nat) : Act Int := do
  match ← ask (.await (some child) true false) with
  | .ended _ exit => pure (statusOf exit)
  | _ => pure (-1)

/-- Goes on as a command. -/
def becomeCommand (name command : String) (environment : Environment) : Routine Nat := do
  let e ← becomeAt interpreterPath name ["-c", command] environment
  pure (launchStatus e)

/-- Begins a command with one end of a pipe as its standard input or output, and gives the other
end. -/
def beginCommand (reads : Bool) (command : String) : Act (Nat × Nat) := do
  flushStandard
  let (source, sink) ← ask .pipe
  let (own, other) := if reads then (source, sink) else (sink, source)
  let unused := own :: (← get).sinks.map (·.number)
  let environment := (← tool get).environment
  let child ← routine (Routine.fork (Routine.program do
    let _ ← Routine.ask (.copy other (if reads then 1 else 0))
    (other :: unused).forM fun number => do
      let _ ← Routine.ask (.close number)
    becomeCommand interpreterPath command environment))
  let _ ← ask (.close other)
  pure (own, child)

/-- Runs a command and waits for it. -/
def runCommand (command : String) : Act Int := do
  flushAll
  let environment := (← tool get).environment
  await (← routine (Routine.fork (Routine.program (becomeCommand "sh" command environment))))

/-- Opens a file, or begins a command, to write to. -/
def openSink (name : String) (isCommand appending : Bool) : Act Sink := do
  if isCommand then
    let (number, child) ← beginCommand false name
    pure ⟨name, number, some child, [], 0⟩
  else
    match ← ask (.openFile name (if appending then .appender else .writer) 0) with
    | .ok number => pure ⟨name, number, none, [], 0⟩
    | .error e => fatal ("cannot open \"" ++ name ++ "\" for output (" ++ e.reason ++ ")")

/-- Writes a text to a file or a command. -/
def writeTo (name : String) (isCommand appending : Bool) (text : String) : Act Unit := do
  if !isCommand && isStandardOutput name then writeStandard text
  else if !isCommand && name = "/dev/stderr" then tool (Tool.say text)
  else
    let isWanted (sink : Sink) : Bool := sink.name = name && sink.child.isSome = isCommand
    let sink ←
      match (← get).sinks.find? isWanted with
      | some sink => pure sink
      | none => openSink name isCommand appending
    let sink :=
      { sink with held := text :: sink.held, heldSize := sink.heldSize + text.length }
    let others := (← get).sinks.filter (·.number ≠ sink.number)
    modify fun s => { s with sinks := sink :: others }
    if sink.heldSize ≥ Tool.holdSize then
      let sink ← flushSink sink
      modify fun s => { s with sinks := sink :: others }

/-- Closes a file that was written, and waits for the command that read it. -/
def closeSink (sink : Sink) : Act Int := do
  let sink ← flushSink sink
  modify fun s => { s with sinks := s.sinks.filter (·.number ≠ sink.number) }
  let _ ← ask (.close sink.number)
  match sink.child with
  | some child => await child
  | none => pure 0

/-- Closes a file that was read, and waits for the command that wrote it. -/
def closeSource (source : Source) : Act Int := do
  if source.number ≠ 0 then
    let _ ← ask (.close source.number)
  match source.child with
  | some child => await child
  | none => pure 0

/-- Closes all that is open under a name. The answer is the status of the last one. -/
def close (name : String) : Act Int := do
  let s ← get
  let sinks ← (s.sinks.filter (·.name = name)).mapM closeSink
  let sources ← (s.sources.filter (·.name = name)).mapM closeSource
  modify fun s => { s with sources := s.sources.filter (·.name ≠ name) }
  pure ((sinks ++ sources).getLast?.getD (-1))

/-- Writes what is held back for a name, if something is open under it. -/
def flushNamed (name : String) : Act Bool := do
  if isStandardOutput name then
    flushStandard
    pure true
  else if name = "/dev/stderr" then pure true
  else
    match (← get).sinks.find? (·.name = name) with
    | none => pure false
    | some sink => do
        let sink ← flushSink sink
        modify fun s => { s with sinks := s.sinks.map fun other =>
          if other.number = sink.number then sink else other }
        pure true

/-- Closes all that was written. -/
def closeAll : Act Unit := do
  (← get).sinks.forM fun sink => do
    let _ ← closeSink sink
  flushStandard

end HostFlash.Utility.Rules.Act
