import HostFlash.CommandLine.Report
import HostFlash.Settings.Decoding

/-! # The program

The whole program as a function of its arguments and the machine that it runs on: what it prints,
its status, and the machine behind it.
-/

namespace HostFlash.CommandLine

/-- What a run of the program leaves behind. -/
structure Outcome where
  status : Nat
  output : String
  errors : String
  machine : Machine

/-- The settings file that is read when no other is named, if there is one. -/
def standardSettingsPath : String := "/etc/pnorctl.toml"

/-- The settings of an invocation. -/
def loadSettings (machine : Machine) (path : Option String) : Except Failure Settings :=
  let load := Settings.ofFile machine.files machine.workingDirectory
  match path with
  | some path => load path
  | none =>
      if machine.files.isPresent machine.workingDirectory standardSettingsPath then
        load standardSettingsPath
      else .ok {}

/-- A run that ends with status 1 and a line of errors. -/
def failedRun (machine : Machine) (output line : String) : Outcome :=
  ⟨1, output, line ++ "\n", machine⟩

/-- What a report leaves behind: a command that fails prints its failure and ends with status 1. -/
def ofReport (machine : Machine) (report : Report) : Outcome :=
  match report.failure with
  | none => ⟨0, report.output, "", machine⟩
  | some message => failedRun machine report.output ("Error: " ++ message)

/-- The status of a run that a tool took down with it by unwinding. -/
def unwoundStatus : Nat := 101

/-- Runs a command on a backend. -/
def runOn {δ : Type} (machine : Machine) (settings : Settings) (backend : Backend δ)
    (i : Invocation) : Outcome :=
  let command := Report.run backend.tool backend.mediator settings i.command i.confirmed
  match command ⟨machine, backend.log, backend.device⟩ with
  | (.unwound reason, w) => ⟨unwoundStatus, "", reason ++ "\n", w.machine⟩
  | (.returned report, w) => ofReport w.machine report

/-- Runs a command. -/
def runInvocation (machine : Machine) (i : Invocation) : Outcome :=
  match loadSettings machine i.settingsPath with
  | .error failure =>
      failedRun machine "" ("Failed to load configuration: " ++ failure.message)
  | .ok settings =>
      match Backend.openFrom machine settings i.backend with
      | .error fault => failedRun machine "" ("Error: " ++ Text.quoted fault.message)
      | .ok backend => runOn machine settings backend i

/-- The line for arguments that ask for nothing known. -/
def misuseLine : String := "Usage: " ++ Topic.usage .program ++ "\n"

/-- Runs the program. -/
def run (machine : Machine) (args : List String) : Outcome :=
  match request args with
  | .help topic => ⟨0, topic.text, "", machine⟩
  | .programVersion => ⟨0, programName ++ " " ++ programVersion ++ "\n", "", machine⟩
  | .misuse => ⟨2, "", misuseLine, machine⟩
  | .invocation i => runInvocation machine i

end HostFlash.CommandLine
