import HostFlash.CommandLine.Program
import HostFlash.Host.StandardMachine

/-! # The executable

The program on a real machine. The files that the arguments name are read into the machine that
the program runs on; programs of the real machine are not started.
-/

open HostFlash HostFlash.CommandLine

/-- The paths that a run may read: the settings, and the image of a backend. -/
def inputPaths (i : Invocation) : List String :=
  let images :=
    match BackendSpec.parse i.backend with
    | .ok spec => spec.options.map (·.2)
    | .error _ => []
  i.settingsPath.getD standardSettingsPath :: images

/-- The machine with a file of the real machine on it, if that can be read. -/
def withRealFile (machine : Machine) (path : String) : IO Machine := do
  try
    let bytes ← IO.FS.readBinFile path
    let location := Path.location machine.workingDirectory path
    pure { machine with files := machine.files.plant location (.file bytes.toList false) }
  catch _ => pure machine

/-- The machine that the program runs on. -/
def realMachine (paths : List String) : IO Machine := do
  let directory := Path.location [] (← IO.currentDir).toString
  let machine := Machine.standard
  let files := if directory = [] then machine.files else machine.files.plant directory .directory
  paths.foldlM withRealFile { machine with files := files, workingDirectory := directory }

/-- Runs the program. -/
def main (args : List String) : IO UInt32 := do
  let paths :=
    match request args with
    | .invocation i => inputPaths i
    | _ => []
  let outcome := run (← realMachine paths) args
  IO.print outcome.output
  IO.eprint outcome.errors
  pure (UInt32.ofNat outcome.status)
