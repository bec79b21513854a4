import HostFlash.Backend
import HostFlash.CommandLine.Arguments
import HostFlash.CommandLine.Help
import HostFlash.FactoryReset
import HostFlash.Firmware.Manager

/-! # The commands

What each command does with a flash tool, and what it prints. A report is the printed text, and
the message of the failure if the command failed. A command that destroys data touches neither
the tool nor the mediator unless it is confirmed.
-/

namespace HostFlash.CommandLine

open Firmware (Activation Manager Registry ScanOutcome Version)

/-- What a command prints, and how it failed. -/
structure Report where
  output : String
  failure : Option String
deriving Repr, DecidableEq

namespace Report

variable {δ : Type}

/-- A success with these lines. -/
def ofLines (lines : List String) : Report := ⟨joinLines lines, none⟩

/-- A failure that prints nothing. -/
def failed (message : String) : Report := ⟨"", some message⟩

/-- The line of the components, unless there are none. -/
def componentLines (components : String) : List String :=
  if components = "" then [] else ["Extended version: " ++ components]

/-- The lines about the text of a version partition. -/
def versionLines (partition text : String) : List String :=
  let v := Version.parse text
  if v.version = "" then [partition ++ " partition is blank"]
  else
    ["Raw:"] ++ (Text.lines text.toList).map (fun line => "  " ++ String.ofList line) ++
      ["Version:          " ++ v.version] ++ componentLines v.components ++
      ["Id:               " ++ v.id]

/-- Reads the version partition and shows what it says. -/
def version (tool : Flasher δ) (partition : String) : Action (World δ) Report := do
  match ← Firmware.versionText tool partition with
  | .error failure => pure (failed failure.message)
  | .ok text => pure (ofLines (versionLines partition text))

/-- The lines about an activation. -/
def activationLines (a : Activation) : List String :=
  ["Object:           " ++ a.path, "Version:          " ++ a.version] ++
    componentLines a.components ++
    ["Purpose:          " ++ a.purpose.text, "Activation:       " ++ a.state.text] ++
    (a.priority.toList.map fun n => "Priority:         " ++ toString n) ++
    a.associations.map fun e =>
      "Association:      " ++ e.forward ++ " / " ++ e.reverse ++ " -> " ++ e.endpoint

/-- The lines about everything published, after an image was published under an id. -/
def registryLines (r : Registry) (id : String) : List String :=
  (match r.activations.get? id with
    | some a => activationLines a
    | none => []) ++
    r.associations.entries.map (fun e =>
      "Software root:    " ++ e.forward ++ " -> " ++ e.endpoint) ++
    ["Functional id:    " ++ r.functional.getD "none"]

/-- The report on a scan of the flash. -/
def ofScan (r : Registry) : ScanOutcome → Report
  | .read (.published id _) => ofLines (registryLines r id)
  | .read .blank => ofLines ["No host firmware found (blank or corrupted PNOR)"]
  | .readFailed failure => failed failure.message

/-- Scans the flash and shows what was published. -/
def status (tool : Flasher δ) (settings : Settings) : Action (World δ) Report := fun w =>
  match Manager.scan tool settings.partitions.version ⟨.empty settings.paths, w⟩ with
  | (.returned outcome, m) => (.returned (ofScan m.registry outcome), m.world)
  | (.unwound reason, m) => (.unwound reason, m.world)

/-- The line for having nothing to clear. -/
def nothingLine : String := "No partitions flagged for reprovisioning"

/-- Two columns of a table. -/
def row (name mode : String) : String := Text.padRight 16 name ++ " " ++ Text.padRight 10 mode

/-- The lines about candidates. -/
def candidateLines (candidates : List Candidate) : List String :=
  if candidates = [] then [nothingLine]
  else
    [row "Partition" "Clear", String.ofList (List.replicate 27 '-')] ++
      candidates.map fun c => row c.name c.clearKind.text

/-- Shows the partitions that a factory reset would clear. -/
def partitions (tool : Flasher δ) : Action (World δ) Report := do
  let candidates ← Listing.query tool
  pure (ofLines (candidateLines candidates))

/-- The line about an outcome. -/
def outcomeLine (o : ClearOutcome) : String :=
  "  " ++ Text.padRight 16 o.name ++
    match o.result with
    | .ok () => " cleared (" ++ o.mode.text ++ ")"
    | .error failure => " FAILED: " ++ failure.message

/-- The lines about a factory reset. -/
def summaryLines (r : ResetSummary) : List String :=
  match r.outcomes with
  | [] => [nothingLine]
  | outcomes =>
      outcomes.map outcomeLine ++
        [toString r.cleared.length ++ " cleared, " ++ toString r.failed.length ++ " failed"]

/-- The report on a factory reset. -/
def ofReset (r : ResetSummary) : Report :=
  ⟨joinLines (summaryLines r),
    if r.isComplete then none
    else some (toString r.failed.length ++ " partition(s) could not be cleared")⟩

/-- The report on the clearing of one partition. -/
def ofOutcome (o : ClearOutcome) : Report :=
  ⟨joinLines [outcomeLine o],
    match o.result with
    | .ok () => none
    | .error failure => some failure.message⟩

/-- Runs a command that destroys data, if it is confirmed. -/
def ifConfirmed (c : Command) (confirmed : Bool) (m : Action (World δ) Report) :
    Action (World δ) Report :=
  if confirmed then m
  else pure (failed (c.word ++ " destroys partition contents, pass --yes to proceed"))

/-- Clears every candidate. -/
def factoryReset (tool : Flasher δ) (mediator : Mediator δ) (confirmed : Bool) :
    Action (World δ) Report :=
  ifConfirmed .factoryReset confirmed do
    let report ← FactoryReset.run tool mediator
    pure (ofReset report)

/-- Clears the guard records. -/
def clearGuard (tool : Flasher δ) (mediator : Mediator δ) (guard : String)
    (confirmed : Bool) : Action (World δ) Report :=
  ifConfirmed .clearGuard confirmed do
    let outcome ← FactoryReset.clearGuard tool mediator guard
    pure (ofOutcome outcome)

/-- Shows the backends. -/
def listTools : Report :=
  ofLines (["Supported flash tools:", ""] ++
    Backend.available.map fun (name, text) => "  " ++ Text.padRight 9 name ++ " - " ++ text)

/-- Runs a command. -/
def run (tool : Flasher δ) (mediator : Mediator δ) (settings : Settings)
    (c : Command) (confirmed : Bool) : Action (World δ) Report :=
  match c with
  | .version => version tool settings.partitions.version
  | .status => status tool settings
  | .partitions => partitions tool
  | .factoryReset => factoryReset tool mediator confirmed
  | .clearGuard => clearGuard tool mediator settings.partitions.guard confirmed
  | .listTools => pure listTools

end Report

end HostFlash.CommandLine
