import HostFlash.Flash.Listing
import HostFlash.Flash.Mediator

/-! # Factory reset

A factory reset clears every candidate of the partition table, one after the other, while the
mediation service is suspended. A partition that fails to clear does not stop the others. The
guard records alone can be cleared in the same way.
-/

namespace HostFlash

/-- How the clearing of one partition went. -/
structure ClearOutcome where
  name : String
  mode : ClearKind
  result : Except Failure Unit

namespace ClearOutcome

/-- The partition was cleared. -/
def isOk (o : ClearOutcome) : Bool :=
  match o.result with
  | .ok () => true
  | .error _ => false

/-- The log line of an outcome. -/
def logLine (o : ClearOutcome) : LogLine :=
  match o.result with
  | .ok () =>
      ⟨.info, "Clear partition " ++ o.name ++ " successfully (" ++ o.mode.text ++ ")"⟩
  | .error failure => ⟨.error, "Failed to clear partition " ++ o.name ++ ": " ++ failure.message⟩

end ClearOutcome

/-- The outcomes of a factory reset, one for each candidate in the order of the listing. -/
structure ResetSummary where
  outcomes : List ClearOutcome

namespace ResetSummary

/-- The partitions that were cleared. -/
def cleared (r : ResetSummary) : List ClearOutcome := r.outcomes.filter (·.isOk)

/-- The partitions that failed to clear. -/
def failed (r : ResetSummary) : List ClearOutcome := r.outcomes.filter (!·.isOk)

/-- Every candidate was cleared. -/
def isComplete (r : ResetSummary) : Bool := r.outcomes.all (·.isOk)

end ResetSummary

namespace FactoryReset

variable {δ : Type} (tool : Flasher δ) (mediator : Mediator δ)

/-- Clears one partition and logs how it went. -/
def clear (name : String) (mode : ClearKind) : Action (World δ) ClearOutcome := do
  let result ← tool.clear name mode
  let outcome : ClearOutcome := ⟨name, mode, result⟩
  World.report [outcome.logLine]
  pure outcome

/-- Clears the candidates in order. -/
def clearAll : List Candidate → Action (World δ) (List ClearOutcome)
  | [] => pure []
  | c :: rest => do
      let outcome ← clear tool c.name c.clearKind
      let outcomes ← clearAll rest
      pure (outcome :: outcomes)

/-- Clears every candidate. The service is suspended even when there is nothing to clear. -/
def run : Action (World δ) ResetSummary := do
  let candidates ← Listing.query tool
  World.info ("Factory reset: " ++ toString candidates.length ++ " partition(s) to clear")
  mediator.whileSuspended do
    let outcomes ← clearAll tool candidates
    pure ⟨outcomes⟩

/-- Clears the partition of the guard records alone, keeping its error correcting codes valid. -/
def clearGuard (guard : String) : Action (World δ) ClearOutcome :=
  mediator.whileSuspended (clear tool guard .ecc)

end FactoryReset

end HostFlash
