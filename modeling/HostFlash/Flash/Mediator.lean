import HostFlash.World

/-! # The access mediator

The host and its controller share the flash through a mediation service. While partitions are
cleared the service is suspended. `whileSuspended` resumes it behind the body in every case, also
when the body unwinds.
-/

namespace HostFlash

/-- The two signals to the mediation service. Neither reports back. -/
structure Mediator (δ : Type) where
  suspend : Action (World δ) Unit
  resume : Action (World δ) Unit

namespace Mediator

variable {δ α : Type}

/-- Runs the body between a suspend and a resume. -/
def whileSuspended (mediator : Mediator δ) (body : Action (World δ) α) :
    Action (World δ) α := do
  mediator.suspend
  body.ensuring mediator.resume

end Mediator

end HostFlash
