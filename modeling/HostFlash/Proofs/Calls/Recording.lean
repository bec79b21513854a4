import HostFlash.FactoryReset
import HostFlash.Firmware.Manager

/-!
# Recording the calls of an action

A tool and a mediator are any actions at all, so nothing in the world tells how often they were
called. Here they are put over a device that keeps the calls beside the device they had before.
`Recording.Traces` says of an action over the recording device that it does what the plain action
does, and which calls it makes on the way to which ending. It follows the way actions are built:
there is one rule for each of `pure`, `>>=`, `ensuring` and the steps that call nobody.
-/

namespace HostFlash

/-- A call of the flash tool, with the way in which it ended, or of the mediator. -/
inductive Call where
  | run (args : List String) (ending : Ending (Except Failure ToolAnswer))
  | suspend
  | resume

/-- The ending with another value. -/
def Ending.map {α β : Type} (g : α → β) : Ending α → Ending β
  | .returned a => .returned (g a)
  | .unwound reason => .unwound reason

theorem Ending.map_eq_returned_iff {α β : Type} {g : α → β} {ending : Ending α} {b : β} :
    ending.map g = .returned b ↔ ∃ a, ending = .returned a ∧ g a = b := by
  cases ending with
  | returned a => simp [Ending.map]
  | unwound reason => simp [Ending.map]

/-- The ending of a body with a cleanup behind it. -/
def Ending.closed {α : Type} (body : Ending α) : Ending Unit → Ending α
  | .returned _ => body
  | .unwound reason => .unwound reason

theorem Action.ensuring_eq {σ α : Type} (body : Action σ α) (cleanup : Action σ Unit) (s : σ) :
    body.ensuring cleanup s =
      (Ending.closed (body s).1 (cleanup (body s).2).1, (cleanup (body s).2).2) := by
  unfold Action.ensuring
  cases body s with
  | mk ending s' =>
  dsimp only
  cases cleanup s' with
  | mk closing s'' => cases closing <;> rfl

/-- How the states of one kind are states of another with the calls made so far. -/
structure Recording (σ τ : Type) where
  forget : τ → σ
  calls : τ → List Call

namespace Recording

variable {σ τ α β : Type} {R : Recording σ τ}

/-- `M` does what `m` does, and makes calls that satisfy `P` together with its ending. -/
def Traces (R : Recording σ τ) (M : Action τ α) (m : Action σ α)
    (P : Ending α → List Call → Prop) : Prop :=
  ∀ t, m (R.forget t) = ((M t).1, R.forget (M t).2) ∧
    ∃ made, R.calls (M t).2 = R.calls t ++ made ∧ P (M t).1 made

/-- The calls of one action and then those of the next, unless the first one unwinds. -/
def andThen (P : Ending α → List Call → Prop) (Q : α → Ending β → List Call → Prop)
    (ending : Ending β) (made : List Call) : Prop :=
  (∃ reason, ending = .unwound reason ∧ P (.unwound reason) made) ∨
    ∃ a first rest, made = first ++ rest ∧ P (.returned a) first ∧ Q a ending rest

/-- No calls, and a return with a value of which `P` holds. -/
def silently (P : α → Prop) (ending : Ending α) (made : List Call) : Prop :=
  (∃ a, ending = .returned a ∧ P a) ∧ made = []

theorem Traces.mono {M : Action τ α} {m : Action σ α} {P Q : Ending α → List Call → Prop}
    (h : R.Traces M m P) (himp : ∀ ending made, P ending made → Q ending made) :
    R.Traces M m Q := by
  intro t
  obtain ⟨hrun, made, hmade, hP⟩ := h t
  exact ⟨hrun, made, hmade, himp _ _ hP⟩

theorem traces_pure {a : α} {P : α → Prop} (ha : P a) :
    R.Traces (pure a : Action τ α) (pure a) (silently P) := by
  intro t
  exact ⟨rfl, [], (List.append_nil _).symm, ⟨a, rfl, ha⟩, rfl⟩

theorem traces_unwind (reason : String) :
    R.Traces (.unwind reason : Action τ α) (.unwind reason)
      fun ending made => ending = .unwound reason ∧ made = [] := by
  intro t
  exact ⟨rfl, [], (List.append_nil _).symm, rfl, rfl⟩

theorem Traces.bind {M : Action τ α} {m : Action σ α} {F : α → Action τ β} {f : α → Action σ β}
    {P : Ending α → List Call → Prop} {Q : α → Ending β → List Call → Prop}
    (hm : R.Traces M m P) (hf : ∀ a, R.Traces (F a) (f a) (Q a)) :
    R.Traces (M >>= F) (m >>= f) (andThen P Q) := by
  intro t
  obtain ⟨hrun, first, hfirst, hP⟩ := hm t
  rw [Action.bind_apply, Action.bind_apply, hrun]
  cases hM : M t with
  | mk ending t' =>
      rw [hM] at hfirst hP
      cases ending with
      | unwound reason => exact ⟨rfl, first, hfirst, Or.inl ⟨reason, rfl, hP⟩⟩
      | returned a =>
          obtain ⟨hrest, rest, hmade, hQ⟩ := hf a t'
          refine ⟨hrest, first ++ rest, ?_, Or.inr ⟨a, first, rest, rfl, hP, hQ⟩⟩
          rw [← List.append_assoc, ← hfirst]
          exact hmade

/-- What is done silently with the value of an action keeps its calls. -/
theorem Traces.map {M : Action τ α} {m : Action σ α} {P : Ending α → List Call → Prop}
    (h : R.Traces M m P) (g : α → β) :
    R.Traces (do let a ← M; pure (g a)) (do let a ← m; pure (g a))
      fun ending made => ∃ before : Ending α, ending = before.map g ∧ P before made := by
  apply (h.bind fun a => traces_pure (P := (· = g a)) rfl).mono
  rintro ending made (⟨reason, rfl, hP⟩ | ⟨a, first, last, rfl, hP, ⟨b, rfl, rfl⟩, rfl⟩)
  · exact ⟨.unwound reason, rfl, hP⟩
  · rw [List.append_nil]
    exact ⟨.returned a, rfl, hP⟩

/-- The calls of a cleanup come behind those of the body, however that ends. -/
theorem Traces.ensuring {M : Action τ α} {m : Action σ α} {C : Action τ Unit} {c : Action σ Unit}
    {P : Ending α → List Call → Prop} {Q : Ending Unit → List Call → Prop} (hm : R.Traces M m P)
    (hc : R.Traces C c Q) :
    R.Traces (M.ensuring C) (m.ensuring c) fun ending made =>
      ∃ body cleanup first last, ending = Ending.closed body cleanup ∧ made = first ++ last ∧
        P body first ∧ Q cleanup last := by
  intro t
  obtain ⟨hrun, first, hfirst, hP⟩ := hm t
  obtain ⟨hcleanup, last, hlast, hQ⟩ := hc (M t).2
  rw [Action.ensuring_eq, Action.ensuring_eq, hrun, hcleanup]
  refine ⟨rfl, first ++ last, ?_, _, _, first, last, rfl, rfl, hP, hQ⟩
  rw [← List.append_assoc, ← hfirst]
  exact hlast

/-- An action that calls nobody can be passed over. -/
theorem Traces.afterSilent {M : Action τ α} {m : Action σ α} {F : α → Action τ β}
    {f : α → Action σ β} {P : α → Prop} {Q : Ending β → List Call → Prop}
    (hm : R.Traces M m (silently P)) (hf : ∀ a, P a → R.Traces (F a) (f a) Q) :
    R.Traces (M >>= F) (m >>= f) Q := by
  intro t
  obtain ⟨hrun, made, hmade, ⟨a, hending, hP⟩, rfl⟩ := hm t
  obtain ⟨hrest, rest, hcalls, hQ⟩ := hf a hP (M t).2
  have hM : (M >>= F) t = F a (M t).2 := Action.bind_returned (Prod.ext hending rfl) F
  rw [hM, Action.bind_returned (hrun.trans (Prod.ext hending rfl)) f]
  refine ⟨hrest, rest, ?_, hQ⟩
  rw [hcalls, hmade, List.append_nil]

end Recording

/-! ## Recording devices -/

/-- A device with the calls made so far. -/
structure Recorded (δ : Type) where
  device : δ
  calls : List Call

namespace World

variable {δ α : Type}

/-- The world without the record of the calls. -/
def forget (w : World (Recorded δ)) : World δ := ⟨w.machine, w.log, w.device.device⟩

/-- A world whose device has a record of the calls. -/
def recording : Recording (World δ) (World (Recorded δ)) where
  forget := forget
  calls w := w.device.calls

/-- The world with an empty record. -/
def recorded (w : World δ) : World (Recorded δ) := ⟨w.machine, w.log, ⟨w.device, []⟩⟩

/-- Runs an action and puts the call that it was into the record. -/
def record (m : Action (World δ) α) (call : Ending α → Call) : Action (World (Recorded δ)) α :=
  fun w =>
    ((m w.forget).1,
      { (m w.forget).2 with
        device := ⟨(m w.forget).2.device, w.device.calls ++ [call (m w.forget).1]⟩ })

theorem traces_record (m : Action (World δ) α) (call : Ending α → Call) :
    recording.Traces (record m call) m fun ending made => made = [call ending] :=
  fun _ => ⟨rfl, _, rfl, rfl⟩

theorem traces_report (lines : List LogLine) :
    (recording (δ := δ)).Traces (report lines) (report lines) (Recording.silently fun _ => True) :=
  fun _ => ⟨rfl, [], (List.append_nil _).symm, ⟨(), rfl, trivial⟩, rfl⟩

theorem traces_onMachine (f : Machine → α × Machine) :
    (recording (δ := δ)).Traces (onMachine f) (onMachine f) (Recording.silently fun _ => True) :=
  fun _ => ⟨rfl, [], (List.append_nil _).symm, ⟨_, rfl, trivial⟩, rfl⟩

end World

/-- The tool over a recording device. -/
def Flasher.recorded {δ : Type} (tool : Flasher δ) : Flasher (Recorded δ) where
  name := tool.name
  run args := World.record (tool.run args) (.run args)

/-- The mediator over a recording device. -/
def Mediator.recorded {δ : Type} (mediator : Mediator δ) : Mediator (Recorded δ) where
  suspend := World.record mediator.suspend fun _ => .suspend
  resume := World.record mediator.resume fun _ => .resume

namespace Firmware.Manager

variable {δ α : Type}

/-- The manager without the record of the calls. -/
def forget (m : Manager (Recorded δ)) : Manager δ := ⟨m.registry, m.world.forget⟩

/-- A manager in a world whose device has a record of the calls. -/
def recording : Recording (Manager δ) (Manager (Recorded δ)) where
  forget := forget
  calls m := m.world.device.calls

/-- The manager with an empty record. -/
def recorded (m : Manager δ) : Manager (Recorded δ) :=
  ⟨m.registry, ⟨m.world.machine, m.world.log, ⟨m.world.device, []⟩⟩⟩

theorem traces_onWorld {M : Action (World (Recorded δ)) α} {m : Action (World δ) α}
    {P : Ending α → List Call → Prop} (h : World.recording.Traces M m P) :
    recording.Traces (onWorld M) (onWorld m) P := by
  intro manager
  obtain ⟨hrun, made, hmade, hP⟩ := h manager.world
  refine ⟨?_, made, hmade, hP⟩
  have hworld : m manager.world.forget =
      ((M manager.world).1, (M manager.world).2.forget) := hrun
  show ((m manager.world.forget).1, Manager.mk manager.registry (m manager.world.forget).2) = _
  rw [hworld]
  rfl

theorem traces_onRegistry (f : Registry → α × Registry) :
    (recording (δ := δ)).Traces (onRegistry f) (onRegistry f)
      (Recording.silently fun _ => True) :=
  fun _ => ⟨rfl, [], (List.append_nil _).symm, ⟨_, rfl, trivial⟩, rfl⟩

end Firmware.Manager

end HostFlash
