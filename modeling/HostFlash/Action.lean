/-! # Actions

An action runs on a state and either returns a value or unwinds. What it did to the state before
it unwound stays done. `ensuring` runs a cleanup behind a body however the body ends, and `on`
runs an action on a part of a larger state.
-/

namespace HostFlash

/-- How an action ends. -/
inductive Ending (α : Type) where
  | returned (value : α)
  | unwound (reason : String)
deriving Repr, DecidableEq

/-- A computation on a state `σ` that returns an `α` or unwinds. -/
def Action (σ α : Type) : Type :=
  σ → Ending α × σ

namespace Action

variable {σ τ α β : Type}

/-- Returns at once. -/
protected def pure (a : α) : Action σ α := fun s => (.returned a, s)

/-- Goes on with the value of the first action, unless that unwinds. -/
protected def bind (m : Action σ α) (f : α → Action σ β) : Action σ β := fun s =>
  match m s with
  | (.returned a, s') => f a s'
  | (.unwound reason, s') => (.unwound reason, s')

instance : Monad (Action σ) where
  pure := Action.pure
  bind := Action.bind

/-- The state. -/
def get : Action σ σ := fun s => (.returned s, s)

/-- Changes the state. -/
def modify (f : σ → σ) : Action σ Unit := fun s => (.returned (), f s)

/-- Leaves the running action, and every action around it up to the one that catches. -/
def unwind (reason : String) : Action σ α := fun s => (.unwound reason, s)

/-- Runs the cleanup behind the body, whether that returns or unwinds. The ending is the body's,
unless the cleanup itself unwinds. -/
def ensuring (body : Action σ α) (cleanup : Action σ Unit) : Action σ α := fun s =>
  match body s with
  | (ending, s') =>
      match cleanup s' with
      | (.returned (), s'') => (ending, s'')
      | (.unwound reason, s'') => (.unwound reason, s'')

/-- Runs an action on the part of the state that `part` reads and `put` writes. -/
def on (part : τ → σ) (put : σ → τ → τ) (m : Action σ α) : Action τ α := fun t =>
  match m (part t) with
  | (ending, s) => (ending, put s t)

@[simp] theorem pure_apply (a : α) (s : σ) : (pure a : Action σ α) s = (.returned a, s) := rfl

theorem bind_apply (m : Action σ α) (f : α → Action σ β) (s : σ) :
    (m >>= f) s = match m s with
      | (.returned a, s') => f a s'
      | (.unwound reason, s') => (.unwound reason, s') := rfl

theorem bind_returned {m : Action σ α} {s s' : σ} {a : α} (h : m s = (.returned a, s'))
    (f : α → Action σ β) : (m >>= f) s = f a s' := by
  rw [bind_apply, h]

theorem bind_unwound {m : Action σ α} {s s' : σ} {reason : String}
    (h : m s = (.unwound reason, s')) (f : α → Action σ β) :
    (m >>= f) s = (.unwound reason, s') := by
  rw [bind_apply, h]

theorem map_returned {m : Action σ α} {s s' : σ} {a : α} (h : m s = (.returned a, s'))
    (f : α → β) : (f <$> m) s = (.returned (f a), s') :=
  bind_returned h fun a => pure (f a)

theorem map_unwound {m : Action σ α} {s s' : σ} {reason : String}
    (h : m s = (.unwound reason, s')) (f : α → β) : (f <$> m) s = (.unwound reason, s') :=
  bind_unwound h fun a => pure (f a)

@[simp] theorem get_apply (s : σ) : (get : Action σ σ) s = (.returned s, s) := rfl

@[simp] theorem modify_apply (f : σ → σ) (s : σ) : modify f s = (.returned (), f s) := rfl

@[simp] theorem unwind_apply (reason : String) (s : σ) :
    (unwind reason : Action σ α) s = (.unwound reason, s) := rfl

/-- A cleanup that returns leaves the ending of the body as it is. -/
theorem ensuring_apply {body : Action σ α} {cleanup : Action σ Unit} {s s' s'' : σ}
    {ending : Ending α} (hbody : body s = (ending, s'))
    (hcleanup : cleanup s' = (.returned (), s'')) :
    body.ensuring cleanup s = (ending, s'') := by
  simp only [ensuring, hbody, hcleanup]

@[simp] theorem on_apply (part : τ → σ) (put : σ → τ → τ) (m : Action σ α) (t : τ) :
    m.on part put t = ((m (part t)).1, put (m (part t)).2 t) := rfl

/-- Mapping the identity over an action changes nothing. -/
protected theorem id_map (m : Action σ α) : id <$> m = m := by
  funext s
  show Action.bind m (fun a => Action.pure a) s = m s
  unfold Action.bind
  cases m s with
  | mk ending s' => cases ending <;> rfl

/-- The grouping of three actions in a row does not matter. -/
protected theorem bind_assoc {γ : Type} (m : Action σ α) (f : α → Action σ β)
    (g : β → Action σ γ) : m >>= f >>= g = m >>= fun a => f a >>= g := by
  funext s
  show Action.bind (Action.bind m f) g s = Action.bind m (fun a => Action.bind (f a) g) s
  unfold Action.bind
  cases m s with
  | mk ending s' => cases ending <;> rfl

instance : LawfulMonad (Action σ) :=
  LawfulMonad.mk' _ Action.id_map (fun _ _ => rfl) Action.bind_assoc

end Action

end HostFlash
