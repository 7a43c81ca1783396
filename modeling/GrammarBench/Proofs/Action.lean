import GrammarBench.Bench

/-!
# Running actions that may fail

Actions of the host, of the bench and of a command are all of one kind: they run on a state and end
with a value or with a failure, and what was done before a failure stays done. `runOn` is the run of
such an action as a function from the state to how it ends and the state after it. The lemmas here
run an action one step at a time, so that no proof about the bench opens the monad it is written in.
-/

/-- The run of an action on a state: how it ends, and the state after it. -/
def ExceptT.runOn {ε σ α : Type} (a : ExceptT ε (StateM σ) α) (s : σ) : Except ε α × σ :=
  a.run.run s

/-- The run of an action that always gives a value: the value, and the state after it. -/
def StateT.runOn {σ α : Type} (a : StateM σ α) (s : σ) : α × σ :=
  a.run s

namespace GrammarBench

section Steps

variable {ε α β : Type}

@[simp] theorem ok_bind (x : α) (f : α → Except ε β) : (Except.ok x >>= f) = f x := rfl

@[simp] theorem error_bind (e : ε) (f : α → Except ε β) :
    ((Except.error e : Except ε α) >>= f) = .error e := rfl

/-- Two steps in a row give a value exactly when both do. -/
theorem bind_eq_ok {r : Except ε α} {f : α → Except ε β} {y : β} :
    (r >>= f) = .ok y ↔ ∃ x, r = .ok x ∧ f x = .ok y := by
  cases r <;> simp

theorem map_eq_ok {r : Except ε α} {f : α → β} {y : β} (h : r.map f = .ok y) :
    ∃ x, r = .ok x ∧ y = f x := by
  cases r with
  | error e => cases h
  | ok x => exact ⟨x, rfl, (Except.ok.inj h).symm⟩

end Steps

section Run

variable {ε σ α β : Type}

/-- Of two actions in a row, the second one runs where the first one ends well. -/
theorem runOn_bind (a : ExceptT ε (StateM σ) α) (f : α → ExceptT ε (StateM σ) β) (s : σ) :
    (a >>= f).runOn s =
      match a.runOn s with
      | (.ok x, s') => (f x).runOn s'
      | (.error e, s') => (.error e, s') := by
  simp only [ExceptT.runOn, ExceptT.run_bind, StateT.run_bind]
  rcases h : a.run.run s with ⟨_ | _, s'⟩ <;> rfl

theorem runOn_bind_of_ok {a : ExceptT ε (StateM σ) α} {f : α → ExceptT ε (StateM σ) β}
    {s s' : σ} {x : α} (h : a.runOn s = (.ok x, s')) :
    (a >>= f).runOn s = (f x).runOn s' := by
  rw [runOn_bind, h]

theorem runOn_bind_of_error {a : ExceptT ε (StateM σ) α} {f : α → ExceptT ε (StateM σ) β}
    {s s' : σ} {e : ε} (h : a.runOn s = (.error e, s')) :
    (a >>= f).runOn s = (.error e, s') := by
  rw [runOn_bind, h]

/-- Two actions in a row end well exactly when both do. -/
theorem runOn_bind_eq_ok {a : ExceptT ε (StateM σ) α} {f : α → ExceptT ε (StateM σ) β}
    {s s'' : σ} {y : β} :
    (a >>= f).runOn s = (.ok y, s'') ↔
      ∃ x s', a.runOn s = (.ok x, s') ∧ (f x).runOn s' = (.ok y, s'') := by
  rw [runOn_bind]
  rcases a.runOn s with ⟨e | x, s'⟩
  · simp
  · constructor
    · intro h
      exact ⟨x, s', rfl, h⟩
    · rintro ⟨_, _, heq, h⟩
      cases heq
      exact h

/-- Two actions in a row fail when one of them does, and the second is not reached if it is the
first. -/
theorem runOn_bind_eq_error {a : ExceptT ε (StateM σ) α} {f : α → ExceptT ε (StateM σ) β}
    {s s'' : σ} {e : ε} :
    (a >>= f).runOn s = (.error e, s'') ↔
      a.runOn s = (.error e, s'')
        ∨ ∃ x s', a.runOn s = (.ok x, s') ∧ (f x).runOn s' = (.error e, s'') := by
  rw [runOn_bind]
  rcases a.runOn s with ⟨e' | x, s'⟩ <;> simp [and_assoc]

/-- How an action ends determines its run, but for the state that it leaves. -/
theorem runOn_of_fst {a : ExceptT ε (StateM σ) α} {s : σ} {r : Except ε α}
    (h : (a.runOn s).1 = r) : a.runOn s = (r, (a.runOn s).2) :=
  Prod.ext h rfl

@[simp] theorem runOn_pure (x : α) (s : σ) :
    (pure x : ExceptT ε (StateM σ) α).runOn s = (.ok x, s) := rfl

@[simp] theorem runOn_throw (e : ε) (s : σ) :
    (throw e : ExceptT ε (StateM σ) α).runOn s = (.error e, s) := rfl

@[simp] theorem runOn_get (s : σ) :
    (get : ExceptT ε (StateM σ) σ).runOn s = (.ok s, s) := rfl

@[simp] theorem runOn_set (s s' : σ) :
    (set s' : ExceptT ε (StateM σ) PUnit).runOn s = (.ok ⟨⟩, s') := rfl

@[simp] theorem runOn_modify (f : σ → σ) (s : σ) :
    (modify f : ExceptT ε (StateM σ) PUnit).runOn s = (.ok ⟨⟩, f s) := rfl

@[simp] theorem runOn_modifyThe (f : σ → σ) (s : σ) :
    (modifyThe σ f : ExceptT ε (StateM σ) PUnit).runOn s = (.ok ⟨⟩, f s) := rfl

@[simp] theorem runOn_ofExcept (r : Except ε α) (s : σ) :
    (MonadExcept.ofExcept r : ExceptT ε (StateM σ) α).runOn s = (r, s) := by
  cases r <;> rfl

/-- A handler runs where the action has failed, and only then. -/
theorem runOn_tryCatch (a : ExceptT ε (StateM σ) α) (handler : ε → ExceptT ε (StateM σ) α)
    (s : σ) :
    (tryCatch a handler).runOn s =
      match a.runOn s with
      | (.ok x, s') => (.ok x, s')
      | (.error e, s') => (handler e).runOn s' := by
  have hopen : (tryCatch a handler).runOn s =
      (match (a.runOn s).1 with
        | .ok x => (pure x : ExceptT ε (StateM σ) α)
        | .error e => handler e).runOn (a.runOn s).2 := rfl
  rw [hopen]
  rcases a.runOn s with ⟨_ | _, s'⟩ <;> rfl

/-- A result that is there already is what the action ends with. -/
@[simp] theorem runOn_liftM_except (r : Except ε α) (s : σ) :
    (liftM r : ExceptT ε (StateM σ) α).runOn s = (r, s) := by
  cases r <;> rfl

/-- An action that always gives a value ends well as part of one that may fail. -/
theorem runOn_liftM_state (a : StateM σ α) (s : σ) :
    (liftM a : ExceptT ε (StateM σ) α).runOn s = (.ok (a.runOn s).1, (a.runOn s).2) := rfl

/-- Of two actions that always give values, the second one runs on what the first one leaves. -/
theorem runOn_bind_state (a : StateM σ α) (f : α → StateM σ β) (s : σ) :
    (a >>= f).runOn s = (f (a.runOn s).1).runOn (a.runOn s).2 := rfl

end Run

namespace Bench

variable {α : Type}

/-- An action of the host runs on the host of the bench and leaves the record alone. -/
theorem runOn_liftM (a : HostAction α) (b : Bench) :
    (liftM a : BenchAction α).runOn b =
      ((a.runOn b.host).1, { b with host := (a.runOn b.host).2 }) := rfl

/-- How an action ends is a value for the next one, so the next one always runs. -/
theorem runOn_outcomeOf (a : BenchAction α) (b : Bench) :
    (outcomeOf a).runOn b = (.ok (a.runOn b).1, (a.runOn b).2) := rfl

end Bench

end GrammarBench
