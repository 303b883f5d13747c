/-!
# Computations on a state that may fail

`Stateful σ ε` is Lean's own `ExceptT ε (StateM σ)`: a computation that changes a state and may
stop with an error. The state reached before an error stays, as the objects of a C++ program keep
what a function did to them before it threw.

`exec` runs a computation; the lemmas below evaluate it statement by statement.
-/

namespace Infra

/-- Peels the first statement off a computation in `Except` that succeeded. -/
theorem except_bind_eq_ok {ε α β : Type} {x : Except ε α} {f : α → Except ε β} {b : β} :
    x >>= f = .ok b ↔ ∃ a, x = .ok a ∧ f a = .ok b := by
  cases x with
  | error e => simp [bind, Except.bind]
  | ok a => simp [bind, Except.bind]

abbrev Stateful (σ ε : Type) := ExceptT ε (StateM σ)

namespace Stateful

variable {σ ε α β : Type}

/-- The result of a computation and the state it leaves. -/
def exec (x : Stateful σ ε α) (s : σ) : Except ε α × σ := (ExceptT.run x).run s

@[simp] theorem exec_pure (a : α) (s : σ) : exec (pure a : Stateful σ ε α) s = (.ok a, s) := rfl

@[simp] theorem exec_get (s : σ) : exec (get : Stateful σ ε σ) s = (.ok s, s) := rfl

@[simp] theorem exec_modify (f : σ → σ) (s : σ) :
    exec (modify f : Stateful σ ε Unit) s = (.ok (), f s) := rfl

@[simp] theorem exec_ofExcept (x : Except ε α) (s : σ) :
    exec (ofExcept x : Stateful σ ε α) s = (x, s) := by
  cases x <;> rfl

/-- One statement after the other: an error of the first ends both. -/
theorem exec_bind (x : Stateful σ ε α) (f : α → Stateful σ ε β) (s : σ) :
    exec (x >>= f) s =
      match exec x s with
      | (.ok a, t) => exec (f a) t
      | (.error e, t) => (.error e, t) := by
  simp only [exec, ExceptT.run_bind, StateT.run_bind]
  rcases h : StateT.run (ExceptT.run x) s with ⟨_ | a, t⟩ <;> rfl

theorem exec_bind_of_ok {x : Stateful σ ε α} {s t : σ} {a : α} (h : exec x s = (.ok a, t))
    (f : α → Stateful σ ε β) : exec (x >>= f) s = exec (f a) t := by
  rw [exec_bind, h]

theorem exec_throw (e : ε) (s : σ) :
    exec (throw e : Stateful σ ε α) s = (.error e, s) := rfl

end Stateful

end Infra
