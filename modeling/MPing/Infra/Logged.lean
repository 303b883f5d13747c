/-!
# Computations that write a log and may fail

`Logged ω ε α` is a computation of an `α` that appends entries of type `ω` to a log and may stop
with an error. The log written before an error stays: a program that fails half-way has still
shown what it had shown.
-/

namespace Infra

@[ext] structure Logged (ω ε α : Type) where
  log : List ω
  result : Except ε α

namespace Logged

variable {ω ε α β : Type}

protected def pure (a : α) : Logged ω ε α := ⟨[], .ok a⟩

protected def bind (x : Logged ω ε α) (f : α → Logged ω ε β) : Logged ω ε β :=
  match x.result with
  | .ok a => ⟨x.log ++ (f a).log, (f a).result⟩
  | .error e => ⟨x.log, .error e⟩

instance : Monad (Logged ω ε) where
  pure := Logged.pure
  bind := Logged.bind

/-- Appends one entry. -/
def tell (w : ω) : Logged ω ε Unit := ⟨[w], .ok ()⟩

/-- A computation without log entries. -/
def ofExcept (x : Except ε α) : Logged ω ε α := ⟨[], x⟩

theorem bind_def (x : Logged ω ε α) (f : α → Logged ω ε β) : x >>= f = x.bind f := rfl

instance : LawfulMonad (Logged ω ε) := LawfulMonad.mk' (Logged ω ε)
  (by
    intro α x
    obtain ⟨log, result⟩ := x
    cases result <;> simp [Functor.map, Logged.bind, Logged.pure])
  (by intro α β x f; simp [bind_def, pure, Logged.bind, Logged.pure])
  (by
    intro α β γ x f g
    obtain ⟨log, result⟩ := x
    cases result with
    | error e => rfl
    | ok a =>
      simp only [bind_def, Logged.bind]
      split <;> simp [*])

@[simp] theorem log_pure (a : α) : (pure a : Logged ω ε α).log = [] := rfl

@[simp] theorem result_pure (a : α) : (pure a : Logged ω ε α).result = .ok a := rfl

@[simp] theorem log_tell_bind (w : ω) (f : Unit → Logged ω ε β) :
    (tell w >>= f).log = w :: (f ()).log := rfl

@[simp] theorem result_tell_bind (w : ω) (f : Unit → Logged ω ε β) :
    (tell w >>= f).result = (f ()).result := rfl

@[simp] theorem log_tell (w : ω) : (tell w : Logged ω ε Unit).log = [w] := rfl

@[simp] theorem result_tell (w : ω) : (tell w : Logged ω ε Unit).result = .ok () := rfl

theorem ofExcept_ok (a : α) : (ofExcept (.ok a) : Logged ω ε α) = pure a := rfl

@[simp] theorem log_ofExcept (x : Except ε α) : (ofExcept x : Logged ω ε α).log = [] := rfl

@[simp] theorem result_ofExcept (x : Except ε α) : (ofExcept x : Logged ω ε α).result = x := rfl

/-- After a computation that succeeded, the logs are appended. -/
theorem log_bind_of_ok {x : Logged ω ε α} {a : α} (h : x.result = .ok a)
    (f : α → Logged ω ε β) : (x >>= f).log = x.log ++ (f a).log := by
  simp only [bind_def, Logged.bind, h]

theorem result_bind_of_ok {x : Logged ω ε α} {a : α} (h : x.result = .ok a)
    (f : α → Logged ω ε β) : (x >>= f).result = (f a).result := by
  simp only [bind_def, Logged.bind, h]

end Logged

end Infra
