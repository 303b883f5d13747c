import MPing.Infra.Stateful

/-!
# Checklists

A program that calls the outside, looks at the answer and stops with an error if it does not like
it. Such a step is a `Check`: its calls, whether the answer was the right one, and the error. The
calls that were made stay in a journal, the last one at the end, also after an error.

A list of checks stops at the first that fails (`exec_performAll_of_failed`), and there is one
unless all of them pass (`passed_or_first_failed`).
-/

namespace Infra

open Stateful

/-- Computations that keep a journal of calls of type `κ`. -/
abbrev Journal (κ ε : Type) := Stateful (List κ) ε

/-- A step with an answer that decides whether to go on. -/
structure Check (κ ε : Type) where
  /-- The calls of the step; the last one gets the answer. -/
  calls : List κ
  passed : Bool
  error : ε

namespace Check

variable {κ ε : Type}

def perform (c : Check κ ε) : Journal κ ε Unit := do
  modify (· ++ c.calls)
  if !c.passed then
    throw c.error

/-- One check after the other. -/
def performAll (cs : List (Check κ ε)) : Journal κ ε Unit := cs.forM perform

@[simp] theorem performAll_nil : performAll ([] : List (Check κ ε)) = pure () := rfl

@[simp] theorem performAll_cons (c : Check κ ε) (cs : List (Check κ ε)) :
    performAll (c :: cs) = c.perform >>= fun _ => performAll cs := rfl

theorem performAll_append (as bs : List (Check κ ε)) :
    performAll (as ++ bs) = performAll as >>= fun _ => performAll bs := by
  induction as with
  | nil => simp
  | cons c cs ih => simp [ih]

variable {c : Check κ ε} (made : List κ)

theorem exec_perform_of_passed (h : c.passed = true) :
    exec c.perform made = (.ok (), made ++ c.calls) := by
  simp [perform, h]

theorem exec_perform_of_failed (h : c.passed = false) :
    exec c.perform made = (.error c.error, made ++ c.calls) := by
  simp [perform, exec_bind, h, exec_throw]

variable {cs before : List (Check κ ε)}

/-- Checks that all pass. -/
theorem exec_performAll_of_passed (h : ∀ c ∈ cs, c.passed = true) :
    exec (performAll cs) made = (.ok (), made ++ cs.flatMap calls) := by
  induction cs generalizing made with
  | nil => simp
  | cons c cs ih =>
    rw [List.forall_mem_cons] at h
    rw [performAll_cons, exec_bind_of_ok (exec_perform_of_passed made h.1), ih _ h.2,
      List.flatMap_cons, List.append_assoc]

/-- **The first check that fails is the last one performed**, and its error is the error. -/
theorem exec_performAll_of_failed (hbefore : ∀ b ∈ before, b.passed = true)
    (h : c.passed = false) (after : List (Check κ ε)) :
    exec (performAll (before ++ c :: after)) made
      = (.error c.error, made ++ (before ++ [c]).flatMap calls) := by
  rw [performAll_append, exec_bind_of_ok (exec_performAll_of_passed made hbefore),
    performAll_cons, exec_bind, exec_perform_of_failed _ h]
  simp

/-- All checks pass, or there is a first one that fails. -/
theorem passed_or_first_failed (cs : List (Check κ ε)) :
    (∀ c ∈ cs, c.passed = true) ∨ ∃ before c after, cs = before ++ c :: after ∧
      (∀ b ∈ before, b.passed = true) ∧ c.passed = false := by
  induction cs with
  | nil => exact Or.inl (by simp)
  | cons c cs ih =>
    cases hc : c.passed with
    | false => exact Or.inr ⟨[], c, cs, rfl, by simp, hc⟩
    | true =>
      rcases ih with hall | ⟨before, d, after, rfl, hbefore, hd⟩
      · exact Or.inl (List.forall_mem_cons.mpr ⟨hc, hall⟩)
      · exact Or.inr ⟨c :: before, d, after, rfl, List.forall_mem_cons.mpr ⟨hc, hbefore⟩, hd⟩

end Check

end Infra
