import MPing.Seccomp.Rules

/-!
# The life of a filter context

A `SeccompFilterContext` owns its `ctx` from the constructor to `release()`. This module follows it
through any sequence of its member functions, by a caller who goes on after an exception.

`context_life` — up to `release()` the object is useable and only the codes of `seccomp_load` and
`seccomp_reset` make it throw; from then on every member function throws and does nothing else. The
one exception is a `kill_…` group none of whose syscalls the target has: it never looks at `ctx`.
-/

namespace MPing.Seccomp

open Infra Infra.Stateful SeccompFilterContext

/-- The member functions that use the context. -/
inductive Member where
  | rules (call : Call)
  | load
  | reset (defAction : UInt32)
  | release

namespace Member

def perform (lib : Libseccomp) (target : Target) : Member → Action Unit
  | .rules call => call.perform lib target
  | .load => SeccompFilterContext.load lib
  | .reset defAction => SeccompFilterContext.reset lib defAction
  | .release => SeccompFilterContext.release

/-- How often a member function calls libseccomp with a code. `seccomp_release` has none. -/
def libraryCalls (target : Target) : Member → Nat
  | .rules call => (call.requested target).length
  | .load => 1
  | .reset _ => 1
  | .release => 0

/-- How a member function ends on a useable object when `n` calls of the library came before. -/
def outcome (lib : Libseccomp) (n : Nat) : Member → Except Exception Unit
  | .rules _ => .ok ()
  | .load =>
    if lib.returnCode n = 0 then .ok ()
    else .error (.systemError (lib.errno (n + 1)) "Failed to load seccomp filter.")
  | .reset _ =>
    if lib.returnCode n = 0 then .ok ()
    else .error (.systemError (lib.errno (n + 1)) "Failed to reset seccomp filter.")
  | .release => .ok ()

/-- How a member function ends on a null context. -/
def outcomeOnNull (target : Target) : Member → Except Exception Unit
  | .rules call =>
    if call.requested target = [] then .ok ()
    else .error (.runtimeError "seccomp filter context not useable.")
  | _ => .error (.runtimeError "seccomp filter context not useable.")

end Member

/-- One member function after the other, thrown or not: how each ended, and the object. -/
def performAll (lib : Libseccomp) (target : Target) :
    List Member → SeccompFilterContext → List (Except Exception Unit) × SeccompFilterContext
  | [], s => ([], s)
  | m :: ms, s =>
    let (outcome, t) := exec (m.perform lib target) s
    let (outcomes, u) := performAll lib target ms t
    (outcome :: outcomes, u)

/-! ## One call -/

section Exec

variable (lib : Libseccomp) (target : Target)

theorem exec_reset {s : SeccompFilterContext} {f : Filter} (h : s.ctx = some f)
    (defAction : UInt32) :
    exec (reset lib defAction) s =
      ((Member.reset defAction).outcome lib s.calls,
        { s with ctx := some (lib.reset (lib.returnCode s.calls) defAction f)
                 calls := s.calls + 1 }) := by
  simp only [reset, exec_bind, exec_requireUseable h, seccompReset, exec_get, exec_modify,
    exec_pure, h, Member.outcome]
  by_cases hcode : lib.returnCode s.calls = 0
  · simp [hcode]
  · simp [hcode, exec_bind]
    rfl

theorem exec_release {s : SeccompFilterContext} (h : s.isUseable = true) :
    exec (Member.release.perform lib target) s = (.ok (), { s with ctx := none }) := by
  obtain ⟨f, hf⟩ := Option.isSome_iff_exists.mp h
  simp only [Member.perform, release, exec_bind, exec_requireUseable hf]
  rfl

/-- **A call on a useable object.** Only `release()` takes the context away. -/
theorem exec_member {s : SeccompFilterContext} (h : s.isUseable = true) (m : Member) :
    (exec (m.perform lib target) s).1 = m.outcome lib s.calls ∧
      (exec (m.perform lib target) s).2.calls = s.calls + m.libraryCalls target ∧
      (m ≠ .release → (exec (m.perform lib target) s).2.isUseable = true) := by
  obtain ⟨f, hf⟩ := Option.isSome_iff_exists.mp h
  cases m with
  | rules call =>
    rw [Member.perform, perform_eq, exec_ruleAdds lib hf]
    exact ⟨rfl, rfl, fun _ => rfl⟩
  | load =>
    rw [Member.perform, exec_load lib hf]
    by_cases hcode : lib.returnCode s.calls = 0
    · rw [if_pos hcode]
      exact ⟨(if_pos hcode).symm, rfl, fun _ => h⟩
    · rw [if_neg hcode]
      exact ⟨(if_neg hcode).symm, rfl, fun _ => h⟩
  | reset defAction =>
    rw [Member.perform, exec_reset lib hf]
    exact ⟨rfl, rfl, fun _ => rfl⟩
  | release =>
    rw [exec_release lib target h]
    exact ⟨rfl, rfl, fun hne => absurd rfl hne⟩

theorem exec_requireUseable_of_null {s : SeccompFilterContext} (h : s.ctx = none) :
    exec requireUseable s =
      (.error (.runtimeError "seccomp filter context not useable."), s) := by
  simp only [requireUseable, exec_bind, exec_get, isUseable, h]
  rfl

/-- A call on a null context changes nothing. -/
theorem exec_member_of_null {s : SeccompFilterContext} (h : s.ctx = none) (m : Member) :
    exec (m.perform lib target) s = (m.outcomeOnNull target, s) := by
  cases m with
  | rules call =>
    rw [Member.perform, perform_eq, Member.outcomeOnNull]
    cases call.requested target with
    | nil => rfl
    | cons r rs =>
      simp only [ruleAdds_cons, ruleAdd, exec_bind, exec_requireUseable_of_null h]
      rfl
  | load =>
    simp only [Member.perform, load, exec_bind, exec_requireUseable_of_null h]
    rfl
  | reset defAction =>
    simp only [Member.perform, reset, exec_bind, exec_requireUseable_of_null h]
    rfl
  | release =>
    simp only [Member.perform, release, exec_bind, exec_requireUseable_of_null h]
    rfl

end Exec

/-! ## A whole life -/

section Life

variable (lib : Libseccomp) (target : Target)

/-- The calls of libseccomp a sequence of member functions makes. -/
def libraryCalls : List Member → Nat
  | [] => 0
  | m :: ms => m.libraryCalls target + libraryCalls ms

theorem performAll_append (as bs : List Member) (s : SeccompFilterContext) :
    performAll lib target (as ++ bs) s =
      let (outcomes, t) := performAll lib target as s
      let (outcomes', u) := performAll lib target bs t
      (outcomes ++ outcomes', u) := by
  induction as generalizing s with
  | nil => rfl
  | cons m ms ih => simp only [List.cons_append, performAll, ih]

/-- From a null context on nothing happens any more. -/
theorem performAll_of_null {s : SeccompFilterContext} (h : s.ctx = none) (ms : List Member) :
    performAll lib target ms s = (ms.map (·.outcomeOnNull target), s) := by
  induction ms with
  | nil => rfl
  | cons m ms ih => simp only [performAll, exec_member_of_null lib target h, ih, List.map_cons]

/-- Without `release()` the object stays useable, and each code is that of its own call. -/
theorem performAll_of_useable {ms : List Member} (hms : .release ∉ ms)
    {s : SeccompFilterContext} (h : s.isUseable = true) :
    (performAll lib target ms s).2.isUseable = true ∧
      (performAll lib target ms s).2.calls = s.calls + libraryCalls target ms ∧
      ∀ as m bs, ms = as ++ m :: bs → (performAll lib target ms s).1[as.length]? =
        some (m.outcome lib (s.calls + libraryCalls target as)) := by
  induction ms generalizing s with
  | nil =>
    refine ⟨h, rfl, ?_⟩
    intro as m bs hsplit
    cases as <;> cases hsplit
  | cons m ms ih =>
    rw [List.mem_cons, not_or] at hms
    obtain ⟨houtcome, hcalls, huseable⟩ := exec_member lib target h m
    obtain ⟨hlast, hsum, hall⟩ := ih hms.2 (huseable (Ne.symm hms.1))
    simp only [performAll]
    refine ⟨hlast, ?_, ?_⟩
    · rw [hsum, hcalls, libraryCalls, Nat.add_assoc]
    · intro as m' bs hsplit
      cases as with
      | nil =>
        obtain ⟨rfl, -⟩ := List.cons.inj hsplit
        exact congrArg some houtcome
      | cons a as =>
        obtain ⟨rfl, hsplit'⟩ := List.cons.inj hsplit
        have hlater := hall as m' bs hsplit'
        rw [hcalls, Nat.add_assoc] at hlater
        exact hlater

/--
**The life of a filter context**, from a useable object over any calls to `release()` and beyond.

Before `release()` a member function throws only for the code of its own `seccomp_load` or
`seccomp_reset`, and an exception does not end the life. After it every call fails the same way, the
library is not called again and the filters that were loaded stay as they are.
-/
theorem context_life {s : SeccompFilterContext} (h : s.isUseable = true)
    {before : List Member} (hbefore : .release ∉ before) (after : List Member) :
    (performAll lib target before s).2.isUseable = true ∧
      (performAll lib target before s).2.calls = s.calls + libraryCalls target before ∧
      (∀ as m bs, before = as ++ m :: bs → (performAll lib target before s).1[as.length]? =
        some (m.outcome lib (s.calls + libraryCalls target as))) ∧
      performAll lib target (before ++ .release :: after) s =
        ((performAll lib target before s).1 ++ .ok () :: after.map (·.outcomeOnNull target),
          { (performAll lib target before s).2 with ctx := none }) := by
  obtain ⟨huseable, hcalls, houtcomes⟩ := performAll_of_useable lib target hbefore h
  refine ⟨huseable, hcalls, houtcomes, ?_⟩
  rw [performAll_append]
  simp only [performAll, exec_release lib target huseable, performAll_of_null]

end Life

/-- A refused `reset()`, a `load()` and `release()`; then a group and an empty group. -/
theorem context_life_sample :
    (performAll .refusing .sample
      [.reset scmpActKill, .load, .release, .rules (.group killSwap), .rules (.group ⟨[]⟩)]
      { ctx := some ⟨scmpActAllow, []⟩, calls := 0, loaded := [] }).1 =
      [.error (.systemError ⟨0⟩ "Failed to reset seccomp filter."), .ok (), .ok (),
        .error (.runtimeError "seccomp filter context not useable."), .ok ()] := by
  have hbefore : Member.release ∉ [.reset scmpActKill, .load] := by simp
  have hlife := (context_life .refusing .sample
    (s := { ctx := some ⟨scmpActAllow, []⟩, calls := 0, loaded := [] }) rfl hbefore
    [.rules (.group killSwap), .rules (.group ⟨[]⟩)]).2.2.2
  exact (congrArg Prod.fst hlife).trans rfl

end MPing.Seccomp
