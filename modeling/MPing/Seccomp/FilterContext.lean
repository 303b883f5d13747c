import MPing.Infra.Stateful
import MPing.Net.Asio

/-!
# `SeccompFilterContext`

The wrapper around libseccomp (`seccomp.hpp`, `seccomp.cpp`), without its `kill_…` groups.

libseccomp and the kernel are outside the program. They are a parameter (`Libseccomp`): the code
each call returns is free, and what the calls do is a list of assumptions.

* A rule is accepted exactly if the call that adds it returns zero. `Filter.rules` are the accepted
  rules; the library itself may keep fewer of them. Of two rules for one syscall with different
  actions it takes the second with code zero too and drops it. So nothing is assumed about a syscall
  for which rules with different actions were accepted.
* `actionFor` is about the syscalls of the architecture the program is built for, by their numbers
  there. A filter has no rules for other architectures and treats their syscalls in its own way.
* What `seccomp_load` returned zero for is in force from then on.
-/

namespace MPing.Seccomp

open Infra Infra.Stateful

/-! ## libseccomp -/

/-- `SCMP_ACT_KILL`. -/
def scmpActKill : UInt32 := 0x00000000

/-- `SCMP_ACT_ALLOW`. -/
def scmpActAllow : UInt32 := 0x7FFF0000

structure Rule where
  action : UInt32
  syscall : Int
deriving DecidableEq, Repr

/-- What a `scmp_filter_ctx` was told: the default action and the accepted rules. -/
structure Filter where
  defAction : UInt32
  rules : List Rule
deriving DecidableEq, Repr

/-- How the library answers, and what its answers mean. -/
structure Libseccomp where
  /-- Whether `seccomp_init` returns a context. -/
  initializes : Bool
  /-- What the call after `n` others on the context returns. -/
  returnCode : Nat → Int
  /-- What `errno` holds after `n` calls on the context. -/
  errno : Nat → ErrorCode
  /-- The filter after a call of `seccomp_rule_add` that returned `code`. -/
  ruleAdd : (code : Int) → Rule → Filter → Filter
  /-- The filter after a call of `seccomp_reset` that returned `code`; nothing is assumed of it. -/
  reset : (code : Int) → (defAction : UInt32) → Filter → Filter
  /-- What the kernel does with a syscall of the own architecture under a filter that was loaded. -/
  actionFor : Filter → (syscall : Int) → UInt32
  ruleAdd_accepted : ∀ r f, ruleAdd 0 r f = { f with rules := f.rules ++ [r] }
  ruleAdd_refused : ∀ code r f, code ≠ 0 → ruleAdd code r f = f
  /-- A syscall without a rule falls to the default action. -/
  actionFor_default : ∀ f syscall, (∀ r ∈ f.rules, r.syscall ≠ syscall) →
    actionFor f syscall = f.defAction
  /-- Rules that agree on a syscall are followed. -/
  actionFor_rules : ∀ f syscall action, (∃ r ∈ f.rules, r.syscall = syscall) →
    (∀ r ∈ f.rules, r.syscall = syscall → r.action = action) → actionFor f syscall = action

/-- Every call succeeds. -/
structure Libseccomp.Succeeds (lib : Libseccomp) : Prop where
  initializes : lib.initializes = true
  returnCode : ∀ n, lib.returnCode n = 0

/-! ## The class -/

/-- The object, and what its calls have done outside of it. -/
structure SeccompFilterContext where
  /-- `none` is `nullptr`. -/
  ctx : Option Filter
  /-- The calls of libseccomp so far. -/
  calls : Nat
  /-- The filters that were loaded, the last one first. -/
  loaded : List Filter
deriving DecidableEq, Repr

namespace SeccompFilterContext

abbrev Action := Stateful SeccompFilterContext Exception

variable (lib : Libseccomp)

/-- The constructor. -/
def new (defAction : UInt32) : Except Exception SeccompFilterContext :=
  if lib.initializes then .ok { ctx := some ⟨defAction, []⟩, calls := 0, loaded := [] }
  else .error (.systemError (lib.errno 0) "Failed to initialize seccomp.")

def isUseable (s : SeccompFilterContext) : Bool := s.ctx.isSome

/-- `seccomp_rule_add` on the object's own `ctx`. -/
def seccompRuleAdd (action : UInt32) (syscall : Int) : Action Int := do
  let s ← get
  let code := lib.returnCode s.calls
  modify fun s =>
    { s with
      calls := s.calls + 1
      ctx := s.ctx.map (lib.ruleAdd code ⟨action, syscall⟩) }
  return code

def seccompLoad : Action Int := do
  let s ← get
  let code := lib.returnCode s.calls
  modify fun s =>
    { s with
      calls := s.calls + 1
      loaded := if code = 0 then s.ctx.toList ++ s.loaded else s.loaded }
  return code

def seccompReset (defAction : UInt32) : Action Int := do
  let s ← get
  let code := lib.returnCode s.calls
  modify fun s =>
    { s with
      calls := s.calls + 1
      ctx := s.ctx.map (lib.reset code defAction) }
  return code

/-- The check every member function opens with. -/
def requireUseable : Action Unit := do
  if !(← get).isUseable then
    throw (.runtimeError "seccomp filter context not useable.")

/-- The code of `seccomp_rule_add` is dropped. -/
def ruleAdd (action : UInt32) (syscall : Int) : Action Unit := do
  requireUseable
  let _ ← seccompRuleAdd lib action syscall

def allow (syscall : Int) : Action Unit := ruleAdd lib scmpActAllow syscall

def kill (syscall : Int) : Action Unit := ruleAdd lib scmpActKill syscall

def load : Action Unit := do
  requireUseable
  let code ← seccompLoad lib
  if code ≠ 0 then
    throw (.systemError (lib.errno (← get).calls) "Failed to load seccomp filter.")

def reset (defAction : UInt32) : Action Unit := do
  requireUseable
  let code ← seccompReset lib defAction
  if code ≠ 0 then
    throw (.systemError (lib.errno (← get).calls) "Failed to reset seccomp filter.")

def release : Action Unit := do
  requireUseable
  modify fun s => { s with ctx := none }

/-- The kernel kills the process on this syscall: one filter that says so is enough. -/
def Kills (s : SeccompFilterContext) (syscall : Int) : Prop :=
  ∃ f ∈ s.loaded, lib.actionFor f syscall = scmpActKill

end SeccompFilterContext

end MPing.Seccomp
