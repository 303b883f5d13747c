import MPing.Seccomp.Blacklist

/-!
# What becomes of the rules

Every member function that adds rules does it through `rule_add`, one call of `seccomp_rule_add` for
each rule (`perform_eq`). So a sequence of calls comes to a list of requested rules, and the filter
it leaves behind holds those whose call returned zero (`exec_ruleAdds`).

`rules_kept_iff` — after a sequence of calls and a `load()` that does not throw, every requested
rule is in the loaded filter only if the library happened to accept it: `rule_add` does not look at
the code, and a refused rule is lost without a sign.
-/

namespace MPing.Seccomp

open Infra Infra.Stateful SeccompFilterContext

/-! ## Calls -/

/-- The calls that add rules. -/
inductive Call where
  | ruleAdd (action : UInt32) (syscall : Int)
  | allow (syscall : Int)
  | kill (syscall : Int)
  | group (g : KillGroup)

/-- The rules a group asks for. -/
def KillGroup.requested (g : KillGroup) (target : Target) : List Rule :=
  (g.syscalls.filter target.defines).map fun x => ⟨scmpActKill, target.scmpSys x⟩

namespace Call

def perform (lib : Libseccomp) (target : Target) : Call → Action Unit
  | .ruleAdd action syscall => SeccompFilterContext.ruleAdd lib action syscall
  | .allow syscall => SeccompFilterContext.allow lib syscall
  | .kill syscall => SeccompFilterContext.kill lib syscall
  | .group g => g.perform lib target

/-- The (action, syscall) pairs a call asks for. -/
def requested (target : Target) : Call → List Rule
  | .ruleAdd action syscall => [⟨action, syscall⟩]
  | .allow syscall => [⟨scmpActAllow, syscall⟩]
  | .kill syscall => [⟨scmpActKill, syscall⟩]
  | .group g => g.requested target

end Call

/-- The rules a sequence of calls asks for, one for each call of `seccomp_rule_add`. -/
def requestedRules (target : Target) (calls : List Call) : List Rule :=
  calls.flatMap (·.requested target)

/-- Adds rules one after the other. -/
def ruleAdds (lib : Libseccomp) (rules : List Rule) : Action Unit :=
  rules.forM fun r => ruleAdd lib r.action r.syscall

section Perform

variable (lib : Libseccomp) (target : Target)

@[simp] theorem ruleAdds_nil : ruleAdds lib [] = pure () := rfl

@[simp] theorem ruleAdds_cons (r : Rule) (rs : List Rule) :
    ruleAdds lib (r :: rs) = ruleAdd lib r.action r.syscall >>= fun _ => ruleAdds lib rs := rfl

theorem ruleAdds_append (as bs : List Rule) :
    ruleAdds lib (as ++ bs) = ruleAdds lib as >>= fun _ => ruleAdds lib bs := by
  induction as with
  | nil => simp
  | cons r rs ih => simp [ih]

/-- A group adds a rule for each syscall the target knows. -/
theorem perform_group (g : KillGroup) :
    g.perform lib target = ruleAdds lib (g.requested target) := by
  obtain ⟨syscalls⟩ := g
  induction syscalls with
  | nil => rfl
  | cons x xs ih =>
    simp only [KillGroup.perform, KillGroup.requested, List.forM_eq_forM, List.forM_cons] at ih ⊢
    rw [ih]
    by_cases hx : target.defines x
    · simp [hx, kill]
    · simp [hx]

/-- **Every call is a sequence of `rule_add`s.** -/
theorem perform_eq (c : Call) : c.perform lib target = ruleAdds lib (c.requested target) := by
  cases c with
  | ruleAdd action syscall => simp [Call.perform, Call.requested]
  | allow syscall => simp [Call.perform, Call.requested, allow]
  | kill syscall => simp [Call.perform, Call.requested, kill]
  | group g => exact perform_group lib target g

theorem performs_eq (calls : List Call) :
    calls.forM (·.perform lib target) = ruleAdds lib (requestedRules target calls) := by
  induction calls with
  | nil => rfl
  | cons c cs ih =>
    rw [requestedRules, List.flatMap_cons, ruleAdds_append, ← perform_eq]
    simp only [List.forM_eq_forM, List.forM_cons] at ih ⊢
    rw [ih, requestedRules]

end Perform

/-! ## Which rules are accepted -/

/-- Those of `rules` whose call returns zero, when `n` calls were made before. -/
def accepted (lib : Libseccomp) : Nat → List Rule → List Rule
  | _, [] => []
  | n, r :: rs =>
    (if lib.returnCode n = 0 then [r] else []) ++ accepted lib (n + 1) rs

theorem mem_accepted {lib : Libseccomp} {r : Rule} : ∀ {rules : List Rule} {n : Nat},
    r ∈ accepted lib n rules ↔ ∃ i, rules[i]? = some r ∧ lib.returnCode (n + i) = 0
  | [], n => by simp [accepted]
  | r' :: rs, n => by
    rw [accepted, List.mem_append, mem_accepted]
    constructor
    · rintro (hmem | ⟨i, hi, hcode⟩)
      · refine ⟨0, ?_, ?_⟩ <;> split at hmem <;> simp_all
      · exact ⟨i + 1, by simpa using hi, by rwa [← Nat.add_assoc, Nat.add_right_comm]⟩
    · rintro ⟨i, hi, hcode⟩
      cases i with
      | zero =>
        rw [Nat.add_zero] at hcode
        rw [if_pos hcode]
        exact Or.inl (by simpa using hi.symm)
      | succ i =>
        refine Or.inr ⟨i, by simpa using hi, ?_⟩
        rwa [Nat.add_assoc, Nat.add_comm 1 i]

theorem accepted_of_succeeds {lib : Libseccomp} (h : lib.Succeeds) (n : Nat) (rules : List Rule) :
    accepted lib n rules = rules := by
  induction rules generalizing n with
  | nil => rfl
  | cons r rs ih => rw [accepted, if_pos (h.returnCode n), ih, List.singleton_append]

section Exec

variable (lib : Libseccomp) {s : SeccompFilterContext} {f : Filter}

theorem exec_requireUseable (h : s.ctx = some f) : exec requireUseable s = (.ok (), s) := by
  simp [requireUseable, exec_bind, isUseable, h]

theorem exec_ruleAdd (h : s.ctx = some f) (r : Rule) :
    exec (ruleAdd lib r.action r.syscall) s =
      (.ok (), { s with ctx := some { f with rules := f.rules ++ accepted lib s.calls [r] }
                        calls := s.calls + 1 }) := by
  simp only [ruleAdd, exec_bind, exec_requireUseable h, seccompRuleAdd, exec_get, exec_modify,
    exec_pure, accepted, List.append_nil]
  by_cases hcode : lib.returnCode s.calls = 0
  · simp [hcode, h, lib.ruleAdd_accepted]
  · simp [hcode, h, lib.ruleAdd_refused _ _ _ hcode]

/-- **A sequence of `rule_add`s never throws, and keeps what the library accepts.** -/
theorem exec_ruleAdds (h : s.ctx = some f) (rules : List Rule) :
    exec (ruleAdds lib rules) s =
      (.ok (), { s with ctx := some { f with rules := f.rules ++ accepted lib s.calls rules }
                        calls := s.calls + rules.length }) := by
  induction rules generalizing s f with
  | nil => simp [accepted, ← h]
  | cons r rs ih =>
    rw [ruleAdds_cons, exec_bind, exec_ruleAdd lib h]
    simp only
    rw [ih rfl]
    simp [accepted, Nat.add_comm, Nat.add_left_comm]

theorem exec_load (h : s.ctx = some f) :
    exec (load lib) s =
      if lib.returnCode s.calls = 0 then
        (.ok (), { s with calls := s.calls + 1, loaded := f :: s.loaded })
      else
        (.error (.systemError (lib.errno (s.calls + 1)) "Failed to load seccomp filter."),
          { s with calls := s.calls + 1 }) := by
  simp only [load, exec_bind, exec_requireUseable h, seccompLoad, exec_get, exec_modify, exec_pure,
    h]
  by_cases hcode : lib.returnCode s.calls = 0
  · simp [hcode]
  · simp [hcode, exec_bind]
    rfl

end Exec

/-! ## No rule is lost? -/

/-- A sequence of calls followed by `load()`. -/
def setUp (lib : Libseccomp) (target : Target) (calls : List Call) : Action Unit := do
  calls.forM (·.perform lib target)
  load lib

/--
If no call throws, the library has accepted every requested rule and the filter that was loaded has
it.
-/
def KeepsRules (lib : Libseccomp) (target : Target) (s : SeccompFilterContext)
    (calls : List Call) : Prop :=
  ∀ t, exec (setUp lib target calls) s = (.ok (), t) →
    ∃ f, t.ctx = some f ∧ t.loaded = f :: s.loaded ∧
      ∀ r ∈ requestedRules target calls, r ∈ f.rules

/-- What a setup comes to: only the code of `seccomp_load` decides whether it throws. -/
theorem exec_setUp (lib : Libseccomp) (target : Target) {s : SeccompFilterContext} {f : Filter}
    (h : s.ctx = some f) (calls : List Call) :
    exec (setUp lib target calls) s =
      let rules := requestedRules target calls
      let f' := { f with rules := f.rules ++ accepted lib s.calls rules }
      if lib.returnCode (s.calls + rules.length) = 0 then
        (.ok (), { ctx := some f', calls := s.calls + rules.length + 1, loaded := f' :: s.loaded })
      else
        (.error (.systemError (lib.errno (s.calls + rules.length + 1))
            "Failed to load seccomp filter."),
          { s with ctx := some f', calls := s.calls + rules.length + 1 }) := by
  rw [setUp, performs_eq, exec_bind, exec_ruleAdds lib h]
  exact exec_load lib rfl

/--
**When no rule is lost.**

`load()` and `reset()` check the code of the library, `rule_add` does not. So unless `load()`
throws, it depends on the library alone: each requested rule was there before, or one of the calls
for it returned zero.
-/
theorem rules_kept_iff (lib : Libseccomp) (target : Target) {s : SeccompFilterContext} {f : Filter}
    (h : s.ctx = some f) (calls : List Call) :
    KeepsRules lib target s calls ↔
      lib.returnCode (s.calls + (requestedRules target calls).length) ≠ 0 ∨
        ∀ r ∈ requestedRules target calls, r ∈ f.rules ∨
          ∃ i, (requestedRules target calls)[i]? = some r ∧ lib.returnCode (s.calls + i) = 0 := by
  have hexec := exec_setUp lib target h calls
  by_cases hload : lib.returnCode (s.calls + (requestedRules target calls).length) = 0
  · rw [or_iff_right (not_not_intro hload)]
    simp only [hload, if_true] at hexec
    constructor
    · intro hkeeps r hr
      obtain ⟨g, hctx, -, hall⟩ := hkeeps _ hexec
      obtain rfl := Option.some.inj hctx
      rcases List.mem_append.mp (hall r hr) with hold | hnew
      · exact Or.inl hold
      · exact Or.inr (mem_accepted.mp hnew)
    · intro hcodes t ht
      rw [hexec] at ht
      obtain rfl := (Prod.mk.inj ht).2
      refine ⟨_, rfl, rfl, ?_⟩
      intro r hr
      rcases hcodes r hr with hold | hnew
      · exact List.mem_append_left _ hold
      · exact List.mem_append_right _ (mem_accepted.mpr hnew)
  · refine iff_of_true ?_ (Or.inl hload)
    intro t ht
    rw [hexec] at ht
    simp only [hload, if_false] at ht
    cases (Prod.mk.inj ht).1

/-- A library with these codes, which keeps the first of several rules for a syscall. -/
def Libseccomp.ofCodes (returnCode : Nat → Int) : Libseccomp where
  initializes := true
  returnCode := returnCode
  errno := fun _ => ⟨0⟩
  ruleAdd code r f := if code = 0 then { f with rules := f.rules ++ [r] } else f
  reset code defAction f := if code = 0 then ⟨defAction, []⟩ else f
  actionFor f syscall := ((f.rules.find? (·.syscall = syscall)).map Rule.action).getD f.defAction
  ruleAdd_accepted _ _ := if_pos rfl
  ruleAdd_refused _ _ _ h := if_neg h
  actionFor_default f syscall h := by
    rw [List.find?_eq_none.mpr fun r hr => by simpa using h r hr]
    rfl
  actionFor_rules f syscall action hex hall := by
    obtain ⟨r, hr, hsyscall⟩ := hex
    cases hfind : f.rules.find? (·.syscall = syscall) with
    | none => exact absurd hsyscall (by simpa using List.find?_eq_none.mp hfind r hr)
    | some r' =>
      exact hall r' (List.mem_of_find?_eq_some hfind) (by simpa using List.find?_some hfind)

/-- A library that accepts everything. -/
def Libseccomp.sample : Libseccomp := .ofCodes fun _ => 0

/-- With a library that accepts everything the two groups are kept. -/
theorem rules_kept_sample :
    KeepsRules .sample .sample { ctx := some ⟨scmpActAllow, []⟩, calls := 0, loaded := [] }
      [.group killMount, .kill 1, .group killSwap] := by
  refine (rules_kept_iff .sample .sample rfl _).mpr (Or.inr ?_)
  intro r hr
  obtain ⟨i, hi, hget⟩ := List.mem_iff_getElem.mp hr
  exact Or.inr ⟨i, by rw [List.getElem?_eq_getElem hi, hget], rfl⟩

/-- A library that refuses the first rule with `-EINVAL` and accepts the rest. -/
def Libseccomp.refusing : Libseccomp := .ofCodes fun n => if n = 0 then -22 else 0

/-- The rule for `swapon` is refused; nothing throws, and the filter is loaded without it. -/
theorem refused_rule_lost :
    ¬KeepsRules .refusing .sample { ctx := some ⟨scmpActAllow, []⟩, calls := 0, loaded := [] }
      [.group killSwap] := by
  intro hkeeps
  obtain ⟨f, hctx, -, hall⟩ := hkeeps _ rfl
  obtain rfl := Option.some.inj hctx
  exact absurd (hall ⟨scmpActKill, Target.sample.scmpSys .swapon⟩ (by decide)) (by decide)

end MPing.Seccomp
