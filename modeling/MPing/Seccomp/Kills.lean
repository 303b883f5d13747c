import MPing.Seccomp.Coverage

/-!
# What the kernel kills

The code of `seccomp_rule_add` is dropped, so a setup that was refused some of its rules goes on.
`kills_setup_iff` says for any pattern of refusals exactly which syscalls end the process then; a
library that refuses only what it has already leaves nothing out.
-/

namespace MPing.Seccomp

open Infra Infra.Stateful SeccompFilterContext

/-! ## The setup of `main` -/

/-- The filter `main` loads: what the library has accepted of the requested rules. -/
def loadedFilter (lib : Libseccomp) (target : Target) : Filter where
  defAction := scmpActAllow
  rules := accepted lib 0 (mainFilter target).rules

/-- The library gives a context and loads the filter. Whether it takes the rules does not matter. -/
structure Loads (lib : Libseccomp) (target : Target) : Prop where
  initializes : lib.initializes = true
  load : lib.returnCode (mainFilter target).rules.length = 0

/-- The object after the setup. -/
def setupContext (lib : Libseccomp) (target : Target) : SeccompFilterContext where
  ctx := some (loadedFilter lib target)
  calls := (mainFilter target).rules.length + 1
  loaded := [loadedFilter lib target]

/-- **How the setup ends**: by the first call of the library and the last one. -/
theorem seccompSetup_eq (lib : Libseccomp) (target : Target) :
    seccompSetup lib target =
      if lib.initializes = false then
        .error (.systemError (lib.errno 0) "Failed to initialize seccomp.")
      else if lib.returnCode (mainFilter target).rules.length = 0 then
        .ok (setupContext lib target)
      else
        .error (.systemError (lib.errno ((mainFilter target).rules.length + 1))
          "Failed to load seccomp filter.") := by
  cases hinit : lib.initializes with
  | false => simp [seccompSetup, SeccompFilterContext.new, hinit, bind, Except.bind]
  | true =>
    have hnew : SeccompFilterContext.new lib scmpActAllow =
        .ok { ctx := some ⟨scmpActAllow, []⟩, calls := 0, loaded := [] } := if_pos hinit
    have hexec := exec_setUp lib target
      (s := { ctx := some ⟨scmpActAllow, []⟩, calls := 0, loaded := [] }) rfl
      (calledGroups.map .group)
    simp only [List.nil_append, Nat.zero_add] at hexec
    simp only [seccompSetup, hnew, killUnneeded_eq, bind, Except.bind, hexec]
    have hgoes : ¬true = false := Bool.noConfusion
    by_cases hload :
        lib.returnCode (requestedRules target (calledGroups.map .group)).length = 0
    · rw [if_pos hload]
      exact ((if_neg hgoes).trans (if_pos hload)).symm
    · rw [if_neg hload]
      exact ((if_neg hgoes).trans (if_neg hload)).symm

/-- `main` goes on exactly if there is a filter in the kernel. -/
theorem seccompSetup_eq_ok_iff {lib : Libseccomp} {target : Target} {s : SeccompFilterContext} :
    seccompSetup lib target = .ok s ↔ Loads lib target ∧ s = setupContext lib target := by
  rw [seccompSetup_eq]
  cases hinit : lib.initializes with
  | false =>
    refine iff_of_false (by simp) fun h => ?_
    rw [h.1.initializes] at hinit
    cases hinit
  | true =>
    by_cases hload : lib.returnCode (mainFilter target).rules.length = 0
    · simpa [hload, eq_comm] using fun _ => ⟨hinit, hload⟩
    · simpa [hload] using fun h => absurd h.load hload

/-- All the rules that are requested kill. -/
theorem action_of_mem_mainFilter {target : Target} {r : Rule} (h : r ∈ (mainFilter target).rules) :
    r.action = scmpActKill := by
  obtain ⟨_, _, _, _, _, rfl⟩ := mem_requestedRules_groups.mp h
  rfl

theorem actionFor_loadedFilter (lib : Libseccomp) (target : Target) (nr : Int) :
    lib.actionFor (loadedFilter lib target) nr = scmpActKill ↔
      ∃ i r, (mainFilter target).rules[i]? = some r ∧ r.syscall = nr ∧ lib.returnCode i = 0 := by
  have hmem : ∀ {r}, r ∈ accepted lib 0 (mainFilter target).rules ↔
      ∃ i, (mainFilter target).rules[i]? = some r ∧ lib.returnCode i = 0 := by
    intro r
    rw [mem_accepted]
    simp only [Nat.zero_add]
  have hkill : ∀ r ∈ accepted lib 0 (mainFilter target).rules, r.action = scmpActKill := by
    intro r hr
    obtain ⟨i, hi, -⟩ := hmem.mp hr
    exact action_of_mem_mainFilter (List.mem_of_getElem? hi)
  rw [loadedFilter, actionFor_eq_kill_iff lib hkill]
  constructor
  · rintro ⟨r, hr, rfl⟩
    obtain ⟨i, hi, hcode⟩ := hmem.mp hr
    exact ⟨i, r, hi, rfl, hcode⟩
  · rintro ⟨i, r, hi, rfl, hcode⟩
    exact ⟨r, hmem.mpr ⟨i, hi, hcode⟩, rfl⟩

/-- What is killed after the setup. -/
theorem kills_setupContext (lib : Libseccomp) (target : Target) (nr : Int) :
    (setupContext lib target).Kills lib nr ↔
      ∃ i r, (mainFilter target).rules[i]? = some r ∧ r.syscall = nr ∧ lib.returnCode i = 0 := by
  rw [← actionFor_loadedFilter]
  simp [Kills, setupContext]

/-- What the library refuses, it was given before. -/
def RefusesRepeats (lib : Libseccomp) (rules : List Rule) : Prop :=
  ∀ i r, rules[i]? = some r → lib.returnCode i ≠ 0 → r ∈ rules.take i

/-- The first of several equal rules is accepted. -/
theorem exists_accepted {lib : Libseccomp} {rules : List Rule} (h : RefusesRepeats lib rules)
    {r : Rule} {i : Nat} (hi : rules[i]? = some r) :
    ∃ j, rules[j]? = some r ∧ lib.returnCode j = 0 := by
  induction i using Nat.strongRecOn with
  | ind i ih =>
    by_cases hcode : lib.returnCode i = 0
    · exact ⟨i, hi, hcode⟩
    · -- it was given before, at a smaller index
      obtain ⟨j, hj⟩ := List.mem_iff_getElem?.mp (h i r hi hcode)
      rw [List.getElem?_take] at hj
      split at hj
      · next hlt => exact ih j hlt hj
      · cases hj

/--
**What is killed, whichever rules the library refuses.**

After a setup that did not throw, a syscall of the own architecture ends the process exactly if one
of the calls of `seccomp_rule_add` for it returned zero. In particular nothing is lost to a library
that refuses a rule only because it has it already, which happens: the groups of `main` overlap.
-/
theorem kills_setup_iff {lib : Libseccomp} {target : Target} {s : SeccompFilterContext}
    (h : seccompSetup lib target = .ok s) :
    (∀ nr, s.Kills lib nr ↔ ∃ i r, (mainFilter target).rules[i]? = some r ∧ r.syscall = nr ∧
      lib.returnCode i = 0) ∧
    (RefusesRepeats lib (mainFilter target).rules →
      ∀ nr, s.Kills lib nr ↔ ∃ x, target.scmpSys x = nr ∧ target.defines x = true ∧
        ∃ g ∈ calledGroups, x ∈ g.syscalls) := by
  obtain rfl := (seccompSetup_eq_ok_iff.mp h).2
  constructor
  · exact kills_setupContext lib target
  · intro hrepeats nr
    have hmain : lib.actionFor (mainFilter target) nr = scmpActKill ↔
        ∃ r ∈ (mainFilter target).rules, r.syscall = nr :=
      actionFor_eq_kill_iff lib (fun r hr => action_of_mem_mainFilter hr) nr
    rw [kills_setupContext, ← actionFor_mainFilter lib, hmain]
    constructor
    · rintro ⟨i, r, hi, hnr, -⟩
      exact ⟨r, List.mem_of_getElem? hi, hnr⟩
    · rintro ⟨r, hr, hnr⟩
      obtain ⟨i, hi⟩ := List.mem_iff_getElem?.mp hr
      obtain ⟨j, hj, hcode⟩ := exists_accepted hrepeats hi
      exact ⟨j, r, hj, hnr, hcode⟩

/-- A library that refuses exactly what it was given before, with `EEXIST`. -/
def Libseccomp.refusingRepeats (target : Target) : Libseccomp :=
  .ofCodes fun i =>
    match (mainFilter target).rules[i]? with
    | some r => if r ∈ (mainFilter target).rules.take i then -17 else 0
    | none => 0

/-- Such a library kills all that `main` asks for. -/
theorem kills_setup_sample :
    ∃ s, seccompSetup (.refusingRepeats .sample) .sample = .ok s ∧
      ∀ nr, s.Kills (.refusingRepeats .sample) nr ↔
        ∃ x, Target.sample.scmpSys x = nr ∧ Target.sample.defines x = true ∧
          ∃ g ∈ calledGroups, x ∈ g.syscalls := by
  have hload : (Libseccomp.refusingRepeats .sample).returnCode
      (mainFilter .sample).rules.length = 0 := by
    simp [Libseccomp.refusingRepeats, Libseccomp.ofCodes]
  refine ⟨_, seccompSetup_eq_ok_iff.mpr ⟨⟨rfl, hload⟩, rfl⟩, ?_⟩
  refine (kills_setup_iff (seccompSetup_eq_ok_iff.mpr ⟨⟨rfl, hload⟩, rfl⟩)).2 ?_
  intro i r hi hcode
  simp only [Libseccomp.refusingRepeats, Libseccomp.ofCodes, hi] at hcode
  split at hcode
  · next hmem => exact hmem
  · exact absurd rfl hcode

end MPing.Seccomp
