import MPing.Seccomp.Rules

/-!
# The filter `main` loads

`main` calls the groups of the class one by one, and leaves `kill_mount` out. Most of its syscalls
are in `kill_privileged` too; seven are in no other group. `blacklist_covered_iff` says that the
loaded filter is the whole blacklist exactly on targets that have none of the seven.
-/

namespace MPing.Seccomp

open Infra Infra.Stateful SeccompFilterContext

/-! ## `main` -/

/-- The calls of `main` between the constructor and the command line. -/
def killUnneeded (lib : Libseccomp) (target : Target) : Action Unit := do
  killChown.perform lib target
  killClock.perform lib target
  killCpuEmulation.perform lib target
  killDebug.perform lib target
  killOthers.perform lib target
  killIpc.perform lib target
  killKeyring.perform lib target
  killMemlock.perform lib target
  killModule.perform lib target
  killObsolete.perform lib target
  killPrivileged.perform lib target
  killRawio.perform lib target
  killReboot.perform lib target
  killResources.perform lib target
  killSetuid.perform lib target
  killSwap.perform lib target
  killSync.perform lib target
  killSystemService.perform lib target
  killSignal.perform lib target
  load lib

/-- The seccomp part of `main`. -/
def seccompSetup (lib : Libseccomp) (target : Target) : Except Exception SeccompFilterContext := do
  let seccompContext ← SeccompFilterContext.new lib scmpActAllow
  match exec (killUnneeded lib target) seccompContext with
  | (.ok _, s) => .ok s
  | (.error e, _) => .error e

/-- The groups `main` calls. -/
def calledGroups : List KillGroup :=
  [killChown, killClock, killCpuEmulation, killDebug, killOthers, killIpc, killKeyring,
    killMemlock, killModule, killObsolete, killPrivileged, killRawio, killReboot, killResources,
    killSetuid, killSwap, killSync, killSystemService, killSignal]

theorem killUnneeded_eq (lib : Libseccomp) (target : Target) :
    killUnneeded lib target = setUp lib target (calledGroups.map .group) := by
  simp [killUnneeded, setUp, calledGroups, Call.perform]

/-! ## What the filter kills -/

/-- Rules that all kill, over a default that does not. -/
theorem actionFor_eq_kill_iff (lib : Libseccomp) {rules : List Rule}
    (hkill : ∀ r ∈ rules, r.action = scmpActKill) (syscall : Int) :
    lib.actionFor ⟨scmpActAllow, rules⟩ syscall = scmpActKill ↔
      ∃ r ∈ rules, r.syscall = syscall := by
  by_cases hex : ∃ r ∈ rules, r.syscall = syscall
  · refine iff_of_true ?_ hex
    exact lib.actionFor_rules _ _ _ hex fun r hr _ => hkill r hr
  · have hdefault := lib.actionFor_default ⟨scmpActAllow, rules⟩ syscall
      fun r hr hsyscall => hex ⟨r, hr, hsyscall⟩
    rw [hdefault]
    exact iff_of_false (show scmpActAllow ≠ scmpActKill by decide) hex

/-- The rules of a sequence of groups. -/
theorem mem_requestedRules_groups {target : Target} {groups : List KillGroup} {r : Rule} :
    r ∈ requestedRules target (groups.map .group) ↔
      ∃ g ∈ groups, ∃ x ∈ g.syscalls, target.defines x = true ∧
        r = ⟨scmpActKill, target.scmpSys x⟩ := by
  simp only [requestedRules, List.flatMap_map, List.mem_flatMap, Call.requested,
    KillGroup.requested, List.mem_map, List.mem_filter]
  constructor
  · rintro ⟨g, hg, x, ⟨hx, hdef⟩, rfl⟩
    exact ⟨g, hg, x, hx, hdef, rfl⟩
  · rintro ⟨g, hg, x, hx, hdef, rfl⟩
    exact ⟨g, hg, x, ⟨hx, hdef⟩, rfl⟩

/-- The filter `main` loads when every call succeeds. -/
def mainFilter (target : Target) : Filter where
  defAction := scmpActAllow
  rules := requestedRules target (calledGroups.map .group)

theorem seccompSetup_of_succeeds {lib : Libseccomp} (hlib : lib.Succeeds) (target : Target) :
    seccompSetup lib target =
      .ok { ctx := some (mainFilter target)
            calls := (mainFilter target).rules.length + 1
            loaded := [mainFilter target] } := by
  have hnew : SeccompFilterContext.new lib scmpActAllow =
      .ok { ctx := some ⟨scmpActAllow, []⟩, calls := 0, loaded := [] } :=
    if_pos hlib.initializes
  have hexec := exec_setUp lib target
    (s := { ctx := some ⟨scmpActAllow, []⟩, calls := 0, loaded := [] }) rfl
    (calledGroups.map .group)
  simp only [accepted_of_succeeds hlib, if_pos (hlib.returnCode _), List.nil_append,
    Nat.zero_add] at hexec
  rw [seccompSetup, hnew, killUnneeded_eq]
  simp only [bind, Except.bind, hexec]
  rfl

/-- **The filter of `main`** kills what the called groups name and the target defines. -/
theorem actionFor_mainFilter (lib : Libseccomp) (target : Target) (nr : Int) :
    lib.actionFor (mainFilter target) nr = scmpActKill ↔
      ∃ x, target.scmpSys x = nr ∧ target.defines x = true ∧
        ∃ g ∈ calledGroups, x ∈ g.syscalls := by
  have hkill : ∀ r ∈ requestedRules target (calledGroups.map .group),
      r.action = scmpActKill := by
    intro r hr
    obtain ⟨_, _, _, _, _, rfl⟩ := mem_requestedRules_groups.mp hr
    rfl
  rw [mainFilter, actionFor_eq_kill_iff lib hkill]
  constructor
  · rintro ⟨r, hr, rfl⟩
    obtain ⟨g, hg, x, hx, hdef, rfl⟩ := mem_requestedRules_groups.mp hr
    exact ⟨x, rfl, hdef, g, hg, hx⟩
  · rintro ⟨x, rfl, hdef, g, hg, hx⟩
    exact ⟨_, mem_requestedRules_groups.mpr ⟨g, hg, x, hx, hdef, rfl⟩, rfl⟩

theorem kills_seccompSetup {lib : Libseccomp} (hlib : lib.Succeeds) (target : Target) :
    ∃ s, seccompSetup lib target = .ok s ∧ ∀ nr, s.Kills lib nr ↔
      ∃ x, target.scmpSys x = nr ∧ target.defines x = true ∧
        ∃ g ∈ calledGroups, x ∈ g.syscalls := by
  refine ⟨_, seccompSetup_of_succeeds hlib target, ?_⟩
  intro nr
  rw [← actionFor_mainFilter lib]
  simp [Kills]

/-! ## The whole blacklist -/

/-- The syscalls of `kill_mount` that no other group names. -/
def onlyInKillMount : List Syscall :=
  [.fsconfig, .fsmount, .fsopen, .fspick, .move_mount, .open_tree, .umount]

theorem called_iff (x : Syscall) :
    (∃ g ∈ calledGroups, x ∈ g.syscalls) ↔
      (∃ g ∈ killGroups, x ∈ g.syscalls) ∧ x ∉ onlyInKillMount := by
  constructor
  · rintro ⟨g, hg, hx⟩
    have hsub : ∀ g ∈ calledGroups, g ∈ killGroups := by decide
    have hdisjoint : ∀ g ∈ calledGroups, ∀ x ∈ g.syscalls, x ∉ onlyInKillMount := by
      decide +kernel
    exact ⟨⟨g, hsub g hg, hx⟩, hdisjoint g hg x hx⟩
  · rintro ⟨⟨g, hg, hx⟩, hnot⟩
    have hsplit : ∀ g ∈ killGroups, g ∈ calledGroups ∨ g = killMount := by decide
    have hmount : ∀ x ∈ killMount.syscalls,
        (∃ g ∈ calledGroups, x ∈ g.syscalls) ∨ x ∈ onlyInKillMount := by
      decide +kernel
    rcases hsplit g hg with hcalled | rfl
    · exact ⟨g, hcalled, hx⟩
    · exact (hmount x hx).resolve_right hnot

/-- The filter of `main` kills the whole blacklist, as far as the target knows it, and no more. -/
def BlacklistCovered (lib : Libseccomp) (target : Target) : Prop :=
  ∃ s, seccompSetup lib target = .ok s ∧ ∀ nr, s.Kills lib nr ↔
    ∃ x, target.scmpSys x = nr ∧ target.defines x = true ∧ ∃ g ∈ killGroups, x ∈ g.syscalls

/--
**The blacklist is covered exactly where the seven syscalls of `kill_mount` do not exist.**

The other members of the group (`chroot`, `mount`, `pivot_root`, `umount2`) are killed through
`kill_privileged`.
-/
theorem blacklist_covered_iff {lib : Libseccomp} (hlib : lib.Succeeds) (target : Target) :
    BlacklistCovered lib target ↔ ∀ x ∈ onlyInKillMount, target.defines x = false := by
  obtain ⟨s, hsetup, hkills⟩ := kills_seccompSetup hlib target
  constructor
  · rintro ⟨s', hsetup', hcovered⟩ x hx
    rw [hsetup] at hsetup'
    obtain rfl := Except.ok.inj hsetup'
    cases hdef : target.defines x with
    | false => rfl
    | true =>
      -- on such a target the whole blacklist has `x`, and the called groups do not
      have hnamed : ∀ x ∈ onlyInKillMount, ∃ g ∈ killGroups, x ∈ g.syscalls := by decide +kernel
      have hkilled := (hcovered (target.scmpSys x)).mpr ⟨x, rfl, hdef, hnamed x hx⟩
      obtain ⟨x', heq, -, hcalled⟩ := (hkills _).mp hkilled
      obtain rfl := target.scmpSys_injective heq
      exact absurd hx ((called_iff x').mp hcalled).2
  · intro hnone
    refine ⟨s, hsetup, ?_⟩
    intro nr
    rw [hkills nr]
    constructor
    · rintro ⟨x, hnr, hdef, hcalled⟩
      exact ⟨x, hnr, hdef, ((called_iff x).mp hcalled).1⟩
    · rintro ⟨x, hnr, hdef, hnamed⟩
      refine ⟨x, hnr, hdef, (called_iff x).mpr ⟨hnamed, fun hx => ?_⟩⟩
      rw [hnone x hx] at hdef
      cases hdef

/-- A kernel before 5.2 on an architecture without `umount`. -/
def Target.old : Target :=
  { Target.sample with defines := fun x => x ∉ onlyInKillMount }

/-- There the whole blacklist is covered. -/
theorem blacklist_covered_old : BlacklistCovered .sample .old :=
  (blacklist_covered_iff ⟨rfl, fun _ => rfl⟩ .old).mpr (by decide)

/-- On a target that has `fsopen`, `main` leaves it allowed. -/
theorem blacklist_leaves_fsopen :
    ∃ s, seccompSetup .sample .sample = .ok s ∧
      Target.sample.defines .fsopen = true ∧ Syscall.fsopen ∈ killMount.syscalls ∧
      ¬s.Kills .sample (Target.sample.scmpSys .fsopen) ∧ ¬BlacklistCovered .sample .sample := by
  have hlib : Libseccomp.sample.Succeeds := ⟨rfl, fun _ => rfl⟩
  obtain ⟨s, hsetup, hkills⟩ := kills_seccompSetup hlib .sample
  have hallowed : ¬s.Kills .sample (Target.sample.scmpSys .fsopen) := by
    intro hkilled
    obtain ⟨x, heq, -, hcalled⟩ := (hkills _).mp hkilled
    obtain rfl := Target.sample.scmpSys_injective heq
    exact ((called_iff _).mp hcalled).2 (by decide)
  refine ⟨s, hsetup, rfl, by decide, hallowed, ?_⟩
  rintro ⟨s', hsetup', hcovered⟩
  rw [hsetup] at hsetup'
  obtain rfl := Except.ok.inj hsetup'
  exact hallowed ((hcovered _).mpr ⟨.fsopen, rfl, rfl, killMount, by decide, by decide⟩)

end MPing.Seccomp
