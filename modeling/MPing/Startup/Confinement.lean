import MPing.Seccomp.Kills
import MPing.Sender.Construction
import MPing.Spec.SenderSound
import MPing.Startup.Options
import MPing.Startup.Sandbox

/-!
# The process from its first statement on

All of `main` before the sender, for every way the program can be built: capabilities, Landlock,
seccomp, then the command line. Together with `main` and the event loop this is the whole process.

The start is a list of checks (`checks`): each call has to succeed before the next one is made. The
answers of kernel and libraries are free. The calls of libseccomp are not in the journal; the
`SeccompFilterContext` says what became of them.

* `launch_fails_closed` — the first call that is refused is the last one, and ends the process with
  the exception of that call
* `confined_of_sent` — nothing is sent, and no command line is read, before all of it was done
* `process_starts_iff` — exactly when the process gets to `io.run()`
* `exit_success_iff` — exactly when it ends with `EXIT_SUCCESS`
-/

namespace MPing

open Infra Infra.Stateful Seccomp

/-! ## The process -/

/-- What the process was built with. -/
structure Build where
  haveLibcapng : Bool
  haveLandlock : Bool
  haveSeccomp : Bool
deriving DecidableEq, Repr

/-- The libraries and the kernel. -/
structure System where
  capng : Libcapng
  landlock : LandlockKernel
  seccomp : Libseccomp
  target : Target

/-- What the start has done: the calls of the wrappers, and the filter context after its setup. -/
structure Confinement where
  calls : List OutsideCall
  filterContext : Option SeccompFilterContext

section Main

variable (build : Build) (sys : System)

def capabilityStage : OutsideAction Unit := do
  if build.haveLibcapng then
    CapabilityManagment.checkForCapabilites sys.capng
    CapabilityManagment.lock sys.capng
    CapabilityManagment.dropAllCapabilies sys.capng

def landlockStage : OutsideAction Unit := do
  if build.haveLandlock then
    let landlockRulesetInit ← LandlockRuleset.new sys.landlock mainAccessFs mainAccessNet
    landlockRulesetInit.restrictSelf sys.landlock

def seccompStage : OutsideAction (Option SeccompFilterContext) := do
  if build.haveSeccomp then
    let seccompContext ← ofExcept (seccompSetup sys.seccomp sys.target)
    return some seccompContext
  else
    return none

/-- `main` up to the command line. -/
def confine : OutsideAction (Option SeccompFilterContext) := do
  capabilityStage build sys
  landlockStage build sys
  seccompStage build sys

/-- What the command line makes of the start. -/
def configure (boost : ProgramOptions) (args : List Bytes) : Startup :=
  match Configuration.new boost args with
  | .threw e => .threw (boost.exception e)
  | .help => .help
  | .constructed config _ => .configured config

/-- `main` up to the sender, and what was done by then. -/
def launch (boost : ProgramOptions) (args : List Bytes) : Startup × Confinement :=
  match exec (confine build sys) [] with
  | (.ok filterContext, calls) => (configure boost args, { calls, filterContext })
  | (.error e, calls) => (.threw e, { calls, filterContext := none })

end Main

/-! ## The start as a checklist -/

section Checks

variable (build : Build) (sys : System)

def capabilityChecks : List (Check OutsideCall Exception) :=
  if build.haveLibcapng then
    [{ calls := [.capngHaveCapability .permitted capSetpcap]
       passed := sys.capng.haveCapability .permitted capSetpcap = 1
       error := .runtimeError "Missing CAP_SETPCAP capability" },
      { calls := [.capngLock]
        passed := sys.capng.lock.1 = 0
        error := .systemError sys.capng.lock.2 "Failed to lock capabilities" },
      { calls := [.capngClear .all, .capngApply .all]
        passed := (sys.capng.apply .all).1 = 0
        error := .systemError (sys.capng.apply .all).2 "Failed to apply capabilities" }]
  else []

/-- The descriptor of the ruleset. -/
def mainRuleset : Int := sys.landlock.createRuleset mainAccessFs mainAccessNet

def landlockChecks : List (Check OutsideCall Exception) :=
  if build.haveLandlock then
    [{ calls := [.landlockVersion]
       passed := ¬sys.landlock.version < 6
       error := .runtimeError "Landlock is too old." },
      { calls := [.landlockCreateRuleset mainAccessFs mainAccessNet]
        passed := mainRuleset sys ≠ -1
        error := .runtimeError "Failed to create landlock ruleset." },
      { calls := [.landlockRestrictSelf (mainRuleset sys) 0]
        passed := sys.landlock.restrictSelf (mainRuleset sys) 0 = 0
        error := .runtimeError "Failed to restrict self via landlock." }]
  else []

/-- `seccomp_init` and `seccomp_load`. The calls between them are not checked. -/
def seccompChecks : List (Check OutsideCall Exception) :=
  if build.haveSeccomp then
    [{ calls := []
       passed := sys.seccomp.initializes
       error := .systemError (sys.seccomp.errno 0) "Failed to initialize seccomp." },
      { calls := []
        passed := sys.seccomp.returnCode (mainFilter sys.target).rules.length = 0
        error := .systemError (sys.seccomp.errno ((mainFilter sys.target).rules.length + 1))
          "Failed to load seccomp filter." }]
  else []

/-- What the start checks, in order. -/
def checks : List (Check OutsideCall Exception) :=
  capabilityChecks build sys ++ landlockChecks build sys ++ seccompChecks build sys

/-- The filter context of a start that succeeds. -/
def startContext : Option SeccompFilterContext :=
  if build.haveSeccomp then some (setupContext sys.seccomp sys.target) else none

theorem capabilityStage_eq :
    capabilityStage build sys = Check.performAll (capabilityChecks build sys) := by
  unfold capabilityStage capabilityChecks
  cases build.haveLibcapng with
  | false => rfl
  | true =>
    simp [CapabilityManagment.checkForCapabilites, CapabilityManagment.lock,
      CapabilityManagment.dropAllCapabilies]

theorem landlockStage_eq :
    landlockStage build sys = Check.performAll (landlockChecks build sys) := by
  unfold landlockStage landlockChecks
  cases build.haveLandlock with
  | false => rfl
  | true =>
    rw [if_pos rfl, if_pos rfl, LandlockRuleset.new, bind_assoc]
    refine bind_congr fun _ => ?_
    rw [bind_assoc]
    refine bind_congr fun _ => ?_
    exact (pure_bind _ _).trans bind_pure_unit.symm

theorem exec_seccompStage (made : List OutsideCall) :
    exec (seccompStage build sys) made =
      exec (Check.performAll (seccompChecks build sys) >>= fun _ =>
        pure (startContext build sys)) made := by
  unfold seccompStage seccompChecks startContext
  cases build.haveSeccomp with
  | false => rfl
  | true =>
    simp only [if_true, exec_bind, exec_ofExcept, seccompSetup_eq, Check.performAll_cons,
      Check.performAll_nil]
    cases sys.seccomp.initializes with
    | false => simp [Check.perform, exec_bind, exec_throw]
    | true =>
      by_cases hload : sys.seccomp.returnCode (mainFilter sys.target).rules.length = 0 <;>
        simp [Check.perform, hload, exec_bind, exec_throw]

/-- **`main` performs its checklist.** -/
theorem exec_confine :
    exec (confine build sys) [] =
      exec (Check.performAll (checks build sys) >>= fun _ => pure (startContext build sys)) [] := by
  simp only [confine, checks, Check.performAll_append, capabilityStage_eq, landlockStage_eq,
    bind_assoc]
  simp only [exec_bind, exec_seccompStage]

end Checks

/-! ## How the start ends -/

/-- Everything the start needs succeeds: as far as the process was built with it. -/
structure Ready (build : Build) (sys : System) : Prop where
  capabilities : build.haveLibcapng = true → sys.capng.haveCapability .permitted capSetpcap = 1 ∧
    sys.capng.lock.1 = 0 ∧ (sys.capng.apply .all).1 = 0
  files : build.haveLandlock = true → 6 ≤ sys.landlock.version ∧ mainRuleset sys ≠ -1 ∧
    sys.landlock.restrictSelf (mainRuleset sys) 0 = 0
  syscalls : build.haveSeccomp = true → Loads sys.seccomp sys.target

section Launch

variable (build : Build) (sys : System) (boost : ProgramOptions) (args : List Bytes)

theorem ready_iff : Ready build sys ↔ ∀ c ∈ checks build sys, c.passed = true := by
  have hcapabilities : (build.haveLibcapng = true →
      sys.capng.haveCapability .permitted capSetpcap = 1 ∧ sys.capng.lock.1 = 0 ∧
        (sys.capng.apply .all).1 = 0) ↔ ∀ c ∈ capabilityChecks build sys, c.passed = true := by
    cases h : build.haveLibcapng <;> simp [capabilityChecks, h]
  have hfiles : (build.haveLandlock = true →
      6 ≤ sys.landlock.version ∧ mainRuleset sys ≠ -1 ∧
        sys.landlock.restrictSelf (mainRuleset sys) 0 = 0) ↔
      ∀ c ∈ landlockChecks build sys, c.passed = true := by
    cases h : build.haveLandlock <;> simp [landlockChecks, h]
  have hsyscalls : (build.haveSeccomp = true → Loads sys.seccomp sys.target) ↔
      ∀ c ∈ seccompChecks build sys, c.passed = true := by
    cases h : build.haveSeccomp with
    | false => simp [seccompChecks, h]
    | true =>
      simp only [seccompChecks, h, if_true, true_imp_iff, List.forall_mem_cons, List.not_mem_nil,
        false_implies, implies_true, and_true, decide_eq_true_eq]
      exact ⟨fun hloads => ⟨hloads.initializes, hloads.load⟩, fun hloads => ⟨hloads.1, hloads.2⟩⟩
  rw [checks, List.forall_mem_append, List.forall_mem_append, ← hcapabilities, ← hfiles,
    ← hsyscalls, and_assoc]
  exact ⟨fun h => ⟨h.capabilities, h.files, h.syscalls⟩, fun h => ⟨h.1, h.2.1, h.2.2⟩⟩

theorem launch_of_ready (h : Ready build sys) :
    launch build sys boost args = (configure boost args,
      { calls := (checks build sys).flatMap Check.calls
        filterContext := startContext build sys }) := by
  have hexec : exec (confine build sys) [] =
      (.ok (startContext build sys), (checks build sys).flatMap Check.calls) := by
    rw [exec_confine, exec_bind_of_ok
      (Check.exec_performAll_of_passed [] ((ready_iff build sys).mp h)), exec_pure,
      List.nil_append]
  rw [launch, hexec]

theorem launch_of_failed {before after : List (Check OutsideCall Exception)}
    {c : Check OutsideCall Exception} (hsplit : checks build sys = before ++ c :: after)
    (hbefore : ∀ b ∈ before, b.passed = true) (hc : c.passed = false) :
    launch build sys boost args = (.threw c.error,
      { calls := (before ++ [c]).flatMap Check.calls, filterContext := none }) := by
  have hexec : exec (confine build sys) [] =
      (.error c.error, (before ++ [c]).flatMap Check.calls) := by
    rw [exec_confine, hsplit, exec_bind, Check.exec_performAll_of_failed [] hbefore hc,
      List.nil_append]
  rw [launch, hexec]

/-- The start succeeds, or a check is the first to fail. -/
theorem launch_cases :
    (Ready build sys ∧ launch build sys boost args = (configure boost args,
      { calls := (checks build sys).flatMap Check.calls
        filterContext := startContext build sys })) ∨
    (¬Ready build sys ∧ ∃ before c after, checks build sys = before ++ c :: after ∧
      (∀ b ∈ before, b.passed = true) ∧ c.passed = false ∧
      launch build sys boost args = (.threw c.error,
        { calls := (before ++ [c]).flatMap Check.calls, filterContext := none })) := by
  rw [ready_iff]
  rcases Check.passed_or_first_failed (checks build sys) with
    hall | ⟨before, c, after, hsplit, hbefore, hc⟩
  · exact Or.inl ⟨hall, launch_of_ready build sys boost args ((ready_iff build sys).mpr hall)⟩
  · refine Or.inr ⟨fun hall => ?_, before, c, after, hsplit, hbefore, hc,
      launch_of_failed build sys boost args hsplit hbefore hc⟩
    have hpassed := hall c (by rw [hsplit]; simp)
    rw [hc] at hpassed
    cases hpassed

/--
**The start fails closed.**

For every build and all answers of kernel and libraries: either every check passes, all the calls
were made in their order and the command line is read; or there is a first check that fails. Then
its call is the last one that was made, the command line is not looked at, and the process ends in
the `catch` of `main` with the exception of that check, without a datagram.
-/
theorem launch_fails_closed :
    ((∀ c ∈ checks build sys, c.passed = true) ∧
      launch build sys boost args = (configure boost args,
        { calls := (checks build sys).flatMap Check.calls
          filterContext := startContext build sys })) ∨
    ∃ before c after, checks build sys = before ++ c :: after ∧
      (∀ b ∈ before, b.passed = true) ∧ c.passed = false ∧
      launch build sys boost args = (.threw c.error,
        { calls := (before ++ [c]).flatMap Check.calls, filterContext := none }) ∧
      ∀ (platform : Platform) (pid : UInt32) (es : List ProcessEvent) (q : Process),
        run (Process.step platform) (main platform (launch build sys boost args).1 pid) es
          = some q → q = .ended (.caught c.error) [] := by
  rcases launch_cases build sys boost args with
    ⟨hready, hlaunch⟩ | ⟨-, before, c, after, hsplit, hbefore, hc, hlaunch⟩
  · exact Or.inl ⟨(ready_iff build sys).mp hready, hlaunch⟩
  · refine Or.inr ⟨before, c, after, hsplit, hbefore, hc, hlaunch, ?_⟩
    intro platform pid es q hrun
    rw [hlaunch] at hrun
    exact run_ended hrun

end Launch

/-! ## The command line -/

section CommandLine

variable {boost : ProgramOptions} {args : List Bytes}

theorem configure_eq_configured {config : Configuration} :
    configure boost args = .configured config ↔
      ∃ parsed level, boost.run args = .ok parsed ∧ Describes boost parsed config level := by
  unfold configure Configuration.new
  cases hrun : boost.run args with
  | error e => simp
  | ok parsed =>
    simp only [Except.ok.injEq, exists_eq_left', exists_and_left, describes_iff,
      ← construct_eq_constructed]
    cases hconstruct : construct boost parsed with
    | threw e => simp
    | help => simp
    | constructed config' level => simp

theorem configure_eq_help :
    configure boost args = .help ↔ ∃ parsed, boost.run args = .ok parsed ∧
      Acceptable boost parsed ∧ given .help parsed ≠ [] := by
  unfold configure Configuration.new
  cases hrun : boost.run args with
  | error e => simp
  | ok parsed =>
    simp only [Except.ok.injEq, exists_eq_left', ← construct_eq_help]
    cases hconstruct : construct boost parsed with
    | threw e => simp
    | help => simp
    | constructed config' level => simp

end CommandLine

/-! ## The whole process -/

/-- What a process has sent, a sender has sent that its start has configured. -/
theorem sent_of_run {platform : Platform} {startup : Startup} {pid : UInt32}
    {es : List ProcessEvent} {q : Process}
    (h : run (Process.step platform) (main platform startup pid) es = some q) :
    q.sent = [] ∨ ∃ config es' w, startup = .configured config ∧
      Sender.Reaches platform config.arguments pid es' w ∧ q.sent = w.sent := by
  rcases List.eq_nil_or_concat es with rfl | ⟨es, e, rfl⟩
  · obtain rfl := Option.some.inj h
    cases startup with
    | threw e => exact Or.inl rfl
    | help => exact Or.inl rfl
    | configured config =>
      cases hnew : Sender.new platform config.arguments pid with
      | error e => exact Or.inl (by simp only [main, hnew]; rfl)
      | ok w =>
        exact Or.inr ⟨config, [], w, rfl, ⟨w, hnew, rfl⟩, by simp only [main, hnew]; rfl⟩
  · rw [List.concat_eq_append] at h
    obtain ⟨q₁, hrun, hstep⟩ := run_concat_eq_some.mp h
    cases q₁ with
    | ended how sent => cases hstep
    | running w =>
      obtain ⟨config, es', hstartup, -, hreach, -⟩ := outcome_of_run hrun
      cases e with
      | runReturns =>
        rw [Process.step] at hstep
        split at hstep
        · cases hstep
        · cases hstep
          exact Or.inr ⟨config, es', w, hstartup, hreach, rfl⟩
      | completion e =>
        obtain ⟨w', hw', hstep⟩ := Option.bind_eq_some_iff.mp hstep
        obtain ⟨w₀, hnew, hrun'⟩ := hreach
        refine Or.inr ⟨config, es' ++ [e], w', hstartup, ⟨w₀, hnew, ?_⟩, ?_⟩
        · exact run_concat_eq_some.mpr ⟨w, hrun', hw'⟩
        · split at hstep <;> cases hstep <;> rfl

/-- Where the datagrams of a sender go. -/
theorem destination_of_reaches {platform : Platform} {a : Sender.Arguments} {pid : UInt32}
    {es : List Event} {w : World} (h : Sender.Reaches platform a pid es w) :
    ∃ destHost, platform.makeAddress a.address = .ok destHost ∧
      ∀ d ∈ w.sent, d.destination = ⟨destHost, a.port⟩ := by
  obtain ⟨srcHost, destHost, index, hsrc, hdest, -⟩ := Sender.fixed_of_reaches h
  refine ⟨destHost, hdest, fun d hd => ?_⟩
  obtain ⟨k, hk⟩ := List.mem_iff_getElem?.mp hd
  obtain ⟨t, -, rfl⟩ := Spec.beat_of_sent h hsrc hdest hk
  rfl

theorem status_caught (e : Exception) : (Termination.caught e).status ≠ exitSuccess :=
  Nat.one_ne_zero

section Process

variable {platform : Platform} {build : Build} {sys : System} {boost : ProgramOptions}
  {args : List Bytes} {pid : UInt32}

/-- All that the process was built with has been done. -/
structure Confined (build : Build) (sys : System) (done : Confinement) : Prop where
  /-- These calls were made, in this order, and no others. -/
  calls : done.calls =
    (if build.haveLibcapng then
      [.capngHaveCapability .permitted capSetpcap, .capngLock, .capngClear .all, .capngApply .all]
    else []) ++
    (if build.haveLandlock then
      [.landlockVersion, .landlockCreateRuleset mainAccessFs mainAccessNet,
        .landlockRestrictSelf (mainRuleset sys) 0]
    else [])
  /-- They succeeded. -/
  succeeded : Ready build sys
  /-- The masks have all the rights on files but that on the calls of devices, and both on TCP. -/
  handled : (∀ r : FsRight, mainAccessFs &&& r.mask ≠ 0 ↔ r ≠ .ioctlDev) ∧
    ∀ r : NetRight, mainAccessNet &&& r.mask ≠ 0
  /-- A filter was loaded; it kills what the library has accepted a rule for. -/
  syscalls : build.haveSeccomp = true → ∃ s, done.filterContext = some s ∧
    ∀ nr, s.Kills sys.seccomp nr ↔ ∃ i r, (mainFilter sys.target).rules[i]? = some r ∧
      r.syscall = nr ∧ sys.seccomp.returnCode i = 0

theorem confined_of_ready (h : Ready build sys) :
    Confined build sys (launch build sys boost args).2 := by
  rw [launch_of_ready build sys boost args h]
  refine ⟨?_, h, ⟨mainAccessFs_handles, mainAccessNet_handles⟩, ?_⟩
  · have hseccomp : (seccompChecks build sys).flatMap Check.calls = [] := by
      cases hbuild : build.haveSeccomp <;> simp [seccompChecks, hbuild]
    simp only [checks, List.flatMap_append, hseccomp, List.append_nil, capabilityChecks,
      landlockChecks]
    cases build.haveLibcapng <;> cases build.haveLandlock <;> rfl
  · intro hseccomp
    exact ⟨setupContext sys.seccomp sys.target, if_pos hseccomp,
      kills_setupContext sys.seccomp sys.target⟩

/--
**Nothing is sent unconfined, nor to anywhere else.**

For every build, every answer of the kernel and the libraries, every command line and every run:
once a datagram was handed over, all that the process was built with has been done. The calls were
made in this order with these arguments and have succeeded, no rule was added to the ruleset of
Landlock, and the seccomp filter was loaded, without the rules the library refused. Every datagram
goes to the address and the port that the options describe.
-/
theorem confined_of_sent {es : List ProcessEvent} {q : Process}
    (h : run (Process.step platform)
      (main platform (launch build sys boost args).1 pid) es = some q)
    (hsent : q.sent ≠ []) :
    Confined build sys (launch build sys boost args).2 ∧
      ∃ parsed config level destHost, boost.run args = .ok parsed ∧
        Describes boost parsed config level ∧
        platform.makeAddress config.address = .ok destHost ∧
        ∀ d ∈ q.sent, d.destination = ⟨destHost, config.port⟩ := by
  rcases sent_of_run h with hnil | ⟨config, es', w, hstartup, hreach, heq⟩
  · exact absurd hnil hsent
  · rcases launch_cases build sys boost args with ⟨hready, hlaunch⟩ | ⟨-, _, c, _, -, -, -, hlaunch⟩
    · refine ⟨confined_of_ready hready, ?_⟩
      rw [hlaunch, configure_eq_configured] at hstartup
      obtain ⟨parsed, level, hparsed, hdescribes⟩ := hstartup
      obtain ⟨destHost, hdest, hall⟩ := destination_of_reaches hreach
      rw [heq]
      exact ⟨parsed, config, level, destHost, hparsed, hdescribes, hdest, hall⟩
    · rw [hlaunch] at hstartup
      cases hstartup

/-- What `launch` ends in, for a start that succeeds. -/
theorem launch_eq_iff {start : Startup} (hstart : ∀ e, start ≠ .threw e) :
    (launch build sys boost args).1 = start ↔
      Ready build sys ∧ configure boost args = start := by
  rcases launch_cases build sys boost args with
    ⟨hready, hlaunch⟩ | ⟨hnot, _, c, _, -, -, -, hlaunch⟩
  · rw [hlaunch]
    exact (and_iff_right hready).symm
  · rw [hlaunch]
    exact iff_of_false (fun heq => hstart c.error heq.symm) fun hready => hnot hready.1

/--
**Exactly when the process gets to `io.run()`, and with which sender.**

Everything it was built with has to succeed, a rule that libseccomp refuses apart. The options have
to describe a configuration, its two addresses have to parse, its interface has to exist, and the
system must not refuse any of the seven calls on the socket.
-/
theorem process_starts_iff {w : World} :
    main platform (launch build sys boost args).1 pid = .running w ↔
      Ready build sys ∧ ∃ parsed config level srcHost destHost index,
        boost.run args = .ok parsed ∧ Describes boost parsed config level ∧
        Constructible platform config.arguments srcHost destHost index ∧
        w = World.initial config.arguments pid srcHost destHost index := by
  have hmain : main platform (launch build sys boost args).1 pid = .running w ↔
      ∃ config, (launch build sys boost args).1 = .configured config ∧
        Sender.new platform config.arguments pid = .ok w := by
    unfold main
    cases (launch build sys boost args).1 with
    | threw e => simp
    | help => simp
    | configured config =>
      cases hnew : Sender.new platform config.arguments pid <;> simp [hnew]
  rw [hmain]
  constructor
  · rintro ⟨config, hlaunch, hnew⟩
    obtain ⟨hready, hconfigure⟩ := (launch_eq_iff (by simp)).mp hlaunch
    obtain ⟨parsed, level, hparsed, hdescribes⟩ := configure_eq_configured.mp hconfigure
    obtain ⟨srcHost, destHost, index, hconstructible, rfl⟩ := Sender.new_eq_ok_iff.mp hnew
    exact ⟨hready, parsed, config, level, srcHost, destHost, index, hparsed, hdescribes,
      hconstructible, rfl⟩
  · rintro ⟨hready, parsed, config, level, srcHost, destHost, index, hparsed, hdescribes,
      hconstructible, rfl⟩
    exact ⟨config, (launch_eq_iff (by simp)).mpr
      ⟨hready, configure_eq_configured.mpr ⟨parsed, level, hparsed, hdescribes⟩⟩,
      Sender.new_eq_ok_iff.mpr ⟨srcHost, destHost, index, hconstructible, rfl⟩⟩

/--
**Exactly when the process ends with `EXIT_SUCCESS`.**

However a run ends, its status is `EXIT_SUCCESS` if and only if the confinement succeeded and the
options ask for the help; then nothing was sent. `return EXIT_SUCCESS` at the end of `main` is not
how.
-/
theorem exit_success_iff {es : List ProcessEvent} {how : Termination} {sent : List Datagram}
    (h : run (Process.step platform)
      (main platform (launch build sys boost args).1 pid) es = some (.ended how sent)) :
    (how.status = exitSuccess ↔ Ready build sys ∧ ∃ parsed, boost.run args = .ok parsed ∧
      Acceptable boost parsed ∧ given .help parsed ≠ []) ∧
    (how.status = exitSuccess → how = .help ∧ es = [] ∧ sent = []) := by
  rw [← configure_eq_help, ← launch_eq_iff (by simp)]
  rcases outcome_of_run h with ⟨rfl, hreturned, hmain⟩ | ⟨es', e, q, rfl, -, -, hrun, rfl, -⟩
  · -- the process never got to `io.run()`
    cases hlaunch : (launch build sys boost args).1 with
    | threw e =>
      rw [hlaunch] at hmain
      cases hmain
      exact ⟨iff_of_false (status_caught e) (by simp), fun h => absurd h (status_caught e)⟩
    | help =>
      rw [hlaunch] at hmain
      cases hmain
      exact ⟨iff_of_true rfl rfl, fun _ => ⟨rfl, rfl, rfl⟩⟩
    | configured config =>
      rw [hlaunch, main] at hmain
      cases hnew : Sender.new platform config.arguments pid with
      | ok w =>
        rw [hnew] at hmain
        cases hmain
      | error e =>
        rw [hnew] at hmain
        cases hmain
        exact ⟨iff_of_false (status_caught e) (by simp), fun h => absurd h (status_caught e)⟩
  · -- an error ended it
    refine ⟨iff_of_false (status_caught _) ?_, fun h => absurd h (status_caught _)⟩
    intro hhelp
    rw [hhelp] at h
    exact absurd (run_ended h) (by simp)

end Process

/-! ## A process to look at -/

/-- A system on which every call succeeds. -/
def System.sample : System where
  capng :=
    { haveCapability := fun _ _ => 1, lock := (0, ⟨0⟩), apply := fun _ => (0, ⟨0⟩) }
  landlock :=
    { version := 6, createRuleset := fun _ _ => 3, addRule := fun _ _ => 0,
      restrictSelf := fun _ _ => 0 }
  seccomp := .sample
  target := .sample

theorem ready_sample (build : Build) : Ready build .sample :=
  ⟨fun _ => ⟨rfl, rfl, rfl⟩, fun _ => ⟨by decide, by decide, rfl⟩, fun _ => ⟨rfl, rfl⟩⟩

/-- A command line with the required options. -/
def shortCommandLine : List Bytes :=
  ["mping-sender", "--bind-address", "2001:db8::1", "--interface-name", "eth0"].map bytesOf

/-- The same, but the capabilities cannot be locked. -/
def System.unlockable : System where
  capng := { haveCapability := fun _ _ => 1, lock := (-1, ⟨1⟩), apply := fun _ => (0, ⟨0⟩) }
  landlock := System.sample.landlock
  seccomp := .sample
  target := .sample

/-- Then the process ends before anything else is called. -/
theorem launch_fails_closed_unlockable :
    ∃ e, (launch ⟨true, true, true⟩ .unlockable .sample shortCommandLine).1 = .threw e ∧
      ∀ platform pid, main platform
        (launch ⟨true, true, true⟩ .unlockable .sample shortCommandLine).1 pid
          = .ended (.caught e) [] := by
  rcases launch_fails_closed ⟨true, true, true⟩ .unlockable .sample shortCommandLine with
    ⟨hall, -⟩ | ⟨before, c, after, -, -, -, hlaunch, hends⟩
  · exact absurd (hall _ (List.mem_cons_of_mem _ List.mem_cons_self)) (by decide)
  · exact ⟨c.error, congrArg Prod.fst hlaunch, fun platform pid => hends platform pid [] _ rfl⟩

/-- Built with everything, a process that has sent its first datagram has made all the calls. -/
theorem confined_of_sent_sample :
    ∃ q, run (Process.step .sample) (main .sample
        (launch ⟨true, true, true⟩ .sample .sample shortCommandLine).1 7)
          [.completion (.timerCompleted ⟨0⟩ 5)] = some q ∧
      q.sent ≠ [] ∧
      (launch ⟨true, true, true⟩ .sample .sample shortCommandLine).2.calls =
        [.capngHaveCapability .permitted capSetpcap, .capngLock, .capngClear .all,
          .capngApply .all, .landlockVersion, .landlockCreateRuleset mainAccessFs mainAccessNet,
          .landlockRestrictSelf 3 0] := by
  obtain ⟨config, hconfigure⟩ :
      ∃ config, configure .sample shortCommandLine = .configured config := ⟨_, rfl⟩
  have hlaunch := (launch_eq_iff (by simp)).mpr ⟨ready_sample ⟨true, true, true⟩, hconfigure⟩
  obtain ⟨q, hrun, hsent⟩ : ∃ q, run (Process.step .sample) (main .sample
      (launch ⟨true, true, true⟩ .sample .sample shortCommandLine).1 7)
        [.completion (.timerCompleted ⟨0⟩ 5)] = some q ∧ q.sent ≠ [] := by
    rw [hlaunch, ← hconfigure]
    exact ⟨_, rfl, by rintro ⟨⟩⟩
  exact ⟨q, hrun, hsent, (confined_of_sent hrun hsent).1.calls⟩

/-- The library on the command line that asks for the help. -/
def ProgramOptions.sampleHelp : ProgramOptions :=
  { ProgramOptions.sample with
    run := fun args =>
      if args.tail = [bytesOf "--help"] then .ok [⟨some .help, []⟩] else parsePairs args.tail }

/-- `--help` ends with `EXIT_SUCCESS`, a missing option does not. -/
theorem exit_success_sample :
    (∃ how sent, run (Process.step .sample) (main .sample
        (launch ⟨true, true, true⟩ .sample .sampleHelp
          (["mping-sender", "--help"].map bytesOf)).1 7) [] = some (.ended how sent) ∧
      how.status = exitSuccess) ∧
    (∃ how sent, run (Process.step .sample) (main .sample
        (launch ⟨true, true, true⟩ .sample .sampleHelp
          (["mping-sender"].map bytesOf)).1 7) [] = some (.ended how sent) ∧
      how.status ≠ exitSuccess) := by
  constructor
  · have hlaunch := (launch_eq_iff (by simp)).mpr ⟨ready_sample ⟨true, true, true⟩,
      show configure .sampleHelp (["mping-sender", "--help"].map bytesOf) = .help from rfl⟩
    have hrun : run (Process.step .sample) (main .sample
        (launch ⟨true, true, true⟩ .sample .sampleHelp
          (["mping-sender", "--help"].map bytesOf)).1 7) [] = some (.ended .help []) := by
      rw [hlaunch]
      rfl
    refine ⟨_, _, hrun, (exit_success_iff hrun).1.mpr ⟨ready_sample _, _, rfl, ?_, by decide⟩⟩
    intro name
    cases name <;> decide
  · rcases launch_cases ⟨true, true, true⟩ .sample .sampleHelp (["mping-sender"].map bytesOf) with
      ⟨-, hlaunch⟩ | ⟨hnot, -⟩
    · have hrun : run (Process.step .sample) (main .sample
          (launch ⟨true, true, true⟩ .sample .sampleHelp
            (["mping-sender"].map bytesOf)).1 7) [] =
          some (.ended (.caught (.invalidArgument "program_options")) []) := by
        rw [hlaunch]
        rfl
      refine ⟨_, _, hrun, fun hstatus => ?_⟩
      obtain ⟨-, parsed, hparsed, -, hhelp⟩ := (exit_success_iff hrun).1.mp hstatus
      cases hparsed
      exact hhelp rfl
    · exact absurd (ready_sample _) hnot

end MPing
