import MPing.Sender.Timer

/-!
# `main`

The process around the sender (`main.cpp`): the `try` block up to `io.run()`, and the two ways out.
What comes before the sender (capabilities, Landlock, seccomp, the command line) ends in one of the
ways of `Startup`.

Of `io.run()` is assumed what Asio documents: it returns only when no work is outstanding, and an
exception of a handler leaves it before another handler runs.

* `main_failStop` — an error ends the process with `EXIT_FAILURE` and nothing more is sent; without
  an error the process keeps running
-/

namespace MPing

open Infra World

/-! ## The process -/

/-- The options of the command line that reach the sender. -/
structure Configuration where
  bindAddress : String
  bindPort : UInt16
  address : String
  port : UInt16
  ttl : UInt8
  interfaceName : String

/-- How the part of `main` before the sender ends. -/
inductive Startup where
  | threw (e : Exception)
  /-- `--help`: `Configuration` prints the options and calls `std::exit(EXIT_SUCCESS)`. -/
  | help
  | configured (config : Configuration)

/-- The ways out of the process. -/
inductive Termination where
  /-- `return EXIT_SUCCESS`, after `io.run()` returned. -/
  | returned
  | help
  /-- The `catch` block, which calls `std::exit(EXIT_FAILURE)`. -/
  | caught (e : Exception)
deriving DecidableEq, Repr

def exitSuccess : Nat := 0

def exitFailure : Nat := 1

def Termination.status : Termination → Nat
  | .returned => exitSuccess
  | .help => exitSuccess
  | .caught _ => exitFailure

/-- The process is in `io.run()`, or it has ended after handing over some datagrams. -/
inductive Process where
  | running (w : World)
  | ended (how : Termination) (sent : List Datagram)

def Process.sent : Process → List Datagram
  | .running w => w.sent
  | .ended _ sent => sent

/-- The handler `main` installs twice. -/
def errorHandler : ErrorHandler := fun _ => .error (.runtimeError "Fatal error")

def Configuration.arguments (config : Configuration) : Sender.Arguments where
  networkErrorHandler := errorHandler
  timerErrorHandler := errorHandler
  bindAddress := config.bindAddress
  bindPort := config.bindPort
  address := config.address
  port := config.port
  ttl := config.ttl
  interface := config.interfaceName

/-- `main` up to the call of `io.run()`. -/
def main (platform : Platform) (startup : Startup) (pid : UInt32) : Process :=
  match startup with
  | .threw e => .ended (.caught e) []
  | .help => .ended .help []
  | .configured config =>
    match Sender.new platform config.arguments pid with
    | .ok w => .running w
    | .error e => .ended (.caught e) []

/-- What happens inside `io.run()`: a handler runs, or the loop returns. -/
inductive ProcessEvent where
  | completion (e : Event)
  | runReturns
deriving DecidableEq, Repr

/-- Outstanding work: waits and sends whose handler has not run. -/
def World.hasWork (w : World) : Bool :=
  0 < w.sender.timer.pending || 0 < w.sender.timer.aborted ||
    !w.sender.socket.socket.pending.isEmpty

def Process.step (platform : Platform) : Process → ProcessEvent → Option Process
  | .running w, .completion e => do
    let w' ← w.step platform e
    match w'.thrown with
    | none => return .running w'
    | some e => return .ended (.caught e) w'.sent
  | .running w, .runReturns => if w.hasWork then none else some (.ended .returned w.sent)
  | .ended .., _ => none

/-! ## One completion -/

/-- The code the handler sees. -/
def Event.code : Event → ErrorCode
  | .timerCompleted ec _ => ec
  | .timerAborted _ => .operationAborted
  | .sendCompleted _ ec _ => ec

theorem Event.hostError_of_code {e : Event} (h : e.code.failed = false) : e.hostError = false := by
  cases e with
  | timerCompleted ec now => exact h
  | timerAborted now => rfl
  | sendCompleted i ec n => exact h

/-- The handlers of `main` throw on every error, before anything is sent. -/
theorem step_thrown {platform : Platform} {w w' : World} {e : Event} (hthrown : w.thrown = none)
    (htimer : w.sender.timerErrorHandler = errorHandler)
    (hnetwork : w.sender.socket.errorHandler = errorHandler)
    (hstep : w.step platform e = some w') :
    (e.code.failed = false ∧ w'.thrown = none) ∨
      (e.code.failed = true ∧ w'.thrown = some (.runtimeError "Fatal error") ∧
        w'.sent = w.sent) := by
  obtain ⟨-, heffect⟩ := step_cases hstep
  cases heffect with
  | expiry hok _ => exact Or.inl ⟨hok, hthrown⟩
  | timerError hfailed _ =>
    exact Or.inr ⟨hfailed, by simp [reported, htimer, errorHandler], sent_reported ..⟩
  | abort _ => exact Or.inr ⟨rfl, by simp [reported, htimer, errorHandler], sent_reported ..⟩
  | @sendCompletion i ec n _ =>
    cases hec : ec.failed with
    | false => exact Or.inl ⟨hec, by simpa [reported, takeSend] using hthrown⟩
    | true => exact Or.inr ⟨hec, by simp [reported, hnetwork, errorHandler], sent_reported ..⟩

/-! ## Runs of the process -/

/-- An ended process takes no event. -/
theorem run_ended {platform : Platform} {how : Termination} {sent : List Datagram}
    {es : List ProcessEvent} {p : Process}
    (h : run (Process.step platform) (.ended how sent) es = some p) : p = .ended how sent := by
  cases es with
  | nil =>
    cases h
    rfl
  | cons e es =>
    obtain ⟨q, hq, -⟩ := run_cons_eq_some.mp h
    cases hq

/--
What a process looks like after the events `es`.

While it is in `io.run()`, all of them were completions without an error. Once it has ended, either
it never got to `io.run()`, or the last of them was the first error.
-/
def Outcome (platform : Platform) (startup : Startup) (pid : UInt32) (es : List ProcessEvent) :
    Process → Prop
  | .running w => ∃ (config : Configuration) (es' : List Event),
      startup = .configured config ∧ es = es'.map .completion ∧
      Sender.Reaches platform config.arguments pid es' w ∧ ∀ e ∈ es', e.code.failed = false
  | .ended how sent =>
    (es = [] ∧ how ≠ .returned ∧ main platform startup pid = .ended how sent) ∨
      ∃ (es' : List Event) (e : Event) (q : Process), es = es'.map .completion ++ [.completion e] ∧
        (∀ e ∈ es', e.code.failed = false) ∧ e.code.failed = true ∧
        run (Process.step platform) (main platform startup pid) (es'.map .completion) = some q ∧
        how = .caught (.runtimeError "Fatal error") ∧ sent = q.sent

section Runs

variable {platform : Platform} {startup : Startup} {pid : UInt32} {es : List ProcessEvent}

theorem outcome_main : Outcome platform startup pid [] (main platform startup pid) := by
  cases startup with
  | threw e => exact Or.inl ⟨rfl, by simp, rfl⟩
  | help => exact Or.inl ⟨rfl, by simp, rfl⟩
  | configured config =>
    cases h : Sender.new platform config.arguments pid with
    | ok w =>
      simp only [main, h]
      exact ⟨config, [], rfl, rfl, ⟨w, h, rfl⟩, by simp⟩
    | error e =>
      simp only [main, h]
      exact Or.inl ⟨rfl, by simp, by simp [main, h]⟩

/-- In `io.run()` there is a wait, so the loop has work. -/
theorem armed_of_outcome {w : World} (h : Outcome platform startup pid es (.running w)) :
    w.thrown = none ∧ w.sender.timer.pending = 1 ∧ w.hasWork = true := by
  obtain ⟨config, es', -, -, hreach, hok⟩ := h
  have harmed := armed_of_reaches hreach fun e he => Event.hostError_of_code (hok e he)
  exact ⟨harmed.thrown, by rw [harmed.timer], by simp [World.hasWork, harmed.timer]⟩

/-- **One event of the process.** -/
theorem outcome_step {p p' : Process} {e : ProcessEvent}
    (hrun : run (Process.step platform) (main platform startup pid) es = some p)
    (h : Outcome platform startup pid es p) (hstep : p.step platform e = some p') :
    Outcome platform startup pid (es ++ [e]) p' := by
  cases p with
  | ended how sent => cases hstep
  | running w =>
    obtain ⟨hthrown, -, hwork⟩ := armed_of_outcome h
    cases e with
    | runReturns =>
      rw [Process.step, if_pos hwork] at hstep
      cases hstep
    | completion e =>
      obtain ⟨config, es', hstartup, rfl, hreach, hok⟩ := h
      obtain ⟨_, _, _, -, -, -, hfixed⟩ := Sender.fixed_of_reaches hreach
      obtain ⟨w', hw', hstep⟩ := Option.bind_eq_some_iff.mp hstep
      rcases step_thrown hthrown hfixed.timerErrorHandler hfixed.networkErrorHandler hw' with
        ⟨hcode, hnone⟩ | ⟨hcode, hsome, hsent⟩
      · simp only [hnone, Option.pure_def, Option.some.injEq] at hstep
        subst hstep
        obtain ⟨w₀, hnew, hrun'⟩ := hreach
        refine ⟨config, es' ++ [e], hstartup, by simp, ⟨w₀, hnew, ?_⟩, ?_⟩
        · exact run_concat_eq_some.mpr ⟨w, hrun', hw'⟩
        · rw [List.forall_mem_append]
          exact ⟨hok, by simpa using hcode⟩
      · simp only [hsome, Option.pure_def, Option.some.injEq] at hstep
        subst hstep
        exact Or.inr ⟨es', e, .running w, rfl, hok, hcode, hrun, rfl, hsent⟩

theorem outcome_of_run {p : Process}
    (h : run (Process.step platform) (main platform startup pid) es = some p) :
    Outcome platform startup pid es p :=
  run_invariant outcome_main (fun _ _ _ _ => outcome_step) h

theorem code_of_mem {es' : List Event} {e : Event} (hok : ∀ e ∈ es', e.code.failed = false)
    (h : ProcessEvent.completion e ∈ es'.map .completion) : e.code.failed = false := by
  obtain ⟨e', he', heq⟩ := List.mem_map.mp h
  cases heq
  exact hok e he'

/-- An error stands at the end of a run. -/
theorem error_is_last {es' : List Event} {pre post : List ProcessEvent} {e e₁ : Event}
    (hok : ∀ e ∈ es', e.code.failed = false) (he : e.code.failed = true)
    (h : es'.map .completion ++ [.completion e₁] = pre ++ .completion e :: post) :
    post = [] ∧ pre = es'.map .completion := by
  rcases List.eq_nil_or_concat post with rfl | ⟨post, e₂, rfl⟩
  · exact ⟨rfl, (List.append_inj' h rfl).1.symm⟩
  · -- an error before the last event would be one of `es'`
    have happend : es'.map .completion ++ [.completion e₁] =
        (pre ++ .completion e :: post) ++ [e₂] := by
      rw [h]
      simp
    have hcode := code_of_mem (e := e) hok (by rw [(List.append_inj' happend rfl).1]; simp)
    rw [he] at hcode
    cases hcode

end Runs

/--
**Fail-stop.**

A completion with an error is the last thing that happens: the process ends in the `catch` block and
no datagram is handed over any more. `return EXIT_SUCCESS` is not reached, because without an error
there is always a wait for which `io.run()` stays.
-/
theorem main_failStop {platform : Platform} {startup : Startup} {pid : UInt32}
    {es : List ProcessEvent} {p : Process}
    (h : run (Process.step platform) (main platform startup pid) es = some p) :
    (∀ (pre : List ProcessEvent) (e : Event) (post : List ProcessEvent),
      es = pre ++ ProcessEvent.completion e :: post → e.code.failed = true →
      post = [] ∧ ∃ q how, run (Process.step platform) (main platform startup pid) pre = some q ∧
        p = .ended how q.sent ∧ how = .caught (.runtimeError "Fatal error") ∧
        how.status = exitFailure) ∧
      (∀ sent, p ≠ .ended .returned sent) ∧
      ((∀ e, ProcessEvent.completion e ∈ es → e.code.failed = false) →
        ∀ w₀, main platform startup pid = .running w₀ →
          ∃ w, p = .running w ∧ w.sender.timer.pending = 1 ∧ w.hasWork = true) := by
  have houtcome := outcome_of_run h
  cases p with
  | running w =>
    obtain ⟨hthrown, hpending, hwork⟩ := armed_of_outcome houtcome
    obtain ⟨config, es', -, rfl, -, hok⟩ := houtcome
    refine ⟨?_, by simp, ?_⟩
    · intro pre e post hes he
      rw [code_of_mem (e := e) hok (by rw [hes]; simp)] at he
      cases he
    · intro _ _ _
      exact ⟨w, rfl, hpending, hwork⟩
  | ended how sent =>
    rcases houtcome with ⟨rfl, hhow, hmain⟩ | ⟨es', e₁, q, rfl, hok, he₁, hq, rfl, rfl⟩
    · refine ⟨by simp, by simpa using hhow, ?_⟩
      intro _ w₀ hw₀
      rw [hmain] at hw₀
      cases hw₀
    · refine ⟨?_, by simp, ?_⟩
      · intro pre e post hes he
        obtain ⟨rfl, rfl⟩ := error_is_last hok he hes
        exact ⟨rfl, q, _, hq, rfl, rfl, rfl⟩
      · intro hall
        have hcode := hall e₁ (by simp)
        rw [he₁] at hcode
        cases hcode

/-- The error of an old send, after a newer one was issued. -/
theorem main_failStop_sample :
    ∃ p sent, run (Process.step .sample)
        (main .sample (.configured
          { bindAddress := "2001:db8::1", bindPort := 4321, address := "ff2e::42", port := 4321,
            ttl := 64, interfaceName := "eth0" }) 7)
        [.completion (.timerCompleted ⟨0⟩ 5), .completion (.timerCompleted ⟨0⟩ 9),
          .completion (.sendCompleted 0 ⟨101⟩ 0)] = some p ∧
      p = .ended (.caught (.runtimeError "Fatal error")) sent := by
  obtain ⟨p, hp⟩ : ∃ p, run (Process.step .sample)
      (main .sample (.configured
        { bindAddress := "2001:db8::1", bindPort := 4321, address := "ff2e::42", port := 4321,
          ttl := 64, interfaceName := "eth0" }) 7)
      [.completion (.timerCompleted ⟨0⟩ 5), .completion (.timerCompleted ⟨0⟩ 9),
        .completion (.sendCompleted 0 ⟨101⟩ 0)] = some p := ⟨_, rfl⟩
  obtain ⟨-, q, how, -, hended, rfl, -⟩ := (main_failStop hp).1
    [.completion (.timerCompleted ⟨0⟩ 5), .completion (.timerCompleted ⟨0⟩ 9)] _ [] rfl rfl
  exact ⟨p, q.sent, hp, hended⟩

end MPing
