import MPing.Sender.Step

/-!
# The timer discipline

The handler of the timer arms the timer again before it sends, while earlier sends may still be in
flight. As long as the operating system reports no error, there is always exactly one wait
(`Armed`), every wait is started when there is none, right after the expiry was set one second
ahead, and none is ever cancelled (`timer_discipline`).
-/

namespace MPing

open Infra World

/-- The operating system reports an error. A wait the program cancels itself does not count. -/
def Event.hostError : Event → Bool
  | .timerCompleted ec _ => ec.failed
  | .timerAborted _ => false
  | .sendCompleted _ ec _ => ec.failed

/-- The calls of `async_wait` so far. -/
def World.waits (w : World) : Nat := w.trace.countP fun m => m.call == .asyncWait

/-! ## Moments -/

/-- The two calls of `schedule_send`. -/
def Call.arms : Call → Bool
  | .expiresAfter _ => true
  | .asyncWait => true
  | _ => false

/--
What must hold at every call: the timer has no wait where it is armed, one wait while a send
handler runs, and never two.
-/
structure Moment.Disciplined (m : Moment) : Prop where
  arming : m.call.arms = true → m.timer = { pending := 0, aborted := 0 }
  sending : m.context = .sendHandler → m.timer = { pending := 1, aborted := 0 }
  single : m.timer.pending + m.timer.aborted ≤ 1

/-- The moments of a successful timer handler, entered when its wait was the only one. -/
theorem disciplined_expired {w : World} (h : w.sender.timer = { pending := 1, aborted := 0 })
    (hw : ∀ m ∈ w.trace, m.Disciplined) (now : Int64) :
    ∀ m ∈ (w.expired now).trace, m.Disciplined := by
  rw [expired_trace, List.forall_mem_append]
  refine ⟨hw, ?_⟩
  have htake : w.takeWait.sender.timer = { pending := 0, aborted := 0 } := by
    simp [takeWait, h]
  simp only [htake, List.forall_mem_cons, List.not_mem_nil, false_implies, implies_true, and_true]
  refine ⟨?_, ?_, ?_, ?_, ?_⟩ <;>
    constructor <;> simp [Call.arms, SteadyTimer.expiresAfter, SteadyTimer.asyncWait]

/-- A send handler leaves the timer alone. -/
theorem disciplined_reported {w : World} (h : w.sender.timer = { pending := 1, aborted := 0 })
    (hw : ∀ m ∈ w.trace, m.Disciplined) (outcome : Except Exception Unit) :
    ∀ m ∈ (w.reported .sendHandler outcome).trace, m.Disciplined := by
  have hmoment : ∀ m : Moment, m.call.arms = false → m.timer = w.sender.timer →
      m.Disciplined := by
    intro m hcall htimer
    exact ⟨by simp [hcall], fun _ => htimer.trans h, by simp [htimer, h]⟩
  simp only [reported, List.forall_mem_append, List.forall_mem_cons]
  refine ⟨hw, hmoment _ rfl rfl, ?_⟩
  split
  · exact List.forall_mem_singleton.mpr (hmoment _ rfl rfl)
  · simp

/-! ## Setting the expiry -/

/-- Every `async_wait` comes right after an `expires_after` of one second in the same handler. -/
def SetBeforeWait (moments : List Moment) : Prop :=
  ∀ i m, moments[i]? = some m → m.call = .asyncWait →
    ∃ j m', i = j + 1 ∧ moments[j]? = some m' ∧ m'.call = .expiresAfter 1 ∧ m'.context = m.context

theorem SetBeforeWait.append {as bs : List Moment} (has : SetBeforeWait as)
    (hbs : SetBeforeWait bs) : SetBeforeWait (as ++ bs) := by
  intro i m hi hcall
  by_cases hlt : i < as.length
  · rw [List.getElem?_append_left hlt] at hi
    obtain ⟨j, m', rfl, hj, hset⟩ := has i m hi hcall
    refine ⟨j, m', rfl, ?_, hset⟩
    rw [List.getElem?_append_left (by omega)]
    exact hj
  · rw [List.getElem?_append_right (by omega)] at hi
    obtain ⟨j, m', hij, hj, hset⟩ := hbs _ m hi hcall
    refine ⟨as.length + j, m', by omega, ?_, hset⟩
    rw [List.getElem?_append_right (by omega), Nat.add_sub_cancel_left]
    exact hj

theorem setBeforeWait_of_forall {moments : List Moment}
    (h : ∀ m ∈ moments, m.call ≠ .asyncWait) : SetBeforeWait moments :=
  fun _ m hi hcall => absurd hcall (h m (List.mem_of_getElem? hi))

theorem setBeforeWait_expired {w : World} (h : SetBeforeWait w.trace) (now : Int64) :
    SetBeforeWait (w.expired now).trace := by
  rw [expired_trace]
  refine h.append ?_
  intro i m hi hcall
  -- only the third of the five calls is an `async_wait`
  obtain _ | _ | _ | _ | _ | i := i
  case succ.succ.zero =>
    obtain rfl := Option.some.inj hi
    exact ⟨1, _, rfl, rfl, rfl, rfl⟩
  all_goals
    first
    | obtain rfl := Option.some.inj hi
      cases hcall
    | cases hi

theorem setBeforeWait_reported {w : World} (h : SetBeforeWait w.trace) (context : Context)
    (outcome : Except Exception Unit) : SetBeforeWait (w.reported context outcome).trace := by
  refine h.append (setBeforeWait_of_forall ?_)
  rw [List.forall_mem_cons]
  refine ⟨by simp, ?_⟩
  split <;> simp

/-! ## The invariant -/

/-- Between two handlers of a run without errors. -/
structure Armed (es : List Event) (w : World) : Prop where
  thrown : w.thrown = none
  timer : w.sender.timer = { pending := 1, aborted := 0 }
  moments : ∀ m ∈ w.trace, m.Disciplined
  setBefore : SetBeforeWait w.trace
  noAbort : ∀ now, Event.timerAborted now ∉ es
  sends : w.sent.length = (readings es).length
  waits : w.waits = (readings es).length + 1

theorem armed_initial (a : Sender.Arguments) (pid : UInt32) (srcHost destHost : Address)
    (index : UInt32) : Armed [] (initial a pid srcHost destHost index) where
  thrown := rfl
  timer := rfl
  moments := by
    simp only [initial, List.forall_mem_cons, List.not_mem_nil, false_implies, implies_true,
      and_true]
    constructor <;> constructor <;> simp
  setBefore := by
    intro i m hi hcall
    obtain _ | _ | i := i
    · obtain rfl := Option.some.inj hi
      cases hcall
    · obtain rfl := Option.some.inj hi
      exact ⟨0, _, rfl, rfl, rfl, rfl⟩
    · cases hi
  noAbort := by simp
  sends := rfl
  waits := rfl

/-- **One event keeps the timer armed**, unless the operating system reports an error. -/
theorem armed_step {platform : Platform} {es : List Event} {w w' : World} {e : Event}
    (h : Armed es w) (hstep : w.step platform e = some w') (he : e.hostError = false) :
    Armed (es ++ [e]) w' := by
  obtain ⟨-, heffect⟩ := step_cases hstep
  cases heffect with
  | @expiry ec now hok _ =>
    have hreadings : readings (es ++ [.timerCompleted ec now]) = readings es ++ [now] := by
      simp [readings_concat, Event.reading?, hok]
    refine ⟨h.thrown, ?_, disciplined_expired h.timer h.moments now,
      setBeforeWait_expired h.setBefore now, by simpa using h.noAbort, ?_, ?_⟩
    · simp [expired_sender, takeWait, h.timer, SteadyTimer.expiresAfter, SteadyTimer.asyncWait]
    · simp [sent_expired, hreadings, h.sends]
    · simpa [World.waits, expired_trace, hreadings] using h.waits
  | timerError hfailed _ =>
    rw [Event.hostError, hfailed] at he
    cases he
  | abort haborted =>
    rw [h.timer] at haborted
    cases haborted
  | @sendCompletion i ec n _ =>
    have hec : ec.failed = false := he
    have hreadings : readings (es ++ [.sendCompleted i ec n]) = readings es := by
      simp [readings_concat, Event.reading?]
    refine ⟨?_, h.timer, disciplined_reported h.timer h.moments _,
      setBeforeWait_reported h.setBefore _ _, by simpa using h.noAbort, ?_, ?_⟩
    · simp [hec, reported, takeSend, h.thrown]
    · rw [sent_reported, hreadings]
      exact h.sends
    · simpa [World.waits, reported, takeSend, hec, hreadings] using h.waits

/-- A run without errors keeps the timer armed. -/
theorem armed_of_reaches {platform : Platform} {a : Sender.Arguments} {pid : UInt32}
    {es : List Event} {w : World} (h : Sender.Reaches platform a pid es w)
    (hok : ∀ e ∈ es, e.hostError = false) : Armed es w := by
  obtain ⟨w₀, hnew, hrun⟩ := h
  obtain ⟨srcHost, destHost, index, -, -, -, rfl⟩ := Sender.new_ok hnew
  refine run_invariant (I := fun es w => (∀ e ∈ es, e.hostError = false) → Armed es w)
    (fun _ => armed_initial a pid srcHost destHost index) ?_ hrun hok
  intro es w e w' _ ih hstep hok
  rw [List.forall_mem_append] at hok
  exact armed_step (ih hok.1) hstep (hok.2 e (by simp))

/--
**The timer discipline.**

In every state that is reached without an error there is one wait and none was cancelled. It was
also so at every moment of every send handler, and there was no wait at all whenever
`schedule_send` called `expires_after` or `async_wait`, so that no wait is ever cancelled and waits
never overlap. Each `async_wait` comes right after the expiry was set one second ahead. There are
as many sends as successful timer completions, and one wait more.
-/
theorem timer_discipline {platform : Platform} {a : Sender.Arguments} {pid : UInt32}
    {es : List Event} {w : World} (h : Sender.Reaches platform a pid es w)
    (hok : ∀ e ∈ es, e.hostError = false) :
    w.sender.timer = { pending := 1, aborted := 0 } ∧
      (∀ m ∈ w.trace, m.context = .sendHandler → m.timer = { pending := 1, aborted := 0 }) ∧
      (∀ m ∈ w.trace, ∀ seconds, m.call = .expiresAfter seconds →
        m.timer = { pending := 0, aborted := 0 }) ∧
      (∀ m ∈ w.trace, m.call = .asyncWait → m.timer = { pending := 0, aborted := 0 }) ∧
      SetBeforeWait w.trace ∧
      (∀ m ∈ w.trace, m.timer.pending + m.timer.aborted ≤ 1) ∧
      (∀ now, Event.timerAborted now ∉ es ∧ w.step platform (.timerAborted now) = none) ∧
      w.sent.length = (readings es).length ∧ w.waits = (readings es).length + 1 := by
  have harmed := armed_of_reaches h hok
  refine ⟨harmed.timer, ?_, ?_, ?_, harmed.setBefore, ?_, ?_, harmed.sends, harmed.waits⟩
  · intro m hm hcontext
    exact (harmed.moments m hm).sending hcontext
  · intro m hm seconds hcall
    exact (harmed.moments m hm).arming (by rw [hcall]; rfl)
  · intro m hm hcall
    exact (harmed.moments m hm).arming (by rw [hcall]; rfl)
  · intro m hm
    exact (harmed.moments m hm).single
  · intro now
    refine ⟨harmed.noAbort now, ?_⟩
    simp [World.step, harmed.timer]

/-- Two timer completions, with a send completion between them. -/
theorem timer_discipline_sample :
    ∃ w, Sender.Reaches .sample .sample 7
        [.timerCompleted ⟨0⟩ 5, .sendCompleted 0 ⟨0⟩ 288, .timerCompleted ⟨0⟩ 9] w ∧
      w.sender.timer = { pending := 1, aborted := 0 } ∧ w.sent.length = 2 := by
  obtain ⟨w, hw⟩ : ∃ w, Sender.Reaches .sample .sample 7
      [.timerCompleted ⟨0⟩ 5, .sendCompleted 0 ⟨0⟩ 288, .timerCompleted ⟨0⟩ 9] w :=
    ⟨_, _, rfl, rfl⟩
  obtain ⟨htimer, -, -, -, -, -, -, hsends, -⟩ := timer_discipline hw (by decide)
  exact ⟨w, hw, htimer, hsends⟩

end MPing
