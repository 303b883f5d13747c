import MPing.Sender.Timer

/-!
# Timer and sends side by side

The sender does not wait for its sends: they complete in any order and at any time between two
expiries of the timer. Here is what that freedom can and cannot change.

* `sends_postponed` — a run may leave all its send completions for the end and still be the same
  run to everyone outside
* `sender_never_blocks` — the timer goes on however many sends are in flight, and nothing bounds
  their number
-/

namespace MPing

open Infra World

/-! ## What an observer sees -/

/-- The same object and the same datagrams; the calls in between may differ in their order. -/
structure World.Alike (w w' : World) : Prop where
  sender : w.sender = w'.sender
  thrown : w.thrown = w'.thrown
  sent : w.sent = w'.sent

namespace World.Alike

theorem refl (w : World) : w.Alike w := ⟨rfl, rfl, rfl⟩

theorem trans {w₁ w₂ w₃ : World} (h₁ : w₁.Alike w₂) (h₂ : w₂.Alike w₃) : w₁.Alike w₃ :=
  ⟨h₁.sender.trans h₂.sender, h₁.thrown.trans h₂.thrown, h₁.sent.trans h₂.sent⟩

theorem symm {w₁ w₂ : World} (h : w₁.Alike w₂) : w₂.Alike w₁ :=
  ⟨h.sender.symm, h.thrown.symm, h.sent.symm⟩

variable {w w' : World}

theorem expired (h : w.Alike w') (now : Int64) : (w.expired now).Alike (w'.expired now) where
  sender := by
    rw [expired_sender, expired_sender]
    simp only [nextDatagram, takeWait, h.sender]
  thrown := h.thrown
  sent := by
    rw [sent_expired, sent_expired, h.sent]
    simp only [nextDatagram, h.sender]

theorem reported (h : w.Alike w') (context : Context) (outcome : Except Exception Unit) :
    (w.reported context outcome).Alike (w'.reported context outcome) where
  sender := h.sender
  thrown := by
    simp only [World.reported]
    rw [h.thrown]
  sent := by rw [sent_reported, sent_reported, h.sent]

theorem takeWait (h : w.Alike w') : w.takeWait.Alike w'.takeWait where
  sender := by simp only [World.takeWait, h.sender]
  thrown := h.thrown
  sent := h.sent

theorem takeAborted (h : w.Alike w') : w.takeAborted.Alike w'.takeAborted where
  sender := by simp only [World.takeAborted, h.sender]
  thrown := h.thrown
  sent := h.sent

theorem takeSend (h : w.Alike w') (i : Nat) : (w.takeSend i).Alike (w'.takeSend i) where
  sender := by simp only [World.takeSend, h.sender]
  thrown := h.thrown
  sent := h.sent

/-- **Worlds that look alike take the same events** and look alike after them. -/
theorem step {platform : Platform} {e : Event} {t : World} (h : w.Alike w')
    (hstep : w.step platform e = some t) :
    ∃ t', w'.step platform e = some t' ∧ t.Alike t' := by
  obtain ⟨hthrown, heffect⟩ := step_cases hstep
  have hthrown' : w'.thrown = none := h.thrown ▸ hthrown
  cases heffect with
  | @expiry ec now hok hpending =>
    rw [h.sender] at hpending
    exact ⟨_, step_of_effect hthrown' (.expiry hok hpending), h.expired now⟩
  | @timerError ec now hfailed hpending =>
    rw [h.sender] at hpending ⊢
    exact ⟨_, step_of_effect hthrown' (.timerError hfailed hpending), h.takeWait.reported _ _⟩
  | @abort now haborted =>
    rw [h.sender] at haborted ⊢
    exact ⟨_, step_of_effect hthrown' (.abort haborted), h.takeAborted.reported _ _⟩
  | @sendCompletion i ec n hi =>
    rw [h.sender] at hi ⊢
    exact ⟨_, step_of_effect hthrown' (.sendCompletion hi), (h.takeSend i).reported _ _⟩

end World.Alike

/-! ## A send completion can wait -/

/-- A handler that only reports leaves no exception exactly if it reports none. -/
theorem World.reported_thrown_eq_none {w : World} {context : Context}
    {outcome : Except Exception Unit} :
    (w.reported context outcome).thrown = none ↔ outcome = .ok () ∧ w.thrown = none := by
  cases outcome with
  | ok => simp [reported]
  | error e => simp [reported]

/-- A handler without anything to report is not seen. -/
theorem World.alike_reported_ok (w : World) (context : Context) :
    (w.reported context (.ok ())).Alike w :=
  ⟨rfl, rfl, sent_reported w context (.ok ())⟩

/-- The completion of a send and the expiry of the timer do not touch each other. -/
theorem World.alike_expired_takeSend {w : World} {i : Nat}
    (hi : i < w.sender.socket.socket.pending.length) (now : Int64) :
    ((w.takeSend i).expired now).Alike ((w.expired now).takeSend i) where
  sender := by
    rw [expired_sender]
    simp only [takeSend, expired_sender, UdpSocket.asyncSendTo,
      List.eraseIdx_append_of_lt_length hi]
    rfl
  thrown := rfl
  sent := by
    rw [sent_expired]
    exact (sent_expired w now).symm

/-- A timer handler without anything to report can as well run before the completion of a send. -/
theorem World.alike_reported_takeSend {s : World} {i : Nat} {take : World → World}
    (htake : ∀ {w w' : World}, w.Alike w' → (take w).Alike (take w'))
    (hcomm : take (s.takeSend i) = (take s).takeSend i) :
    ((take ((s.takeSend i).reported .sendHandler (.ok ()))).reported .timerHandler (.ok ())).Alike
      (((take s).reported .timerHandler (.ok ())).takeSend i) := by
  have hbefore := (alike_reported_ok _ .timerHandler).trans
    (htake (alike_reported_ok (s.takeSend i) .sendHandler))
  rw [hcomm] at hbefore
  exact hbefore.trans ((alike_reported_ok (take s) .timerHandler).takeSend i).symm

/--
**A send completion can wait for the next event of the timer.**

The handler of the send did not throw, because the timer's event came after it; so it changed
nothing but the sends in flight, of which the timer only adds one at the end.
-/
theorem step_swap {platform : Platform} {s t u : World} {e f : Event}
    (he : e.isSendCompleted = true) (hf : f.isSendCompleted = false)
    (hse : s.step platform e = some t) (htf : t.step platform f = some u)
    (hu : u.thrown = none) :
    ∃ t' u', s.step platform f = some t' ∧ t'.step platform e = some u' ∧ u.Alike u' := by
  obtain ⟨hthrown, heffect⟩ := step_cases hse
  cases heffect with
  | expiry => cases he
  | timerError => cases he
  | abort => cases he
  | @sendCompletion i ec n hi =>
    obtain ⟨hquiet, hfeffect⟩ := step_cases htf
    obtain ⟨hok, -⟩ := reported_thrown_eq_none.mp hquiet
    rw [hok] at hfeffect
    -- before the send completes, the timer is as it is after
    have ht := alike_reported_ok (s.takeSend i) .sendHandler
    have hreport : ∀ t' : World, t'.sender.socket.errorHandler = s.sender.socket.errorHandler →
        ((t'.takeSend i).reported .sendHandler
          (if ec.failed then t'.sender.socket.errorHandler ec else .ok ())).Alike
        (t'.takeSend i) := by
      intro t' hhandler
      rw [hhandler, hok]
      exact alike_reported_ok _ _
    cases hfeffect with
    | @expiry ec' now hok' hpending =>
      refine ⟨s.expired now, _, step_of_effect hthrown (.expiry hok' hpending),
        step_of_effect hthrown (.sendCompletion ?_), ?_⟩
      · rw [expired_sender]
        simp only [UdpSocket.asyncSendTo, List.length_append, List.length_singleton]
        omega
      · exact ((ht.expired now).trans (alike_expired_takeSend hi now)).trans
          (hreport (s.expired now) rfl).symm
    | @timerError ec' now hfailed hpending =>
      obtain ⟨hok', -⟩ := reported_thrown_eq_none.mp hu
      have hquiet' : (s.takeWait.reported .timerHandler (s.sender.timerErrorHandler ec')).thrown
          = none := reported_thrown_eq_none.mpr ⟨hok', hthrown⟩
      refine ⟨_, _, step_of_effect hthrown (.timerError hfailed hpending),
        step_of_effect hquiet' (.sendCompletion hi), ?_⟩
      have hhandler : s.sender.timerErrorHandler ec' = .ok () := hok'
      rw [hok', hhandler]
      exact (alike_reported_takeSend Alike.takeWait rfl).trans
        (hreport (s.takeWait.reported .timerHandler (.ok ())) rfl).symm
    | @abort now haborted =>
      obtain ⟨hok', -⟩ := reported_thrown_eq_none.mp hu
      have hquiet' : (s.takeAborted.reported .timerHandler
          (s.sender.timerErrorHandler .operationAborted)).thrown = none :=
        reported_thrown_eq_none.mpr ⟨hok', hthrown⟩
      refine ⟨_, _, step_of_effect hthrown (.abort haborted),
        step_of_effect hquiet' (.sendCompletion hi), ?_⟩
      have hhandler : s.sender.timerErrorHandler .operationAborted = .ok () := hok'
      rw [hok', hhandler]
      exact (alike_reported_takeSend Alike.takeAborted rfl).trans
        (hreport (s.takeAborted.reported .timerHandler (.ok ())) rfl).symm
    | sendCompletion => cases hf

/-- Send completions are the events of a sender that can wait. -/
theorem postponable_step (platform : Platform) :
    Postponable (World.step platform) Event.isSendCompleted World.Alike (·.thrown = none) where
  refl := World.Alike.refl
  trans := World.Alike.trans
  congr := World.Alike.step
  good_of_step := fun hstep _ => (step_cases hstep).1
  good_congr := fun h hthrown => h.thrown ▸ hthrown
  swap := step_swap

/--
**When sends complete does not matter.**

In every run that no exception has ended, all send completions can be left for the end: the timer
events in their order, then the completions in theirs. This is a run again, and it leaves the same
sender, the same sends in flight and the same datagrams behind.
-/
theorem sends_postponed {platform : Platform} {a : Sender.Arguments} {pid : UInt32}
    {es : List Event} {w : World} (h : Sender.Reaches platform a pid es w)
    (hthrown : w.thrown = none) :
    ∃ w', Sender.Reaches platform a pid
        (es.filter (!Event.isSendCompleted ·) ++ es.filter Event.isSendCompleted) w' ∧
      w'.sender = w.sender ∧ w'.sent = w.sent ∧ w'.thrown = none := by
  obtain ⟨w₀, hnew, hrun⟩ := h
  obtain ⟨w', hrun', halike⟩ := (postponable_step platform).run_postpone hrun hthrown
  exact ⟨w', ⟨w₀, hnew, hrun'⟩, halike.sender.symm, halike.sent.symm, halike.thrown ▸ hthrown⟩

/-- Two expiries with a completion between them. -/
theorem sends_postponed_sample :
    ∃ w w', Sender.Reaches .sample .sample 7
        [.timerCompleted ⟨0⟩ 5, .sendCompleted 0 ⟨0⟩ 288, .timerCompleted ⟨0⟩ 9] w ∧
      Sender.Reaches .sample .sample 7
        [.timerCompleted ⟨0⟩ 5, .timerCompleted ⟨0⟩ 9, .sendCompleted 0 ⟨0⟩ 288] w' ∧
      w'.sender = w.sender ∧ w'.sent = w.sent := by
  obtain ⟨w, hw, hthrown⟩ : ∃ w, Sender.Reaches .sample .sample 7
      [.timerCompleted ⟨0⟩ 5, .sendCompleted 0 ⟨0⟩ 288, .timerCompleted ⟨0⟩ 9] w ∧
      w.thrown = none := ⟨_, ⟨_, rfl, rfl⟩, rfl⟩
  obtain ⟨w', hw', hsender, hsent, -⟩ := sends_postponed hw hthrown
  exact ⟨w, w', hw, hw', hsender, hsent⟩

/-! ## The timer does not wait -/

/-- With a wait running, the timer can expire at any reading of the clock. -/
theorem step_expired {platform : Platform} {w : World} (hthrown : w.thrown = none)
    (hpending : 0 < w.sender.timer.pending) (now : Int64) :
    w.step platform (.timerCompleted ⟨0⟩ now) = some (w.expired now) :=
  step_of_effect hthrown (.expiry rfl hpending)

/-- One expiry after the other, without any send completing in between. -/
theorem run_expired (platform : Platform) (ts : List Int64) {w : World} (hthrown : w.thrown = none)
    (hpending : 0 < w.sender.timer.pending) :
    ∃ w' ds, run (World.step platform) w (ts.map (.timerCompleted ⟨0⟩)) = some w' ∧
      ds.length = ts.length ∧ w'.sent = w.sent ++ ds ∧
      w'.sender.socket.socket.pending = w.sender.socket.socket.pending ++ ds := by
  induction ts generalizing w with
  | nil => exact ⟨w, [], rfl, rfl, by simp, by simp⟩
  | cons now ts ih =>
    obtain ⟨w', ds, hrun, hlength, hsent, hflight⟩ := ih (w := w.expired now) hthrown (by
      rw [expired_sender]
      exact Nat.succ_pos _)
    refine ⟨w', w.nextDatagram now :: ds, ?_, ?_, ?_, ?_⟩
    · exact run_cons_eq_some.mpr ⟨_, step_expired hthrown hpending now, hrun⟩
    · rw [List.length_cons, List.length_cons, hlength]
    · rw [hsent, sent_expired, List.append_assoc, List.singleton_append]
    · rw [hflight, expired_sender]
      simp only [UdpSocket.asyncSendTo, List.append_assoc, List.singleton_append]

/--
**The sender never waits for its sends, and nothing bounds how many are in flight.**

After every run without an error, and for any further readings of the clock, the timer can expire
once for each of them without a single send completing: each expiry hands over one more datagram,
and all of them are added to those in flight.
-/
theorem sender_never_blocks {platform : Platform} {a : Sender.Arguments} {pid : UInt32}
    {es : List Event} {w : World} (h : Sender.Reaches platform a pid es w)
    (hok : ∀ e ∈ es, e.hostError = false) (ts : List Int64) :
    ∃ w' ds, Sender.Reaches platform a pid (es ++ ts.map (.timerCompleted ⟨0⟩)) w' ∧
      ds.length = ts.length ∧ w'.sent = w.sent ++ ds ∧
      w'.sender.socket.socket.pending = w.sender.socket.socket.pending ++ ds := by
  have harmed := armed_of_reaches h hok
  obtain ⟨w₀, hnew, hrun⟩ := h
  obtain ⟨w', ds, hrun', hrest⟩ := run_expired platform ts harmed.thrown
    (by rw [harmed.timer]; exact Nat.one_pos)
  exact ⟨w', ds, ⟨w₀, hnew, run_append_eq_some.mpr ⟨w, hrun, hrun'⟩⟩, hrest⟩

/-- A thousand sends in flight. -/
theorem sender_never_blocks_sample :
    ∃ es w, Sender.Reaches .sample .sample 7 es w ∧
      w.sender.socket.socket.pending.length = 1000 := by
  obtain ⟨w₀, hw₀, hflight₀⟩ : ∃ w₀, Sender.Reaches .sample .sample 7 [] w₀ ∧
      w₀.sender.socket.socket.pending = [] := ⟨_, ⟨_, rfl, rfl⟩, rfl⟩
  obtain ⟨w, ds, hw, hlength, -, hflight⟩ :=
    sender_never_blocks hw₀ (by simp) (List.replicate 1000 0)
  refine ⟨_, w, hw, ?_⟩
  rw [hflight, hflight₀, List.nil_append, hlength, List.length_replicate]

end MPing
