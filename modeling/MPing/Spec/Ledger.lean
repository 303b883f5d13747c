import Mathlib.Data.List.Perm.Basic
import Mathlib.Data.List.InsertIdx
import MPing.Sender.Step

/-!
# What becomes of a send

A ledger numbers the sends of a program and knows of each whether its handler has run. A send that
is neither in flight nor completed, or completed twice, cannot be written down.

The socket of the sender keeps such a ledger (`sends_accounted`): whatever the order in which sends
complete, every datagram that was handed over is either still in flight, as it was handed over, or
has had its handler run once.
-/

namespace MPing.Spec

open Infra World

/-! ## The ledger -/

/-- Sends by their number, in the order they were issued. -/
structure Ledger where
  issued : Nat
  inFlight : List Nat
  /-- In the order of their handlers. -/
  completed : List Nat
  ordered : inFlight.Pairwise (· < ·)
  accounted : (completed ++ inFlight).Perm (List.range issued)

/-- What a ledger records. -/
inductive Entry where
  | issue
  /-- The handler of the `i`-th send in flight runs. -/
  | complete (i : Nat)
deriving DecidableEq, Repr

namespace Ledger

def start : Ledger := ⟨0, [], [], by simp, by simp⟩

/-- A number in flight was issued. -/
theorem lt_issued (l : Ledger) {k : Nat} (h : k ∈ l.inFlight) : k < l.issued :=
  List.mem_range.mp (l.accounted.mem_iff.mp (List.mem_append_right _ h))

def issue (l : Ledger) : Ledger where
  issued := l.issued + 1
  inFlight := l.inFlight ++ [l.issued]
  completed := l.completed
  ordered := by
    refine List.pairwise_append.mpr ⟨l.ordered, List.pairwise_singleton _ _, ?_⟩
    intro j hj k hk
    rw [List.mem_singleton.mp hk]
    exact l.lt_issued hj
  accounted := by
    rw [List.range_succ, ← List.append_assoc]
    exact l.accounted.append_right _

def complete (l : Ledger) (i : Nat) (h : i < l.inFlight.length) : Ledger where
  issued := l.issued
  inFlight := l.inFlight.eraseIdx i
  completed := l.completed ++ [l.inFlight[i]]
  ordered := l.ordered.eraseIdx i
  accounted := by
    rw [List.append_assoc, List.singleton_append]
    exact ((List.getElem_cons_eraseIdx_perm h).append_left _).trans l.accounted

def step (l : Ledger) : Entry → Option Ledger
  | .issue => some l.issue
  | .complete i => if h : i < l.inFlight.length then some (l.complete i h) else none

/-- There are as many completed sends as completions were recorded. -/
theorem length_completed {entries : List Entry} {l : Ledger}
    (h : run step start entries = some l) :
    l.completed.length = entries.countP (· ≠ .issue) := by
  refine run_invariant (I := fun entries l => l.completed.length = entries.countP (· ≠ .issue))
    rfl ?_ h
  intro entries l e l' _ hl hstep
  cases e with
  | issue =>
    cases hstep
    simpa [issue] using hl
  | complete i =>
    simp only [step] at hstep
    split at hstep
    · cases hstep
      simp [complete, hl]
    · cases hstep

end Ledger

/-! ## The ledger of the socket -/

/-- The entry an event of the sender makes. -/
def entryOf : Event → List Entry
  | .timerCompleted ec _ => if ec.failed then [] else [.issue]
  | .timerAborted _ => []
  | .sendCompleted i _ _ => [.complete i]

/-- The sends in flight are those of the ledger, and carry what was handed over. -/
structure Accounts (w : World) (l : Ledger) : Prop where
  issued : l.issued = w.sent.length
  pending : w.sender.socket.socket.pending.map some = l.inFlight.map (w.sent[·]?)

theorem accounts_initial (a : Sender.Arguments) (pid : UInt32) (srcHost destHost : Address)
    (index : UInt32) : Accounts (initial a pid srcHost destHost index) .start :=
  ⟨rfl, rfl⟩

theorem Accounts.length_inFlight {w : World} {l : Ledger} (h : Accounts w l) :
    l.inFlight.length = w.sender.socket.socket.pending.length := by
  have hlength := congrArg List.length h.pending
  rw [List.length_map, List.length_map] at hlength
  exact hlength.symm

/-- A successful timer completion issues a send. -/
theorem accounts_expired {w : World} {l : Ledger} (h : Accounts w l) (now : Int64) :
    Accounts (w.expired now) l.issue where
  issued := by
    rw [sent_expired, List.length_append, ← h.issued]
    rfl
  pending := by
    have hold : l.inFlight.map ((w.sent ++ [w.nextDatagram now])[·]?) =
        l.inFlight.map (w.sent[·]?) := by
      refine List.map_congr_left fun k hk => ?_
      exact List.getElem?_append_left (h.issued ▸ l.lt_issued hk)
    have hnew : (w.sent ++ [w.nextDatagram now])[l.issued]? = some (w.nextDatagram now) := by
      rw [h.issued, List.getElem?_concat_length]
    rw [expired_sender, sent_expired]
    simp only [UdpSocket.asyncSendTo, Ledger.issue, List.map_append, List.map_cons, List.map_nil,
      hold, hnew, h.pending]

/-- A handler that only reports keeps the ledger, if it took no send off the socket. -/
theorem accounts_reported {w w' : World} {l : Ledger} {context : Context}
    {outcome : Except Exception Unit} (h : Accounts w l)
    (hpending : w'.sender.socket.socket.pending = w.sender.socket.socket.pending)
    (hsent : w'.sent = w.sent) : Accounts (w'.reported context outcome) l where
  issued := by rw [sent_reported, hsent, h.issued]
  pending := by rw [reported_sender, sent_reported, hpending, hsent, h.pending]

/-- The completion of a send takes it out of the ledger. -/
theorem accounts_completed {w : World} {l : Ledger} (h : Accounts w l) {i : Nat}
    (hi : i < l.inFlight.length) (context : Context) (outcome : Except Exception Unit) :
    Accounts ((w.takeSend i).reported context outcome) (l.complete i hi) where
  issued := by
    rw [sent_reported]
    exact h.issued
  pending := by
    rw [reported_sender, sent_reported]
    show (w.sender.socket.socket.pending.eraseIdx i).map some =
      (l.inFlight.eraseIdx i).map (w.sent[·]?)
    rw [← List.eraseIdx_map, ← List.eraseIdx_map, h.pending]

/-- **An event makes its entry**, whatever it reports. -/
theorem accounts_step {platform : Platform} {w w' : World} {l : Ledger} {e : Event}
    (h : Accounts w l) (hstep : w.step platform e = some w') :
    ∃ l', run Ledger.step l (entryOf e) = some l' ∧ Accounts w' l' := by
  obtain ⟨-, heffect⟩ := step_cases hstep
  cases heffect with
  | @expiry ec now hok _ =>
    refine ⟨l.issue, ?_, accounts_expired h now⟩
    simp [entryOf, hok, run_cons, Ledger.step]
  | @timerError ec now hfailed _ =>
    refine ⟨l, ?_, accounts_reported h rfl rfl⟩
    simp [entryOf, hfailed]
  | abort _ => exact ⟨l, rfl, accounts_reported h rfl rfl⟩
  | @sendCompletion i ec n hi =>
    rw [← h.length_inFlight] at hi
    refine ⟨l.complete i hi, ?_, accounts_completed h hi _ _⟩
    simp [entryOf, run_cons, Ledger.step, hi]

/-- Every run of the sender keeps a ledger. -/
theorem sender_refines_ledger {platform : Platform} {w₀ w : World} {es : List Event}
    (h₀ : Accounts w₀ .start) (hrun : run (World.step platform) w₀ es = some w) :
    ∃ l, run Ledger.step .start (es.flatMap entryOf) = some l ∧ Accounts w l :=
  run_simulates (fun _ _ _ _ => accounts_step) h₀ hrun

theorem countP_entries (es : List Event) :
    (es.flatMap entryOf).countP (· ≠ .issue) = es.countP Event.isSendCompleted := by
  induction es with
  | nil => rfl
  | cons e es ih =>
    rw [List.flatMap_cons, List.countP_append, ih, List.countP_cons]
    cases e with
    | timerCompleted ec now =>
      simp only [entryOf, Event.isSendCompleted]
      split <;> simp
    | timerAborted now => simp [entryOf, Event.isSendCompleted]
    | sendCompleted i ec n => simp [entryOf, Event.isSendCompleted, Nat.add_comm]

/--
**No send is lost, and no handler runs twice.**

Every run keeps a ledger of its sends: numbered in the order they were handed over, each is either
completed, once, or in flight. Those in flight are, in this order, the sends the socket still holds,
with the datagrams that were handed over; completed are as many as send handlers have run.
-/
theorem sends_accounted {platform : Platform} {a : Sender.Arguments} {pid : UInt32}
    {es : List Event} {w : World} (h : Sender.Reaches platform a pid es w) :
    ∃ l : Ledger, run Ledger.step .start (es.flatMap entryOf) = some l ∧
      (l.completed ++ l.inFlight).Perm (List.range w.sent.length) ∧
      l.inFlight.Pairwise (· < ·) ∧
      w.sender.socket.socket.pending.map some = l.inFlight.map (w.sent[·]?) ∧
      l.completed.length = es.countP Event.isSendCompleted ∧
      w.sent.length = es.countP Event.isSendCompleted + w.sender.socket.socket.pending.length := by
  obtain ⟨w₀, hnew, hrun⟩ := h
  obtain ⟨srcHost, destHost, index, -, -, -, rfl⟩ := Sender.new_ok hnew
  obtain ⟨l, hl, haccounts⟩ :=
    sender_refines_ledger (accounts_initial a pid srcHost destHost index) hrun
  have hcompleted : l.completed.length = es.countP Event.isSendCompleted := by
    rw [Ledger.length_completed hl, countP_entries]
  refine ⟨l, hl, haccounts.issued ▸ l.accounted, l.ordered, haccounts.pending, hcompleted, ?_⟩
  have hlength := l.accounted.length_eq
  rw [List.length_append, List.length_range, hcompleted, haccounts.length_inFlight,
    haccounts.issued] at hlength
  exact hlength.symm

/-- Three sends, of which the second completes first. -/
theorem sends_accounted_sample :
    ∃ w, Sender.Reaches .sample .sample 7
        [.timerCompleted ⟨0⟩ 5, .timerCompleted ⟨0⟩ 9, .sendCompleted 1 ⟨0⟩ 288,
          .timerCompleted ⟨0⟩ 12] w ∧
      w.sent.length = 1 + w.sender.socket.socket.pending.length := by
  obtain ⟨w, hw⟩ : ∃ w, Sender.Reaches .sample .sample 7
      [.timerCompleted ⟨0⟩ 5, .timerCompleted ⟨0⟩ 9, .sendCompleted 1 ⟨0⟩ 288,
        .timerCompleted ⟨0⟩ 12] w := ⟨_, _, rfl, rfl⟩
  obtain ⟨l, -, -, -, -, -, hlength⟩ := sends_accounted hw
  exact ⟨w, hw, hlength⟩

end MPing.Spec
