import Mathlib.Data.Nat.ModEq
import MPing.Infra.Arrivals
import MPing.Spec.Packet
import MPing.Spec.SenderSound

/-!
# Telling datagrams apart

What two datagrams have to have in common to be the same, byte for byte: within one run, or between
two senders that were started alike and have drawn their pids. And what a receiver can make of the
datagrams of a run that reach it, in whatever order and however often.

* `sent_eq_iff` — pid, number modulo `2^32` and microsecond, and nothing less
* `order_restored` — with a clock that moves on, sorting by time stamps undoes what the network did
  to the datagrams, and their numbers say how many are missing
-/

namespace MPing.Spec

open Infra

/-! ## Time words -/

/-- Two times have the same words exactly if they fall into the same microsecond. -/
theorem words_eq_iff (s s' : MPingState) :
    s.secondsWord = s'.secondsWord ∧ s.microsecondsWord = s'.microsecondsWord ↔
      s.tv.toInt.tdiv 1000 = s'.tv.toInt.tdiv 1000 := by
  constructor
  · rintro ⟨hsec, hmic⟩
    have hseconds := congrArg signedOf hsec
    have hmicroseconds := congrArg signedOf hmic
    rw [signedOf_secondsWord, signedOf_secondsWord] at hseconds
    rw [signedOf_microsecondsWord, signedOf_microsecondsWord] at hmicroseconds
    rw [← seconds_microseconds, ← seconds_microseconds, hseconds, hmicroseconds]
  · intro h
    simp only [MPingState.secondsWord, MPingState.microsecondsWord, secondsOf_eq,
      microsecondsOf_eq, h, and_self]

/-- Packets that differ in number, pid and time at most. -/
theorem announcement_wire_eq_iff {a : Sender.Arguments} {pid pid' : UInt32}
    {srcHost destHost : Address} {beat beat' : Beat Int64} :
    (announcement a pid srcHost destHost beat).wire =
        (announcement a pid' srcHost destHost beat').wire ↔
      pid = pid' ∧ beat.number ≡ beat'.number [MOD 2 ^ 32] ∧
        beat.time.toInt.tdiv 1000 = beat'.time.toInt.tdiv 1000 := by
  have hwords : _ ↔ beat.time.toInt.tdiv 1000 = beat'.time.toInt.tdiv 1000 :=
    words_eq_iff (announcement a pid srcHost destHost beat)
      (announcement a pid' srcHost destHost beat')
  rw [← hwords]
  constructor
  · intro h
    have hslice : ∀ o n, slice (announcement a pid srcHost destHost beat).wire o n =
        slice (announcement a pid' srcHost destHost beat').wire o n := by
      intro o n
      rw [h]
    have hpid := congrArg ofBigEndian (hslice 268 4)
    have hseq := congrArg ofBigEndian (hslice 264 4)
    have hsec := congrArg ofBigEndian (hslice 272 8)
    have hmic := congrArg ofBigEndian (hslice 280 8)
    rw [MPingState.ofBigEndian_wire_pid, MPingState.ofBigEndian_wire_pid] at hpid
    rw [MPingState.ofBigEndian_wire_seq, MPingState.ofBigEndian_wire_seq] at hseq
    rw [MPingState.ofBigEndian_wire_seconds, MPingState.ofBigEndian_wire_seconds] at hsec
    rw [MPingState.ofBigEndian_wire_microseconds, MPingState.ofBigEndian_wire_microseconds] at hmic
    refine ⟨UInt32.toNat.inj hpid, ?_, hsec, hmic⟩
    simpa [announcement, Nat.ModEq] using hseq
  · rintro ⟨rfl, hnumber, hsec, hmic⟩
    have hnumber' : beat.number % 2 ^ 32 = beat'.number % 2 ^ 32 := hnumber
    rw [MPingState.wire, MPingState.wire, hsec, hmic]
    simp only [announcement, hnumber', MPingState.header]

/-! ## Reading datagrams -/

/-- The time stamp of a datagram, in microseconds. -/
def stampOf (d : Datagram) : Int := ((decode d.payload).map (·.time.count)).getD 0

def numberOf (d : Datagram) : UInt32 := ((decode d.payload).map (·.sequenceNumber)).getD 0

section Reading

variable (a : Sender.Arguments) (pid : UInt32) (srcHost destHost : Address) (beat : Beat Int64)
  (destination : Endpoint)

theorem stampOf_announcement :
    stampOf { payload := (announcement a pid srcHost destHost beat).wire, destination } =
      beat.time.toInt.tdiv 1000 := by
  rw [stampOf, decode_wire]
  rfl

theorem numberOf_announcement :
    numberOf { payload := (announcement a pid srcHost destHost beat).wire, destination } =
      UInt32.ofNat (beat.number % 2 ^ 32) := by
  rw [numberOf, decode_wire]
  rfl

end Reading

/-- The numbers from one to another, the wrap in between or not. -/
theorem numbers_between {i j : Nat} (h : i < j) :
    (UInt32.ofNat (j % 2 ^ 32) - UInt32.ofNat (i % 2 ^ 32) - 1).toNat = (j - i - 1) % 2 ^ 32 := by
  have hi := UInt32.toNat_ofNat_of_lt' (show i % 2 ^ 32 < 2 ^ 32 by omega)
  have hj := UInt32.toNat_ofNat_of_lt' (show j % 2 ^ 32 < 2 ^ 32 by omega)
  rw [UInt32.toNat_sub, UInt32.toNat_sub, hi, hj]
  show (2 ^ 32 - 1 + (2 ^ 32 - i % 2 ^ 32 + j % 2 ^ 32) % 2 ^ 32) % 2 ^ 32 = _
  omega

/-! ## Runs -/

section Runs

variable {platform : Platform} {a : Sender.Arguments}

/--
**When two datagrams are the same.**

The `i`-th datagram of one run and the `j`-th of another, of senders constructed with the same
arguments, are equal byte for byte if and only if the two have drawn the same pid, their numbers
agree modulo `2^32`, and the clock was read in the same microsecond. With one run for both, that is
when a run repeats itself.
-/
theorem sent_eq_iff {pid pid' : UInt32} {es es' : List Event} {w w' : World}
    (h : Sender.Reaches platform a pid es w) (h' : Sender.Reaches platform a pid' es' w')
    {i j : Nat} {d d' : Datagram} (hd : w.sent[i]? = some d) (hd' : w'.sent[j]? = some d') :
    ∃ t t', (readings es)[i]? = some t ∧ (readings es')[j]? = some t' ∧
      (d = d' ↔ pid = pid' ∧ i ≡ j [MOD 2 ^ 32] ∧ t.toInt.tdiv 1000 = t'.toInt.tdiv 1000) := by
  obtain ⟨srcHost, destHost, index, hsrc, hdest, -⟩ := Sender.fixed_of_reaches h
  obtain ⟨t, ht, rfl⟩ := beat_of_sent h hsrc hdest hd
  obtain ⟨t', ht', rfl⟩ := beat_of_sent h' hsrc hdest hd'
  refine ⟨t, t', ht, ht', ?_⟩
  simp only [Datagram.mk.injEq, and_true]
  exact announcement_wire_eq_iff

/-- The clock never goes back below zero, and moves on by a microsecond between two readings. -/
def MovesOn (ts : List Int64) : Prop :=
  ts.Pairwise fun t t' => 0 ≤ t.toInt ∧ t.toInt + 1000 ≤ t'.toInt

instance (ts : List Int64) : Decidable (MovesOn ts) :=
  inferInstanceAs (Decidable (ts.Pairwise fun t t' => 0 ≤ t.toInt ∧ t.toInt + 1000 ≤ t'.toInt))

/-- The time stamps of a run grow, if the clock moves on. -/
theorem stamps_grow {pid : UInt32} {es : List Event} {w : World}
    (h : Sender.Reaches platform a pid es w) (hclock : MovesOn (readings es)) :
    w.sent.Pairwise fun d d' => stampOf d < stampOf d' := by
  obtain ⟨srcHost, destHost, index, hsrc, hdest, -⟩ := Sender.fixed_of_reaches h
  rw [List.pairwise_iff_getElem]
  intro i j hi hj hij
  obtain ⟨t, ht, hd⟩ := beat_of_sent h hsrc hdest (List.getElem?_eq_getElem hi)
  obtain ⟨t', ht', hd'⟩ := beat_of_sent h hsrc hdest (List.getElem?_eq_getElem hj)
  rw [hd, hd', stampOf_announcement, stampOf_announcement]
  dsimp only
  obtain ⟨hti, rfl⟩ := List.getElem?_eq_some_iff.mp ht
  obtain ⟨htj, rfl⟩ := List.getElem?_eq_some_iff.mp ht'
  have hmoves := List.pairwise_iff_getElem.mp hclock i j hti htj hij
  have hdiv := tdiv_cases (readings es)[i].toInt 1000
  have hdiv' := tdiv_cases (readings es)[j].toInt 1000
  omega

/--
**What a receiver can make of what arrives.**

If the clock moves on by a microsecond between two ticks, no datagram is sent twice, however long
the run, wrap or no wrap. Of any datagrams of the run that arrive, in any order and any number of
times, those without repetitions and sorted by their time stamps are the ones that were sent, in the
order they were sent, without the lost ones. And two numbers say how many datagrams were sent in
between, modulo `2^32`.
-/
theorem order_restored {pid : UInt32} {es : List Event} {w : World}
    (h : Sender.Reaches platform a pid es w) (hclock : MovesOn (readings es)) :
    w.sent.Nodup ∧
      (∀ arrived ⊆ w.sent, restore stampOf arrived = w.sent.filter (· ∈ arrived)) ∧
      ∀ (i j : Nat) (d d' : Datagram), i < j → w.sent[i]? = some d → w.sent[j]? = some d' →
        (numberOf d' - numberOf d - 1).toNat = (j - i - 1) % 2 ^ 32 := by
  have hgrow := stamps_grow h hclock
  refine ⟨nodup_of_growing hgrow, fun arrived => restore_eq_filter hgrow, ?_⟩
  intro i j d d' hij hd hd'
  obtain ⟨srcHost, destHost, index, hsrc, hdest, -⟩ := Sender.fixed_of_reaches h
  obtain ⟨t, -, rfl⟩ := beat_of_sent h hsrc hdest hd
  obtain ⟨t', -, rfl⟩ := beat_of_sent h hsrc hdest hd'
  rw [numberOf_announcement, numberOf_announcement]
  exact numbers_between hij

end Runs

/-- The second packet of a run, and the first of a sender that has drawn another pid. -/
theorem sent_eq_sample :
    ∃ w w' d d' d'', Sender.Reaches .sample .sample 7
        [.timerCompleted ⟨0⟩ 5000, .timerCompleted ⟨0⟩ 9000] w ∧
      Sender.Reaches .sample .sample 8 [.timerCompleted ⟨0⟩ 5000] w' ∧
      w.sent[0]? = some d ∧ w.sent[1]? = some d' ∧ w'.sent[0]? = some d'' ∧ d ≠ d' ∧ d ≠ d'' := by
  obtain ⟨w, d, d', hw, hd, hd'⟩ : ∃ w d d', Sender.Reaches .sample .sample 7
      [.timerCompleted ⟨0⟩ 5000, .timerCompleted ⟨0⟩ 9000] w ∧ w.sent[0]? = some d ∧
      w.sent[1]? = some d' := ⟨_, _, _, ⟨_, rfl, rfl⟩, rfl, rfl⟩
  obtain ⟨w', d'', hw', hd''⟩ : ∃ w' d'', Sender.Reaches .sample .sample 8
      [.timerCompleted ⟨0⟩ 5000] w' ∧ w'.sent[0]? = some d'' := ⟨_, _, ⟨_, rfl, rfl⟩, rfl⟩
  obtain ⟨_, _, -, -, hnumber⟩ := sent_eq_iff hw hw hd hd'
  obtain ⟨_, _, -, -, hpid⟩ := sent_eq_iff hw hw' hd hd''
  refine ⟨w, w', d, d', d'', hw, hw', hd, hd', hd'', ?_, ?_⟩
  · intro heq
    exact absurd (hnumber.mp heq).2.1 (by decide)
  · intro heq
    exact absurd (hpid.mp heq).1 (by decide)

/-- Two datagrams, of which the second overtakes the first and arrives twice. -/
theorem order_restored_sample :
    ∃ w d d', Sender.Reaches .sample .sample 7
        [.timerCompleted ⟨0⟩ 5000, .timerCompleted ⟨0⟩ 9000] w ∧ w.sent = [d, d'] ∧
      restore stampOf [d', d, d'] = [d, d'] ∧ numberOf d' - numberOf d - 1 = 0 := by
  obtain ⟨w, d, d', hw, hsent⟩ : ∃ w d d', Sender.Reaches .sample .sample 7
      [.timerCompleted ⟨0⟩ 5000, .timerCompleted ⟨0⟩ 9000] w ∧ w.sent = [d, d'] :=
    ⟨_, _, _, ⟨_, rfl, rfl⟩, rfl⟩
  obtain ⟨-, hrestore, hnumbers⟩ := order_restored hw (by decide)
  rw [hsent] at hrestore hnumbers
  refine ⟨w, d, d', hw, hsent, ?_, ?_⟩
  · rw [hrestore [d', d, d'] (by simp)]
    simp
  · exact UInt32.toNat.inj (hnumbers 0 1 d d' (by decide) rfl rfl)

end MPing.Spec
