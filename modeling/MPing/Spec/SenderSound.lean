import MPing.Sender.Step
import MPing.Spec.Beacon

/-!
# The sender is a beacon

A successful timer completion is a tick, every other event is invisible. Every run of the sender
is, seen so, a run of the beacon (`sender_refines_beacon`), and what the sender handed to its socket
is what the beacon announced. From this the law of a whole run follows (`sender_run_law`).
-/

namespace MPing.Spec

open Infra World

/-! ## The relation -/

/-- The state whose packet announces `beat`. Numbers are taken modulo `2^32`. -/
def announcement (a : Sender.Arguments) (pid : UInt32) (srcHost destHost : Address)
    (beat : Beat Int64) : MPingState where
  type := .sender
  ttl := a.ttl
  srcHost := srcHost
  srcPort := a.bindPort
  destHost := destHost
  destPort := a.port
  sequenceNumber := UInt32.ofNat (beat.number % 2 ^ 32)
  pid := pid
  tv := beat.time

section Sound

variable {platform : Platform} {a : Sender.Arguments} {pid : UInt32} {srcHost destHost : Address}

/-- What the sender did and what it will do next agree with the beacon. -/
structure Announces (a : Sender.Arguments) (pid : UInt32) (srcHost destHost : Address) (w : World)
    (b : Beacon Int64) : Prop where
  state : ∀ now, w.sender.state.setCurrentTime now =
    announcement a pid srcHost destHost ⟨b.beats.length, now⟩
  endpoint : w.sender.endpoint = ⟨destHost, a.port⟩
  sent : w.sent = b.beats.map fun beat =>
    { payload := (announcement a pid srcHost destHost beat).wire
      destination := ⟨destHost, a.port⟩ }

theorem announces_initial (index : UInt32) :
    Announces a pid srcHost destHost (initial a pid srcHost destHost index) .start where
  state := by
    intro now
    rfl
  endpoint := rfl
  sent := rfl

/-! ## One step -/

/-- The wrap of the counter is the one of 32 bits. -/
theorem sequenceNumber_nextSeqNo (s : MPingState) :
    s.nextSeqNo = { s with sequenceNumber := s.sequenceNumber + 1 } := by
  rw [MPingState.nextSeqNo]
  split
  · next h => rw [h]; rfl
  · rfl

theorem nextSeqNo_announcement (k : Nat) (t now : Int64) :
    (announcement a pid srcHost destHost ⟨k, t⟩).nextSeqNo.setCurrentTime now =
      announcement a pid srcHost destHost ⟨k + 1, now⟩ := by
  rw [sequenceNumber_nextSeqNo]
  simp only [announcement, MPingState.setCurrentTime, MPingState.mk.injEq, true_and, and_true]
  apply UInt32.toNat.inj
  simp

/-- A successful timer completion is a tick. -/
theorem announces_expired {w : World} {b : Beacon Int64}
    (h : Announces a pid srcHost destHost w b) (now : Int64) :
    Announces a pid srcHost destHost (w.expired now) (b.tick now) where
  state := by
    intro now'
    simp only [expired_sender, h.state now, nextSeqNo_announcement]
    simp [Beacon.tick]
  endpoint := h.endpoint
  sent := by
    simp [sent_expired, h.sent, nextDatagram, h.state now, h.endpoint, Beacon.tick]

/-- A handler that only reports is invisible, whatever was taken off the timer or the socket. -/
theorem announces_reported {w w' : World} {b : Beacon Int64} {context : Context}
    {outcome : Except Exception Unit} (h : Announces a pid srcHost destHost w b)
    (hstate : w'.sender.state = w.sender.state) (hendpoint : w'.sender.endpoint = w.sender.endpoint)
    (hsent : w'.sent = w.sent) :
    Announces a pid srcHost destHost (w'.reported context outcome) b where
  state := by simpa [hstate] using h.state
  endpoint := by simpa [hendpoint] using h.endpoint
  sent := by rw [sent_reported, hsent, h.sent]

theorem announces_step {w w' : World} {b : Beacon Int64} {e : Event}
    (h : Announces a pid srcHost destHost w b) (hstep : w.step platform e = some w') :
    ∃ b', run Beacon.step b e.reading?.toList = some b' ∧
      Announces a pid srcHost destHost w' b' := by
  obtain ⟨-, heffect⟩ := step_cases hstep
  cases heffect with
  | @expiry ec now hok _ =>
    refine ⟨b.tick now, ?_, announces_expired h now⟩
    simp [Event.reading?, hok, run_cons, Beacon.step]
  | timerError hfailed _ =>
    refine ⟨b, ?_, announces_reported h rfl rfl rfl⟩
    simp [Event.reading?, hfailed]
  | abort _ => exact ⟨b, rfl, announces_reported h rfl rfl rfl⟩
  | sendCompletion _ => exact ⟨b, rfl, announces_reported h rfl rfl rfl⟩

/-! ## Runs -/

/-- **Every run of the sender is a run of the beacon** over the successful timer completions. -/
theorem sender_refines_beacon {w₀ w : World} {es : List Event}
    (h₀ : Announces a pid srcHost destHost w₀ .start)
    (hrun : run (World.step platform) w₀ es = some w) :
    ∃ b, run Beacon.step .start (readings es) = some b ∧ Announces a pid srcHost destHost w b := by
  rw [readings, List.filterMap_eq_flatMap_toList]
  exact run_simulates (fun w b e w' => announces_step) h₀ hrun

/-- There is a datagram for every reading of the clock. -/
theorem length_sent {es : List Event} {w : World} (h : Sender.Reaches platform a pid es w) :
    w.sent.length = (readings es).length := by
  obtain ⟨w₀, hnew, hrun⟩ := h
  obtain ⟨srcHost, destHost, index, -, -, -, rfl⟩ := Sender.new_ok hnew
  obtain ⟨b, hb, hw⟩ := sender_refines_beacon (announces_initial index) hrun
  rw [hw.sent, List.length_map, ← Beacon.run_times hb, List.length_map]

/-- The datagram at some place of a run, as the packet of a beat. -/
theorem beat_of_sent {es : List Event} {w : World} (h : Sender.Reaches platform a pid es w)
    (hsrc : platform.makeAddress a.bindAddress = .ok srcHost)
    (hdest : platform.makeAddress a.address = .ok destHost) {k : Nat} {d : Datagram}
    (hd : w.sent[k]? = some d) :
    ∃ t, (readings es)[k]? = some t ∧
      d = { payload := (announcement a pid srcHost destHost ⟨k, t⟩).wire
            destination := ⟨destHost, a.port⟩ } := by
  obtain ⟨w₀, hnew, hrun⟩ := h
  obtain ⟨srcHost', destHost', index, hsrc', hdest', -, rfl⟩ := Sender.new_ok hnew
  obtain rfl := Except.ok.inj (hsrc.symm.trans hsrc')
  obtain rfl := Except.ok.inj (hdest.symm.trans hdest')
  obtain ⟨b, hb, hw⟩ := sender_refines_beacon (announces_initial index) hrun
  rw [hw.sent, List.getElem?_map, Option.map_eq_some_iff] at hd
  obtain ⟨beat, hbeat, rfl⟩ := hd
  obtain ⟨rfl, htime⟩ := Beacon.run_getElem? hb hbeat
  exact ⟨beat.time, htime, rfl⟩

/-- The bytes of the sequence number in the packet of a beat. -/
theorem slice_announcement_seq (beat : Beat Int64) :
    slice (announcement a pid srcHost destHost beat).wire 264 4 =
      bigEndian 4 (beat.number % 2 ^ 32) := by
  rw [MPingState.slice_wire_seq]
  simp [announcement]

/-- Two numbers share their bytes exactly when they are equal modulo `2^32`. -/
theorem bigEndian_number_eq_iff {i j : Nat} (h : i < j) :
    bigEndian 4 (i % 2 ^ 32) = bigEndian 4 (j % 2 ^ 32) ↔ 2 ^ 32 ∣ j - i := by
  rw [bigEndian_inj (by omega) (by omega)]
  omega

end Sound

/--
**The law of a run.**

The `k`-th datagram handed to the socket is the packet of the `k`-th beat: everything in it comes
from the constructor but its number, `k` modulo `2^32`, and its time, which is the reading of the
clock in the same call. Two runs with the same readings send the same datagrams, however their
sends complete.
-/
theorem sender_run_law {platform : Platform} {a : Sender.Arguments} {pid : UInt32}
    {es : List Event} {w : World} (h : Sender.Reaches platform a pid es w) :
    ∃ srcHost destHost, platform.makeAddress a.bindAddress = .ok srcHost ∧
      platform.makeAddress a.address = .ok destHost ∧
      w.sent.length = (readings es).length ∧
      (∀ (k : Nat) (d : Datagram), w.sent[k]? = some d → ∃ now, (readings es)[k]? = some now ∧
        MPingState.serialize platform.native
          { type := .sender, ttl := a.ttl, srcHost, srcPort := a.bindPort, destHost,
            destPort := a.port, sequenceNumber := UInt32.ofNat (k % 2 ^ 32), pid, tv := now } =
          .ok d.payload) ∧
      (∀ (i j : Nat) (d d' : Datagram), i < j → w.sent[i]? = some d → w.sent[j]? = some d' →
        (slice d.payload 264 4 = slice d'.payload 264 4 ↔ 2 ^ 32 ∣ j - i)) ∧
      ∀ (es' : List Event) (w' : World), Sender.Reaches platform a pid es' w' →
        readings es' = readings es → w'.sent = w.sent := by
  obtain ⟨w₀, hnew, hrun⟩ := h
  obtain ⟨srcHost, destHost, index, hsrc, hdest, -, rfl⟩ := Sender.new_ok hnew
  obtain ⟨b, hb, hw⟩ := sender_refines_beacon (announces_initial index) hrun
  have hsent : ∀ {k : Nat} {d : Datagram}, w.sent[k]? = some d → ∃ beat : Beat Int64,
      beat.number = k ∧ (readings es)[k]? = some beat.time ∧
        d.payload = (announcement a pid srcHost destHost beat).wire := by
    intro k d hd
    rw [hw.sent, List.getElem?_map, Option.map_eq_some_iff] at hd
    obtain ⟨beat, hbeat, rfl⟩ := hd
    obtain ⟨hnumber, htime⟩ := Beacon.run_getElem? hb hbeat
    exact ⟨beat, hnumber, htime, rfl⟩
  refine ⟨srcHost, destHost, hsrc, hdest, ?_, ?_, ?_, ?_⟩
  · rw [hw.sent, List.length_map, ← Beacon.run_times hb, List.length_map]
  · intro k d hd
    obtain ⟨beat, rfl, htime, hpayload⟩ := hsent hd
    refine ⟨beat.time, htime, ?_⟩
    rw [MPingState.serialize_eq, hpayload]
    rfl
  · intro i j d d' hij hd hd'
    obtain ⟨beat, rfl, -, hpayload⟩ := hsent hd
    obtain ⟨beat', rfl, -, hpayload'⟩ := hsent hd'
    rw [hpayload, hpayload', slice_announcement_seq, slice_announcement_seq,
      bigEndian_number_eq_iff hij]
  · rintro es' w' ⟨w₀', hnew', hrun'⟩ hreadings
    obtain rfl := Except.ok.inj (hnew.symm.trans hnew')
    obtain ⟨b', hb', hw'⟩ := sender_refines_beacon (announces_initial index) hrun'
    rw [hw.sent, hw'.sent, Beacon.run_unique hb (hreadings ▸ hb')]

/-- Two packets with a send completion in between. -/
theorem sender_run_law_sample :
    ∃ w, Sender.Reaches .sample .sample 7
        [.timerCompleted ⟨0⟩ 5, .sendCompleted 0 ⟨0⟩ 288, .timerCompleted ⟨0⟩ 9] w ∧
      w.sent.length = 2 ∧
      ∀ d d' : Datagram, w.sent[0]? = some d → w.sent[1]? = some d' →
        slice d.payload 264 4 ≠ slice d'.payload 264 4 := by
  obtain ⟨w, hw⟩ : ∃ w, Sender.Reaches .sample .sample 7
      [.timerCompleted ⟨0⟩ 5, .sendCompleted 0 ⟨0⟩ 288, .timerCompleted ⟨0⟩ 9] w :=
    ⟨_, _, rfl, rfl⟩
  obtain ⟨srcHost, destHost, -, -, hlength, -, hnumbers, -⟩ := sender_run_law hw
  refine ⟨w, hw, hlength, fun d d' hd hd' heq => ?_⟩
  exact absurd ((hnumbers 0 1 d d' (by decide) hd hd').mp heq) (by decide)

end MPing.Spec
