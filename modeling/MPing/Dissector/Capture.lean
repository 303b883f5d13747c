import MPing.Dissector.Failure
import MPing.Dissector.Tree
import MPing.Spec.Advertised

/-!
# What a capture of a sender shows

The two halves of the repository end to end: the datagrams of any run of the sender, dissected with
whatever headers they travel under. `capture_of_run` says what is then on the screen.
-/

namespace MPing.Dissector

open Infra Wireshark

/-! ## The annotation of a packet -/

/-- The two words of a packet are the counts they stand for, and small. -/
theorem words_of_lt {s : MPingState} (h : -1000 < s.tv.toInt) :
    s.secondsWord = (secondsOf s.tv.toInt).toNat ∧
      s.microsecondsWord = (microsecondsOf s.tv.toInt).toNat ∧
      s.secondsWord < 2 ^ 53 ∧ s.microsecondsWord < 2 ^ 53 := by
  have hhi := s.tv.toInt_lt
  have hs := secondsOf_cases s.tv.toInt
  have hm := microsecondsOf_cases s.tv.toInt
  simp only [MPingState.secondsWord, MPingState.microsecondsWord, wordOf]
  omega

/-- Below that one of them is negative, which the guard sees as a large word. -/
theorem words_of_le {s : MPingState} (h : s.tv.toInt ≤ -1000) :
    2 ^ 63 ≤ s.secondsWord ∨ 2 ^ 63 ≤ s.microsecondsWord := by
  have hlo := s.tv.le_toInt
  have hs := secondsOf_cases s.tv.toInt
  have hm := microsecondsOf_cases s.tv.toInt
  simp only [MPingState.secondsWord, MPingState.microsecondsWord, wordOf]
  omega

theorem tonumber_of_lt {x : UInt64} (h : x.toNat < 2 ^ 53) : tonumber x = x.toNat :=
  roundNat_eq_self_iff.mpr ⟨_, 0, h, by simp⟩

/-- The annotation that shows the time point `tv`. -/
def annotationOf (formatTime : Nat → String) (tv : Int) : String :=
  "[corresponds to absolute time: " ++ formatTime (secondsOf tv).toNat ++ ", " ++
    toString (microsecondsOf tv).toNat ++ " microseconds]"

theorem timeText_eq {formatTime : Nat → String} {seconds : UInt64} {tv : Int} {n : Nat}
    (hs : tonumber seconds = (secondsOf tv).toNat)
    (hm : n = (microsecondsOf tv).toNat) :
    timeText formatTime seconds n = annotationOf formatTime tv := by
  subst hm
  unfold timeText annotationOf
  exact congrArg (fun m => "[corresponds to absolute time: " ++ formatTime m ++ ", " ++
    toString (microsecondsOf tv).toNat ++ " microseconds]") hs

/-- The annotation is left out exactly for a time of a microsecond or more below zero. -/
theorem annotated_wire_iff (s : MPingState) : Annotated s.wire ↔ -1000 < s.tv.toInt := by
  rw [annotated_iff, secondsWordOf_wire, microsecondsWordOf_wire]
  by_cases h : -1000 < s.tv.toInt
  · have hwords := words_of_lt h
    omega
  · have hwords := words_of_le (not_lt.mp h)
    omega

/-- What the annotation adds for a packet: the exact time. -/
theorem log_annotateTime_wire (formatTime : Nat → String) (s : MPingState) :
    (annotateTime formatTime s.wire).log =
      if -1000 < s.tv.toInt then [.text .timestamp (annotationOf formatTime s.tv.toInt)]
      else [] := by
  unfold annotateTime
  by_cases htime : -1000 < s.tv.toInt
  · rw [if_pos ((annotated_wire_iff s).mpr htime), if_pos htime, absoluteTimeText_eq]
    obtain ⟨hsec, hmic, hsecLt, hmicLt⟩ := words_of_lt htime
    have hs : tonumber (secondsWordOf s.wire) = (secondsOf s.tv.toInt).toNat := by
      rw [tonumber_of_lt (by rw [secondsWordOf_wire]; exact hsecLt), secondsWordOf_wire, hsec]
    have hm : tonumber (microsecondsWordOf s.wire) = (microsecondsOf s.tv.toInt).toNat := by
      rw [tonumber_of_lt (by rw [microsecondsWordOf_wire]; exact hmicLt),
        microsecondsWordOf_wire, hmic]
    have hlt : tonumber (microsecondsWordOf s.wire) < 2 ^ 63 := by
      rw [hm, ← hmic]
      exact Nat.lt_of_lt_of_le hmicLt (by decide)
    rw [if_pos hlt, Logged.ofExcept_ok, pure_bind, addText, Logged.log_tell, timeText_eq hs hm]
  · rw [if_neg (mt (annotated_wire_iff s).mp htime), if_neg htime]
    rfl

theorem mem_text_dissector (formatTime : Nat → String) (s : MPingState) (pinfo : Pinfo)
    (node : Node) (text : String) :
    .text node text ∈ (dissector formatTime s.wire pinfo).log ↔
      -1000 < s.tv.toInt ∧ node = .timestamp ∧ text = annotationOf formatTime s.tv.toInt := by
  have hb := decodable_wire s
  rw [dissector_eq formatTime pinfo hb.long hb.version]
  simp only [List.mem_append, text_notMem_items, false_or, log_annotateTime_wire]
  split
  · next h => simp [h]
  · next h => simp [h]

/-! ## The packet of a state -/

/-- What is on the screen for the packet of `s` when it travels under the headers `pinfo`. -/
structure Captured (formatTime : Nat → String) (s : MPingState) (pinfo : Pinfo)
    (run : Dissect Unit) : Prop where
  /-- The dissector survives. -/
  result : run.result = .ok ()
  /-- `readAddress` is an IPv6 address as it is, and `0.0.0.0` for every IPv4 address. -/
  fields : fields run.log =
    [(.version, .string mpingVersion), (.type, .uint s.type.toUnderlying.toNat),
      (.ttl, .uint s.ttl.toNat),
      (.sourceHostFamily, .uint s.srcHost.family), (.sourceHostPort, .uint s.srcPort.toNat),
      (addressField sourceHost s.srcHost, .address (readAddress s.srcHost)),
      (.destinationHostFamily, .uint s.destHost.family),
      (.destinationHostPort, .uint s.destPort.toNat),
      (addressField destinationHost s.destHost, .address (readAddress s.destHost)),
      (.sequenceNumber, .uint s.sequenceNumber.toNat), (.pid, .uint s.pid.toNat),
      (.seconds, .uint (secondsOf s.tv.toInt % 2 ^ 64).toNat),
      (.microseconds, .uint (microsecondsOf s.tv.toInt % 2 ^ 64).toNat)]
  /-- The time, to the microsecond, unless it is a microsecond or more below zero. -/
  annotation : ∀ node text, .text node text ∈ run.log ↔
    -1000 < s.tv.toInt ∧ node = .timestamp ∧ text = annotationOf formatTime s.tv.toInt
  /-- A warning for each port and each address that is not the one of the headers. -/
  warnings : experts run.log =
    (if s.srcPort.toNat = pinfo.srcPort then [] else [.mismatchSourceHostPort]) ++
    (if readAddress s.srcHost = pinfo.src then [] else [.mismatchSourceHostAddress]) ++
    (if s.destPort.toNat = pinfo.dstPort then [] else [.mismatchDestinationHostPort]) ++
    (if readAddress s.destHost = pinfo.dst then [] else [.mismatchDestinationHostAddress])

theorem captured (formatTime : Nat → String) (s : MPingState) (pinfo : Pinfo) :
    Captured formatTime s pinfo (dissector formatTime s.wire pinfo) where
  result := by rw [dissector_wire]
  fields := fields_dissector formatTime s pinfo
  annotation := mem_text_dissector formatTime s pinfo
  warnings := experts_dissector formatTime s pinfo

/-! ## Headers that agree -/

/-- The headers of a datagram between two endpoints. -/
def headersOf (source destination : Endpoint) : Pinfo where
  src := wsAddress source.address
  dst := wsAddress destination.address
  srcPort := source.port.toNat
  dstPort := destination.port.toNat

/-- False alarms: for an IPv4 address that is not `0.0.0.0`, and for nothing else. -/
structure WarnsOfIpv4 (source destination : Address) (warnings : List ProtoExpert) : Prop where
  source : .mismatchSourceHostAddress ∈ warnings ↔ ∃ a, source = .v4 a ∧ a ≠ .any
  destination : .mismatchDestinationHostAddress ∈ warnings ↔ ∃ a, destination = .v4 a ∧ a ≠ .any
  others : ∀ e ∈ warnings, e = .mismatchSourceHostAddress ∨ e = .mismatchDestinationHostAddress

theorem readAddress_ne_iff {host : Address} :
    readAddress host ≠ wsAddress host ↔ ∃ a, host = .v4 a ∧ a ≠ .any := by
  rw [ne_eq, readAddress_eq_iff]
  simp

theorem warnsOfIpv4 (formatTime : Nat → String) (s : MPingState) :
    WarnsOfIpv4 s.srcHost s.destHost (experts (dissector formatTime s.wire
      (headersOf ⟨s.srcHost, s.srcPort⟩ ⟨s.destHost, s.destPort⟩)).log) := by
  have hwarnings : experts (dissector formatTime s.wire
      (headersOf ⟨s.srcHost, s.srcPort⟩ ⟨s.destHost, s.destPort⟩)).log =
      (if readAddress s.srcHost = wsAddress s.srcHost then []
        else [ProtoExpert.mismatchSourceHostAddress]) ++
      (if readAddress s.destHost = wsAddress s.destHost then []
        else [ProtoExpert.mismatchDestinationHostAddress]) := by
    simp [experts_dissector, headersOf]
  rw [hwarnings]
  refine ⟨?_, ?_, ?_⟩
  · rw [← readAddress_ne_iff]
    split <;> split <;> simp_all
  · rw [← readAddress_ne_iff]
    split <;> split <;> simp_all
  · intro e he
    split at he <;> split at he <;> simp_all

/-! ## The packets of a run -/

/--
**What a capture of a sender shows.**

For every run, whatever completes in whatever order, and whatever headers the `k`-th datagram is
captured under: the dissector never fails on it. It shows the ttl, the families and the ports the
sender was constructed with, an IPv6 address as it is and `0.0.0.0` in place of an IPv4 address,
number `k` modulo `2^32` and the reading of the clock of its own tick, with an exact annotation. It
warns exactly where the headers have another port, or another address than the one it shows.

Between the endpoints that were asked for, the only warnings come from IPv4 addresses. The source
port of a real capture is another one if the sender was asked to bind to port 0.
-/
theorem capture_of_run (formatTime : Nat → String) {platform : Platform} {a : Sender.Arguments}
    {pid : UInt32} {es : List Event} {w : World} (h : Sender.Reaches platform a pid es w) :
    ∃ srcHost destHost bound, platform.makeAddress a.bindAddress = .ok srcHost ∧
      platform.makeAddress a.address = .ok destHost ∧
      w.sender.socket.socket.boundTo = some bound ∧
      w.sent.length = (readings es).length ∧
      ∀ (k : Nat) (d : Datagram), w.sent[k]? = some d →
        (∃ now, (readings es)[k]? = some now ∧
          ∀ pinfo, Captured formatTime
            { type := .sender, ttl := a.ttl, srcHost, srcPort := a.bindPort, destHost,
              destPort := a.port, sequenceNumber := UInt32.ofNat (k % 2 ^ 32), pid, tv := now }
            pinfo (dissector formatTime d.payload pinfo)) ∧
        WarnsOfIpv4 srcHost destHost
          (experts (dissector formatTime d.payload (headersOf bound d.destination)).log) := by
  obtain ⟨srcHost, destHost, index, hsrc, hdest, -, hfixed⟩ := Sender.fixed_of_reaches h
  refine ⟨srcHost, destHost, ⟨srcHost, a.bindPort⟩, hsrc, hdest,
    congrArg UdpSocket.boundTo hfixed.socket, Spec.length_sent h, ?_⟩
  intro k d hd
  obtain ⟨t, ht, rfl⟩ := Spec.beat_of_sent h hsrc hdest hd
  refine ⟨⟨t, ht, fun pinfo => ?_⟩, ?_⟩
  · exact captured formatTime (Spec.announcement a pid srcHost destHost ⟨k, t⟩) pinfo
  · exact warnsOfIpv4 formatTime (Spec.announcement a pid srcHost destHost ⟨k, t⟩)

/-- An IPv6 sender raises no warning; an IPv4 sender raises two with every packet. -/
theorem capture_of_run_sample :
    (∃ w bound d, Sender.Reaches .sample .sample 7 [.timerCompleted ⟨0⟩ 5000] w ∧
      w.sender.socket.socket.boundTo = some bound ∧ w.sent[0]? = some d ∧
      experts (dissector (fun _ => "") d.payload (headersOf bound d.destination)).log = []) ∧
    (∃ w bound d, Sender.Reaches .sample .sampleV4 7 [.timerCompleted ⟨0⟩ 5000] w ∧
      w.sender.socket.socket.boundTo = some bound ∧ w.sent[0]? = some d ∧
      (.mismatchSourceHostAddress ∈
          experts (dissector (fun _ => "") d.payload (headersOf bound d.destination)).log ∧
        .mismatchDestinationHostAddress ∈
          experts (dissector (fun _ => "") d.payload (headersOf bound d.destination)).log)) := by
  constructor
  · obtain ⟨w, hw⟩ : ∃ w, Sender.Reaches .sample .sample 7 [.timerCompleted ⟨0⟩ 5000] w :=
      ⟨_, _, rfl, rfl⟩
    obtain ⟨srcHost, destHost, bound, hsrc, hdest, hbound, hlen, hshown⟩ :=
      capture_of_run (fun _ => "") hw
    obtain rfl := Except.ok.inj hsrc
    obtain rfl := Except.ok.inj hdest
    obtain ⟨d, hd⟩ : ∃ d, w.sent[0]? = some d :=
      ⟨_, List.getElem?_eq_getElem (by rw [hlen]; decide)⟩
    obtain ⟨-, hwarns⟩ := hshown 0 _ hd
    refine ⟨w, bound, _, hw, hbound, hd, List.eq_nil_iff_forall_not_mem.mpr ?_⟩
    intro e he
    rcases hwarns.others e he with rfl | rfl
    · obtain ⟨a, ha, -⟩ := hwarns.source.mp he
      cases ha
    · obtain ⟨a, ha, -⟩ := hwarns.destination.mp he
      cases ha
  · obtain ⟨w, hw⟩ : ∃ w, Sender.Reaches .sample .sampleV4 7 [.timerCompleted ⟨0⟩ 5000] w :=
      ⟨_, _, rfl, rfl⟩
    obtain ⟨srcHost, destHost, bound, hsrc, hdest, hbound, hlen, hshown⟩ :=
      capture_of_run (fun _ => "") hw
    obtain rfl := Except.ok.inj hsrc
    obtain rfl := Except.ok.inj hdest
    obtain ⟨d, hd⟩ : ∃ d, w.sent[0]? = some d :=
      ⟨_, List.getElem?_eq_getElem (by rw [hlen]; decide)⟩
    obtain ⟨-, hwarns⟩ := hshown 0 _ hd
    exact ⟨w, bound, _, hw, hbound, hd, hwarns.source.mpr ⟨_, rfl, by decide⟩,
      hwarns.destination.mpr ⟨_, rfl, by decide⟩⟩

end MPing.Dissector
