import MPing.Packet.Wire

/-!
# What holds of every packet

* `serialize_byteOrder` — the byte order of the host does not reach the wire
* `timestamp_exact` — the split of the time stamp loses nothing above a microsecond, and the last
  16 bytes of packets are ordered as their times are
-/

namespace MPing

open Infra

/-! ## Byte order -/

/-- Where the integers of `s` stand in `b`: family tags little-endian, all others big-endian. -/
structure IntegersOnWire (s : MPingState) (b : Bytes) : Prop where
  ttl : slice b 5 1 = bigEndian 1 s.ttl.toNat
  srcFamily : slice b 8 2 = littleEndian 2 s.srcHost.family
  srcPort : slice b 10 2 = bigEndian 2 s.srcPort.toNat
  destFamily : slice b 136 2 = littleEndian 2 s.destHost.family
  destPort : slice b 138 2 = bigEndian 2 s.destPort.toNat
  sequenceNumber : slice b 264 4 = bigEndian 4 s.sequenceNumber.toNat
  pid : slice b 268 4 = bigEndian 4 s.pid.toNat
  seconds : ∀ seconds, s.getSeconds = .ok seconds →
    slice b 272 8 = bigEndian 8 seconds.toUInt64.toNat
  microseconds : ∀ microseconds, s.getMicroseconds = .ok microseconds →
    slice b 280 8 = bigEndian 8 microseconds.toUInt64.toNat

theorem integersOnWire_wire (s : MPingState) : IntegersOnWire s s.wire where
  ttl := by rw [MPingState.slice_wire_ttl]; simp [bigEndian, littleEndian]
  srcFamily := by
    rw [slice_block (i := 0) s.slice_wire_src (by omega), slice_hostBlock_family]
  srcPort := by
    rw [show 10 = 8 + 2 from rfl, slice_block s.slice_wire_src (by omega), slice_hostBlock_port]
  destFamily := by
    rw [slice_block (i := 0) s.slice_wire_dest (by omega), slice_hostBlock_family]
  destPort := by
    rw [show 138 = 136 + 2 from rfl, slice_block s.slice_wire_dest (by omega),
      slice_hostBlock_port]
  sequenceNumber := s.slice_wire_seq
  pid := s.slice_wire_pid
  seconds := by
    intro seconds h
    obtain ⟨seconds', h', hint⟩ := s.getSeconds_ok
    obtain rfl : seconds' = seconds := Except.ok.inj (h'.symm.trans h)
    rw [s.slice_wire_seconds, toNat_toUInt64, hint, MPingState.secondsWord]
  microseconds := by
    intro microseconds h
    obtain ⟨microseconds', h', hint⟩ := s.getMicroseconds_ok
    obtain rfl : microseconds' = microseconds := Except.ok.inj (h'.symm.trans h)
    rw [s.slice_wire_microseconds, toNat_toUInt64, hint, MPingState.microsecondsWord]

/--
**The byte order of the host does not leak onto the wire.**

For any width, the two conversions followed by `to_byte_array` give the base-256 digits from the
top or from the bottom, whichever way the host stores integers. Hence packets are the same on both
kinds of host.
-/
theorem serialize_byteOrder :
    (∀ (native : Endian) (n : Nat) (x : BitVec (8 * n)),
      toByteArray native n (toBigendian native n x)
          = List.ofFn (fun i : Fin n => UInt8.ofNat (x.toNat / 256 ^ (n - 1 - i.val))) ∧
        toByteArray native n (toLittleendian native n x)
          = List.ofFn (fun i : Fin n => UInt8.ofNat (x.toNat / 256 ^ i.val))) ∧
      ∀ s : MPingState, s.serialize .little = s.serialize .big ∧
        ∀ native, ∃ b, s.serialize native = .ok b ∧ IntegersOnWire s b := by
  constructor
  · intro native n x
    constructor
    · rw [toByteArray_toBigendian, bigEndian_eq_ofFn]
    · rw [toByteArray_toLittleendian, littleEndian_eq_ofFn]
  · intro s
    constructor
    · rw [s.serialize_eq, s.serialize_eq]
    · intro native
      exact ⟨s.wire, s.serialize_eq native, integersOnWire_wire s⟩

/-! ## Time stamps -/

/-- The value of the last 16 bytes, read as one big-endian number. -/
theorem ofBigEndian_times (s : MPingState) :
    ofBigEndian (slice s.wire 272 16) = s.secondsWord * 2 ^ 64 + s.microsecondsWord := by
  rw [s.slice_wire_times, ofBigEndian_append, ofBigEndian_bigEndian_of_lt s.secondsWord_lt,
    ofBigEndian_bigEndian_of_lt s.microsecondsWord_lt, length_bigEndian]
  rfl

/-- For a time that is not negative, the words are the counts themselves. -/
theorem words_of_nonneg {s : MPingState} (h : 0 ≤ s.tv.toInt) :
    (s.secondsWord : Int) = s.tv.toInt / 1000000000 ∧
      (s.microsecondsWord : Int) = s.tv.toInt % 1000000000 / 1000 := by
  have hlt := s.tv.toInt_lt
  have hs := secondsOf_cases s.tv.toInt
  have hm := microsecondsOf_cases s.tv.toInt
  simp only [MPingState.secondsWord, MPingState.microsecondsWord, wordOf]
  omega

theorem drop_wire_times (s : MPingState) :
    s.wire.drop (s.wire.length - 16) = slice s.wire 272 16 := by
  rw [s.length_wire, slice, List.take_of_length_le (by simp)]

/--
**The split of a time stamp is exact, and packets order as their times do.**

Every signed operation on the way is checked, so the equations with `.ok` say that none overflows,
`INT64_MIN` and `INT64_MAX` included.
-/
theorem timestamp_exact :
    (∀ s : MPingState, ∃ seconds microseconds : Int64,
      s.getSeconds = .ok seconds ∧ s.getMicroseconds = .ok microseconds ∧
        |microseconds.toInt| < 10 ^ 6 ∧
        (microseconds.toInt = 0 ∨ microseconds.toInt.sign = s.tv.toInt.sign) ∧
        seconds.toInt * 10 ^ 6 + microseconds.toInt = s.tv.toInt.tdiv 1000) ∧
      ∀ (native : Endian) (s₁ s₂ : MPingState), 0 ≤ s₁.tv.toInt → s₁.tv.toInt ≤ s₂.tv.toInt →
        ∃ b₁ b₂ : Bytes, s₁.serialize native = .ok b₁ ∧ s₂.serialize native = .ok b₂ ∧
          b₁.drop (b₁.length - 16) ≤ b₂.drop (b₂.length - 16) ∧
          (b₁.drop (b₁.length - 16) = b₂.drop (b₂.length - 16) ↔
            s₁.tv.toInt / 1000 = s₂.tv.toInt / 1000) := by
  constructor
  · intro s
    obtain ⟨seconds, hsec, hsecInt⟩ := s.getSeconds_ok
    obtain ⟨microseconds, hmic, hmicInt⟩ := s.getMicroseconds_ok
    have hsplit := seconds_microseconds s.tv.toInt
    have hcases := microsecondsOf_cases s.tv.toInt
    refine ⟨seconds, microseconds, hsec, hmic, ?_, ?_, by omega⟩
    · rw [abs_lt]
      omega
    · rw [hmicInt]
      rcases Int.lt_trichotomy (microsecondsOf s.tv.toInt) 0 with hneg | hzero | hpos
      · right
        rw [Int.sign_eq_neg_one_of_neg hneg, Int.sign_eq_neg_one_of_neg (by omega)]
      · left
        exact hzero
      · right
        rw [Int.sign_eq_one_of_pos hpos, Int.sign_eq_one_of_pos (by omega)]
  · intro native s₁ s₂ h0 h
    refine ⟨s₁.wire, s₂.wire, s₁.serialize_eq native, s₂.serialize_eq native, ?_⟩
    obtain ⟨hs₁, hm₁⟩ := words_of_nonneg h0
    obtain ⟨hs₂, hm₂⟩ := words_of_nonneg (s := s₂) (by omega)
    have hlen : (slice s₁.wire 272 16).length = (slice s₂.wire 272 16).length := by
      rw [length_slice (by simp), length_slice (by simp)]
    have hle : ofBigEndian (slice s₁.wire 272 16) ≤ ofBigEndian (slice s₂.wire 272 16) := by
      rw [ofBigEndian_times, ofBigEndian_times]
      omega
    rw [drop_wire_times, drop_wire_times]
    refine ⟨(bytes_le_iff hlen).mpr hle, ?_, ?_⟩
    · intro heq
      have hval := congrArg ofBigEndian heq
      rw [ofBigEndian_times, ofBigEndian_times] at hval
      omega
    · intro heq
      rw [s₁.slice_wire_times, s₂.slice_wire_times, show s₁.secondsWord = s₂.secondsWord by omega,
        show s₁.microsecondsWord = s₂.microsecondsWord by omega]

/-- One and two microseconds after the start of the clock: the packets order strictly. -/
theorem timestamp_exact_microsecond :
    ∃ b₁ b₂ : Bytes,
      MPingState.serialize .little { (default : MPingState) with tv := 1000 } = .ok b₁ ∧
      MPingState.serialize .little { (default : MPingState) with tv := 2500 } = .ok b₂ ∧
      b₁.drop (b₁.length - 16) ≤ b₂.drop (b₂.length - 16) ∧
      b₁.drop (b₁.length - 16) ≠ b₂.drop (b₂.length - 16) := by
  obtain ⟨b₁, b₂, h₁, h₂, hle, hiff⟩ := timestamp_exact.2 .little
    { (default : MPingState) with tv := 1000 } { (default : MPingState) with tv := 2500 }
    (by decide) (by decide)
  exact ⟨b₁, b₂, h₁, h₂, hle, fun heq => absurd (hiff.mp heq) (by decide)⟩

end MPing
