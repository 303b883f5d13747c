import MPing.Spec.Packet

/-!
# Which byte strings are packets

`serialize` writes one packet for each thing a state can show. Here the byte strings it writes are
told from all others by looking at the bytes (`serialize_range_iff`): the reserved bytes and the
fill behind an address are zero, a host is tagged with one of two families, and the two time words
have the same sign and do not overlap.

For such a byte string the decoder loses nothing: every state that shows what was decoded writes the
string again.
-/

namespace MPing.Spec

open Infra

/-! ## The shape of a packet -/

/-- The 128 bytes of a host: family, port, a gap, the address and zeros. -/
def HostWritten (block : Bytes) : Prop :=
  slice block 4 4 = List.replicate 4 0 ∧
    (ofLittleEndian (slice block 0 2) = 2 ∧ slice block 12 116 = List.replicate 116 0 ∨
      ofLittleEndian (slice block 0 2) = 10 ∧ slice block 24 104 = List.replicate 104 0)

/-- The two time words: microseconds below a second and with the sign of the seconds. -/
def TimeWritten (times : Bytes) : Prop :=
  let seconds := signedOf (ofBigEndian (slice times 0 8))
  let microseconds := signedOf (ofBigEndian (slice times 8 8))
  (0 ≤ seconds ∧ 0 ≤ microseconds ∧ microseconds < 1000000 ∨
    seconds ≤ 0 ∧ microseconds ≤ 0 ∧ -1000000 < microseconds) ∧
    -9223372036854775 ≤ seconds * 1000000 + microseconds ∧
    seconds * 1000000 + microseconds ≤ 9223372036854775

structure PacketWritten (b : Bytes) : Prop where
  length : b.length = 288
  version : slice b 0 4 = [0x32, 0x2E, 0x30, 0x00]
  type : slice b 4 1 = [0x73] ∨ slice b 4 1 = [0x72]
  reserved : slice b 6 2 = [0, 0]
  src : HostWritten (slice b 8 128)
  dest : HostWritten (slice b 136 128)
  time : TimeWritten (slice b 272 16)

/-! ## Packets have it -/

/-- Behind the address there is nothing. -/
theorem slice_hostBlock_fill {host : Address} {n : Nat} (h : host.bytes.length = n)
    (port : UInt16) :
    slice (hostBlock host port) (8 + n) (120 - n) = List.replicate (120 - n) 0 := by
  rw [hostBlock, slice_append_right (by simp; omega), slice_append_right (by simp; omega),
    slice_append_right (by simp; omega), slice_append_right (by simp; omega), h]
  simp only [length_littleEndian, length_bigEndian, List.length_replicate]
  rw [show 8 + n - 2 - 2 - 4 - n = 0 by omega, slice_all (List.length_replicate ..)]

theorem hostWritten_hostBlock (host : Address) (port : UInt16) :
    HostWritten (hostBlock host port) := by
  refine ⟨slice_hostBlock_gap host port, ?_⟩
  rw [ofLittleEndian_hostBlock_family]
  cases host with
  | v4 a => exact Or.inl ⟨rfl, slice_hostBlock_fill (Address.length_bytes_v4 a) port⟩
  | v6 a => exact Or.inr ⟨rfl, slice_hostBlock_fill (Address.length_bytes_v6 a) port⟩

theorem timeWritten_wire (s : MPingState) : TimeWritten (slice s.wire 272 16) := by
  have hlo := s.tv.le_toInt
  have hhi := s.tv.toInt_lt
  have hs := secondsOf_cases s.tv.toInt
  have hm := microsecondsOf_cases s.tv.toInt
  have hsec : signedOf (ofBigEndian (slice s.wire 272 8)) = secondsOf s.tv.toInt := by
    rw [s.ofBigEndian_wire_seconds, signedOf_secondsWord]
  have hmic : signedOf (ofBigEndian (slice s.wire 280 8)) = microsecondsOf s.tv.toInt := by
    rw [s.ofBigEndian_wire_microseconds, signedOf_microsecondsWord]
  simp only [TimeWritten, slice_slice (show 0 + 8 ≤ 16 by omega),
    slice_slice (show 8 + 8 ≤ 16 by omega), hsec, hmic]
  omega

theorem packetWritten_wire (s : MPingState) : PacketWritten s.wire where
  length := s.length_wire
  version := s.slice_wire_version
  type := by
    rw [s.slice_wire_type]
    cases s.type with
    | sender => exact Or.inl rfl
    | receiver => exact Or.inr rfl
  reserved := rfl
  src := by
    rw [s.slice_wire_src]
    exact hostWritten_hostBlock _ _
  dest := by
    rw [s.slice_wire_dest]
    exact hostWritten_hostBlock _ _
  time := timeWritten_wire s

/-! ## Nothing else has it -/

/-- The host and the port a block was written for. -/
theorem exists_hostBlock {block : Bytes} (hlength : block.length = 128) (h : HostWritten block) :
    ∃ host port, hostBlock host port = block := by
  obtain ⟨hgap, hfamily⟩ := h
  have hport : bigEndian 2 (UInt16.ofNat (ofBigEndian (slice block 2 2))).toNat =
      slice block 2 2 := by
    have hlen : (slice block 2 2).length = 2 := length_slice (by omega)
    have hlt := ofBigEndian_lt (slice block 2 2)
    rw [hlen] at hlt
    rw [UInt16.toNat_ofNat_of_lt' hlt, bigEndian_ofBigEndian hlen]
  have htag : littleEndian 2 (ofLittleEndian (slice block 0 2)) = slice block 0 2 := by
    have hlen : (slice block 0 2).length = 2 := length_slice (by omega)
    have hback := littleEndian_ofLittleEndian (slice block 0 2)
    rwa [hlen] at hback
  -- the block, cut where `hostBlock` puts its parts together
  have hcut : ∀ n ≤ 120, block = slice block 0 2 ++ (slice block 2 2 ++ (slice block 4 4 ++
      (slice block 8 n ++ slice block (8 + n) (120 - n)))) := by
    intro n hn
    have hall := slice_all hlength
    rw [show 128 = 2 + (2 + (4 + (n + (120 - n)))) by omega, slice_add, slice_add, slice_add,
      slice_add] at hall
    exact hall.symm
  rcases hfamily with ⟨h2, hfill⟩ | ⟨h10, hfill⟩
  · have htag2 : littleEndian 2 2 = slice block 0 2 :=
      (congrArg (littleEndian 2) h2).symm.trans htag
    have hlen : (slice block 8 4).length = 4 := length_slice (by omega)
    refine ⟨.v4 ⟨⟨(slice block 8 4).toArray, by simpa using hlen⟩⟩,
      UInt16.ofNat (ofBigEndian (slice block 2 2)), ?_⟩
    rw [hostBlock, hport, Address.family, htag2, ← hgap]
    simp only [Address.bytes, Vector.toList_mk, hlen]
    rw [← hfill]
    exact (hcut 4 (by omega)).symm
  · have htag10 : littleEndian 2 10 = slice block 0 2 :=
      (congrArg (littleEndian 2) h10).symm.trans htag
    have hlen : (slice block 8 16).length = 16 := length_slice (by omega)
    refine ⟨.v6 ⟨⟨(slice block 8 16).toArray, by simpa using hlen⟩, 0⟩,
      UInt16.ofNat (ofBigEndian (slice block 2 2)), ?_⟩
    rw [hostBlock, hport, Address.family, htag10, ← hgap]
    simp only [Address.bytes, Vector.toList_mk, hlen]
    rw [← hfill]
    exact (hcut 16 (by omega)).symm

/-- A word is the word of what it says as a signed count. -/
theorem wordOf_signedOf {w : Nat} (h : w < 256 ^ 8) : wordOf (signedOf w) = w := by
  unfold wordOf signedOf
  split <;> omega

/-- The time point two words were written for. -/
theorem exists_time {times : Bytes} (hlength : times.length = 16) (h : TimeWritten times) :
    ∃ tv : Int64, bigEndian 8 (wordOf (secondsOf tv.toInt)) = slice times 0 8 ∧
      bigEndian 8 (wordOf (microsecondsOf tv.toInt)) = slice times 8 8 := by
  obtain ⟨hsign, hlo, hhi⟩ := h
  generalize hs : signedOf (ofBigEndian (slice times 0 8)) = seconds at hsign hlo hhi
  generalize hm : signedOf (ofBigEndian (slice times 8 8)) = microseconds at hsign hlo hhi
  -- the words are those of the first nanosecond of the microsecond
  obtain ⟨tv, -, htv⟩ := int64_ok (x := (seconds * 1000000 + microseconds) * 1000) (by omega)
    (by omega)
  have hsec : secondsOf tv.toInt = seconds := by
    have hcases := secondsOf_cases tv.toInt
    omega
  have hmic : microsecondsOf tv.toInt = microseconds := by
    have hcases := microsecondsOf_cases tv.toInt
    omega
  have hword : ∀ o, o + 8 ≤ 16 →
      bigEndian 8 (wordOf (signedOf (ofBigEndian (slice times o 8)))) = slice times o 8 := by
    intro o ho
    have hlen : (slice times o 8).length = 8 := length_slice (by omega)
    have hlt := ofBigEndian_lt (slice times o 8)
    rw [hlen] at hlt
    rw [wordOf_signedOf hlt, bigEndian_ofBigEndian hlen]
  refine ⟨tv, ?_, ?_⟩
  · rw [hsec, ← hs]
    exact hword 0 (by omega)
  · rw [hmic, ← hm]
    exact hword 8 (by omega)

/-- **A byte string of this shape is the packet of a state.** -/
theorem exists_wire {b : Bytes} (h : PacketWritten b) : ∃ s : MPingState, s.wire = b := by
  have hb := h.length
  obtain ⟨srcHost, srcPort, hsrc⟩ := exists_hostBlock (length_slice (by omega)) h.src
  obtain ⟨destHost, destPort, hdest⟩ := exists_hostBlock (length_slice (by omega)) h.dest
  obtain ⟨tv, hsec, hmic⟩ := exists_time (length_slice (by omega)) h.time
  obtain ⟨type, htype⟩ : ∃ type : MPingStateType, [type.toUnderlying] = slice b 4 1 := by
    rcases h.type with ht | ht
    · exact ⟨.sender, ht.symm⟩
    · exact ⟨.receiver, ht.symm⟩
  have hword : ∀ o, o + 4 ≤ 288 → ∃ x : UInt32, bigEndian 4 x.toNat = slice b o 4 := by
    intro o ho
    have hlen : (slice b o 4).length = 4 := length_slice (by omega)
    have hlt := ofBigEndian_lt (slice b o 4)
    rw [hlen] at hlt
    refine ⟨UInt32.ofNat (ofBigEndian (slice b o 4)), ?_⟩
    rw [UInt32.toNat_ofNat_of_lt' hlt, bigEndian_ofBigEndian hlen]
  obtain ⟨sequenceNumber, hseq⟩ := hword 264 (by omega)
  obtain ⟨pid, hpid⟩ := hword 268 (by omega)
  obtain ⟨ttl, httl⟩ : ∃ ttl, slice b 5 1 = [ttl] :=
    List.length_eq_one_iff.mp (length_slice (by omega))
  rw [slice_slice (by omega)] at hsec hmic
  -- the string, cut where `wire` puts its parts together
  have hall : slice b 0 4 ++ (slice b 4 1 ++ (slice b 5 1 ++ (slice b 6 2 ++ (slice b 8 128 ++
      (slice b 136 128 ++ (slice b 264 4 ++ (slice b 268 4 ++ (slice b 272 8 ++
        slice b 280 8)))))))) = b := by
    rw [← slice_add, ← slice_add, ← slice_add, ← slice_add, ← slice_add, ← slice_add, ← slice_add,
      ← slice_add, ← slice_add, slice_all hb]
  rw [h.version, ← htype, httl, h.reserved, ← hsrc, ← hdest, ← hseq, ← hpid, ← hsec, ← hmic] at hall
  exact ⟨{ type, ttl, srcHost, srcPort, destHost, destPort, sequenceNumber, pid, tv }, hall⟩

/--
**The range of `serialize`.**

A byte string is the packet of some state exactly if it has the shape above. Then it decodes, and
whatever state shows what was decoded, its packet is that very string.
-/
theorem serialize_range_iff (native : Endian) (b : Bytes) :
    ((∃ s : MPingState, s.serialize native = .ok b) ↔ PacketWritten b) ∧
      (PacketWritten b → ∃ p, decode b = some p ∧
        ∀ s : MPingState, observe s = p → s.serialize native = .ok b) := by
  refine ⟨⟨?_, ?_⟩, ?_⟩
  · rintro ⟨s, hs⟩
    rw [s.serialize_eq] at hs
    obtain rfl := Except.ok.inj hs
    exact packetWritten_wire s
  · intro h
    obtain ⟨s, rfl⟩ := exists_wire h
    exact ⟨s, s.serialize_eq native⟩
  · intro h
    obtain ⟨s, rfl⟩ := exists_wire h
    refine ⟨observe s, decode_wire s, ?_⟩
    intro s' hs'
    rw [s'.serialize_eq, wire_congr hs']

end MPing.Spec
