import MPing.Packet.Time

/-!
# The bytes of a packet

`wire s` writes the packet of `s` as one concatenation, free of the byte order of the host and of
the checks on the way; `serialize_eq` says that `serialize` is exactly that. Every later statement
about packets goes through `wire`.

The offsets of the fields come out of the concatenation (`slice_wire_…`); they are the numbers the
layout comment of `mping_state.cpp` draws and the dissector reads.
-/

namespace MPing

open Infra

/-! ## Hosts -/

/-- The address family a host is tagged with: `AF_INET` or `AF_INET6`. -/
def Address.family : Address → Nat
  | .v4 _ => 2
  | .v6 _ => 10

def Address.bytes : Address → Bytes
  | .v4 a => a.toBytes.toList
  | .v6 a => a.toBytes.toList

theorem Address.length_bytes_v4 (a : AddressV4) : (Address.v4 a).bytes.length = 4 := by
  simp [Address.bytes]

theorem Address.length_bytes_v6 (a : AddressV6) : (Address.v6 a).bytes.length = 16 := by
  simp [Address.bytes]

theorem Address.length_bytes_le (a : Address) : a.bytes.length ≤ 16 := by
  cases a with
  | v4 a => rw [length_bytes_v4]; omega
  | v6 a => rw [length_bytes_v6]

/-- The 128 bytes of a host. The address follows four zeros, for both families. -/
def hostBlock (host : Address) (port : UInt16) : Bytes :=
  littleEndian 2 host.family ++ (bigEndian 2 port.toNat ++ (List.replicate 4 0 ++
    (host.bytes ++ List.replicate (120 - host.bytes.length) 0)))

@[simp] theorem length_hostBlock (host : Address) (port : UInt16) :
    (hostBlock host port).length = 128 := by
  have h := host.length_bytes_le
  simp only [hostBlock, List.length_append, length_littleEndian, length_bigEndian,
    List.length_replicate]
  omega

section Host

variable (host : Address) (port : UInt16)

theorem slice_hostBlock_family : slice (hostBlock host port) 0 2 = littleEndian 2 host.family := by
  simp [hostBlock, slice_append_left, slice_all]

theorem slice_hostBlock_port : slice (hostBlock host port) 2 2 = bigEndian 2 port.toNat := by
  simp [hostBlock, slice_append_right, slice_append_left, slice_all]

/-- Bytes 4 to 7 of the block: the gap before the address. -/
theorem slice_hostBlock_gap : slice (hostBlock host port) 4 4 = List.replicate 4 0 := by
  rw [hostBlock, slice_append_right (by simp), slice_append_right (by simp),
    slice_append_left (by simp), slice_replicate (by simp)]

theorem slice_hostBlock_address {n : Nat} (h : host.bytes.length = n) :
    slice (hostBlock host port) 8 n = host.bytes := by
  rw [hostBlock, slice_append_right (by simp), slice_append_right (by simp),
    slice_append_right (by simp), slice_append_left (by simp [h])]
  simp [slice_all h]

/-- A field of a host block, read at its absolute offset. -/
theorem slice_block {host : Address} {port : UInt16} {b : Bytes} {o i k : Nat}
    (hb : slice b o 128 = hostBlock host port) (h : i + k ≤ 128) :
    slice b (o + i) k = slice (hostBlock host port) i k := by
  rw [← hb, slice_slice h]

theorem ofLittleEndian_hostBlock_family :
    ofLittleEndian (slice (hostBlock host port) 0 2) = host.family := by
  rw [slice_hostBlock_family, ofLittleEndian_littleEndian]
  cases host <;> rfl

theorem ofBigEndian_hostBlock_port :
    ofBigEndian (slice (hostBlock host port) 2 2) = port.toNat := by
  rw [slice_hostBlock_port, ofBigEndian_bigEndian_of_lt port.toNat_lt]

end Host

/-! ## Packets -/

/-- A signed count as the unsigned 64-bit word that carries it. -/
def wordOf (x : Int) : Nat := (x % 2 ^ 64).toNat

theorem wordOf_lt (x : Int) : wordOf x < 256 ^ 8 := by
  have h1 := Int.emod_nonneg x (show (2 : Int) ^ 64 ≠ 0 by decide)
  have h2 := Int.emod_lt_of_pos x (show (0 : Int) < 2 ^ 64 by decide)
  rw [wordOf]
  omega

/-- `static_cast<uint64_t>` keeps the value modulo `2^64`. -/
theorem toNat_toUInt64 (x : Int64) : x.toUInt64.toNat = wordOf x.toInt := by
  have h := BitVec.toInt_eq_toNat_cond x.toBitVec
  have hlt := x.toBitVec.isLt
  have hint : x.toInt = x.toBitVec.toInt := rfl
  rw [← Int64.toNat_toBitVec, wordOf, hint]
  split at h <;> omega

namespace MPingState

/-- The seconds word of the packet. -/
def secondsWord (s : MPingState) : Nat := wordOf (secondsOf s.tv.toInt)

/-- The microseconds word of the packet. -/
def microsecondsWord (s : MPingState) : Nat := wordOf (microsecondsOf s.tv.toInt)

/-- Version, type, ttl and two zeros. -/
def header (s : MPingState) : Bytes := mstateVersion ++ [s.type.toUnderlying, s.ttl, 0, 0]

/-- The packet. -/
def wire (s : MPingState) : Bytes :=
  s.header ++ (hostBlock s.srcHost s.srcPort ++ (hostBlock s.destHost s.destPort ++
    (bigEndian 4 s.sequenceNumber.toNat ++ (bigEndian 4 s.pid.toNat ++
      (bigEndian 8 s.secondsWord ++ bigEndian 8 s.microsecondsWord)))))

@[simp] theorem length_header (s : MPingState) : s.header.length = 8 := by
  simp [header, mstateVersion]

@[simp] theorem length_wire (s : MPingState) : s.wire.length = 288 := by simp [wire]

theorem appendHost_eq (native : Endian) (what : String) (host : Address) (port : UInt16)
    (result : Bytes) :
    appendHost native what host port result = .ok (result ++ hostBlock host port) := by
  have hblock : ∀ (typeInt : BitVec 16), typeInt.toNat = host.family →
      toSockaddrStorage native typeInt host.bytes port = hostBlock host port := by
    intro typeInt h
    rw [toSockaddrStorage_eq, hostBlock, h]
    simp
  cases host with
  | v4 a => rw [← hblock 2 rfl]; rfl
  | v6 a => rw [← hblock 10 rfl]; rfl

/-- **`serialize` writes `wire`**, whatever the byte order of the host. It never throws. -/
theorem serialize_eq (native : Endian) (s : MPingState) : s.serialize native = .ok s.wire := by
  obtain ⟨seconds, hsec, hsecInt⟩ := s.getSeconds_ok
  obtain ⟨microseconds, hmic, hmicInt⟩ := s.getMicroseconds_ok
  have httl : bigEndian 1 s.ttl.toNat = [s.ttl] := by
    simp [bigEndian, littleEndian]
  have hsecWord : seconds.toBitVec.toNat = s.secondsWord := by
    rw [secondsWord, ← hsecInt, ← toNat_toUInt64, Int64.toNat_toBitVec]
  have hmicWord : microseconds.toBitVec.toNat = s.microsecondsWord := by
    rw [microsecondsWord, ← hmicInt, ← toNat_toUInt64, Int64.toNat_toBitVec]
  simp only [serialize, toByteArray_toBigendian, appendHost_eq, hsec, hmic]
  simp [wire, header, bind, Except.bind, pure, Except.pure, httl, hsecWord, hmicWord]

/-! ## Where the fields are -/

section Fields

variable (s : MPingState)

theorem slice_wire_version : slice s.wire 0 4 = mstateVersion := rfl

theorem slice_wire_type : slice s.wire 4 1 = [s.type.toUnderlying] := rfl

theorem slice_wire_ttl : slice s.wire 5 1 = [s.ttl] := rfl

theorem slice_wire_src : slice s.wire 8 128 = hostBlock s.srcHost s.srcPort := by
  simp [wire, slice_append_right, slice_append_left, slice_all]

theorem slice_wire_dest : slice s.wire 136 128 = hostBlock s.destHost s.destPort := by
  simp [wire, slice_append_right, slice_append_left, slice_all]

theorem slice_wire_seq : slice s.wire 264 4 = bigEndian 4 s.sequenceNumber.toNat := by
  simp [wire, slice_append_right, slice_append_left, slice_all]

theorem slice_wire_pid : slice s.wire 268 4 = bigEndian 4 s.pid.toNat := by
  simp [wire, slice_append_right, slice_append_left, slice_all]

theorem slice_wire_seconds : slice s.wire 272 8 = bigEndian 8 s.secondsWord := by
  simp [wire, slice_append_right, slice_append_left, slice_all]

theorem slice_wire_microseconds : slice s.wire 280 8 = bigEndian 8 s.microsecondsWord := by
  simp [wire, slice_append_right, slice_all]

/-- The time words are the last 16 bytes. -/
theorem slice_wire_times :
    slice s.wire 272 16 = bigEndian 8 s.secondsWord ++ bigEndian 8 s.microsecondsWord := by
  simp [wire, slice_append_right, slice_all]

/-! The values a reader finds there. -/

theorem secondsWord_lt : s.secondsWord < 256 ^ 8 := wordOf_lt _

theorem microsecondsWord_lt : s.microsecondsWord < 256 ^ 8 := wordOf_lt _

theorem ofBigEndian_wire_ttl : ofBigEndian (slice s.wire 5 1) = s.ttl.toNat := by
  rw [slice_wire_ttl]
  simp [ofBigEndian]

theorem ofBigEndian_wire_seq : ofBigEndian (slice s.wire 264 4) = s.sequenceNumber.toNat := by
  rw [slice_wire_seq, ofBigEndian_bigEndian_of_lt s.sequenceNumber.toNat_lt]

theorem ofBigEndian_wire_pid : ofBigEndian (slice s.wire 268 4) = s.pid.toNat := by
  rw [slice_wire_pid, ofBigEndian_bigEndian_of_lt s.pid.toNat_lt]

theorem ofBigEndian_wire_seconds : ofBigEndian (slice s.wire 272 8) = s.secondsWord := by
  rw [slice_wire_seconds, ofBigEndian_bigEndian_of_lt s.secondsWord_lt]

theorem ofBigEndian_wire_microseconds :
    ofBigEndian (slice s.wire 280 8) = s.microsecondsWord := by
  rw [slice_wire_microseconds, ofBigEndian_bigEndian_of_lt s.microsecondsWord_lt]

end Fields

end MPingState

end MPing
