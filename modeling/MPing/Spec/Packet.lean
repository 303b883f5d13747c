import MPing.Packet.Wire

/-!
# What a packet means

The abstract packet: what a receiver can know of the sender's state. Addresses have no scope id
and times no fraction of a microsecond, because neither is on the wire.

`decode` reads the layout the code writes. It is written here from the layout alone and shares
nothing with `serialize`; `decode_wire` connects the two. From it follows that packets are equal
exactly when they mean the same (`serialize_faithful`).
-/

namespace MPing.Spec

open Infra

/-! ## The abstract packet -/

/-- A host address as it travels. -/
inductive HostAddress where
  | ipv4 (bytes : Vector UInt8 4)
  | ipv6 (bytes : Vector UInt8 16)
deriving DecidableEq, Repr

structure Host where
  address : HostAddress
  port : UInt16
deriving DecidableEq, Repr

/-- A time in whole microseconds, within the reach of 64 bits of nanoseconds. -/
structure Microseconds where
  count : Int
  lower : -9223372036854775 ≤ count
  upper : count ≤ 9223372036854775
deriving DecidableEq, Repr

structure Packet where
  type : MPingStateType
  ttl : UInt8
  src : Host
  dest : Host
  sequenceNumber : UInt32
  pid : UInt32
  time : Microseconds
deriving DecidableEq, Repr

/-! ## Decoding -/

/-- The byte list as a fixed-size vector, if it has the size. -/
def toVector? (n : Nat) (bs : Bytes) : Option (Vector UInt8 n) :=
  if h : bs.length = n then some ⟨bs.toArray, by simpa using h⟩ else none

def decodeType : Bytes → Option MPingStateType
  | [0x73] => some .sender
  | [0x72] => some .receiver
  | _ => none

/-- Reads the 128 bytes of a host. -/
def decodeHost (b : Bytes) : Option Host := do
  let port := UInt16.ofNat (ofBigEndian (slice b 2 2))
  if ofLittleEndian (slice b 0 2) = 2 then
    return { address := .ipv4 (← toVector? 4 (slice b 8 4)), port }
  else if ofLittleEndian (slice b 0 2) = 10 then
    return { address := .ipv6 (← toVector? 16 (slice b 8 16)), port }
  else none

/-- A 64-bit word as a signed count. -/
def signedOf (w : Nat) : Int := if w < 2 ^ 63 then w else w - 2 ^ 64

/-- Reads the two time words, in microseconds. -/
def decodeTime (b : Bytes) : Option Microseconds :=
  let count := signedOf (ofBigEndian (slice b 0 8)) * 1000000 + signedOf (ofBigEndian (slice b 8 8))
  if h : -9223372036854775 ≤ count ∧ count ≤ 9223372036854775 then some ⟨count, h.1, h.2⟩ else none

def decode (b : Bytes) : Option Packet := do
  if b.length = 288 ∧ slice b 0 4 = [0x32, 0x2E, 0x30, 0x00] then
    return {
      type := ← decodeType (slice b 4 1)
      ttl := UInt8.ofNat (ofBigEndian (slice b 5 1))
      src := ← decodeHost (slice b 8 128)
      dest := ← decodeHost (slice b 136 128)
      sequenceNumber := UInt32.ofNat (ofBigEndian (slice b 264 4))
      pid := UInt32.ofNat (ofBigEndian (slice b 268 4))
      time := ← decodeTime (slice b 272 16) }
  else none

/-! ## What a state shows of itself -/

def observeAddress : Address → HostAddress
  | .v4 a => .ipv4 a.toBytes
  | .v6 a => .ipv6 a.toBytes

def observeTime (tv : Int64) : Microseconds where
  count := tv.toInt.tdiv 1000
  lower := by
    have h := tdiv_cases tv.toInt 1000
    have hlo := tv.le_toInt
    omega
  upper := by
    have h := tdiv_cases tv.toInt 1000
    have hhi := tv.toInt_lt
    omega

def observe (s : MPingState) : Packet where
  type := s.type
  ttl := s.ttl
  src := { address := observeAddress s.srcHost, port := s.srcPort }
  dest := { address := observeAddress s.destHost, port := s.destPort }
  sequenceNumber := s.sequenceNumber
  pid := s.pid
  time := observeTime s.tv

/-! ## Decoding undoes encoding -/

theorem toVector?_toList {n : Nat} (v : Vector UInt8 n) : toVector? n v.toList = some v := by
  rw [toVector?, dif_pos v.length_toList]
  rfl

theorem decodeType_toUnderlying (t : MPingStateType) : decodeType [t.toUnderlying] = some t := by
  cases t <;> rfl

theorem signedOf_wordOf {x : Int} (h1 : -2 ^ 63 ≤ x) (h2 : x < 2 ^ 63) :
    signedOf (wordOf x) = x := by
  unfold signedOf wordOf
  split <;> omega

/-- The two time words are the counts they were made of. -/
theorem signedOf_secondsWord (s : MPingState) :
    signedOf s.secondsWord = secondsOf s.tv.toInt := by
  have hlo := s.tv.le_toInt
  have hhi := s.tv.toInt_lt
  have hs := secondsOf_cases s.tv.toInt
  exact signedOf_wordOf (by omega) (by omega)

theorem signedOf_microsecondsWord (s : MPingState) :
    signedOf s.microsecondsWord = microsecondsOf s.tv.toInt := by
  have hm := microsecondsOf_cases s.tv.toInt
  exact signedOf_wordOf (by omega) (by omega)

theorem decodeHost_hostBlock (host : Address) (port : UInt16) :
    decodeHost (hostBlock host port) = some { address := observeAddress host, port } := by
  simp only [decodeHost, ofBigEndian_hostBlock_port, ofLittleEndian_hostBlock_family]
  cases host with
  | v4 a =>
    rw [slice_hostBlock_address _ _ (Address.length_bytes_v4 a), Address.bytes, toVector?_toList]
    simp [Address.family, observeAddress]
  | v6 a =>
    rw [slice_hostBlock_address _ _ (Address.length_bytes_v6 a), Address.bytes, toVector?_toList]
    simp [Address.family, observeAddress]

theorem decodeTime_wire (s : MPingState) :
    decodeTime (slice s.wire 272 16) = some (observeTime s.tv) := by
  have hlo := s.tv.le_toInt
  have hhi := s.tv.toInt_lt
  have hs := secondsOf_cases s.tv.toInt
  have hm := microsecondsOf_cases s.tv.toInt
  have hsec : signedOf (ofBigEndian (slice s.wire 272 8)) = secondsOf s.tv.toInt := by
    rw [s.ofBigEndian_wire_seconds]
    exact signedOf_wordOf (by omega) (by omega)
  have hmic : signedOf (ofBigEndian (slice s.wire 280 8)) = microsecondsOf s.tv.toInt := by
    rw [s.ofBigEndian_wire_microseconds]
    exact signedOf_wordOf (by omega) (by omega)
  simp only [decodeTime, slice_slice (show 0 + 8 ≤ 16 by omega),
    slice_slice (show 8 + 8 ≤ 16 by omega), hsec, hmic, seconds_microseconds]
  exact dif_pos ⟨(observeTime s.tv).lower, (observeTime s.tv).upper⟩

/-- **Decoding the packet of a state recovers what the state shows.** -/
theorem decode_wire (s : MPingState) : decode s.wire = some (observe s) := by
  rw [decode, if_pos ⟨s.length_wire, s.slice_wire_version⟩]
  simp [s.slice_wire_type, s.ofBigEndian_wire_ttl, s.slice_wire_src, s.slice_wire_dest,
    s.ofBigEndian_wire_seq, s.ofBigEndian_wire_pid, decodeType_toUnderlying,
    decodeHost_hostBlock, decodeTime_wire, observe]

/-! ## Equal packets -/

theorem observeAddress_eq_iff {a b : Address} :
    observeAddress a = observeAddress b ↔ a.family = b.family ∧ a.bytes = b.bytes := by
  cases a <;> cases b <;>
    simp [observeAddress, Address.family, Address.bytes, Vector.toList_inj]

theorem observe_eq_iff {a b : MPingState} :
    observe a = observe b ↔
      a.type = b.type ∧ a.ttl = b.ttl ∧ a.sequenceNumber = b.sequenceNumber ∧ a.pid = b.pid ∧
        a.srcPort = b.srcPort ∧ a.destPort = b.destPort ∧
        (a.srcHost.family = b.srcHost.family ∧ a.srcHost.bytes = b.srcHost.bytes) ∧
        (a.destHost.family = b.destHost.family ∧ a.destHost.bytes = b.destHost.bytes) ∧
        a.tv.toInt.tdiv 1000 = b.tv.toInt.tdiv 1000 := by
  rw [← observeAddress_eq_iff, ← observeAddress_eq_iff]
  simp only [observe, observeTime, Packet.mk.injEq, Host.mk.injEq, Microseconds.mk.injEq]
  tauto

/-- Nothing of a state reaches its packet but what the state shows. -/
theorem wire_congr {a b : MPingState} (h : observe a = observe b) : a.wire = b.wire := by
  obtain ⟨htype, httl, hseq, hpid, hsp, hdp, ⟨hsf, hsb⟩, ⟨hdf, hdb⟩, htv⟩ := observe_eq_iff.mp h
  simp only [MPingState.wire, MPingState.header, hostBlock, MPingState.secondsWord,
    MPingState.microsecondsWord, secondsOf_eq, microsecondsOf_eq, htype, httl, hseq, hpid, hsp,
    hdp, hsf, hsb, hdf, hdb, htv]

theorem wire_eq_iff {a b : MPingState} : a.wire = b.wire ↔ observe a = observe b := by
  constructor
  · intro h
    have hd := decode_wire a
    rw [h, decode_wire b] at hd
    exact (Option.some.inj hd).symm
  · exact wire_congr

/--
**The wire format is faithful for every mix of address families.**

`serialize` always returns 288 bytes, from which the decoder recovers exactly what the state shows;
and two states have the same packet exactly when they agree on all of that.
-/
theorem serialize_faithful (native : Endian) :
    (∀ s : MPingState, ∃ b, s.serialize native = .ok b ∧ b.length = 288 ∧
      decode b = some (observe s)) ∧
      ∀ a b : MPingState, a.serialize native = b.serialize native ↔
        a.type = b.type ∧ a.ttl = b.ttl ∧ a.sequenceNumber = b.sequenceNumber ∧ a.pid = b.pid ∧
          a.srcPort = b.srcPort ∧ a.destPort = b.destPort ∧
          (a.srcHost.family = b.srcHost.family ∧ a.srcHost.bytes = b.srcHost.bytes) ∧
          (a.destHost.family = b.destHost.family ∧ a.destHost.bytes = b.destHost.bytes) ∧
          a.tv.toInt.tdiv 1000 = b.tv.toInt.tdiv 1000 := by
  constructor
  · intro s
    exact ⟨s.wire, s.serialize_eq native, s.length_wire, decode_wire s⟩
  · intro a b
    rw [a.serialize_eq, b.serialize_eq, Except.ok.injEq, wire_eq_iff, observe_eq_iff]

end MPing.Spec
