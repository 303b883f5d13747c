import MPing.Packet.Wire
import MPing.Dissector.Annotation

/-!
# Encoder and dissector

`serialize` appends, the dissector reads at absolute offsets. Here the two meet.

* `dissector_reads_ipv6` — between IPv6 hosts the dissector reads back every field, and warns about
  exactly the addresses and ports that differ from the headers
* `dissector_ipv4_iff` — an IPv4 address is read back only if it is `0.0.0.0`: the encoder leaves
  a gap of four zeros before it, and that gap is what the dissector reads
-/

namespace MPing.Dissector

open Infra Wireshark

theorem decodable_wire (s : MPingState) : Decodable s.wire where
  long := by simp
  version := s.slice_wire_version

/-! ## Time stamps never break the dissector -/

/-- The microseconds of a packet are small or, as a negative count, beyond the guard. -/
theorem microsecondsWord_bound (s : MPingState) :
    s.microsecondsWord < 2 ^ 53 ∨ 2 ^ 63 ≤ s.microsecondsWord := by
  have h := microsecondsOf_cases s.tv.toInt
  simp only [MPingState.microsecondsWord, wordOf]
  omega

theorem secondsWordOf_wire (s : MPingState) : (secondsWordOf s.wire).toNat = s.secondsWord := by
  rw [secondsWordOf, s.ofBigEndian_wire_seconds, UInt64.toNat_ofNat_of_lt' s.secondsWord_lt]

theorem microsecondsWordOf_wire (s : MPingState) :
    (microsecondsWordOf s.wire).toNat = s.microsecondsWord := by
  rw [microsecondsWordOf, s.ofBigEndian_wire_microseconds,
    UInt64.toNat_ofNat_of_lt' s.microsecondsWord_lt]

/-- The annotation of a packet does not fail. -/
theorem result_annotateTime_wire (formatTime : Nat → String) (s : MPingState) :
    (annotateTime formatTime s.wire).result = .ok () := by
  unfold annotateTime
  split
  · next hguard =>
    have hsmall : (microsecondsWordOf s.wire).toNat < 2 ^ 53 := by
      have hbound := microsecondsWord_bound s
      have hlt := toNat_lt_of_annotated hguard
      rw [microsecondsWordOf_wire] at hlt ⊢
      omega
    have hnum : tonumber (microsecondsWordOf s.wire) = (microsecondsWordOf s.wire).toNat :=
      roundNat_eq_self_iff.mpr ⟨_, 0, hsmall, by simp⟩
    rw [absoluteTimeText_eq, hnum, if_pos (by omega), Logged.ofExcept_ok, pure_bind, addText]
    simp
  · simp

/-! ## A host, as the dissector sees it -/

/-- The address as Wireshark holds it. -/
def wsAddress : Address → WsAddress
  | .v4 a => ⟨.ipv4, a.toBytes.toList⟩
  | .v6 a => ⟨.ipv6, a.toBytes.toList⟩

/-- The address the dissector reads in the block of a host. -/
def readAddress : Address → WsAddress
  | .v4 _ => ⟨.ipv4, List.replicate 4 0⟩
  | .v6 a => ⟨.ipv6, a.toBytes.toList⟩

theorem readAddress_eq_iff {host : Address} :
    readAddress host = wsAddress host ↔ ∀ a, host = .v4 a → a = .any := by
  cases host with
  | v6 a => simp [readAddress, wsAddress]
  | v4 a =>
    have hany : (List.replicate 4 0 : Bytes) = AddressV4.any.toBytes.toList := rfl
    simp only [readAddress, wsAddress, WsAddress.mk.injEq, true_and, hany, Vector.toList_inj,
      Address.v4.injEq, forall_eq']
    constructor
    · intro h
      exact congrArg AddressV4.mk h.symm
    · intro h
      rw [h]

/-- The offsets of a section relative to its block. -/
structure Aligned (h : HostFields) : Prop where
  family : h.familyOffset = h.blockOffset + 0
  port : h.portOffset = h.blockOffset + 2
  ipv6 : h.ipv6Offset = h.blockOffset + 8
  ipv4 : h.ipv4Offset = h.blockOffset + 4

theorem aligned_sourceHost : Aligned sourceHost := ⟨rfl, rfl, rfl, rfl⟩

theorem aligned_destinationHost : Aligned destinationHost := ⟨rfl, rfl, rfl, rfl⟩

/-- The field the address of a host is added under. -/
def addressField (h : HostFields) : Address → ProtoField
  | .v4 _ => h.ipv4
  | .v6 _ => h.ipv6

/-- The item of the address, with the range it is read from. -/
def addressItem (h : HostFields) (host : Address) : TreeItem :=
  match host with
  | .v4 _ => .field h.node h.ipv4 h.ipv4Offset 4 (.address (readAddress host))
  | .v6 _ => .field h.node h.ipv6 h.ipv6Offset 16 (.address (readAddress host))

@[simp] theorem fields_addressItem (h : HostFields) (host : Address) (log : List TreeItem) :
    fields (addressItem h host :: log)
      = (addressField h host, .address (readAddress host)) :: fields log := by
  cases host <;> rfl

@[simp] theorem experts_addressItem (h : HostFields) (host : Address) (log : List TreeItem) :
    experts (addressItem h host :: log) = experts log := by
  cases host <;> rfl

/--
**What a section adds for the block of a host.**

The family and the port are the host's own. So is an IPv6 address; for an IPv4 host the four bytes
read are those of the gap before the address.
-/
theorem hostItems_hostBlock {h : HostFields} (hal : Aligned h) {b : Bytes} {host : Address}
    {port : UInt16} (hb : slice b h.blockOffset 128 = hostBlock host port) (address : WsAddress)
    (p : Nat) :
    hostItems h b address p =
      ([.subtree h.node h.blockOffset 128 h.label,
        .field h.node h.family h.familyOffset 2 (.uint host.family),
        .field h.node h.port h.portOffset 2 (.uint port.toNat)] : List TreeItem) ++
      (if port.toNat = p then [] else [.expert h.node h.mismatchPort] : List TreeItem) ++
      [addressItem h host] ++
      (if readAddress host = address then [] else [.expert h.node h.mismatchAddress] :
        List TreeItem) := by
  have hfamily : ofLittleEndian (slice b h.familyOffset 2) = host.family := by
    rw [hal.family, slice_block hb (by omega), ofLittleEndian_hostBlock_family]
  have hport : ofBigEndian (slice b h.portOffset 2) = port.toNat := by
    rw [hal.port, slice_block hb (by omega), ofBigEndian_hostBlock_port]
  cases host with
  | v4 a =>
    have hread : (⟨.ipv4, slice b h.ipv4Offset 4⟩ : WsAddress) = readAddress (.v4 a) := by
      rw [hal.ipv4, slice_block hb (by omega), slice_hostBlock_gap]
      rfl
    simp [hostItems, hfamily, hport, hread, Address.family, afInet6, afInet, addressItem]
  | v6 a =>
    have hread : (⟨.ipv6, slice b h.ipv6Offset 16⟩ : WsAddress) = readAddress (.v6 a) := by
      rw [hal.ipv6, slice_block hb (by omega),
        slice_hostBlock_address _ _ (Address.length_bytes_v6 a)]
      rfl
    simp [hostItems, hfamily, hport, hread, Address.family, afInet6, afInet, addressItem]

/-! ## A packet, as the dissector sees it -/

section Packet

variable (formatTime : Nat → String) (s : MPingState) (pinfo : Pinfo)

/-- The items of a packet before the annotation. -/
def packetItems : List TreeItem :=
  ([.subtree .protocol 0 288 "Multicast Ping Protocol",
    .field .protocol .version 0 4 (.string mpingVersion),
    .field .protocol .type 4 1 (.uint s.type.toUnderlying.toNat),
    .field .protocol .ttl 5 1 (.uint s.ttl.toNat)] : List TreeItem) ++
  hostItems sourceHost s.wire pinfo.src pinfo.srcPort ++
  hostItems destinationHost s.wire pinfo.dst pinfo.dstPort ++
  ([.field .protocol .sequenceNumber 264 4 (.uint s.sequenceNumber.toNat),
    .field .protocol .pid 268 4 (.uint s.pid.toNat),
    .subtree .timestamp 272 16 "Timestamp",
    .field .timestamp .seconds 272 8 (.uint s.secondsWord),
    .field .timestamp .microseconds 280 8 (.uint s.microsecondsWord)] : List TreeItem)

theorem dissector_wire :
    dissector formatTime s.wire pinfo
      = ⟨packetItems s pinfo ++ (annotateTime formatTime s.wire).log, .ok ()⟩ := by
  have htype : ofBigEndian (slice s.wire 4 1) = s.type.toUnderlying.toNat := by
    rw [s.slice_wire_type]
    simp [ofBigEndian]
  -- a state has one of the two types, so the type check finds nothing
  have hvalid : ¬(s.type.toUnderlying.toNat ≠ typeSender ∧
      s.type.toUnderlying.toNat ≠ typeReceiver) := by
    cases s.type <;> decide
  have hb := decodable_wire s
  rw [dissector_eq _ _ hb.long hb.version, result_annotateTime_wire formatTime s]
  simp only [items, packetItems, headerItems, counterItems, timestampItems, htype, if_neg hvalid,
    s.ofBigEndian_wire_ttl, s.ofBigEndian_wire_seq, s.ofBigEndian_wire_pid, secondsWordOf_wire,
    microsecondsWordOf_wire, s.length_wire]
  simp

theorem hostItems_source :
    hostItems sourceHost s.wire pinfo.src pinfo.srcPort =
      ([.subtree .sourceHost 8 128 "Source Host",
        .field .sourceHost .sourceHostFamily 8 2 (.uint s.srcHost.family),
        .field .sourceHost .sourceHostPort 10 2 (.uint s.srcPort.toNat)] : List TreeItem) ++
      (if s.srcPort.toNat = pinfo.srcPort then []
        else [.expert .sourceHost .mismatchSourceHostPort] : List TreeItem) ++
      [addressItem sourceHost s.srcHost] ++
      (if readAddress s.srcHost = pinfo.src then []
        else [.expert .sourceHost .mismatchSourceHostAddress] : List TreeItem) :=
  hostItems_hostBlock aligned_sourceHost s.slice_wire_src _ _

theorem hostItems_destination :
    hostItems destinationHost s.wire pinfo.dst pinfo.dstPort =
      ([.subtree .destinationHost 136 128 "Destination Host",
        .field .destinationHost .destinationHostFamily 136 2 (.uint s.destHost.family),
        .field .destinationHost .destinationHostPort 138 2 (.uint s.destPort.toNat)] :
          List TreeItem) ++
      (if s.destPort.toNat = pinfo.dstPort then []
        else [.expert .destinationHost .mismatchDestinationHostPort] : List TreeItem) ++
      [addressItem destinationHost s.destHost] ++
      (if readAddress s.destHost = pinfo.dst then []
        else [.expert .destinationHost .mismatchDestinationHostAddress] : List TreeItem) :=
  hostItems_hostBlock aligned_destinationHost s.slice_wire_dest _ _

/-- **The expert infos of a packet.** -/
theorem experts_dissector :
    experts (dissector formatTime s.wire pinfo).log =
      (if s.srcPort.toNat = pinfo.srcPort then [] else [ProtoExpert.mismatchSourceHostPort]) ++
      (if readAddress s.srcHost = pinfo.src then []
        else [ProtoExpert.mismatchSourceHostAddress]) ++
      (if s.destPort.toNat = pinfo.dstPort then []
        else [ProtoExpert.mismatchDestinationHostPort]) ++
      (if readAddress s.destHost = pinfo.dst then []
        else [ProtoExpert.mismatchDestinationHostAddress]) := by
  rw [dissector_wire, experts_append, experts_annotateTime]
  simp [packetItems, hostItems_source, hostItems_destination, apply_ite experts]

/-- **The fields of a packet.** -/
theorem fields_dissector :
    fields (dissector formatTime s.wire pinfo).log =
      [(.version, .string mpingVersion), (.type, .uint s.type.toUnderlying.toNat),
        (.ttl, .uint s.ttl.toNat),
        (.sourceHostFamily, .uint s.srcHost.family), (.sourceHostPort, .uint s.srcPort.toNat),
        (addressField sourceHost s.srcHost, .address (readAddress s.srcHost)),
        (.destinationHostFamily, .uint s.destHost.family),
        (.destinationHostPort, .uint s.destPort.toNat),
        (addressField destinationHost s.destHost, .address (readAddress s.destHost)),
        (.sequenceNumber, .uint s.sequenceNumber.toNat), (.pid, .uint s.pid.toNat),
        (.seconds, .uint s.secondsWord), (.microseconds, .uint s.microsecondsWord)] := by
  rw [dissector_wire, fields_append, fields_annotateTime]
  simp [packetItems, hostItems_source, hostItems_destination, apply_ite fields]

theorem fieldValues_source {a : AddressV4} (h : s.srcHost = .v4 a) :
    fieldValues .sourceHostFamily (dissector formatTime s.wire pinfo).log = [.uint afInet] ∧
      fieldValues .sourceHostPort (dissector formatTime s.wire pinfo).log
        = [.uint s.srcPort.toNat] ∧
      fieldValues .sourceHostIpv4 (dissector formatTime s.wire pinfo).log
        = [.address (readAddress s.srcHost)] := by
  simp only [fieldValues, fields_dissector, h]
  cases s.destHost <;> exact ⟨rfl, rfl, rfl⟩

theorem fieldValues_destination {a : AddressV4} (h : s.destHost = .v4 a) :
    fieldValues .destinationHostFamily (dissector formatTime s.wire pinfo).log = [.uint afInet] ∧
      fieldValues .destinationHostPort (dissector formatTime s.wire pinfo).log
        = [.uint s.destPort.toNat] ∧
      fieldValues .destinationHostIpv4 (dissector formatTime s.wire pinfo).log
        = [.address (readAddress s.destHost)] := by
  simp only [fieldValues, fields_dissector, h]
  cases s.srcHost <;> exact ⟨rfl, rfl, rfl⟩

end Packet

/-! ## IPv6 hosts -/

/--
**Between IPv6 hosts, decoding undoes encoding.**

The dissector passes its checks and fails nowhere. Its fields are, in order, the fields of the
state; its expert infos are exactly the differences from the headers.
-/
theorem dissector_reads_ipv6 (formatTime : Nat → String) (native : Endian) (pinfo : Pinfo)
    {s : MPingState} {src dest : AddressV6} (hsrc : s.srcHost = .v6 src)
    (hdest : s.destHost = .v6 dest) :
    ∃ b seconds microseconds,
      s.serialize native = .ok b ∧ s.getSeconds = .ok seconds ∧
      s.getMicroseconds = .ok microseconds ∧
      (dissector formatTime b pinfo).result = .ok () ∧
      fields (dissector formatTime b pinfo).log =
        [(.version, .string mpingVersion), (.type, .uint s.type.toUnderlying.toNat),
          (.ttl, .uint s.ttl.toNat),
          (.sourceHostFamily, .uint 10), (.sourceHostPort, .uint s.srcPort.toNat),
          (.sourceHostIpv6, .address ⟨.ipv6, src.toBytes.toList⟩),
          (.destinationHostFamily, .uint 10), (.destinationHostPort, .uint s.destPort.toNat),
          (.destinationHostIpv6, .address ⟨.ipv6, dest.toBytes.toList⟩),
          (.sequenceNumber, .uint s.sequenceNumber.toNat), (.pid, .uint s.pid.toNat),
          (.seconds, .uint (seconds.toInt % 2 ^ 64).toNat),
          (.microseconds, .uint (microseconds.toInt % 2 ^ 64).toNat)] ∧
      ofBigEndian (slice b 264 4) = s.sequenceNumber.toNat ∧
      ofBigEndian (slice b 268 4) = s.pid.toNat ∧
      experts (dissector formatTime b pinfo).log =
        (if s.srcPort.toNat = pinfo.srcPort then [] else [ProtoExpert.mismatchSourceHostPort]) ++
        (if ⟨.ipv6, src.toBytes.toList⟩ = pinfo.src then []
          else [ProtoExpert.mismatchSourceHostAddress]) ++
        (if s.destPort.toNat = pinfo.dstPort then []
          else [ProtoExpert.mismatchDestinationHostPort]) ++
        (if ⟨.ipv6, dest.toBytes.toList⟩ = pinfo.dst then []
          else [ProtoExpert.mismatchDestinationHostAddress]) := by
  obtain ⟨seconds, hsec, hsecInt⟩ := s.getSeconds_ok
  obtain ⟨microseconds, hmic, hmicInt⟩ := s.getMicroseconds_ok
  refine ⟨s.wire, seconds, microseconds, s.serialize_eq native, hsec, hmic, ?_, ?_,
    s.ofBigEndian_wire_seq, s.ofBigEndian_wire_pid, ?_⟩
  · rw [dissector_wire]
  · rw [fields_dissector, hsrc, hdest, MPingState.secondsWord, MPingState.microsecondsWord,
      ← hsecInt, ← hmicInt]
    rfl
  · rw [experts_dissector, hsrc, hdest]
    rfl

/-- The packet of the repository's own serialization test, with matching and other headers. -/
theorem dissector_reads_ipv6_test :
    experts (dissector (fun _ => "") (MPingState.wire
      { type := .sender, ttl := 1,
        srcHost := .v6 ⟨#v[0xfd, 0, 0x8e, 0x13, 0xce, 0x5d, 0, 0x0e, 0, 0, 0, 0, 0, 0, 0, 1], 0⟩,
        srcPort := 0,
        destHost := .v6 ⟨#v[0xff, 0x2e, 0, 0, 0, 0, 0, 0, 0, 0, 0, 0, 0, 0, 0, 0x42], 0⟩,
        destPort := 4321, sequenceNumber := 3, pid := 417936, tv := 163169553889000 })
      { src := ⟨.ipv6, [0xfd, 0, 0x8e, 0x13, 0xce, 0x5d, 0, 0x0e, 0, 0, 0, 0, 0, 0, 0, 1]⟩,
        dst := ⟨.ipv4, [232, 1, 2, 3]⟩, srcPort := 0, dstPort := 4321 }).log
      = [.mismatchDestinationHostAddress] := by
  obtain ⟨b, _, _, hb, _, _, _, _, _, _, hexperts⟩ := dissector_reads_ipv6 (fun _ => "") .little
    { src := ⟨.ipv6, [0xfd, 0, 0x8e, 0x13, 0xce, 0x5d, 0, 0x0e, 0, 0, 0, 0, 0, 0, 0, 1]⟩,
      dst := ⟨.ipv4, [232, 1, 2, 3]⟩, srcPort := 0, dstPort := 4321 }
    (s :=
      { type := .sender, ttl := 1,
        srcHost := .v6 ⟨#v[0xfd, 0, 0x8e, 0x13, 0xce, 0x5d, 0, 0x0e, 0, 0, 0, 0, 0, 0, 0, 1], 0⟩,
        srcPort := 0,
        destHost := .v6 ⟨#v[0xff, 0x2e, 0, 0, 0, 0, 0, 0, 0, 0, 0, 0, 0, 0, 0, 0x42], 0⟩,
        destPort := 4321, sequenceNumber := 3, pid := 417936, tv := 163169553889000 }) rfl rfl
  rw [MPingState.serialize_eq] at hb
  obtain rfl := Except.ok.inj hb
  exact hexperts

/-! ## IPv4 hosts -/

/-- The headers around a packet that say what the state says. -/
def pinfoOf (s : MPingState) : Pinfo where
  src := wsAddress s.srcHost
  dst := wsAddress s.destHost
  srcPort := s.srcPort.toNat
  dstPort := s.destPort.toNat

/-- The expert infos about hosts. -/
def hostExperts : List ProtoExpert :=
  [.invalidSourceHostFamily, .mismatchSourceHostAddress, .mismatchSourceHostPort,
    .invalidDestinationHostFamily, .mismatchDestinationHostAddress, .mismatchDestinationHostPort]

/--
Encoder and dissector agree on the IPv4 hosts of `s`: for each, the dissector reads its family, its
port and its address; and it has nothing to say about hosts when the headers agree with the state.
-/
def AgreeOnIpv4 (formatTime : Nat → String) (native : Endian) (s : MPingState) : Prop :=
  ∃ b, s.serialize native = .ok b ∧
    (∀ (pinfo : Pinfo) (a : AddressV4), s.srcHost = .v4 a →
      fieldValues .sourceHostFamily (dissector formatTime b pinfo).log = [.uint afInet] ∧
        fieldValues .sourceHostPort (dissector formatTime b pinfo).log
          = [.uint s.srcPort.toNat] ∧
        fieldValues .sourceHostIpv4 (dissector formatTime b pinfo).log
          = [.address ⟨.ipv4, a.toBytes.toList⟩]) ∧
    (∀ (pinfo : Pinfo) (a : AddressV4), s.destHost = .v4 a →
      fieldValues .destinationHostFamily (dissector formatTime b pinfo).log = [.uint afInet] ∧
        fieldValues .destinationHostPort (dissector formatTime b pinfo).log
          = [.uint s.destPort.toNat] ∧
        fieldValues .destinationHostIpv4 (dissector formatTime b pinfo).log
          = [.address ⟨.ipv4, a.toBytes.toList⟩]) ∧
    ∀ e ∈ hostExperts, e ∉ experts (dissector formatTime b (pinfoOf s)).log

/-- The address read is the address of the host exactly when the host is not hit by the gap. -/
theorem address_read_iff {host : Address} {a : AddressV4} (h : host = .v4 a) :
    [Value.address (readAddress host)] = [.address ⟨.ipv4, a.toBytes.toList⟩] ↔ a = .any := by
  have hws : (⟨.ipv4, a.toBytes.toList⟩ : WsAddress) = wsAddress host := by rw [h]; rfl
  rw [hws, List.cons.injEq, Value.address.injEq, and_iff_left rfl, readAddress_eq_iff]
  constructor
  · intro hall
    exact hall a h
  · intro ha a' ha'
    rw [h] at ha'
    cases ha'
    exact ha

/--
**An IPv4 address survives the trip exactly if it is `0.0.0.0`.**

The encoder puts the four bytes behind `std::advance(it, 4)`, at offset 8 of the block; the
dissector reads offset 4, as the layout comment draws it. Family and port are not affected.
-/
theorem dissector_ipv4_iff (formatTime : Nat → String) (native : Endian) (s : MPingState) :
    AgreeOnIpv4 formatTime native s ↔
      (∀ a, s.srcHost = .v4 a → a = .any) ∧ (∀ a, s.destHost = .v4 a → a = .any) := by
  constructor
  · rintro ⟨b, hb, hsrc, hdest, -⟩
    rw [s.serialize_eq] at hb
    obtain rfl := Except.ok.inj hb
    constructor
    · intro a ha
      have hread := (hsrc (pinfoOf s) a ha).2.2
      rw [(fieldValues_source formatTime s (pinfoOf s) ha).2.2] at hread
      exact (address_read_iff ha).mp hread
    · intro a ha
      have hread := (hdest (pinfoOf s) a ha).2.2
      rw [(fieldValues_destination formatTime s (pinfoOf s) ha).2.2] at hread
      exact (address_read_iff ha).mp hread
  · rintro ⟨hsrc, hdest⟩
    refine ⟨s.wire, s.serialize_eq native, ?_, ?_, ?_⟩
    · intro pinfo a ha
      obtain ⟨hfamily, hport, hread⟩ := fieldValues_source formatTime s pinfo ha
      exact ⟨hfamily, hport, hread.trans ((address_read_iff ha).mpr (hsrc a ha))⟩
    · intro pinfo a ha
      obtain ⟨hfamily, hport, hread⟩ := fieldValues_destination formatTime s pinfo ha
      exact ⟨hfamily, hport, hread.trans ((address_read_iff ha).mpr (hdest a ha))⟩
    · have hnone : experts (dissector formatTime s.wire (pinfoOf s)).log = [] := by
        rw [experts_dissector, readAddress_eq_iff.mpr hsrc, readAddress_eq_iff.mpr hdest]
        simp [pinfoOf]
      simp [hnone]

/-- `192.0.2.1` sending to `239.1.2.3`: no dissector run reads the source address. -/
theorem ipv4_address_lost :
    ¬∃ formatTime, AgreeOnIpv4 formatTime .little
      { type := .sender, ttl := 64, srcHost := .v4 ⟨#v[192, 0, 2, 1]⟩, srcPort := 4321,
        destHost := .v4 ⟨#v[239, 1, 2, 3]⟩, destPort := 4321, sequenceNumber := 0, pid := 1,
        tv := 0 } := by
  rintro ⟨formatTime, b, hb, hsrc, -⟩
  rw [MPingState.serialize_eq] at hb
  obtain rfl := Except.ok.inj hb
  have hread := (hsrc ⟨⟨.ipv4, []⟩, ⟨.ipv4, []⟩, 0, 0⟩ _ rfl).2.2
  rw [(fieldValues_source formatTime _ _ rfl).2.2] at hread
  exact absurd ((address_read_iff rfl).mp hread) (by decide)

end MPing.Dissector
