import MPing.Dissector.Agreement

/-!
# Source and destination

Encoder and dissector treat the two hosts of a packet with two copies of one text. What a section of
the dissector finds is written here in words that do not say which side it is (`HostItem`,
`sectionOf`); in these words the copies are the same function of a block and a pair of headers
(`sectionOf_dissector`), and exchanging the hosts exchanges what the sections find
(`hosts_mirrored`).
-/

namespace MPing

/-- The state of the way back: source and destination exchanged. -/
def MPingState.exchange (s : MPingState) : MPingState :=
  { s with srcHost := s.destHost, srcPort := s.destPort, destHost := s.srcHost,
           destPort := s.srcPort }

end MPing

namespace MPing.Dissector

open Infra Wireshark

/-! ## Exchanging the hosts -/

/-- The buffer with bytes 8 to 135 and bytes 136 to 263 exchanged. -/
def exchangeBlocks (b : Bytes) : Bytes :=
  slice b 0 8 ++ (slice b 136 128 ++ (slice b 8 128 ++ b.drop 264))

/-- The headers with the two sides exchanged. -/
def exchangeHeaders (pinfo : Pinfo) : Pinfo where
  src := pinfo.dst
  dst := pinfo.src
  srcPort := pinfo.dstPort
  dstPort := pinfo.srcPort

section Exchange

variable {b : Bytes}

theorem length_exchangeBlocks (hb : 264 ≤ b.length) : (exchangeBlocks b).length = b.length := by
  simp only [exchangeBlocks, List.length_append, List.length_drop]
  rw [length_slice (by omega), length_slice (by omega), length_slice (by omega)]
  omega

theorem slice_exchangeBlocks_header {n : Nat} (hb : 264 ≤ b.length) (hn : n ≤ 8) :
    slice (exchangeBlocks b) 0 n = slice b 0 n := by
  rw [exchangeBlocks, slice_append_left (by rw [length_slice (by omega)]; omega),
    slice_slice (by omega)]

theorem slice_exchangeBlocks_source (hb : 264 ≤ b.length) :
    slice (exchangeBlocks b) 8 128 = slice b 136 128 := by
  have h0 : (slice b 0 8).length = 8 := length_slice (by omega)
  have hdest : (slice b 136 128).length = 128 := length_slice (by omega)
  rw [exchangeBlocks, slice_append_right (by omega), h0, slice_append_left (by omega),
    slice_all hdest]

/-- `serialize` writes the exchanged packet for the exchanged state. -/
theorem wire_exchange (s : MPingState) : s.exchange.wire = exchangeBlocks s.wire := by
  have hrest : s.wire.drop 264 =
      bigEndian 4 s.sequenceNumber.toNat ++ (bigEndian 4 s.pid.toNat ++
        (bigEndian 8 s.secondsWord ++ bigEndian 8 s.microsecondsWord)) := by
    simp [MPingState.wire, List.drop_append, List.drop_eq_nil_of_le]
  have hheader : slice s.wire 0 8 = s.header := by
    rw [MPingState.wire, slice_append_left (by simp), slice_all s.length_header]
  rw [exchangeBlocks, hrest, hheader, s.slice_wire_src, s.slice_wire_dest]
  rfl

end Exchange

/-! ## What a section finds -/

/-- The sides of a packet. -/
inductive Side where
  | source
  | destination
deriving DecidableEq, Repr

def Side.node : Side → Node
  | .source => .sourceHost
  | .destination => .destinationHost

/-- Where the block of a side begins. -/
def Side.blockOffset : Side → Nat
  | .source => 8
  | .destination => 136

/-- The fields of a host. -/
inductive HostRole where
  | family
  | port
  | ipv6
  | ipv4
deriving DecidableEq, Repr

/-- The expert infos about a host. -/
inductive HostFault where
  | invalidFamily
  | mismatchPort
  | mismatchAddress
deriving DecidableEq, Repr

/-- The side and the role a field has by its name. -/
def ProtoField.hostRole : ProtoField → Option (Side × HostRole)
  | .sourceHostFamily => some (.source, .family)
  | .sourceHostIpv4 => some (.source, .ipv4)
  | .sourceHostIpv6 => some (.source, .ipv6)
  | .sourceHostPort => some (.source, .port)
  | .destinationHostFamily => some (.destination, .family)
  | .destinationHostIpv4 => some (.destination, .ipv4)
  | .destinationHostIpv6 => some (.destination, .ipv6)
  | .destinationHostPort => some (.destination, .port)
  | .version | .type | .ttl | .sequenceNumber | .pid | .seconds | .microseconds => none

/-- The side and the fault an expert info reports by its name. -/
def ProtoExpert.hostFault : ProtoExpert → Option (Side × HostFault)
  | .invalidSourceHostFamily => some (.source, .invalidFamily)
  | .mismatchSourceHostAddress => some (.source, .mismatchAddress)
  | .mismatchSourceHostPort => some (.source, .mismatchPort)
  | .invalidDestinationHostFamily => some (.destination, .invalidFamily)
  | .mismatchDestinationHostAddress => some (.destination, .mismatchAddress)
  | .mismatchDestinationHostPort => some (.destination, .mismatchPort)
  | .depracatedVersion | .invalidType => none

/-- An item of a host section, without the side. The offset counts from the start of the block. -/
inductive HostItem where
  | field (role : HostRole) (offset len : Nat) (value : Value)
  | expert (fault : HostFault)
deriving DecidableEq, Repr

/-- What a name says, if it is a name of this side. -/
def Side.own {α : Type} (side : Side) : Option (Side × α) → Option α
  | some (side', a) => if side' = side then some a else none
  | none => none

/-- An item below the node of a side under a name of that side, in the words of `HostItem`. -/
def Side.hostItem (side : Side) : TreeItem → Option HostItem
  | .field parent f o n value =>
    if parent = side.node then
      (side.own f.hostRole).map (.field · (o - side.blockOffset) n value)
    else none
  | .expert parent e => if parent = side.node then (side.own e.hostFault).map .expert else none
  | _ => none

/-- What the section of a side has added to the tree. -/
def sectionOf (side : Side) (log : List TreeItem) : List HostItem := log.filterMap side.hostItem

/-- What a section finds in a block when it is compared with an address and a port. -/
def blockItems (block : Bytes) (address : WsAddress) (port : Nat) : List HostItem :=
  let family := ofLittleEndian (slice block 0 2)
  let hostPort := ofBigEndian (slice block 2 2)
  let ipv6 : WsAddress := ⟨.ipv6, slice block 8 16⟩
  let ipv4 : WsAddress := ⟨.ipv4, slice block 4 4⟩
  .field .family 0 2 (.uint family) ::
  if family = afInet6 ∨ family = afInet then
    .field .port 2 2 (.uint hostPort) ::
    ((if hostPort = port then [] else [HostItem.expert .mismatchPort]) ++
    (if family = afInet6 then
      .field .ipv6 8 16 (.address ipv6) ::
        if ipv6 = address then [] else [HostItem.expert .mismatchAddress]
    else
      .field .ipv4 4 4 (.address ipv4) ::
        if ipv4 = address then [] else [HostItem.expert .mismatchAddress]))
  else [HostItem.expert .invalidFamily]

/-- A section is about one side: it has its node, its block and its names, each for its role. -/
structure Legible (side : Side) (h : HostFields) : Prop where
  node : h.node = side.node
  block : h.blockOffset = side.blockOffset
  family : h.family.hostRole = some (side, .family)
  port : h.port.hostRole = some (side, .port)
  ipv6 : h.ipv6.hostRole = some (side, .ipv6)
  ipv4 : h.ipv4.hostRole = some (side, .ipv4)
  invalidFamily : h.invalidFamily.hostFault = some (side, .invalidFamily)
  mismatchPort : h.mismatchPort.hostFault = some (side, .mismatchPort)
  mismatchAddress : h.mismatchAddress.hostFault = some (side, .mismatchAddress)

theorem legible_sourceHost : Legible .source sourceHost :=
  ⟨rfl, rfl, rfl, rfl, rfl, rfl, rfl, rfl, rfl⟩

theorem legible_destinationHost : Legible .destination destinationHost :=
  ⟨rfl, rfl, rfl, rfl, rfl, rfl, rfl, rfl, rfl⟩

/-! ## A section is a function of its block and its headers -/

@[simp] theorem sectionOf_append (side : Side) (as bs : List TreeItem) :
    sectionOf side (as ++ bs) = sectionOf side as ++ sectionOf side bs := List.filterMap_append

theorem Side.own_self {α : Type} (side : Side) (a : α) : side.own (some (side, a)) = some a :=
  if_pos rfl

section Cons

variable (side : Side) (log : List TreeItem)

@[simp] theorem sectionOf_nil : sectionOf side [] = [] := rfl

@[simp] theorem sectionOf_subtree (node : Node) (o n : Nat) (label : String) :
    sectionOf side (.subtree node o n label :: log) = sectionOf side log := rfl

theorem sectionOf_field {f : ProtoField} {role : HostRole} (hf : f.hostRole = some (side, role))
    (o n : Nat) (value : Value) :
    sectionOf side (.field side.node f o n value :: log)
      = .field role (o - side.blockOffset) n value :: sectionOf side log := by
  have hitem : side.hostItem (.field side.node f o n value)
      = some (.field role (o - side.blockOffset) n value) := by
    rw [Side.hostItem, if_pos rfl, hf, Side.own_self]
    rfl
  exact List.filterMap_cons_some hitem

theorem sectionOf_expert {e : ProtoExpert} {fault : HostFault}
    (he : e.hostFault = some (side, fault)) :
    sectionOf side (.expert side.node e :: log) = .expert fault :: sectionOf side log := by
  have hitem : side.hostItem (.expert side.node e) = some (.expert fault) := by
    rw [Side.hostItem, if_pos rfl, he, Side.own_self]
    rfl
  exact List.filterMap_cons_some hitem

end Cons

/-- **A section finds what its block holds.** -/
theorem sectionOf_hostItems {side : Side} {h : HostFields} (hal : Aligned h)
    (hleg : Legible side h) (b : Bytes) (address : WsAddress) (port : Nat) :
    sectionOf side (hostItems h b address port)
      = blockItems (slice b side.blockOffset 128) address port := by
  simp only [blockItems]
  rw [slice_slice (by omega), slice_slice (by omega), slice_slice (by omega),
    slice_slice (by omega), ← hleg.block, ← hal.family, ← hal.port, ← hal.ipv6, ← hal.ipv4]
  have hport : h.portOffset - side.blockOffset = 2 := by rw [hal.port, hleg.block]; omega
  have hipv6 : h.ipv6Offset - side.blockOffset = 8 := by rw [hal.ipv6, hleg.block]; omega
  have hipv4 : h.ipv4Offset - side.blockOffset = 4 := by rw [hal.ipv4, hleg.block]; omega
  have hfamily : h.familyOffset - side.blockOffset = 0 := by rw [hal.family, hleg.block]; omega
  unfold hostItems
  dsimp only
  rw [hleg.node]
  by_cases h6 : ofLittleEndian (slice b h.familyOffset 2) = afInet6
  · by_cases hp : ofBigEndian (slice b h.portOffset 2) = port <;>
      by_cases ha : (⟨.ipv6, slice b h.ipv6Offset 16⟩ : WsAddress) = address <;>
      simp [h6, hp, ha, sectionOf_field side _ hleg.family, sectionOf_field side _ hleg.port,
        sectionOf_field side _ hleg.ipv6, sectionOf_expert side _ hleg.mismatchPort,
        sectionOf_expert side _ hleg.mismatchAddress, hfamily, hport, hipv6]
  · by_cases h4 : ofLittleEndian (slice b h.familyOffset 2) = afInet
    · by_cases hp : ofBigEndian (slice b h.portOffset 2) = port <;>
        by_cases ha : (⟨.ipv4, slice b h.ipv4Offset 4⟩ : WsAddress) = address <;>
        simp [h4, hp, ha, sectionOf_field side _ hleg.family, sectionOf_field side _ hleg.port,
          sectionOf_field side _ hleg.ipv4, sectionOf_expert side _ hleg.mismatchPort,
          sectionOf_expert side _ hleg.mismatchAddress, hfamily, hport, hipv4]
    · simp [h6, h4, sectionOf_field side _ hleg.family,
        sectionOf_expert side _ hleg.invalidFamily, hfamily]

/-- The node an item is, or is added below. -/
def nodeOf : TreeItem → Node
  | .subtree node .. => node
  | .field parent .. => parent
  | .expert parent _ => parent
  | .text parent _ => parent

theorem sectionOf_eq_nil {side : Side} {log : List TreeItem}
    (hlog : ∀ item ∈ log, nodeOf item ≠ side.node) : sectionOf side log = [] := by
  refine List.filterMap_eq_nil_iff.mpr fun item hitem => ?_
  have hne := hlog item hitem
  cases item with
  | subtree node o n label => rfl
  | field parent f o n value => exact if_neg hne
  | expert parent e => exact if_neg hne
  | text parent text => rfl

theorem nodeOf_hostItems {h : HostFields} {b : Bytes} {address : WsAddress} {port : Nat} :
    ∀ item ∈ hostItems h b address port, nodeOf item = h.node := by
  intro item hitem
  rcases mem_hostItems hitem with rfl | rfl | rfl | ⟨_, rfl⟩ | ⟨_, rfl⟩ | ⟨_, rfl, -⟩ <;> rfl

theorem nodeOf_headerItems {b : Bytes} : ∀ item ∈ headerItems b, nodeOf item = .protocol := by
  intro item hitem
  rcases mem_headerItems hitem with rfl | rfl | rfl | rfl | rfl <;> rfl

theorem nodeOf_annotateTime {formatTime : Nat → String} {b : Bytes} :
    ∀ item ∈ (annotateTime formatTime b).log, nodeOf item = .timestamp := by
  rcases log_annotateTime formatTime b with h | ⟨text, h⟩ <;> simp [h, nodeOf]

/-- The items outside the two sections are below other nodes. -/
theorem sectionOf_outside (side : Side) (formatTime : Nat → String) (b : Bytes) :
    sectionOf side (headerItems b) = [] ∧ sectionOf side (counterItems b) = [] ∧
      sectionOf side (timestampItems b) = [] ∧
      sectionOf side (annotateTime formatTime b).log = [] := by
  have hprotocol : Node.protocol ≠ side.node := by cases side <;> decide
  have htimestamp : Node.timestamp ≠ side.node := by cases side <;> decide
  refine ⟨?_, ?_, ?_, ?_⟩ <;> apply sectionOf_eq_nil
  · intro item hitem
    rw [nodeOf_headerItems item hitem]
    exact hprotocol
  · simp [counterItems, nodeOf, hprotocol]
  · simp [timestampItems, nodeOf, htimestamp]
  · intro item hitem
    rw [nodeOf_annotateTime item hitem]
    exact htimestamp

theorem Decodable.exchangeBlocks {b : Bytes} (hb : Decodable b) :
    Decodable (exchangeBlocks b) := by
  have hlong := hb.long
  refine ⟨?_, ?_⟩
  · rw [length_exchangeBlocks (by omega)]
    exact hlong
  · rw [slice_exchangeBlocks_header (by omega) (by omega)]
    exact hb.version

theorem sectionOf_hostItems_of_ne {side : Side} (other : HostFields)
    (hne : other.node ≠ side.node) (b : Bytes) (address : WsAddress) (port : Nat) :
    sectionOf side (hostItems other b address port) = [] := by
  apply sectionOf_eq_nil
  intro item hitem
  rw [nodeOf_hostItems item hitem]
  exact hne

section Dissector

variable (formatTime : Nat → String) {b : Bytes} (pinfo : Pinfo) (hb : Decodable b)
include hb

/-- What the dissector adds below a host's node comes from the two host sections. -/
theorem sectionOf_dissector (side : Side) :
    sectionOf side (dissector formatTime b pinfo).log =
      sectionOf side (hostItems sourceHost b pinfo.src pinfo.srcPort) ++
        sectionOf side (hostItems destinationHost b pinfo.dst pinfo.dstPort) := by
  obtain ⟨hheader, hcounter, htime, hannotate⟩ := sectionOf_outside side formatTime b
  rw [dissector_eq formatTime pinfo hb.long hb.version]
  simp only [items, sectionOf_append, hheader, hcounter, htime, hannotate, List.nil_append,
    List.append_nil]

theorem sectionOf_dissector_source :
    sectionOf .source (dissector formatTime b pinfo).log
      = blockItems (slice b 8 128) pinfo.src pinfo.srcPort := by
  rw [sectionOf_dissector formatTime pinfo hb,
    sectionOf_hostItems_of_ne destinationHost (by decide), List.append_nil]
  exact sectionOf_hostItems aligned_sourceHost legible_sourceHost b _ _

theorem sectionOf_dissector_destination :
    sectionOf .destination (dissector formatTime b pinfo).log
      = blockItems (slice b 136 128) pinfo.dst pinfo.dstPort := by
  rw [sectionOf_dissector formatTime pinfo hb,
    sectionOf_hostItems_of_ne sourceHost (by decide), List.nil_append]
  exact sectionOf_hostItems aligned_destinationHost legible_destinationHost b _ _

end Dissector

/--
**Source and destination are mirror images**, in the encoder and in the dissector.

The state of the way back is encoded as the packet with its two blocks exchanged. What the
destination section finds is what the source section finds after the exchange. And a section looks
at nothing but its own block and its own side of the headers.
-/
theorem hosts_mirrored :
    (∀ (native : Endian) (s : MPingState), ∃ b, s.serialize native = .ok b ∧ b.length = 288 ∧
      s.exchange.serialize native = .ok (exchangeBlocks b)) ∧
    (∀ (formatTime : Nat → String) (b : Bytes) (pinfo : Pinfo), Decodable b →
      sectionOf .destination (dissector formatTime b pinfo).log =
        sectionOf .source
          (dissector formatTime (exchangeBlocks b) (exchangeHeaders pinfo)).log) ∧
    (∀ (formatTime formatTime' : Nat → String) (b b' : Bytes) (pinfo pinfo' : Pinfo),
      Decodable b → Decodable b' →
      (slice b 8 128 = slice b' 8 128 → pinfo.src = pinfo'.src → pinfo.srcPort = pinfo'.srcPort →
        sectionOf .source (dissector formatTime b pinfo).log =
          sectionOf .source (dissector formatTime' b' pinfo').log) ∧
      (slice b 136 128 = slice b' 136 128 → pinfo.dst = pinfo'.dst →
        pinfo.dstPort = pinfo'.dstPort →
        sectionOf .destination (dissector formatTime b pinfo).log =
          sectionOf .destination (dissector formatTime' b' pinfo').log)) := by
  refine ⟨?_, ?_, ?_⟩
  · intro native s
    refine ⟨s.wire, s.serialize_eq native, s.length_wire, ?_⟩
    rw [MPingState.serialize_eq, wire_exchange]
  · intro formatTime b pinfo hb
    have hlong := hb.long
    rw [sectionOf_dissector_destination formatTime pinfo hb,
      sectionOf_dissector_source formatTime _ hb.exchangeBlocks,
      slice_exchangeBlocks_source (by omega)]
    rfl
  · intro formatTime formatTime' b b' pinfo pinfo' hb hb'
    refine ⟨?_, ?_⟩
    · intro hblock haddress hport
      rw [sectionOf_dissector_source formatTime pinfo hb,
        sectionOf_dissector_source formatTime' pinfo' hb', hblock, haddress, hport]
    · intro hblock haddress hport
      rw [sectionOf_dissector_destination formatTime pinfo hb,
        sectionOf_dissector_destination formatTime' pinfo' hb', hblock, haddress, hport]

/-- A packet of version 2.0 with these two host blocks, each filled up with zeros. -/
def packetOfBlocks (source destination : Bytes) : Bytes :=
  [0x32, 0x2E, 0x30, 0x00, 0x73, 64, 0, 0] ++ (source ++ List.replicate (128 - source.length) 0) ++
    (destination ++ List.replicate (128 - destination.length) 0) ++ List.replicate 24 0

/--
An IPv6 destination `::1` on port 5000, an IPv4 one, and one of an unknown family, each compared
with the headers of another port and address: after the exchange the source section says so.
-/
theorem hosts_mirrored_sample :
    sectionOf .source (dissector (fun _ => "") (exchangeBlocks (packetOfBlocks []
      [10, 0, 0x13, 0x88, 0, 0, 0, 0, 0, 0, 0, 0, 0, 0, 0, 0, 0, 0, 0, 0, 0, 0, 0, 1]))
      (exchangeHeaders .sample)).log =
      [.field .family 0 2 (.uint 10), .field .port 2 2 (.uint 5000), .expert .mismatchPort,
        .field .ipv6 8 16 (.address ⟨.ipv6, [0, 0, 0, 0, 0, 0, 0, 0, 0, 0, 0, 0, 0, 0, 0, 1]⟩),
        .expert .mismatchAddress] ∧
    sectionOf .source (dissector (fun _ => "") (exchangeBlocks (packetOfBlocks []
      [2, 0, 0x13, 0x88, 192, 0, 2, 1])) (exchangeHeaders .sample)).log =
      [.field .family 0 2 (.uint 2), .field .port 2 2 (.uint 5000), .expert .mismatchPort,
        .field .ipv4 4 4 (.address ⟨.ipv4, [192, 0, 2, 1]⟩), .expert .mismatchAddress] ∧
    sectionOf .source (dissector (fun _ => "") (exchangeBlocks (packetOfBlocks [] [255, 255]))
      (exchangeHeaders .sample)).log =
      [.field .family 0 2 (.uint 65535), .expert .invalidFamily] := by
  have hb : ∀ destination : Bytes, destination.length ≤ 128 →
      Decodable (packetOfBlocks [] destination) := by
    intro destination hlength
    refine ⟨?_, rfl⟩
    simp only [packetOfBlocks, List.length_append, List.length_replicate, List.length_cons,
      List.length_nil]
    omega
  refine ⟨?_, ?_, ?_⟩ <;>
    rw [← hosts_mirrored.2.1 _ _ _ (hb _ (by decide)),
      sectionOf_dissector_destination _ _ (hb _ (by decide))] <;>
    rfl

end MPing.Dissector
