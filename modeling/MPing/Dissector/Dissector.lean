import MPing.Dissector.Wireshark

/-!
# `wireshark/mping.lua`

The dissector, statement by statement. The source and the destination section are two copies of one
text with their own offsets, fields and experts; `hostSection` is that text, and `sourceHost` /
`destinationHost` are what the copies fill in.

The end of the module says what the dissector adds to the tree for a buffer that is long enough and
carries the right version, as one list (`dissector_eq`). Everything else about it is read off there.
-/

namespace MPing.Dissector

open Infra Wireshark

/-! ## Declarations -/

/-- The nodes of the tree the dissector adds below. -/
inductive Node where
  | protocol
  | sourceHost
  | destinationHost
  | timestamp
deriving DecidableEq, Repr

/-- The `ProtoField`s. -/
inductive ProtoField where
  | version
  | type
  | ttl
  | sourceHostFamily
  | sourceHostIpv4
  | sourceHostIpv6
  | sourceHostPort
  | destinationHostFamily
  | destinationHostIpv4
  | destinationHostIpv6
  | destinationHostPort
  | sequenceNumber
  | pid
  | seconds
  | microseconds
deriving DecidableEq, Repr

/-- The kinds the fields are declared with. -/
def ProtoField.kind : ProtoField → FieldKind
  | .version => .stringz
  | .type => .char
  | .ttl => .uint 8
  | .sourceHostFamily => .uint 16
  | .sourceHostIpv4 => .ipv4
  | .sourceHostIpv6 => .ipv6
  | .sourceHostPort => .uint 16
  | .destinationHostFamily => .uint 16
  | .destinationHostIpv4 => .ipv4
  | .destinationHostIpv6 => .ipv6
  | .destinationHostPort => .uint 16
  | .sequenceNumber => .uint 16
  | .pid => .uint 16
  | .seconds => .uint 64
  | .microseconds => .uint 64

/-- The `ProtoExpert`s. -/
inductive ProtoExpert where
  | depracatedVersion
  | invalidType
  | invalidSourceHostFamily
  | mismatchSourceHostAddress
  | mismatchSourceHostPort
  | invalidDestinationHostFamily
  | mismatchDestinationHostAddress
  | mismatchDestinationHostPort
deriving DecidableEq, Repr

abbrev TreeItem := Item Node ProtoField ProtoExpert

abbrev Dissect := Wireshark.Dissect Node ProtoField ProtoExpert

/-- `UInt64.new(math.maxinteger)`. -/
def maxUint64 : UInt64 := 0x7FFFFFFFFFFFFFFF

/-- `"2.0"`. -/
def mpingVersion : Bytes := [0x32, 0x2E, 0x30]

/-- `string.byte("s")`. -/
def typeSender : Nat := 0x73

/-- `string.byte("r")`. -/
def typeReceiver : Nat := 0x72

def afInet : Nat := 2

def afInet6 : Nat := 10

@[simp] theorem afInet_ne_afInet6 : afInet ≠ afInet6 := by decide

/-! ## Hosts -/

/-- What differs between the two host sections. Every range a section reads is in its block. -/
structure HostFields where
  node : Node
  label : String
  blockOffset : Nat
  familyOffset : Nat
  portOffset : Nat
  ipv6Offset : Nat
  ipv4Offset : Nat
  family : ProtoField
  port : ProtoField
  ipv6 : ProtoField
  ipv4 : ProtoField
  invalidFamily : ProtoExpert
  mismatchPort : ProtoExpert
  mismatchAddress : ProtoExpert
  blockInPacket : blockOffset + 128 ≤ 288 := by decide
  familyInBlock : blockOffset ≤ familyOffset ∧ familyOffset + 2 ≤ blockOffset + 128 := by decide
  portInBlock : blockOffset ≤ portOffset ∧ portOffset + 2 ≤ blockOffset + 128 := by decide
  ipv6InBlock : blockOffset ≤ ipv6Offset ∧ ipv6Offset + 16 ≤ blockOffset + 128 := by decide
  ipv4InBlock : blockOffset ≤ ipv4Offset ∧ ipv4Offset + 4 ≤ blockOffset + 128 := by decide

def sourceHost : HostFields where
  node := .sourceHost
  label := "Source Host"
  blockOffset := 8
  familyOffset := 8
  portOffset := 10
  ipv6Offset := 16
  ipv4Offset := 12
  family := .sourceHostFamily
  port := .sourceHostPort
  ipv6 := .sourceHostIpv6
  ipv4 := .sourceHostIpv4
  invalidFamily := .invalidSourceHostFamily
  mismatchPort := .mismatchSourceHostPort
  mismatchAddress := .mismatchSourceHostAddress

def destinationHost : HostFields where
  node := .destinationHost
  label := "Destination Host"
  blockOffset := 136
  familyOffset := 136
  portOffset := 138
  ipv6Offset := 144
  ipv4Offset := 140
  family := .destinationHostFamily
  port := .destinationHostPort
  ipv6 := .destinationHostIpv6
  ipv4 := .destinationHostIpv4
  invalidFamily := .invalidDestinationHostFamily
  mismatchPort := .mismatchDestinationHostPort
  mismatchAddress := .mismatchDestinationHostAddress

/-- A host section. `address` and `port` are the side of `pinfo` it is compared with. -/
def hostSection (h : HostFields) (buffer : Bytes) (address : WsAddress) (port : Nat) :
    Dissect Unit := do
  addSubtree h.node (← range buffer h.blockOffset 128) h.label
  let family := (← range buffer h.familyOffset 2).leUint
  add h.node h.family (← range buffer h.familyOffset 2) (.uint family)
  if family = afInet6 ∨ family = afInet then
    let hostPort := (← range buffer h.portOffset 2).uint
    add h.node h.port (← range buffer h.portOffset 2) (.uint hostPort)
    if hostPort ≠ port then
      addProtoExpertInfo h.node h.mismatchPort
    if family = afInet6 then
      let ipv6 := (← range buffer h.ipv6Offset 16).ipv6
      add h.node h.ipv6 (← range buffer h.ipv6Offset 16) (.address ipv6)
      if ipv6 ≠ address then
        addProtoExpertInfo h.node h.mismatchAddress
    else if family = afInet then
      let ipv4 := (← range buffer h.ipv4Offset 4).ipv4
      add h.node h.ipv4 (← range buffer h.ipv4Offset 4) (.address ipv4)
      if ipv4 ≠ address then
        addProtoExpertInfo h.node h.mismatchAddress
  else
    addProtoExpertInfo h.node h.invalidFamily

/-! ## Time stamp -/

/--
The text of the time stamp annotation. Concatenating the `nil` of `math.tointeger` is an error.
-/
def absoluteTimeText (formatTime : Nat → String) (seconds microseconds : UInt64) :
    Except LuaError String :=
  match mathTointeger (tonumber microseconds) with
  | some n =>
    .ok ("[corresponds to absolute time: " ++ formatTime (tonumber seconds) ++ ", " ++ toString n
      ++ " microseconds]")
  | none => .error .concatenateNil

def timestampSection (formatTime : Nat → String) (buffer : Bytes) : Dissect Unit := do
  addSubtree .timestamp (← range buffer 272 16) "Timestamp"
  let seconds := (← range buffer 272 8).uint64
  add .timestamp .seconds (← range buffer 272 8) (.uint seconds.toNat)
  let microseconds := (← range buffer 280 8).uint64
  add .timestamp .microseconds (← range buffer 280 8) (.uint microseconds.toNat)
  if seconds < maxUint64 ∧ microseconds < maxUint64 then
    let text ← Logged.ofExcept (absoluteTimeText formatTime seconds microseconds)
    addText .timestamp text

/-! ## The dissector -/

/-- The dissector up to its version check; the result says whether it goes on. -/
def checkVersion (buffer : Bytes) : Dissect Bool := do
  if buffer.length < 288 then
    return false
  addSubtree .protocol (← range buffer 0 buffer.length) "Multicast Ping Protocol"
  let version ← Logged.ofExcept (← range buffer 0 4).stringz
  add .protocol .version (← range buffer 0 4) (.string version)
  if version ≠ mpingVersion then
    return false
  return true

/-- The dissector behind its version check. -/
def decodeFields (formatTime : Nat → String) (buffer : Bytes) (pinfo : Pinfo) : Dissect Unit := do
  let type := (← range buffer 4 1).uint
  add .protocol .type (← range buffer 4 1) (.uint type)
  if type ≠ typeSender ∧ type ≠ typeReceiver then
    addProtoExpertInfo .protocol .depracatedVersion
  addUint .protocol .ttl (← range buffer 5 1)
  hostSection sourceHost buffer pinfo.src pinfo.srcPort
  hostSection destinationHost buffer pinfo.dst pinfo.dstPort
  addUint .protocol .sequenceNumber (← range buffer 264 4)
  addUint .protocol .pid (← range buffer 268 4)
  timestampSection formatTime buffer

/-- The dissector. A `return` of its checks leaves the function. -/
def dissector (formatTime : Nat → String) (buffer : Bytes) (pinfo : Pinfo) : Dissect Unit := do
  if ← checkVersion buffer then
    decodeFields formatTime buffer pinfo

/-! ## What the dissector adds -/

/-- The items of a host section. -/
def hostItems (h : HostFields) (b : Bytes) (address : WsAddress) (port : Nat) : List TreeItem :=
  let family := ofLittleEndian (slice b h.familyOffset 2)
  let hostPort := ofBigEndian (slice b h.portOffset 2)
  let ipv6 : WsAddress := ⟨.ipv6, slice b h.ipv6Offset 16⟩
  let ipv4 : WsAddress := ⟨.ipv4, slice b h.ipv4Offset 4⟩
  ([.subtree h.node h.blockOffset 128 h.label,
    .field h.node h.family h.familyOffset 2 (.uint family)] : List TreeItem) ++
  (if family = afInet6 ∨ family = afInet then
    ([.field h.node h.port h.portOffset 2 (.uint hostPort)] : List TreeItem) ++
    (if hostPort = port then [] else [.expert h.node h.mismatchPort] : List TreeItem) ++
    (if family = afInet6 then
      .field h.node h.ipv6 h.ipv6Offset 16 (.address ipv6) ::
        if ipv6 = address then [] else [.expert h.node h.mismatchAddress]
    else
      .field h.node h.ipv4 h.ipv4Offset 4 (.address ipv4) ::
        if ipv4 = address then [] else [.expert h.node h.mismatchAddress] : List TreeItem)
  else [.expert h.node h.invalidFamily] : List TreeItem)

/-- **What a host section can add**, whichever way it goes. -/
theorem mem_hostItems {h : HostFields} {b : Bytes} {address : WsAddress} {port : Nat}
    {item : TreeItem} (hitem : item ∈ hostItems h b address port) :
    item = .subtree h.node h.blockOffset 128 h.label ∨
      item = .field h.node h.family h.familyOffset 2
        (.uint (ofLittleEndian (slice b h.familyOffset 2))) ∨
      item = .field h.node h.port h.portOffset 2
        (.uint (ofBigEndian (slice b h.portOffset 2))) ∨
      (∃ a, item = .field h.node h.ipv6 h.ipv6Offset 16 (.address a)) ∨
      (∃ a, item = .field h.node h.ipv4 h.ipv4Offset 4 (.address a)) ∨
      (∃ e, item = .expert h.node e ∧
        (e = h.invalidFamily ∨ e = h.mismatchPort ∨ e = h.mismatchAddress)) := by
  unfold hostItems at hitem
  dsimp only at hitem
  split_ifs at hitem <;>
    simp only [List.mem_append, List.mem_cons, List.not_mem_nil, or_false] at hitem <;>
    grind

/-- A host section of a long enough buffer fails nowhere. -/
theorem hostSection_eq (h : HostFields) {b : Bytes} (hb : 288 ≤ b.length) (address : WsAddress)
    (port : Nat) : hostSection h b address port = ⟨hostItems h b address port, .ok ()⟩ := by
  have hblock := h.blockInPacket
  have hfamily := h.familyInBlock
  have hport := h.portInBlock
  have hipv6 := h.ipv6InBlock
  have hipv4 := h.ipv4InBlock
  simp only [hostSection, hostItems, range_eq (show h.blockOffset + 128 ≤ b.length by omega),
    range_eq (show h.familyOffset + 2 ≤ b.length by omega),
    range_eq (show h.portOffset + 2 ≤ b.length by omega),
    range_eq (show h.ipv6Offset + 16 ≤ b.length by omega),
    range_eq (show h.ipv4Offset + 4 ≤ b.length by omega), pure_bind, TvbRange.leUint,
    TvbRange.uint, TvbRange.ipv6, TvbRange.ipv4, TvbRange.bytes]
  -- one case for each way through the branches of the source
  by_cases h6 : ofLittleEndian (slice b h.familyOffset 2) = afInet6
  · by_cases hp : ofBigEndian (slice b h.portOffset 2) = port <;>
      by_cases ha : (⟨.ipv6, slice b h.ipv6Offset 16⟩ : WsAddress) = address <;>
      simp [h6, hp, ha, addSubtree, add, addProtoExpertInfo, Logged.ext_iff]
  · by_cases h4 : ofLittleEndian (slice b h.familyOffset 2) = afInet
    · by_cases hp : ofBigEndian (slice b h.portOffset 2) = port <;>
        by_cases ha : (⟨.ipv4, slice b h.ipv4Offset 4⟩ : WsAddress) = address <;>
        simp [h4, hp, ha, addSubtree, add, addProtoExpertInfo, Logged.ext_iff]
    · simp [h6, h4, addSubtree, add, addProtoExpertInfo, Logged.ext_iff]

/-- The two time words of a buffer, unsigned as the dissector reads them. -/
def secondsWordOf (b : Bytes) : UInt64 := UInt64.ofNat (ofBigEndian (slice b 272 8))

def microsecondsWordOf (b : Bytes) : UInt64 := UInt64.ofNat (ofBigEndian (slice b 280 8))

/-- The guard of the annotation. -/
def Annotated (b : Bytes) : Prop := secondsWordOf b < maxUint64 ∧ microsecondsWordOf b < maxUint64

instance (b : Bytes) : Decidable (Annotated b) :=
  inferInstanceAs (Decidable (secondsWordOf b < maxUint64 ∧ microsecondsWordOf b < maxUint64))

/-- The guarded end of the time stamp section. -/
def annotateTime (formatTime : Nat → String) (b : Bytes) : Dissect Unit :=
  if Annotated b then do
    let text ← Logged.ofExcept
      (absoluteTimeText formatTime (secondsWordOf b) (microsecondsWordOf b))
    addText .timestamp text
  else pure ()

/-- The annotation is one text or, if it fails or is left out, nothing. -/
theorem log_annotateTime (formatTime : Nat → String) (b : Bytes) :
    (annotateTime formatTime b).log = [] ∨
      ∃ text, (annotateTime formatTime b).log = [.text .timestamp text] := by
  unfold annotateTime
  split
  · cases absoluteTimeText formatTime (secondsWordOf b) (microsecondsWordOf b) with
    | error e => exact Or.inl rfl
    | ok text => exact Or.inr ⟨text, rfl⟩
  · exact Or.inl rfl

theorem fields_annotateTime (formatTime : Nat → String) (b : Bytes) :
    fields (annotateTime formatTime b).log = [] := by
  rcases log_annotateTime formatTime b with h | ⟨text, h⟩ <;> rw [h] <;> rfl

theorem experts_annotateTime (formatTime : Nat → String) (b : Bytes) :
    experts (annotateTime formatTime b).log = [] := by
  rcases log_annotateTime formatTime b with h | ⟨text, h⟩ <;> rw [h] <;> rfl

def timestampItems (b : Bytes) : List TreeItem :=
  [.subtree .timestamp 272 16 "Timestamp",
    .field .timestamp .seconds 272 8 (.uint (secondsWordOf b).toNat),
    .field .timestamp .microseconds 280 8 (.uint (microsecondsWordOf b).toNat)]

theorem timestampSection_eq (formatTime : Nat → String) {b : Bytes} (hb : 288 ≤ b.length) :
    timestampSection formatTime b
      = ⟨timestampItems b ++ (annotateTime formatTime b).log,
          (annotateTime formatTime b).result⟩ := by
  simp only [timestampSection, range_eq (show 272 + 16 ≤ b.length by omega),
    range_eq (show 272 + 8 ≤ b.length by omega), range_eq (show 280 + 8 ≤ b.length by omega),
    pure_bind, addSubtree, add]
  simp [Logged.ext_iff, timestampItems, annotateTime, Annotated, secondsWordOf, microsecondsWordOf,
    TvbRange.uint64, TvbRange.bytes]
  exact ⟨rfl, rfl⟩

/-- What `stringz()` reads at the start of a buffer that has a zero. -/
def versionOf (b : Bytes) : Bytes := b.takeWhile (· ≠ 0)

theorem stringz_of_mem {b : Bytes} (hz : (0 : UInt8) ∈ b) (hb : 0 + 4 ≤ b.length) :
    (TvbRange.mk b 0 4 hb).stringz = .ok (versionOf b) := by
  simp only [TvbRange.stringz, List.drop_zero, hz, if_true, versionOf]

/-- The version is the right one exactly if the buffer opens with it and a zero. -/
theorem versionOf_eq_iff {b : Bytes} (hz : (0 : UInt8) ∈ b) :
    versionOf b = mpingVersion ↔ slice b 0 4 = [0x32, 0x2E, 0x30, 0x00] := by
  rw [versionOf, takeWhile_ne_eq_iff hz]
  exact and_iff_right (by decide)

/-- A buffer that opens with `"2.0"` and a zero reads as that version, whatever follows. -/
theorem stringz_version {b : Bytes} (h : slice b 0 4 = [0x32, 0x2E, 0x30, 0x00])
    (hb : 0 + 4 ≤ b.length) : (TvbRange.mk b 0 4 hb).stringz = .ok mpingVersion := by
  have hmem : (0 : UInt8) ∈ slice b 0 4 := by
    rw [h]
    decide
  have hz := mem_of_mem_slice hmem
  rw [stringz_of_mem hz, (versionOf_eq_iff hz).mpr h]

def headerItems (b : Bytes) : List TreeItem :=
  let type := ofBigEndian (slice b 4 1)
  ([.subtree .protocol 0 b.length "Multicast Ping Protocol",
    .field .protocol .version 0 4 (.string mpingVersion),
    .field .protocol .type 4 1 (.uint type)] : List TreeItem) ++
  (if type ≠ typeSender ∧ type ≠ typeReceiver then [.expert .protocol .depracatedVersion]
    else [] : List TreeItem) ++
  ([.field .protocol .ttl 5 1 (.uint (ofBigEndian (slice b 5 1)))] : List TreeItem)

/-- What the header can add. -/
theorem mem_headerItems {b : Bytes} {item : TreeItem} (hitem : item ∈ headerItems b) :
    item = .subtree .protocol 0 b.length "Multicast Ping Protocol" ∨
      item = .field .protocol .version 0 4 (.string mpingVersion) ∨
      item = .field .protocol .type 4 1 (.uint (ofBigEndian (slice b 4 1))) ∨
      item = .expert .protocol .depracatedVersion ∨
      item = .field .protocol .ttl 5 1 (.uint (ofBigEndian (slice b 5 1))) := by
  unfold headerItems at hitem
  dsimp only at hitem
  split_ifs at hitem <;>
    simp only [List.mem_append, List.mem_cons, List.not_mem_nil, or_false] at hitem <;>
    grind

def counterItems (b : Bytes) : List TreeItem :=
  [.field .protocol .sequenceNumber 264 4 (.uint (ofBigEndian (slice b 264 4))),
    .field .protocol .pid 268 4 (.uint (ofBigEndian (slice b 268 4)))]

/-- The items before the annotation. -/
def items (b : Bytes) (pinfo : Pinfo) : List TreeItem :=
  headerItems b ++ hostItems sourceHost b pinfo.src pinfo.srcPort ++
    hostItems destinationHost b pinfo.dst pinfo.dstPort ++ counterItems b ++ timestampItems b

/-- The buffers the dissector decodes. -/
structure Decodable (b : Bytes) : Prop where
  long : 288 ≤ b.length
  version : slice b 0 4 = [0x32, 0x2E, 0x30, 0x00]

/-- **What the dissector does with a long enough buffer of its version.** -/
theorem dissector_eq (formatTime : Nat → String) {b : Bytes} (pinfo : Pinfo)
    (hb : 288 ≤ b.length) (hver : slice b 0 4 = [0x32, 0x2E, 0x30, 0x00]) :
    dissector formatTime b pinfo
      = ⟨items b pinfo ++ (annotateTime formatTime b).log, (annotateTime formatTime b).result⟩ := by
  simp only [dissector, checkVersion, decodeFields, Nat.not_lt.mpr hb, if_false,
    range_eq (show 0 + b.length ≤ b.length by omega), range_eq (show 0 + 4 ≤ b.length by omega),
    range_eq (show 4 + 1 ≤ b.length by omega), range_eq (show 5 + 1 ≤ b.length by omega),
    range_eq (show 264 + 4 ≤ b.length by omega), range_eq (show 268 + 4 ≤ b.length by omega),
    pure_bind, stringz_version hver,
    Logged.ofExcept_ok, hostSection_eq _ hb, timestampSection_eq _ hb, TvbRange.uint,
    TvbRange.bytes, addSubtree, add, addUint, addProtoExpertInfo]
  by_cases ht : ofBigEndian (slice b 4 1) ≠ typeSender ∧ ofBigEndian (slice b 4 1) ≠ typeReceiver
  · simp [ht, Logged.ext_iff, items, headerItems, counterItems, Logged.log_bind_of_ok,
      Logged.result_bind_of_ok]
  · simp [ht, Logged.ext_iff, items, headerItems, counterItems, Logged.log_bind_of_ok,
      Logged.result_bind_of_ok]

end MPing.Dissector
