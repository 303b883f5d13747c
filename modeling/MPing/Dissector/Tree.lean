import MPing.Dissector.Agreement
import MPing.Dissector.Failure
import MPing.Dissector.Widths

/-!
# The tree of a payload

What the dissector adds to the tree of any payload, well formed or not.

* `tree_wellFormed` — every item is below a node that was added before it, inside that node's bytes,
  and no byte is shown twice
* `tree_eq_iff` — which bytes of a payload the tree depends on: all it shows, and no others
-/

namespace MPing.Dissector

open Infra Wireshark

/-! ## Well-formed trees -/

/-- The node a node is added to. The protocol's own is at the top. -/
def Node.parent : Node → Option Node
  | .protocol => none
  | .sourceHost => some .protocol
  | .destinationHost => some .protocol
  | .timestamp => some .protocol

/-- Among the items seen is `node`, with the bytes from `o` to `o + n` inside it. -/
def Holds (seen : List TreeItem) (node : Node) (o n : Nat) : Prop :=
  ∃ start size label, .subtree node start size label ∈ seen ∧ start ≤ o ∧ o + n ≤ start + size

/-- An item finds its parent among the items seen. -/
def Placed (seen : List TreeItem) : TreeItem → Prop
  | .subtree node o n _ => ∀ parent, node.parent = some parent → Holds seen parent o n
  | .field parent _ o n _ => Holds seen parent o n
  | .expert parent _ => ∃ start size label, .subtree parent start size label ∈ seen
  | .text parent _ => ∃ start size label, .subtree parent start size label ∈ seen

/-- Every item of a log finds its parent among the items before it. -/
def WellPlaced : List TreeItem → List TreeItem → Prop
  | _, [] => True
  | seen, item :: log => Placed seen item ∧ WellPlaced (item :: seen) log

/-- The nodes of a log, in order. -/
def nodes (log : List TreeItem) : List Node :=
  log.filterMap fun
    | .subtree node _ _ _ => some node
    | _ => none

/-- Where the fields of a log are in the buffer: offset and length. -/
def fieldRanges (log : List TreeItem) : List (Nat × Nat) :=
  log.filterMap fun
    | .field _ _ o n _ => some (o, n)
    | _ => none

/-- The tree of a payload of `length` bytes. -/
structure WellFormed (length : Nat) (log : List TreeItem) : Prop where
  placed : WellPlaced [] log
  once : (nodes log).Nodup
  inBuffer : ∀ node o n label, .subtree node o n label ∈ log → o + n ≤ length
  /-- The fields come in the order of their bytes. -/
  disjoint : (fieldRanges log).Pairwise fun r r' => r.1 + r.2 ≤ r'.1

/-! ## Placing items -/

theorem Holds.mono {seen seen' : List TreeItem} (hsub : ∀ i ∈ seen, i ∈ seen') {node : Node}
    {o n : Nat} (h : Holds seen node o n) : Holds seen' node o n := by
  obtain ⟨start, size, label, hmem, hle⟩ := h
  exact ⟨start, size, label, hsub _ hmem, hle⟩

theorem Placed.mono {seen seen' : List TreeItem} (hsub : ∀ i ∈ seen, i ∈ seen') {item : TreeItem}
    (h : Placed seen item) : Placed seen' item := by
  cases item with
  | subtree node o n label => exact fun parent hparent => (h parent hparent).mono hsub
  | field parent f o n value => exact Holds.mono hsub h
  | expert parent e =>
    obtain ⟨start, size, label, hmem⟩ := h
    exact ⟨start, size, label, hsub _ hmem⟩
  | text parent text =>
    obtain ⟨start, size, label, hmem⟩ := h
    exact ⟨start, size, label, hsub _ hmem⟩

/-- Items that are placed before the log begins stay so. -/
theorem wellPlaced_of_forall {seen log : List TreeItem} (h : ∀ item ∈ log, Placed seen item) :
    WellPlaced seen log := by
  induction log generalizing seen with
  | nil => trivial
  | cons item log ih =>
    rw [List.forall_mem_cons] at h
    refine ⟨h.1, ih fun i hi => (h.2 i hi).mono ?_⟩
    intro j hj
    exact List.mem_cons_of_mem _ hj

theorem WellPlaced.mono {seen seen' log : List TreeItem} (hsub : ∀ i ∈ seen, i ∈ seen')
    (h : WellPlaced seen log) : WellPlaced seen' log := by
  induction log generalizing seen seen' with
  | nil => trivial
  | cons item log ih =>
    refine ⟨h.1.mono hsub, ih ?_ h.2⟩
    intro i hi
    rcases List.mem_cons.mp hi with rfl | hi
    · exact List.mem_cons_self ..
    · exact List.mem_cons_of_mem _ (hsub i hi)

/-- One log after the other. -/
theorem WellPlaced.append {seen log log' : List TreeItem} (h : WellPlaced seen log)
    (h' : WellPlaced (log ++ seen) log') : WellPlaced seen (log ++ log') := by
  induction log generalizing seen with
  | nil => exact h'
  | cons item log ih =>
    refine ⟨h.1, ih h.2 (h'.mono ?_)⟩
    intro i hi
    simp only [List.cons_append, List.mem_cons, List.mem_append] at hi ⊢
    tauto

/-- A section: a node, and items that are inside it or placed already. -/
theorem wellPlaced_section {seen : List TreeItem} (log : List TreeItem) {node : Node}
    {start size : Nat} {label : String} (hnode : Placed seen (.subtree node start size label))
    (h : ∀ item ∈ log, Placed (.subtree node start size label :: seen) item) :
    WellPlaced seen (.subtree node start size label :: log) :=
  ⟨hnode, wellPlaced_of_forall h⟩

/-! ## The sections -/

/-- The items before have the node of the protocol, with room for a packet. -/
def Rooted (seen : List TreeItem) : Prop :=
  ∃ size label, .subtree .protocol 0 size label ∈ seen ∧ 288 ≤ size

theorem Rooted.holds {seen : List TreeItem} (h : Rooted seen) {o n : Nat} (hle : o + n ≤ 288) :
    Holds seen .protocol o n := by
  obtain ⟨size, label, hmem, hsize⟩ := h
  exact ⟨0, size, label, hmem, by omega, by omega⟩

theorem Rooted.append {seen : List TreeItem} (h : Rooted seen) (log : List TreeItem) :
    Rooted (log ++ seen) := by
  obtain ⟨size, label, hmem, hsize⟩ := h
  exact ⟨size, label, List.mem_append_right _ hmem, hsize⟩

section Sections

variable {b : Bytes}

theorem wellPlaced_headerItems (hb : 288 ≤ b.length) : WellPlaced [] (headerItems b) := by
  have hroot : ∀ {o n : Nat}, o + n ≤ 288 →
      Holds [.subtree .protocol 0 b.length "Multicast Ping Protocol"] .protocol o n := by
    intro o n hle
    exact Rooted.holds ⟨b.length, _, List.mem_singleton.mpr rfl, hb⟩ hle
  refine wellPlaced_section (headerItems b).tail (by rintro _ ⟨⟩) ?_
  intro item hitem
  rcases mem_headerItems (List.mem_of_mem_tail hitem) with rfl | rfl | rfl | rfl | rfl
  · rintro _ ⟨⟩
  · exact hroot (by omega)
  · exact hroot (by omega)
  · exact ⟨_, _, _, List.mem_singleton.mpr rfl⟩
  · exact hroot (by omega)

theorem wellPlaced_hostItems (h : HostFields) (hparent : h.node.parent = some .protocol)
    {seen : List TreeItem} (hseen : Rooted seen) (address : WsAddress) (port : Nat) :
    WellPlaced seen (hostItems h b address port) := by
  have hblock := h.blockInPacket
  have hnode : ∀ {seen' : List TreeItem}, Rooted seen' →
      Placed seen' (.subtree h.node h.blockOffset 128 h.label) := by
    intro seen' hseen' parent hp
    obtain rfl := Option.some.inj (hparent.symm.trans hp)
    exact hseen'.holds hblock
  have hheld : ∀ {o n : Nat}, h.blockOffset ≤ o → o + n ≤ h.blockOffset + 128 →
      Holds (.subtree h.node h.blockOffset 128 h.label :: seen) h.node o n := by
    intro o n hlo hhi
    exact ⟨_, _, _, List.mem_cons_self .., hlo, hhi⟩
  refine wellPlaced_section (hostItems h b address port).tail (hnode hseen) ?_
  intro item hitem
  rcases mem_hostItems (List.mem_of_mem_tail hitem) with
    rfl | rfl | rfl | ⟨a, rfl⟩ | ⟨a, rfl⟩ | ⟨e, rfl, -⟩
  · exact hnode (hseen.append [_])
  · exact hheld h.familyInBlock.1 h.familyInBlock.2
  · exact hheld h.portInBlock.1 h.portInBlock.2
  · exact hheld h.ipv6InBlock.1 h.ipv6InBlock.2
  · exact hheld h.ipv4InBlock.1 h.ipv4InBlock.2
  · exact ⟨_, _, _, List.mem_cons_self ..⟩

theorem wellPlaced_counterItems {seen : List TreeItem} (hseen : Rooted seen) :
    WellPlaced seen (counterItems b) := by
  refine wellPlaced_of_forall ?_
  simp only [counterItems, List.forall_mem_cons, List.not_mem_nil, false_implies, implies_true,
    and_true]
  exact ⟨hseen.holds (by omega), hseen.holds (by omega)⟩

/-- The time stamp and its annotation. -/
theorem wellPlaced_timestamp (formatTime : Nat → String) {seen : List TreeItem}
    (hseen : Rooted seen) :
    WellPlaced seen (timestampItems b ++ (annotateTime formatTime b).log) := by
  refine wellPlaced_section ((timestampItems b).tail ++ (annotateTime formatTime b).log) ?_ ?_
  · rintro _ ⟨⟩
    exact hseen.holds (by omega)
  · have hheld : ∀ {o n : Nat}, 272 ≤ o → o + n ≤ 288 →
        Holds (.subtree .timestamp 272 16 "Timestamp" :: seen) .timestamp o n := by
      intro o n hlo hhi
      exact ⟨_, _, _, List.mem_cons_self .., hlo, hhi⟩
    simp only [timestampItems, List.tail_cons, List.forall_mem_append, List.forall_mem_cons,
      List.not_mem_nil, false_implies, implies_true, and_true]
    refine ⟨⟨hheld (by omega) (by omega), hheld (by omega) (by omega)⟩, ?_⟩
    rcases log_annotateTime formatTime b with h | ⟨text, h⟩
    · simp [h]
    · rw [h, List.forall_mem_singleton]
      exact ⟨_, _, _, List.mem_cons_self ..⟩

end Sections

/-! ## The order of the fields -/

/-- Ranges from `lo` to `hi`, one behind the other. -/
structure Ordered (lo hi : Nat) (ranges : List (Nat × Nat)) : Prop where
  within : ∀ r ∈ ranges, lo ≤ r.1 ∧ r.1 + r.2 ≤ hi
  apart : ranges.Pairwise fun r r' => r.1 + r.2 ≤ r'.1

theorem Ordered.append {lo mid hi : Nat} {ranges ranges' : List (Nat × Nat)}
    (h : Ordered lo mid ranges) (h' : Ordered mid hi ranges') (hlo : lo ≤ mid) (hhi : mid ≤ hi) :
    Ordered lo hi (ranges ++ ranges') where
  within := by
    intro r hr
    rcases List.mem_append.mp hr with hr | hr
    · have hr := h.within r hr
      omega
    · have hr := h'.within r hr
      omega
  apart := by
    refine List.pairwise_append.mpr ⟨h.apart, h'.apart, ?_⟩
    intro r hr r' hr'
    exact (h.within r hr).2.trans (h'.within r' hr').1

@[simp] theorem fieldRanges_append (log log' : List TreeItem) :
    fieldRanges (log ++ log') = fieldRanges log ++ fieldRanges log' := List.filterMap_append

@[simp] theorem nodes_append (log log' : List TreeItem) :
    nodes (log ++ log') = nodes log ++ nodes log' := List.filterMap_append

theorem nodes_annotateTime (formatTime : Nat → String) (b : Bytes) :
    nodes (annotateTime formatTime b).log = [] := by
  rcases log_annotateTime formatTime b with h | ⟨text, h⟩ <;> rw [h] <;> rfl

theorem fieldRanges_annotateTime (formatTime : Nat → String) (b : Bytes) :
    fieldRanges (annotateTime formatTime b).log = [] := by
  rcases log_annotateTime formatTime b with h | ⟨text, h⟩ <;> rw [h] <;> rfl

section Order

variable (b : Bytes)

theorem nodes_headerItems : nodes (headerItems b) = [.protocol] := by
  unfold headerItems
  dsimp only
  split <;> rfl

theorem fieldRanges_headerItems : fieldRanges (headerItems b) = [(0, 4), (4, 1), (5, 1)] := by
  unfold headerItems
  dsimp only
  split <;> rfl

variable (h : HostFields) (address : WsAddress) (port : Nat)

theorem nodes_hostItems : nodes (hostItems h b address port) = [h.node] := by
  unfold hostItems
  dsimp only
  split_ifs <;> rfl

/-- The family alone, or family, port and one of the two addresses. -/
theorem fieldRanges_hostItems :
    fieldRanges (hostItems h b address port) = [(h.familyOffset, 2)] ∨
      fieldRanges (hostItems h b address port) =
        [(h.familyOffset, 2), (h.portOffset, 2), (h.ipv6Offset, 16)] ∨
      fieldRanges (hostItems h b address port) =
        [(h.familyOffset, 2), (h.portOffset, 2), (h.ipv4Offset, 4)] := by
  unfold hostItems
  dsimp only
  split_ifs <;> simp [fieldRanges]

theorem ordered_hostItems {h : HostFields} (hal : Aligned h) :
    Ordered h.blockOffset (h.blockOffset + 128) (fieldRanges (hostItems h b address port)) := by
  have hfamily := hal.family
  have hport := hal.port
  have hipv6 := hal.ipv6
  have hipv4 := hal.ipv4
  rcases fieldRanges_hostItems b h address port with heq | heq | heq <;> rw [heq]
  · constructor
    · simp only [List.forall_mem_singleton]
      omega
    · exact List.pairwise_singleton _ _
  · constructor
    · simp only [List.forall_mem_cons, List.not_mem_nil, false_implies, implies_true, and_true]
      omega
    · simp only [List.pairwise_cons, List.forall_mem_cons, List.not_mem_nil, false_implies,
        implies_true, List.Pairwise.nil, and_true]
      omega
  · constructor
    · simp only [List.forall_mem_cons, List.not_mem_nil, false_implies, implies_true, and_true]
      omega
    · simp only [List.pairwise_cons, List.forall_mem_cons, List.not_mem_nil, false_implies,
        implies_true, List.Pairwise.nil, and_true]
      omega

end Order

/-! ## Any payload -/

section Decoded

variable (formatTime : Nat → String) {b : Bytes} (pinfo : Pinfo)

theorem rooted_headerItems (hb : 288 ≤ b.length) : Rooted (headerItems b ++ []) :=
  ⟨b.length, _, List.mem_cons_self .., hb⟩

theorem ordered_items :
    Ordered 0 288 (fieldRanges (items b pinfo)) := by
  have hheader : Ordered 0 8 (fieldRanges (headerItems b)) := by
    rw [fieldRanges_headerItems]
    constructor <;> decide
  have htail : Ordered 264 288 (fieldRanges (counterItems b ++ timestampItems b)) := by
    show Ordered 264 288 [(264, 4), (268, 4), (272, 8), (280, 8)]
    constructor <;> decide
  have hsource := ordered_hostItems b pinfo.src pinfo.srcPort aligned_sourceHost
  have hdestination := ordered_hostItems b pinfo.dst pinfo.dstPort aligned_destinationHost
  have hall := ((hheader.append hsource (by decide) (by decide)).append hdestination (by decide)
    (by decide)).append htail (by decide) (by decide)
  simpa only [items, fieldRanges_append, List.append_assoc] using hall

theorem inBuffer_items (hb : 288 ≤ b.length) {node : Node} {o n : Nat} {label : String}
    (hmem : .subtree node o n label ∈ items b pinfo) : o + n ≤ b.length := by
  have hsource := sourceHost.blockInPacket
  have hdestination := destinationHost.blockInPacket
  simp only [items, List.mem_append] at hmem
  rcases hmem with (((hmem | hmem) | hmem) | hmem) | hmem
  · rcases mem_headerItems hmem with heq | heq | heq | heq | heq <;> cases heq
    omega
  · rcases mem_hostItems hmem with heq | heq | heq | ⟨_, heq⟩ | ⟨_, heq⟩ | ⟨_, heq, -⟩ <;> cases heq
    omega
  · rcases mem_hostItems hmem with heq | heq | heq | ⟨_, heq⟩ | ⟨_, heq⟩ | ⟨_, heq, -⟩ <;> cases heq
    omega
  · simp [counterItems] at hmem
  · simp only [timestampItems, List.mem_cons, List.not_mem_nil, or_false] at hmem
    rcases hmem with heq | heq | heq <;> cases heq
    omega

/-- The tree of a payload the dissector decodes, also if the annotation fails. -/
theorem wellFormed_items (hb : 288 ≤ b.length) :
    WellFormed b.length (items b pinfo ++ (annotateTime formatTime b).log) where
  placed := by
    have hroot := rooted_headerItems hb
    have hheader := wellPlaced_headerItems hb
    have hsource := wellPlaced_hostItems (b := b) sourceHost rfl hroot pinfo.src pinfo.srcPort
    have hroot2 := hroot.append (hostItems sourceHost b pinfo.src pinfo.srcPort)
    have hdestination :=
      wellPlaced_hostItems (b := b) destinationHost rfl hroot2 pinfo.dst pinfo.dstPort
    have hroot3 := hroot2.append (hostItems destinationHost b pinfo.dst pinfo.dstPort)
    have hcounter := wellPlaced_counterItems (b := b) hroot3
    have hstamp := wellPlaced_timestamp (b := b) formatTime (hroot3.append (counterItems b))
    have hall := hheader.append (hsource.append (hdestination.append (hcounter.append hstamp)))
    simpa only [items, List.append_assoc] using hall
  once := by
    simp only [items, nodes_append, nodes_headerItems, nodes_hostItems, nodes_annotateTime]
    show List.Nodup [Node.protocol, .sourceHost, .destinationHost, .timestamp]
    decide
  inBuffer := by
    intro node o n label hmem
    rcases List.mem_append.mp hmem with hmem | hmem
    · exact inBuffer_items pinfo hb hmem
    · rcases log_annotateTime formatTime b with hlog | ⟨text, hlog⟩ <;> simp [hlog] at hmem
  disjoint := by
    rw [fieldRanges_append, fieldRanges_annotateTime, List.append_nil]
    exact (ordered_items pinfo).apart

end Decoded

/--
**The tree of any payload is well formed.**

Short, of another version, broken or decoded: every item hangs below a node added before it and
covers bytes of that node only, every node is added once and inside the payload, and the fields
never overlap.
-/
theorem tree_wellFormed (formatTime : Nat → String) (b : Bytes) (pinfo : Pinfo) :
    WellFormed b.length (dissector formatTime b pinfo).log := by
  by_cases hshort : b.length < 288
  · rw [dissector_eq_bind, checkVersion_of_short hshort]
    exact ⟨trivial, List.nodup_nil, by rintro _ _ _ _ ⟨⟩, List.Pairwise.nil⟩
  · have hb : 288 ≤ b.length := by omega
    by_cases hz : (0 : UInt8) ∈ b
    · by_cases hv : versionOf b = mpingVersion
      · rw [dissector_eq formatTime pinfo hb ((versionOf_eq_iff hz).mp hv)]
        exact wellFormed_items formatTime pinfo hb
      · rw [dissector_eq_bind, checkVersion_of_mem hb hz, decide_eq_false hv]
        refine ⟨⟨by rintro _ ⟨⟩, ?_, trivial⟩, List.pairwise_singleton _ _, ?_,
          List.pairwise_singleton _ _⟩
        · exact ⟨0, b.length, _, List.mem_singleton.mpr rfl, by omega, by omega⟩
        · intro node o n label hmem
          rcases List.mem_cons.mp hmem with heq | hmem
          · cases heq
            omega
          · simp at hmem
    · rw [dissector_of_notMem formatTime pinfo hb hz]
      refine ⟨⟨by rintro _ ⟨⟩, trivial⟩, List.pairwise_singleton _ _, ?_, List.Pairwise.nil⟩
      intro node o n label hmem
      rw [List.mem_singleton] at hmem
      cases hmem
      omega

/-! ## What the tree shows -/

/-- How a field is read from the bytes of its range. The version has been compared already. -/
def readAs : ProtoField → Bytes → Value
  | .version, _ => .string mpingVersion
  | .sourceHostFamily, bytes => .uint (ofLittleEndian bytes)
  | .destinationHostFamily, bytes => .uint (ofLittleEndian bytes)
  | .sourceHostIpv4, bytes => .address ⟨.ipv4, bytes⟩
  | .destinationHostIpv4, bytes => .address ⟨.ipv4, bytes⟩
  | .sourceHostIpv6, bytes => .address ⟨.ipv6, bytes⟩
  | .destinationHostIpv6, bytes => .address ⟨.ipv6, bytes⟩
  | _, bytes => .uint (ofBigEndian bytes)

/-- What is shown determines the bytes. -/
theorem readAs_inj {f : ProtoField} (hf : f ≠ .version) {bytes bytes' : Bytes}
    (hlen : bytes.length = bytes'.length) (h : readAs f bytes = readAs f bytes') :
    bytes = bytes' := by
  have hbig : ofBigEndian bytes = ofBigEndian bytes' → bytes = bytes' := by
    intro heq
    rw [← bigEndian_ofBigEndian hlen, heq, bigEndian_ofBigEndian rfl]
  have hlittle : ofLittleEndian bytes = ofLittleEndian bytes' → bytes = bytes' := by
    intro heq
    rw [← littleEndian_ofLittleEndian bytes, heq, hlen, littleEndian_ofLittleEndian]
  cases f <;> simp only [readAs, Value.uint.injEq, Value.address.injEq, WsAddress.mk.injEq,
    true_and] at h
  case version => exact absurd rfl hf
  case sourceHostFamily | destinationHostFamily => exact hlittle h
  case sourceHostIpv4 | sourceHostIpv6 | destinationHostIpv4 | destinationHostIpv6 => exact h
  all_goals exact hbig h

/-- A field shows the bytes of its range. -/
def Shows (b : Bytes) : TreeItem → Prop
  | .field _ f o n value => o + n ≤ 288 ∧ value = readAs f (slice b o n)
  | _ => True

/-- The fields of a section are read as those of a host. -/
structure ReadsHost (h : HostFields) : Prop where
  family : ∀ bytes, readAs h.family bytes = .uint (ofLittleEndian bytes)
  port : ∀ bytes, readAs h.port bytes = .uint (ofBigEndian bytes)
  ipv6 : ∀ bytes, readAs h.ipv6 bytes = .address ⟨.ipv6, bytes⟩
  ipv4 : ∀ bytes, readAs h.ipv4 bytes = .address ⟨.ipv4, bytes⟩
  notVersion : ∀ f ∈ [h.family, h.port, h.ipv6, h.ipv4], f ≠ .version

theorem readsHost_sourceHost : ReadsHost sourceHost :=
  ⟨fun _ => rfl, fun _ => rfl, fun _ => rfl, fun _ => rfl, by decide⟩

theorem readsHost_destinationHost : ReadsHost destinationHost :=
  ⟨fun _ => rfl, fun _ => rfl, fun _ => rfl, fun _ => rfl, by decide⟩

section Shows

variable (b : Bytes)

theorem shows_headerItems : ∀ item ∈ headerItems b, Shows b item := by
  intro item hitem
  rcases mem_headerItems hitem with rfl | rfl | rfl | rfl | rfl
  · trivial
  · exact ⟨by omega, rfl⟩
  · exact ⟨by omega, rfl⟩
  · trivial
  · exact ⟨by omega, rfl⟩

theorem shows_hostItems {h : HostFields} (hreads : ReadsHost h) (address : WsAddress)
    (port : Nat) : ∀ item ∈ hostItems h b address port, Shows b item := by
  have hblock := h.blockInPacket
  have hfamily : Shows b (.field h.node h.family h.familyOffset 2
      (.uint (ofLittleEndian (slice b h.familyOffset 2)))) :=
    ⟨by have := h.familyInBlock; omega, (hreads.family _).symm⟩
  have hport : Shows b (.field h.node h.port h.portOffset 2
      (.uint (ofBigEndian (slice b h.portOffset 2)))) :=
    ⟨by have := h.portInBlock; omega, (hreads.port _).symm⟩
  have hipv6 : Shows b (.field h.node h.ipv6 h.ipv6Offset 16
      (.address ⟨.ipv6, slice b h.ipv6Offset 16⟩)) :=
    ⟨by have := h.ipv6InBlock; omega, (hreads.ipv6 _).symm⟩
  have hipv4 : Shows b (.field h.node h.ipv4 h.ipv4Offset 4
      (.address ⟨.ipv4, slice b h.ipv4Offset 4⟩)) :=
    ⟨by have := h.ipv4InBlock; omega, (hreads.ipv4 _).symm⟩
  have hnode {node o n label} : Shows b (.subtree node o n label) := trivial
  have hexpert {node e} : Shows b (.expert node e) := trivial
  unfold hostItems
  dsimp only
  split_ifs <;> simp [hfamily, hport, hipv6, hipv4, hnode, hexpert]

theorem shows_counterItems : ∀ item ∈ counterItems b, Shows b item := by
  simp only [counterItems, List.forall_mem_cons, List.not_mem_nil, false_implies, implies_true,
    and_true]
  exact ⟨⟨by omega, rfl⟩, ⟨by omega, rfl⟩⟩

theorem toNat_secondsWordOf : (secondsWordOf b).toNat = ofBigEndian (slice b 272 8) :=
  UInt64.toNat_ofNat_of_lt' (ofBigEndian_slice_lt b 272 8)

theorem toNat_microsecondsWordOf : (microsecondsWordOf b).toNat = ofBigEndian (slice b 280 8) :=
  UInt64.toNat_ofNat_of_lt' (ofBigEndian_slice_lt b 280 8)

theorem shows_timestampItems : ∀ item ∈ timestampItems b, Shows b item := by
  simp only [timestampItems, List.forall_mem_cons, List.not_mem_nil, false_implies, implies_true,
    and_true, toNat_secondsWordOf, toNat_microsecondsWordOf]
  exact ⟨trivial, ⟨by omega, rfl⟩, ⟨by omega, rfl⟩⟩

/-- **Every field shows the bytes of its range.** -/
theorem shows_items (pinfo : Pinfo) : ∀ item ∈ items b pinfo, Shows b item := by
  simp only [items, List.forall_mem_append]
  exact ⟨⟨⟨⟨shows_headerItems b, shows_hostItems b readsHost_sourceHost _ _⟩,
    shows_hostItems b readsHost_destinationHost _ _⟩, shows_counterItems b⟩,
    shows_timestampItems b⟩

end Shows

/-! ## What the tree depends on -/

/-- Two payloads agree on what a host section looks at. -/
structure HostReadAlike (h : HostFields) (b b' : Bytes) : Prop where
  family : slice b h.familyOffset 2 = slice b' h.familyOffset 2
  port : ofLittleEndian (slice b h.familyOffset 2) = afInet6 ∨
      ofLittleEndian (slice b h.familyOffset 2) = afInet →
    slice b h.portOffset 2 = slice b' h.portOffset 2
  ipv6 : ofLittleEndian (slice b h.familyOffset 2) = afInet6 →
    slice b h.ipv6Offset 16 = slice b' h.ipv6Offset 16
  ipv4 : ofLittleEndian (slice b h.familyOffset 2) = afInet →
    slice b h.ipv4Offset 4 = slice b' h.ipv4Offset 4

/-- Two payloads agree on what the dissector looks at. -/
structure ReadAlike (b b' : Bytes) : Prop where
  length : b.length = b'.length
  header : slice b 4 2 = slice b' 4 2
  source : HostReadAlike sourceHost b b'
  destination : HostReadAlike destinationHost b b'
  counters : slice b 264 8 = slice b' 264 8
  time : slice b 272 16 = slice b' 272 16

section Congruence

variable {b b' : Bytes}

theorem hostItems_congr {h : HostFields} (halike : HostReadAlike h b b') (address : WsAddress)
    (port : Nat) : hostItems h b address port = hostItems h b' address port := by
  unfold hostItems
  rw [← halike.family]
  by_cases h6 : ofLittleEndian (slice b h.familyOffset 2) = afInet6
  · rw [← halike.port (Or.inl h6), ← halike.ipv6 h6]
    simp only [h6, if_true]
  · by_cases h4 : ofLittleEndian (slice b h.familyOffset 2) = afInet
    · rw [← halike.port (Or.inr h4), ← halike.ipv4 h4]
      simp only [h4, afInet_ne_afInet6, if_false]
    · simp only [h6, h4, or_self, if_false]

/-- Payloads that read alike are dissected alike. -/
theorem dissector_congr (hb : Decodable b) (hb' : Decodable b') (halike : ReadAlike b b')
    (formatTime : Nat → String) (pinfo : Pinfo) :
    dissector formatTime b pinfo = dissector formatTime b' pinfo := by
  have hslice {o n} (hlo : 264 ≤ o) (hhi : o + n ≤ 272) : slice b o n = slice b' o n :=
    slice_congr halike.counters hlo hhi
  have hseconds : secondsWordOf b = secondsWordOf b' := by
    rw [secondsWordOf, secondsWordOf, slice_congr halike.time (by omega) (by omega)]
  have hmicroseconds : microsecondsWordOf b = microsecondsWordOf b' := by
    rw [microsecondsWordOf, microsecondsWordOf, slice_congr halike.time (by omega) (by omega)]
  have hheader : headerItems b = headerItems b' := by
    unfold headerItems
    rw [halike.length, slice_congr (i := 4) (k := 1) halike.header (by omega) (by omega),
      slice_congr (i := 5) (k := 1) halike.header (by omega) (by omega)]
  have hcounter : counterItems b = counterItems b' := by
    rw [counterItems, counterItems, hslice (o := 264) (n := 4) (by omega) (by omega),
      hslice (o := 268) (n := 4) (by omega) (by omega)]
  have hannotate : annotateTime formatTime b = annotateTime formatTime b' := by
    have hguard : Annotated b ↔ Annotated b' := by
      rw [Annotated, Annotated, hseconds, hmicroseconds]
    unfold annotateTime
    rw [hseconds, hmicroseconds]
    by_cases h : Annotated b
    · rw [if_pos h, if_pos (hguard.mp h)]
    · rw [if_neg h, if_neg (mt hguard.mpr h)]
  rw [dissector_eq formatTime pinfo hb.long hb.version,
    dissector_eq formatTime pinfo hb'.long hb'.version, hannotate]
  simp only [items, hheader, hostItems_congr halike.source, hostItems_congr halike.destination,
    hcounter, timestampItems, hseconds, hmicroseconds]

/-- A field that is in both trees shows the same bytes. -/
theorem slice_eq_of_mem {pinfo : Pinfo} (hb : 288 ≤ b.length) (hb' : 288 ≤ b'.length)
    {parent : Node} {f : ProtoField} {o n : Nat} {value : Value} (hf : f ≠ .version)
    (hmem : .field parent f o n value ∈ items b pinfo)
    (hmem' : .field parent f o n value ∈ items b' pinfo) : slice b o n = slice b' o n := by
  obtain ⟨hle, hvalue⟩ := shows_items b pinfo _ hmem
  obtain ⟨-, hvalue'⟩ := shows_items b' pinfo _ hmem'
  refine readAs_inj hf ?_ (hvalue.symm.trans hvalue')
  rw [length_slice (by omega), length_slice (by omega)]

/-- Every field of the log is one of the items before the annotation. -/
theorem mem_items_of_mem_log {formatTime : Nat → String} {pinfo : Pinfo} {parent : Node}
    {f : ProtoField} {o n : Nat} {value : Value}
    (h : .field parent f o n value ∈ items b pinfo ++ (annotateTime formatTime b).log) :
    .field parent f o n value ∈ items b pinfo := by
  rcases List.mem_append.mp h with h | h
  · exact h
  · rcases log_annotateTime formatTime b with hlog | ⟨text, hlog⟩ <;> simp [hlog] at h

/-- If the fields of a section show the same bytes, the section reads alike. -/
theorem hostReadAlike_of_shown {h : HostFields} (hreads : ReadsHost h) (address : WsAddress)
    (port : Nat) (hshown : ∀ f o n value, f ≠ .version →
      .field h.node f o n value ∈ hostItems h b address port → slice b o n = slice b' o n) :
    HostReadAlike h b b' := by
  have hne := hreads.notVersion
  simp only [List.forall_mem_cons, List.not_mem_nil, false_implies, implies_true, and_true] at hne
  obtain ⟨hfamily, hport, hipv6, hipv4⟩ := hne
  constructor
  · exact hshown _ _ _ (.uint (ofLittleEndian (slice b h.familyOffset 2))) hfamily
      (by simp [hostItems])
  · intro hknown
    exact hshown _ _ _ (.uint (ofBigEndian (slice b h.portOffset 2))) hport
      (by simp [hostItems, hknown])
  · intro h6
    exact hshown _ _ _ (.address ⟨.ipv6, slice b h.ipv6Offset 16⟩) hipv6
      (by simp [hostItems, h6])
  · intro h4
    exact hshown _ _ _ (.address ⟨.ipv4, slice b h.ipv4Offset 4⟩) hipv4
      (by simp [hostItems, h4])

/-- Payloads that are dissected alike read alike. -/
theorem readAlike_of_eq (hb : Decodable b) (hb' : Decodable b') {formatTime : Nat → String}
    {pinfo : Pinfo} (heq : dissector formatTime b pinfo = dissector formatTime b' pinfo) :
    ReadAlike b b' := by
  rw [dissector_eq formatTime pinfo hb.long hb.version,
    dissector_eq formatTime pinfo hb'.long hb'.version] at heq
  have hlog := congrArg Logged.log heq
  dsimp only at hlog
  have hshown : ∀ parent f o n value, f ≠ .version → .field parent f o n value ∈ items b pinfo →
      slice b o n = slice b' o n := by
    intro parent f o n value hf hmem
    have hmem' := List.mem_append_left (annotateTime formatTime b).log hmem
    rw [hlog] at hmem'
    exact slice_eq_of_mem hb.long hb'.long hf hmem (mem_items_of_mem_log hmem')
  have htype := hshown .protocol .type 4 1 (.uint (ofBigEndian (slice b 4 1))) (by decide)
    (by simp [items, headerItems])
  have httl := hshown .protocol .ttl 5 1 (.uint (ofBigEndian (slice b 5 1))) (by decide)
    (by simp [items, headerItems])
  have hseq := hshown .protocol .sequenceNumber 264 4 (.uint (ofBigEndian (slice b 264 4)))
    (by decide) (by simp [items, counterItems])
  have hpid := hshown .protocol .pid 268 4 (.uint (ofBigEndian (slice b 268 4))) (by decide)
    (by simp [items, counterItems])
  have hsec := hshown .timestamp .seconds 272 8 (.uint (secondsWordOf b).toNat) (by decide)
    (by simp [items, timestampItems])
  have hmic := hshown .timestamp .microseconds 280 8 (.uint (microsecondsWordOf b).toNat)
    (by decide) (by simp [items, timestampItems])
  have hhost : ∀ h address port, ReadsHost h →
      (∀ item ∈ hostItems h b address port, item ∈ items b pinfo) → HostReadAlike h b b' := by
    intro h address port hreads hsub
    refine hostReadAlike_of_shown hreads address port ?_
    intro f o n value hf hmem
    exact hshown h.node f o n value hf (hsub _ hmem)
  constructor
  · have hhead := congrArg List.head? hlog
    simpa [items, headerItems] using hhead
  · rw [slice_add b 4 1 1, slice_add b' 4 1 1, htype, httl]
  · refine hhost sourceHost pinfo.src pinfo.srcPort readsHost_sourceHost ?_
    intro item hitem
    simp only [items, List.mem_append]
    tauto
  · refine hhost destinationHost pinfo.dst pinfo.dstPort readsHost_destinationHost ?_
    intro item hitem
    simp only [items, List.mem_append]
    tauto
  · rw [slice_add b 264 4 4, slice_add b' 264 4 4, hseq, hpid]
  · rw [slice_add b 272 8 8, slice_add b' 272 8 8, hsec, hmic]

end Congruence

/--
**The bytes the tree depends on.**

Two payloads of the right version are dissected to the same end, tree and error alike, exactly if
they are of one length and agree on type, TTL, counters, time stamp, the families of the hosts and,
for a family the dissector knows, on the port and the address of that family. The reserved bytes,
the rest of the blocks and whatever follows the 288 bytes make no difference.
-/
theorem tree_eq_iff {b b' : Bytes} (hb : Decodable b) (hb' : Decodable b')
    (formatTime : Nat → String) (pinfo : Pinfo) :
    dissector formatTime b pinfo = dissector formatTime b' pinfo ↔ ReadAlike b b' :=
  ⟨readAlike_of_eq hb hb', fun halike => dissector_congr hb hb' halike formatTime pinfo⟩

/-- A reserved byte does not show, the type does. -/
theorem tree_eq_reserved :
    dissector (fun _ => "") (zeroFilled [0x32, 0x2E, 0x30, 0x00, 0x73]) .sample =
        dissector (fun _ => "") ((zeroFilled [0x32, 0x2E, 0x30, 0x00, 0x73]).set 6 1) .sample ∧
      dissector (fun _ => "") (zeroFilled [0x32, 0x2E, 0x30, 0x00, 0x73]) .sample ≠
        dissector (fun _ => "") (zeroFilled [0x32, 0x2E, 0x30, 0x00, 0x72]) .sample := by
  have hb : Decodable (zeroFilled [0x32, 0x2E, 0x30, 0x00, 0x73]) :=
    ⟨length_zeroFilled _ rfl, by decide⟩
  have hb' : Decodable (zeroFilled [0x32, 0x2E, 0x30, 0x00, 0x72]) :=
    ⟨length_zeroFilled _ rfl, by decide⟩
  have hset : Decodable ((zeroFilled [0x32, 0x2E, 0x30, 0x00, 0x73]).set 6 1) := by
    refine ⟨?_, by decide⟩
    rw [List.length_set]
    exact length_zeroFilled _ rfl
  constructor
  · refine (tree_eq_iff hb hset _ _).mpr ⟨by rw [List.length_set], by decide, ?_, ?_, ?_, ?_⟩
    · exact ⟨by decide, by decide, by decide, by decide⟩
    · exact ⟨by decide, by decide, by decide, by decide⟩
    · decide
    · decide
  · intro heq
    have hheader := ((tree_eq_iff hb hb' _ _).mp heq).header
    revert hheader
    decide

end MPing.Dissector
