import MPing.Dissector.Agreement
import MPing.Spec.Advertised

/-!
# Declared widths

A `ProtoField.uintN` is declared in one place and filled from a range in another. The sequence
number and the pid are 32 bits on the wire and in the ranges, and `uint16` in their declarations;
every other integer fits its field (`fitsDeclaration_iff`). So no packet of a sender fits
(`no_packet_fits`).
-/

namespace MPing.Dissector

open Infra Wireshark

/-- An integer added with a `uintN` field comes from `N / 8` bytes and is below `2 ^ N`. -/
def FitsDeclaration (f : ProtoField) (len : Nat) (value : Value) : Prop :=
  ∀ bits n, f.kind = .uint bits → value = .uint n → 8 * len = bits ∧ n < 2 ^ bits

/-- Every integer of the log fits the field it was added with. -/
def AllFit (log : List TreeItem) : Prop :=
  ∀ parent f o len value, Item.field parent f o len value ∈ log → FitsDeclaration f len value

theorem fitsDeclaration_uint {f : ProtoField} {bits : Nat} (hf : f.kind = .uint bits)
    (len n : Nat) : FitsDeclaration f len (.uint n) ↔ 8 * len = bits ∧ n < 2 ^ bits := by
  constructor
  · intro h
    exact h bits n hf rfl
  · rintro h bits' n' hf' hn'
    rw [hf] at hf'
    cases hf'
    cases hn'
    exact h

theorem fitsDeclaration_of_other {f : ProtoField} {len : Nat} {value : Value}
    (h : ∀ bits, f.kind ≠ .uint bits) : FitsDeclaration f len value :=
  fun bits _ hf _ => absurd hf (h bits)

/-- The two fields whose declaration is too narrow. -/
def tooNarrow : List ProtoField := [.sequenceNumber, .pid]

/-- What is to be shown of an item: it fits unless its field is too narrow. -/
def JudgedByField : TreeItem → Prop
  | .field _ f _ len value => FitsDeclaration f len value ↔ f ∉ tooNarrow
  | _ => True

section Judged

variable {parent : Node} {f : ProtoField} {o len bits n : Nat}

theorem judged_wide (hf : f.kind = .uint bits) (hlen : 8 * len = bits) (hn : n < 2 ^ bits)
    (hwide : f ∉ tooNarrow) : JudgedByField (.field parent f o len (.uint n)) :=
  iff_of_true ((fitsDeclaration_uint hf len n).mpr ⟨hlen, hn⟩) hwide

theorem judged_narrow (hf : f.kind = .uint bits) (hlen : 8 * len ≠ bits)
    (hnarrow : f ∈ tooNarrow) : JudgedByField (.field parent f o len (.uint n)) :=
  iff_of_false (fun h => hlen ((fitsDeclaration_uint hf len n).mp h).1) (not_not.mpr hnarrow)

theorem judged_other {value : Value} (hf : ∀ bits, f.kind ≠ .uint bits) (hwide : f ∉ tooNarrow) :
    JudgedByField (.field parent f o len value) :=
  iff_of_true (fitsDeclaration_of_other hf) hwide

end Judged

/-! ## Every field of the dissector -/

theorem pow_length_slice_le (b : Bytes) (o n : Nat) :
    256 ^ (slice b o n).length ≤ 2 ^ (8 * n) := by
  have hle : (slice b o n).length ≤ n := List.length_take_le n _
  calc 256 ^ (slice b o n).length ≤ 256 ^ n := Nat.pow_le_pow_right (by omega) hle
    _ = 2 ^ (8 * n) := by rw [Nat.pow_mul]

/-- A number read from `n` bytes is below `2 ^ (8 * n)`, in either byte order. -/
theorem ofBigEndian_slice_lt (b : Bytes) (o n : Nat) :
    ofBigEndian (slice b o n) < 2 ^ (8 * n) :=
  Nat.lt_of_lt_of_le (ofBigEndian_lt _) (pow_length_slice_le b o n)

theorem ofLittleEndian_slice_lt (b : Bytes) (o n : Nat) :
    ofLittleEndian (slice b o n) < 2 ^ (8 * n) :=
  Nat.lt_of_lt_of_le (ofLittleEndian_lt _) (pow_length_slice_le b o n)

/-- The kinds the fields of a section are declared with. -/
structure Declared (h : HostFields) : Prop where
  family : h.family.kind = .uint 16
  port : h.port.kind = .uint 16
  ipv6 : h.ipv6.kind = .ipv6
  ipv4 : h.ipv4.kind = .ipv4

theorem declared_sourceHost : Declared sourceHost := ⟨rfl, rfl, rfl, rfl⟩

theorem declared_destinationHost : Declared destinationHost := ⟨rfl, rfl, rfl, rfl⟩

theorem judged_hostItems {h : HostFields} (hdecl : Declared h)
    (hwide : ∀ f ∈ [h.family, h.port, h.ipv6, h.ipv4], f ∉ tooNarrow) (b : Bytes)
    (address : WsAddress) (port : Nat) :
    ∀ item ∈ hostItems h b address port, JudgedByField item := by
  simp only [List.forall_mem_cons, List.not_mem_nil, false_imp_iff, implies_true, and_true] at hwide
  obtain ⟨hwfamily, hwport, hwipv6, hwipv4⟩ := hwide
  intro item hitem
  rcases mem_hostItems hitem with rfl | rfl | rfl | ⟨_, rfl⟩ | ⟨_, rfl⟩ | ⟨_, rfl, -⟩
  · trivial
  · exact judged_wide hdecl.family rfl (ofLittleEndian_slice_lt b _ 2) hwfamily
  · exact judged_wide hdecl.port rfl (ofBigEndian_slice_lt b _ 2) hwport
  · exact judged_other (by simp [hdecl.ipv6]) hwipv6
  · exact judged_other (by simp [hdecl.ipv4]) hwipv4
  · trivial

theorem judged_headerItems (b : Bytes) : ∀ item ∈ headerItems b, JudgedByField item := by
  intro item hitem
  rcases mem_headerItems hitem with rfl | rfl | rfl | rfl | rfl
  · trivial
  · exact judged_other (by simp [ProtoField.kind]) (by decide)
  · exact judged_other (by simp [ProtoField.kind]) (by decide)
  · trivial
  · exact judged_wide rfl rfl (ofBigEndian_slice_lt b 5 1) (by decide)

theorem judged_counterItems (b : Bytes) : ∀ item ∈ counterItems b, JudgedByField item := by
  have hkind : ProtoField.kind .sequenceNumber = .uint 16 ∧ ProtoField.kind .pid = .uint 16 :=
    ⟨rfl, rfl⟩
  have hseq {o n} : JudgedByField (.field .protocol .sequenceNumber o 4 (.uint n)) :=
    judged_narrow hkind.1 (by omega) (by decide)
  have hpid {o n} : JudgedByField (.field .protocol .pid o 4 (.uint n)) :=
    judged_narrow hkind.2 (by omega) (by decide)
  simp [counterItems, hseq, hpid]

theorem judged_timestampItems (b : Bytes) : ∀ item ∈ timestampItems b, JudgedByField item := by
  have hseconds :
      JudgedByField (.field .timestamp .seconds 272 8 (.uint (secondsWordOf b).toNat)) :=
    judged_wide rfl rfl (secondsWordOf b).toNat_lt (by decide)
  have hmicroseconds :
      JudgedByField (.field .timestamp .microseconds 280 8 (.uint (microsecondsWordOf b).toNat)) :=
    judged_wide rfl rfl (microsecondsWordOf b).toNat_lt (by decide)
  have hnode {node o len label} : JudgedByField (.subtree node o len label) := trivial
  simp [timestampItems, hnode, hseconds, hmicroseconds]

section Dissector

variable (formatTime : Nat → String) {b : Bytes} (pinfo : Pinfo) (hb : Decodable b)
include hb

/-- **Which integers fit**: all but the sequence number and the pid, whatever the buffer holds. -/
theorem fitsDeclaration_iff {parent : Node} {f : ProtoField} {o len : Nat} {value : Value}
    (hitem : Item.field parent f o len value ∈ (dissector formatTime b pinfo).log) :
    FitsDeclaration f len value ↔ f ∉ tooNarrow := by
  have hall : ∀ item ∈ items b pinfo ++ (annotateTime formatTime b).log, JudgedByField item := by
    simp only [items, List.forall_mem_append]
    refine ⟨⟨⟨⟨⟨judged_headerItems b, ?_⟩, ?_⟩, judged_counterItems b⟩,
      judged_timestampItems b⟩, ?_⟩
    · exact judged_hostItems declared_sourceHost (by decide) b _ _
    · exact judged_hostItems declared_destinationHost (by decide) b _ _
    · rcases log_annotateTime formatTime b with h | ⟨text, h⟩ <;> simp [h, JudgedByField]
  rw [dissector_eq formatTime pinfo hb.long hb.version] at hitem
  exact hall _ hitem

theorem not_allFit : ¬AllFit (dissector formatTime b pinfo).log := by
  intro h
  have hmem : Item.field .protocol .sequenceNumber 264 4 (.uint (ofBigEndian (slice b 264 4))) ∈
      (dissector formatTime b pinfo).log := by
    rw [dissector_eq formatTime pinfo hb.long hb.version]
    simp [items, counterItems]
  exact (fitsDeclaration_iff formatTime pinfo hb hmem).mp (h _ _ _ _ _ hmem) (by decide)

end Dissector

/-! ## Packets -/

/--
**No packet fits the declared fields.**

Whatever a state holds, and for every datagram of every run of a sender, the sequence number and the
pid are read from four bytes into a field of two; they are the only ones.
-/
theorem no_packet_fits (formatTime : Nat → String) (pinfo : Pinfo) :
    (∀ (native : Endian) (s : MPingState), ∃ b, s.serialize native = .ok b ∧
      ¬AllFit (dissector formatTime b pinfo).log ∧
      ∀ parent f o len value,
        Item.field parent f o len value ∈ (dissector formatTime b pinfo).log →
        (FitsDeclaration f len value ↔ f ≠ .sequenceNumber ∧ f ≠ .pid)) ∧
    (∀ (platform : Platform) (a : Sender.Arguments) (pid : UInt32) (es : List Event) (w : World),
      Sender.Reaches platform a pid es w →
      ∀ d ∈ w.sent, ¬AllFit (dissector formatTime d.payload pinfo).log) := by
  have hnot : ∀ s : MPingState, ¬AllFit (dissector formatTime s.wire pinfo).log := fun s =>
    not_allFit formatTime pinfo (decodable_wire s)
  constructor
  · intro native s
    refine ⟨s.wire, s.serialize_eq native, hnot s, ?_⟩
    intro parent f o len value hitem
    rw [fitsDeclaration_iff formatTime pinfo (decodable_wire s) hitem]
    simp [tooNarrow]
  · intro platform a pid es w hreach d hd
    obtain ⟨srcHost, destHost, beat, -, rfl⟩ := Spec.mem_sent_of_reaches hreach hd
    exact hnot _

/-- Sequence number 65536 is added with a field whose values end at 65535. -/
theorem sequence_number_too_wide :
    ∃ b, MPingState.serialize .little
        { type := .sender, ttl := 64, srcHost := .v4 ⟨#v[192, 0, 2, 1]⟩, srcPort := 4321,
          destHost := .v4 ⟨#v[239, 1, 2, 3]⟩, destPort := 4321, sequenceNumber := 65536, pid := 1,
          tv := 0 } = .ok b ∧
      Item.field .protocol .sequenceNumber 264 4 (.uint 65536) ∈
        (dissector (fun _ => "") b .sample).log ∧
      ProtoField.kind .sequenceNumber = .uint 16 ∧
      ¬AllFit (dissector (fun _ => "") b .sample).log := by
  refine ⟨_, MPingState.serialize_eq .little _, ?_, rfl, ?_⟩
  · rw [dissector_wire]
    simp [packetItems]
  · exact not_allFit _ _ (decodable_wire _)

end MPing.Dissector
