import MPing.Dissector.Dissector

/-!
# The checks of the dissector

Before it decodes anything the dissector checks the length and the version, and right after that the
type. The version is read with `stringz()`, which scans on to the end of the buffer, and the two
diagnostics are not raised where their names say.

* `checkVersion_exact_iff` — the checks let exactly the version `"2.0"` through and survive
  everything else, except a long enough buffer without any zero
* `diagnostics_iff` — version and type diagnostics fire on their own fault only where there is no
  fault: a wrong version raises nothing, a wrong type raises the diagnostic of the version
-/

namespace MPing.Dissector

open Infra Wireshark

/--
**The dissector is its checks, and the fields if they let it go on.** This is how it is written.
-/
theorem dissector_eq_bind (formatTime : Nat → String) (b : Bytes) (pinfo : Pinfo) :
    dissector formatTime b pinfo =
      checkVersion b >>= fun goesOn =>
        if goesOn then decodeFields formatTime b pinfo else pure () :=
  rfl

/-! ## The version check -/

theorem checkVersion_of_short {b : Bytes} (hb : b.length < 288) :
    checkVersion b = ⟨[], .ok false⟩ := by
  rw [checkVersion, if_pos hb]
  rfl

/-- Without a zero the scan leaves the buffer, after the protocol's node was added. -/
theorem checkVersion_of_notMem {b : Bytes} (hb : 288 ≤ b.length) (hz : (0 : UInt8) ∉ b) :
    checkVersion b =
      ⟨[.subtree .protocol 0 b.length "Multicast Ping Protocol"], .error .outOfBounds⟩ := by
  simp only [checkVersion, Nat.not_lt.mpr hb, if_false,
    range_eq (show 0 + b.length ≤ b.length by omega), range_eq (show 0 + 4 ≤ b.length by omega),
    pure_bind, TvbRange.stringz, List.drop_zero, hz]
  rfl

theorem checkVersion_of_mem {b : Bytes} (hb : 288 ≤ b.length) (hz : (0 : UInt8) ∈ b) :
    checkVersion b =
      ⟨[.subtree .protocol 0 b.length "Multicast Ping Protocol",
        .field .protocol .version 0 4 (.string (versionOf b))],
        .ok (decide (versionOf b = mpingVersion))⟩ := by
  simp only [checkVersion, Nat.not_lt.mpr hb, if_false,
    range_eq (show 0 + b.length ≤ b.length by omega), range_eq (show 0 + 4 ≤ b.length by omega),
    pure_bind, stringz_of_mem hz, Logged.ofExcept_ok, addSubtree, add]
  by_cases hv : versionOf b = mpingVersion
  · simp only [hv, ne_eq, not_true_eq_false, if_false, decide_true]
    rfl
  · simp only [hv, ne_eq, not_false_eq_true, if_true, decide_false]
    rfl

/-- The checks survive `b` and let it through exactly if it is long enough and of version 2.0. -/
structure AcceptsExactly (b : Bytes) : Prop where
  survives : ∃ goesOn, (checkVersion b).result = .ok goesOn
  accepts : (checkVersion b).result = .ok true ↔
    288 ≤ b.length ∧ slice b 0 4 = [0x32, 0x2E, 0x30, 0x00]

/--
**The checks are exact unless a long enough buffer has no zero.**

`stringz()` ignores that the range has four bytes. The zero it stops at may be anywhere behind them;
if there is none, the dissector dies with an error on a packet it should have passed over.
-/
theorem checkVersion_exact_iff (b : Bytes) :
    (∀ formatTime pinfo, dissector formatTime b pinfo =
      checkVersion b >>= fun goesOn =>
        if goesOn then decodeFields formatTime b pinfo else pure ()) ∧
      (AcceptsExactly b ↔ b.length < 288 ∨ 0 ∈ b) := by
  refine ⟨fun formatTime pinfo => dissector_eq_bind formatTime b pinfo, ?_⟩
  constructor
  · rintro ⟨⟨goesOn, hsurvives⟩, -⟩
    by_contra hnot
    obtain ⟨hb, hz⟩ := not_or.mp hnot
    rw [checkVersion_of_notMem (Nat.not_lt.mp hb) hz] at hsurvives
    cases hsurvives
  · intro h
    by_cases hb : b.length < 288
    · have hshort : ¬288 ≤ b.length := Nat.not_le.mpr hb
      refine ⟨⟨false, ?_⟩, ?_⟩
      · rw [checkVersion_of_short hb]
      · simp [checkVersion_of_short hb, hshort]
    · have hz := h.resolve_left hb
      have hcheck := checkVersion_of_mem (Nat.not_lt.mp hb) hz
      refine ⟨⟨_, congrArg Logged.result hcheck⟩, ?_⟩
      rw [hcheck, ← versionOf_eq_iff hz]
      simp [Nat.not_lt.mp hb]

/-- 288 bytes of one: the dissector stops with an error, though it should have passed them over. -/
theorem checkVersion_without_zero :
    ¬AcceptsExactly (List.replicate 288 1) ∧
      (dissector (fun _ => "") (List.replicate 288 1) .sample).result
        = .error .outOfBounds := by
  have hcheck := checkVersion_of_notMem (b := List.replicate 288 1)
    (by rw [List.length_replicate]) (by rw [List.mem_replicate]; decide)
  constructor
  · rintro ⟨⟨goesOn, hsurvives⟩, -⟩
    rw [hcheck] at hsurvives
    cases hsurvives
  · rw [dissector_eq_bind, hcheck]
    rfl

/-! ## The diagnostics -/

/-- The type byte. -/
def typeOf (b : Bytes) : Nat := ofBigEndian (slice b 4 1)

/-- A host section raises its own three expert infos only. -/
theorem mem_experts_hostItems {h : HostFields} {b : Bytes} {address : WsAddress} {port : Nat}
    {e : ProtoExpert} (he : e ∈ experts (hostItems h b address port)) :
    e = h.invalidFamily ∨ e = h.mismatchPort ∨ e = h.mismatchAddress := by
  obtain ⟨parent, hitem⟩ := mem_experts.mp he
  rcases mem_hostItems hitem with h | h | h | ⟨_, h⟩ | ⟨_, h⟩ | ⟨_, h, hown⟩ <;> cases h
  exact hown

theorem experts_headerItems (b : Bytes) :
    experts (headerItems b) =
      if typeOf b ≠ typeSender ∧ typeOf b ≠ typeReceiver then [.depracatedVersion] else [] := by
  have htype : ofBigEndian (slice b 4 1) = typeOf b := rfl
  unfold headerItems
  rw [htype]
  dsimp only
  split <;> rfl

section Diagnostics

variable (formatTime : Nat → String) (pinfo : Pinfo) {b : Bytes}

/-- With another version the dissector ends before it could diagnose anything. -/
theorem experts_dissector_of_ne (hb : 288 ≤ b.length) (hz : (0 : UInt8) ∈ b)
    (hv : versionOf b ≠ mpingVersion) : experts (dissector formatTime b pinfo).log = [] := by
  rw [dissector_eq_bind, checkVersion_of_mem hb hz, decide_eq_false hv]
  rfl

/-- With the right version it diagnoses the type, under the wrong name, and then the hosts. -/
theorem experts_dissector_of_eq (hb : 288 ≤ b.length) (hz : (0 : UInt8) ∈ b)
    (hv : versionOf b = mpingVersion) :
    experts (dissector formatTime b pinfo).log =
      (if typeOf b ≠ typeSender ∧ typeOf b ≠ typeReceiver then [.depracatedVersion] else []) ++
      (experts (hostItems sourceHost b pinfo.src pinfo.srcPort) ++
        experts (hostItems destinationHost b pinfo.dst pinfo.dstPort)) := by
  rw [dissector_eq formatTime pinfo hb ((versionOf_eq_iff hz).mp hv)]
  simp only [experts_append, experts_annotateTime, items, experts_headerItems, counterItems,
    timestampItems, experts_subtree, experts_field, experts_nil, List.append_nil,
    List.append_assoc]

/-- The two diagnostics of the header. -/
def headerExperts : List ProtoExpert := [.depracatedVersion, .invalidType]

theorem count_experts_hosts {e : ProtoExpert} (he : e ∈ headerExperts) :
    (experts (hostItems sourceHost b pinfo.src pinfo.srcPort) ++
      experts (hostItems destinationHost b pinfo.dst pinfo.dstPort)).count e = 0 := by
  rw [List.count_eq_zero, List.mem_append, not_or]
  constructor
  · intro hmem
    rcases mem_experts_hostItems hmem with rfl | rfl | rfl <;> revert he <;> decide
  · intro hmem
    rcases mem_experts_hostItems hmem with rfl | rfl | rfl <;> revert he <;> decide

/-- **How often each diagnostic of the header is raised.** -/
theorem count_experts_dissector (hb : 288 ≤ b.length) (hz : (0 : UInt8) ∈ b) :
    (experts (dissector formatTime b pinfo).log).count .depracatedVersion =
      (if versionOf b = mpingVersion ∧ typeOf b ≠ typeSender ∧ typeOf b ≠ typeReceiver then 1
        else 0) ∧
      (experts (dissector formatTime b pinfo).log).count .invalidType = 0 := by
  by_cases hv : versionOf b = mpingVersion
  · have hcount : ∀ e ∈ headerExperts, (experts (dissector formatTime b pinfo).log).count e =
        (if typeOf b ≠ typeSender ∧ typeOf b ≠ typeReceiver then [ProtoExpert.depracatedVersion]
          else []).count e := by
      intro e he
      rw [experts_dissector_of_eq formatTime pinfo hb hz hv, List.count_append,
        count_experts_hosts pinfo he, Nat.add_zero]
    rw [hcount _ (by decide), hcount _ (by decide)]
    by_cases ht : typeOf b ≠ typeSender ∧ typeOf b ≠ typeReceiver
    · rw [if_pos ht, if_pos ⟨hv, ht⟩]
      decide
    · rw [if_neg ht, if_neg fun h => ht h.2]
      decide
  · rw [experts_dissector_of_ne formatTime pinfo hb hz hv, if_neg fun h => hv h.1]
    exact ⟨rfl, rfl⟩

end Diagnostics

/-- Each diagnostic of the header is raised exactly for its own fault. -/
structure DiagnosesOwnFault (formatTime : Nat → String) (b : Bytes) (pinfo : Pinfo) : Prop where
  version : .depracatedVersion ∈ experts (dissector formatTime b pinfo).log ↔
    versionOf b ≠ mpingVersion
  type : .invalidType ∈ experts (dissector formatTime b pinfo).log ↔
    versionOf b = mpingVersion ∧ typeOf b ≠ typeSender ∧ typeOf b ≠ typeReceiver
  once : ∀ e ∈ headerExperts, (experts (dissector formatTime b pinfo).log).count e ≤ 1
  /-- The first five bytes decide. -/
  confined : ∀ e ∈ headerExperts, ∀ formatTime' b' pinfo', 288 ≤ b'.length →
    slice b' 0 5 = slice b 0 5 →
    (experts (dissector formatTime' b' pinfo').log).count e =
      (experts (dissector formatTime b pinfo).log).count e

/-- The first five bytes decide about version and type. -/
theorem fault_congr {b b' : Bytes} (h : slice b' 0 5 = slice b 0 5)
    (hz : (0 : UInt8) ∈ slice b 0 4) :
    (0 : UInt8) ∈ slice b' 0 4 ∧ (versionOf b' = mpingVersion ↔ versionOf b = mpingVersion) ∧
      typeOf b' = typeOf b := by
  have hver : slice b' 0 4 = slice b 0 4 := slice_congr h (by omega) (by omega)
  have hz' : (0 : UInt8) ∈ slice b' 0 4 := by rw [hver]; exact hz
  refine ⟨hz', ?_, ?_⟩
  · rw [versionOf_eq_iff (mem_of_mem_slice hz'), versionOf_eq_iff (mem_of_mem_slice hz), hver]
  · rw [typeOf, typeOf, slice_congr (i := 4) (k := 1) h (by omega) (by omega)]

/--
**The diagnostics fit their faults exactly where there is no fault.**

A wrong version makes the dissector return without a word, and a wrong type is reported as a
deprecated version. `e_invalid_type` is registered and never raised.
-/
theorem diagnostics_iff (formatTime : Nat → String) (pinfo : Pinfo) {b : Bytes}
    (hb : 288 ≤ b.length) (hz : (0 : UInt8) ∈ slice b 0 4) :
    DiagnosesOwnFault formatTime b pinfo ↔
      versionOf b = mpingVersion ∧ (typeOf b = typeSender ∨ typeOf b = typeReceiver) := by
  obtain ⟨hdep, hinv⟩ := count_experts_dissector formatTime pinfo hb (mem_of_mem_slice hz)
  constructor
  · rintro ⟨hversion, htype, -, -⟩
    have hv : versionOf b = mpingVersion := by
      by_contra hv
      have hmem := List.count_pos_iff.mpr (hversion.mpr hv)
      rw [hdep, if_neg fun h => hv h.1] at hmem
      omega
    refine ⟨hv, ?_⟩
    by_contra ht
    have hmem := List.count_pos_iff.mpr (htype.mpr ⟨hv, not_or.mp ht⟩)
    omega
  · rintro ⟨hv, ht⟩
    have hvalid : ¬(typeOf b ≠ typeSender ∧ typeOf b ≠ typeReceiver) := by
      rintro ⟨hs, hr⟩
      exact ht.elim hs hr
    have hzero : ∀ e ∈ headerExperts,
        (experts (dissector formatTime b pinfo).log).count e = 0 := by
      rw [if_neg fun h => hvalid h.2] at hdep
      simp [headerExperts, hdep, hinv]
    refine ⟨?_, ?_, ?_, ?_⟩
    · rw [← List.count_pos_iff, hzero _ (by decide)]
      simp [hv]
    · rw [← List.count_pos_iff, hinv]
      simp [hvalid]
    · intro e he
      rw [hzero e he]
      omega
    · intro e he formatTime' b' pinfo' hb' hslice
      obtain ⟨hz', hv', ht'⟩ := fault_congr hslice hz
      obtain ⟨hdep', hinv'⟩ := count_experts_dissector formatTime' pinfo' hb' (mem_of_mem_slice hz')
      rw [ht', if_neg fun h => hvalid h.2] at hdep'
      rw [hzero e he]
      revert he
      simp only [headerExperts, List.mem_cons, List.not_mem_nil, or_false]
      rintro (rfl | rfl) <;> assumption

/-- A buffer that opens with `head`. -/
def zeroFilled (head : Bytes) : Bytes := head ++ List.replicate 283 0

theorem length_zeroFilled (head : Bytes) (h : head.length = 5) :
    288 ≤ (zeroFilled head).length := by
  rw [zeroFilled, List.length_append, List.length_replicate, h]

/-- A buffer of version 2.0 and type `'s'` without anything else in it. -/
theorem diagnostics_sender :
    DiagnosesOwnFault (fun _ => "") (zeroFilled [0x32, 0x2E, 0x30, 0x00, 0x73]) .sample :=
  (diagnostics_iff _ _ (length_zeroFilled _ rfl) (by decide)).mpr ⟨by decide, Or.inl (by decide)⟩

/--
Type `'x'` is reported as a deprecated version and not as an invalid type; version `"1.0"` is not
reported at all.
-/
theorem diagnostics_swapped :
    (288 ≤ (zeroFilled [0x32, 0x2E, 0x30, 0x00, 0x78]).length ∧
      (0 : UInt8) ∈ slice (zeroFilled [0x32, 0x2E, 0x30, 0x00, 0x78]) 0 4 ∧
      ¬DiagnosesOwnFault (fun _ => "") (zeroFilled [0x32, 0x2E, 0x30, 0x00, 0x78]) .sample) ∧
    (288 ≤ (zeroFilled [0x31, 0x2E, 0x30, 0x00, 0x73]).length ∧
      (0 : UInt8) ∈ slice (zeroFilled [0x31, 0x2E, 0x30, 0x00, 0x73]) 0 4 ∧
      ¬DiagnosesOwnFault (fun _ => "") (zeroFilled [0x31, 0x2E, 0x30, 0x00, 0x73]) .sample) := by
  refine ⟨⟨length_zeroFilled _ rfl, by decide, ?_⟩, ⟨length_zeroFilled _ rfl, by decide, ?_⟩⟩
  · rintro ⟨hversion, -, -, -⟩
    -- the diagnostic of the version is raised, though the version is right
    have hcount := (count_experts_dissector (fun _ => "") .sample
      (length_zeroFilled [0x32, 0x2E, 0x30, 0x00, 0x78] rfl)
      (mem_of_mem_slice (o := 0) (n := 4) (by decide))).1
    rw [if_pos (by decide)] at hcount
    exact hversion.mp (List.count_pos_iff.mp (by omega)) (by decide)
  · rintro ⟨hversion, -, -, -⟩
    have hnone := experts_dissector_of_ne (fun _ => "") .sample
      (length_zeroFilled [0x31, 0x2E, 0x30, 0x00, 0x73] rfl)
      (mem_of_mem_slice (o := 0) (n := 4) (by decide)) (by decide)
    have hmem := hversion.mpr (by decide)
    rw [hnone] at hmem
    cases hmem

end MPing.Dissector
