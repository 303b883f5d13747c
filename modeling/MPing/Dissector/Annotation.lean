import MPing.Dissector.Dissector

/-!
# The time stamp annotation

The guard of the annotation compares two 64-bit integers with `2^63 - 1`, "to check if `:tonumber()`
is safe to use". `tonumber()` however rounds to a double, so the guard lets words through that are
printed wrong, and the last few hundred below `2^63` round up to `2^63`, where `math.tointeger`
gives `nil` and the concatenation fails.

`annotation_exact_iff` says which words are printed as they are: those a double can hold.
-/

namespace MPing.Dissector

open Infra Wireshark

/-- Decimal numerals of different numbers differ. -/
theorem toString_nat_inj {m n : Nat} (h : toString m = toString n) : m = n := by
  have hdigits : Nat.toDigits 10 m = Nat.toDigits 10 n := by
    rw [← Nat.toList_repr, ← Nat.toList_repr]
    exact congrArg String.toList h
  rw [← Nat.ofDigitChars_ten_toDigits (n := m), hdigits, Nat.ofDigitChars_ten_toDigits]

/-- The annotation that shows `n` microseconds. -/
def timeText (formatTime : Nat → String) (seconds : UInt64) (n : Nat) : String :=
  "[corresponds to absolute time: " ++ formatTime (tonumber seconds) ++ ", " ++ toString n
    ++ " microseconds]"

theorem timeText_inj {formatTime : Nat → String} {seconds : UInt64} {m n : Nat}
    (h : timeText formatTime seconds m = timeText formatTime seconds n) : m = n := by
  unfold timeText at h
  rw [String.append_left_inj, String.append_right_inj] at h
  exact toString_nat_inj h

/-- What the text comes to, in the two cases of `math.tointeger`. -/
theorem absoluteTimeText_eq (formatTime : Nat → String) (seconds microseconds : UInt64) :
    absoluteTimeText formatTime seconds microseconds =
      if tonumber microseconds < 2 ^ 63 then
        .ok (timeText formatTime seconds (tonumber microseconds))
      else .error .concatenateNil := by
  unfold absoluteTimeText mathTointeger
  by_cases h : tonumber microseconds < 2 ^ 63
  · rw [if_pos h, if_pos h]
    rfl
  · rw [if_neg h, if_neg h]

/-- A word that passes the guard is below `2^63`, and stays there if rounding leaves it alone. -/
theorem toNat_lt_of_annotated {b : Bytes} (h : Annotated b) :
    (microsecondsWordOf b).toNat < 2 ^ 63 := by
  have hlt := UInt64.lt_iff_toNat_lt.mp h.2
  have hmax : maxUint64.toNat = 2 ^ 63 - 1 := rfl
  omega

/-- The only text of a run is the annotation. -/
theorem text_notMem_items (b : Bytes) (pinfo : Pinfo) (node : Node) (text : String) :
    (.text node text : TreeItem) ∉ items b pinfo := by
  have hhost : ∀ (h : HostFields) (address : WsAddress) (port : Nat),
      (.text node text : TreeItem) ∉ hostItems h b address port := by
    intro h address port hmem
    rcases mem_hostItems hmem with h | h | h | ⟨_, h⟩ | ⟨_, h⟩ | ⟨_, h, -⟩ <;> cases h
  have hheader : (.text node text : TreeItem) ∉ headerItems b := by
    intro hmem
    rcases mem_headerItems hmem with h | h | h | h | h <;> cases h
  simp [items, hheader, hhost, counterItems, timestampItems]

/--
The annotation is safe: if the guard lets it run, the dissector raises no error and prints the
microseconds that are on the wire.
-/
def AnnotationExact (formatTime : Nat → String) (b : Bytes) (pinfo : Pinfo) : Prop :=
  Annotated b →
    (dissector formatTime b pinfo).result = .ok () ∧
      .text .timestamp (timeText formatTime (secondsWordOf b) (microsecondsWordOf b).toNat)
        ∈ (dissector formatTime b pinfo).log

/--
**The annotation is safe exactly for the words a double can hold.**

A word is held by a double if it is a number below `2^53` times a power of two.
-/
theorem annotation_exact_iff (formatTime : Nat → String) {b : Bytes} (pinfo : Pinfo)
    (hb : 288 ≤ b.length) (hver : slice b 0 4 = [0x32, 0x2E, 0x30, 0x00]) :
    AnnotationExact formatTime b pinfo ↔
      (Annotated b → ∃ a k, a < 2 ^ 53 ∧ (microsecondsWordOf b).toNat = a * 2 ^ k) := by
  unfold AnnotationExact
  refine imp_congr_right fun hguard => ?_
  rw [show (∃ a k, a < 2 ^ 53 ∧ (microsecondsWordOf b).toNat = a * 2 ^ k)
    ↔ tonumber (microsecondsWordOf b) = (microsecondsWordOf b).toNat from roundNat_eq_self_iff.symm,
    dissector_eq formatTime pinfo hb hver, annotateTime, if_pos hguard, absoluteTimeText_eq]
  by_cases hsafe : tonumber (microsecondsWordOf b) < 2 ^ 63
  · rw [if_pos hsafe, Logged.ofExcept_ok, pure_bind]
    simp only [addText, Logged.result_tell, Logged.log_tell, true_and, List.mem_append,
      text_notMem_items, false_or, List.mem_singleton, Item.text.injEq]
    constructor
    · intro h
      exact (timeText_inj h).symm
    · intro h
      rw [h]
  · -- the rounded word is `2^63`: the run ends in the error
    rw [if_neg hsafe]
    constructor
    · rintro ⟨herr, -⟩
      cases herr
    · intro h
      rw [h] at hsafe
      exact absurd (toNat_lt_of_annotated hguard) hsafe

/-- A buffer of the right version with the given time words. -/
def bufferWithTimes (seconds microseconds : Nat) : Bytes :=
  [0x32, 0x2E, 0x30, 0x00] ++ List.replicate 268 0 ++ bigEndian 8 seconds ++
    bigEndian 8 microseconds

theorem length_bufferWithTimes (seconds microseconds : Nat) :
    288 ≤ (bufferWithTimes seconds microseconds).length := by
  simp only [bufferWithTimes, List.length_append, List.length_replicate, length_bigEndian,
    List.length_cons, List.length_nil]
  omega

/-- One second and 999999 microseconds: printed as they are. -/
theorem annotation_exact_small :
    AnnotationExact (fun _ => "") (bufferWithTimes 1 999999) ⟨⟨.ipv4, []⟩, ⟨.ipv4, []⟩, 0, 0⟩ :=
  (annotation_exact_iff (fun _ => "") _ (length_bufferWithTimes _ _) rfl).mpr
    fun _ => ⟨999999, 0, by decide, by decide +kernel⟩

/-- `2^63 - 2` microseconds pass the guard, and the dissector ends in an error. -/
theorem annotation_concatenates_nil :
    ¬AnnotationExact (fun _ => "") (bufferWithTimes 0 (2 ^ 63 - 2))
      ⟨⟨.ipv4, []⟩, ⟨.ipv4, []⟩, 0, 0⟩ := by
  intro h
  have hguard : Annotated (bufferWithTimes 0 (2 ^ 63 - 2)) := by decide +kernel
  have hok := (h hguard).1
  rw [dissector_eq _ _ (length_bufferWithTimes _ _) rfl, annotateTime, if_pos hguard,
    absoluteTimeText_eq, if_neg (by decide +kernel)] at hok
  cases hok

end MPing.Dissector
