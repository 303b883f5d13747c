import MPing.Dissector.Annotation
import MPing.Dissector.Checks

/-!
# When the dissector fails

Any UDP payload on the port ends up in the dissector. A Lua error can come from two places only: the
scan for the end of the version, and the annotation of the time stamp. `dissector_fails_iff` says
for which payloads, with which error, and what is in the tree by then.
-/

namespace MPing.Dissector

open Infra Wireshark

/-- Of the words the guard of the annotation lets through, the last 511 round up to `2^63`. -/
theorem tonumber_lt_iff {x : UInt64} (h : x.toNat < 2 ^ 63) :
    tonumber x < 2 ^ 63 ↔ x.toNat < 2 ^ 63 - 512 :=
  roundNat_lt_iff (by decide) (by decide) h

/-- The payloads whose annotation fails. -/
structure BreaksAnnotation (b : Bytes) : Prop where
  decodable : Decodable b
  seconds : (secondsWordOf b).toNat < 2 ^ 63 - 1
  microseconds : 2 ^ 63 - 512 ≤ (microsecondsWordOf b).toNat ∧
    (microsecondsWordOf b).toNat < 2 ^ 63 - 1

theorem annotated_iff (b : Bytes) :
    Annotated b ↔
      (secondsWordOf b).toNat < 2 ^ 63 - 1 ∧ (microsecondsWordOf b).toNat < 2 ^ 63 - 1 := by
  rw [Annotated, UInt64.lt_iff_toNat_lt, UInt64.lt_iff_toNat_lt]
  rfl

/-- How the annotation of a payload ends. -/
theorem result_annotateTime (formatTime : Nat → String) (b : Bytes) :
    (annotateTime formatTime b).result =
      if Annotated b ∧ 2 ^ 63 - 512 ≤ (microsecondsWordOf b).toNat then .error .concatenateNil
      else .ok () := by
  unfold annotateTime
  by_cases hguard : Annotated b
  · have hlt := toNat_lt_of_annotated hguard
    rw [if_pos hguard, absoluteTimeText_eq]
    by_cases hsafe : (microsecondsWordOf b).toNat < 2 ^ 63 - 512
    · rw [if_pos ((tonumber_lt_iff hlt).mpr hsafe), if_neg (by rintro ⟨-, h⟩; omega)]
      rfl
    · rw [if_neg (mt (tonumber_lt_iff hlt).mp hsafe), if_pos ⟨hguard, by omega⟩]
      rfl
  · rw [if_neg hguard, if_neg (fun h => hguard h.1)]
    rfl

/-- An annotation that fails adds nothing. -/
theorem log_annotateTime_of_error {formatTime : Nat → String} {b : Bytes} {e : LuaError}
    (h : (annotateTime formatTime b).result = .error e) : (annotateTime formatTime b).log = [] := by
  unfold annotateTime at h ⊢
  split at h
  · next hguard =>
    rw [if_pos hguard]
    cases htext : absoluteTimeText formatTime (secondsWordOf b) (microsecondsWordOf b) with
    | error e' => rfl
    | ok text =>
      rw [htext] at h
      cases h
  · cases h

/-- A payload of another version that has a zero is passed over. -/
theorem result_dissector_of_ne (formatTime : Nat → String) (pinfo : Pinfo) {b : Bytes}
    (hb : 288 ≤ b.length) (hz : (0 : UInt8) ∈ b) (hv : versionOf b ≠ mpingVersion) :
    (dissector formatTime b pinfo).result = .ok () := by
  rw [dissector_eq_bind, checkVersion_of_mem hb hz, decide_eq_false hv]
  rfl

/-- Without a zero the scan for the version leaves the payload. -/
theorem dissector_of_notMem (formatTime : Nat → String) (pinfo : Pinfo) {b : Bytes}
    (hb : 288 ≤ b.length) (hz : (0 : UInt8) ∉ b) :
    dissector formatTime b pinfo =
      ⟨[.subtree .protocol 0 b.length "Multicast Ping Protocol"], .error .outOfBounds⟩ := by
  rw [dissector_eq_bind, checkVersion_of_notMem hb hz]
  rfl

/--
**Exactly these payloads break the dissector.**

A long enough payload without any zero breaks the scan for the version, with nothing but the
protocol's node in the tree. A payload of the right version whose microseconds are among the last
511 words below `2^63 - 1` breaks the annotation, after everything else was added. No other payload,
of whatever length, does.
-/
theorem dissector_fails_iff (formatTime : Nat → String) (b : Bytes) (pinfo : Pinfo)
    (e : LuaError) :
    (dissector formatTime b pinfo).result = .error e ↔
      (e = .outOfBounds ∧ 288 ≤ b.length ∧ 0 ∉ b ∧ (dissector formatTime b pinfo).log =
        [.subtree .protocol 0 b.length "Multicast Ping Protocol"]) ∨
      (e = .concatenateNil ∧ BreaksAnnotation b ∧
        (dissector formatTime b pinfo).log = items b pinfo) := by
  by_cases hshort : b.length < 288
  · -- a short payload is not looked at
    refine iff_of_false ?_ ?_
    · rw [dissector_eq_bind, checkVersion_of_short hshort]
      rintro ⟨⟩
    · rintro (⟨-, hb, -⟩ | ⟨-, hbreaks, -⟩)
      · omega
      · have hb := hbreaks.decodable.long
        omega
  · have hb : 288 ≤ b.length := by omega
    by_cases hz : (0 : UInt8) ∈ b
    · by_cases hv : versionOf b = mpingVersion
      · have hdec : Decodable b := ⟨hb, (versionOf_eq_iff hz).mp hv⟩
        rw [dissector_eq formatTime pinfo hdec.long hdec.version]
        simp only
        constructor
        · intro herr
          have hlog := log_annotateTime_of_error herr
          rw [result_annotateTime] at herr
          split at herr
          · next hbreaks =>
            cases herr
            obtain ⟨hsec, hmic⟩ := (annotated_iff b).mp hbreaks.1
            exact Or.inr ⟨rfl, ⟨hdec, hsec, hbreaks.2, hmic⟩, by rw [hlog, List.append_nil]⟩
          · cases herr
        · rintro (⟨-, -, hnone, -⟩ | ⟨rfl, hbreaks, -⟩)
          · exact absurd hz hnone
          · rw [result_annotateTime, if_pos ⟨(annotated_iff b).mpr
              ⟨hbreaks.seconds, hbreaks.microseconds.2⟩, hbreaks.microseconds.1⟩]
      · refine iff_of_false ?_ ?_
        · rw [result_dissector_of_ne formatTime pinfo hb hz hv]
          rintro ⟨⟩
        · rintro (⟨-, -, hnone, -⟩ | ⟨-, hbreaks, -⟩)
          · exact hnone hz
          · exact hv ((versionOf_eq_iff hz).mpr hbreaks.decodable.version)
    · rw [dissector_of_notMem formatTime pinfo hb hz]
      constructor
      · rintro ⟨⟩
        exact Or.inl ⟨rfl, hb, hz, rfl⟩
      · rintro (⟨rfl, -⟩ | ⟨-, hbreaks, -⟩)
        · rfl
        · -- the version ends with a zero
          have hmem : (0 : UInt8) ∈ slice b 0 4 := by
            rw [hbreaks.decodable.version]
            decide
          exact absurd (mem_of_mem_slice hmem) hz

end MPing.Dissector
