import Mathlib.Data.Nat.Log
import Mathlib.Tactic.Ring

/-!
# Rounding to a significand of `p` bits

`roundNat p x` is the natural number `x` rounded to the nearest multiple that a significand of `p`
bits can hold, ties to even. For `p = 53` this is the conversion of an integer to an IEEE double,
in exact integer arithmetic and below the range where the exponent overflows.
-/

namespace Infra

/-- `x` rounded to `p` significant bits, ties to even. -/
def roundNat (p x : Nat) : Nat :=
  if x < 2 ^ p then x
  else
    -- the number of low bits that do not fit
    let e := Nat.log2 x + 1 - p
    let q := x / 2 ^ e
    let r := x % 2 ^ e
    if r < 2 ^ (e - 1) ∨ (r = 2 ^ (e - 1) ∧ q % 2 = 0) then q * 2 ^ e else (q + 1) * 2 ^ e

/-- A number that `p` significant bits can hold. -/
def Representable (p x : Nat) : Prop := ∃ a k, a < 2 ^ p ∧ x = a * 2 ^ k

/-- **Rounding leaves a number alone exactly when it is representable.** -/
theorem roundNat_eq_self_iff {p x : Nat} : roundNat p x = x ↔ Representable p x := by
  unfold roundNat
  by_cases hx : x < 2 ^ p
  · rw [if_pos hx]
    constructor
    · intro _
      exact ⟨x, 0, hx, by simp⟩
    · intro _
      rfl
  · rw [if_neg hx]
    have hx0 : x ≠ 0 := by
      intro h
      rw [h] at hx
      exact hx (Nat.two_pow_pos p)
    have hlog : p ≤ Nat.log2 x := (Nat.le_log2 hx0).mpr (by omega)
    obtain ⟨e, he⟩ : ∃ e, Nat.log2 x + 1 = p + e + 1 := ⟨Nat.log2 x - p, by omega⟩
    have hsub : Nat.log2 x + 1 - p = e + 1 := by omega
    simp only [hsub, Nat.add_sub_cancel]
    have hdiv : 2 ^ (e + 1) * (x / 2 ^ (e + 1)) + x % 2 ^ (e + 1) = x := Nat.div_add_mod _ _
    have hmod : x % 2 ^ (e + 1) < 2 ^ (e + 1) := Nat.mod_lt _ (Nat.two_pow_pos _)
    constructor
    · intro h
      split at h
      · -- rounded down: the quotient is the significand
        refine ⟨x / 2 ^ (e + 1), e + 1, ?_, h.symm⟩
        rw [Nat.div_lt_iff_lt_mul (Nat.two_pow_pos _), ← Nat.pow_add]
        exact (Nat.log2_lt hx0).mp (by omega)
      · -- rounded up: strictly above `x`
        rw [Nat.add_mul, Nat.one_mul, Nat.mul_comm] at h
        omega
    · rintro ⟨a, k, ha, hak⟩
      -- the exponent of any representation covers the bits that do not fit
      have hk : e + 1 ≤ k := by
        have hlt : x < 2 ^ (p + k) := by
          rw [hak, Nat.pow_add]
          exact Nat.mul_lt_mul_of_pos_right ha (Nat.two_pow_pos k)
        have := (Nat.log2_lt hx0).mpr hlt
        omega
      have hdvd : 2 ^ (e + 1) ∣ x := by
        rw [hak]
        exact Dvd.dvd.mul_left (Nat.pow_dvd_pow 2 hk) a
      have hr : x % 2 ^ (e + 1) = 0 := Nat.mod_eq_zero_of_dvd hdvd
      rw [if_pos (Or.inl (by rw [hr]; exact Nat.two_pow_pos e)), Nat.mul_comm]
      omega

/--
**Where rounding leaves a power of two.**

Below `2 ^ n`, where `p` bits do not suffice, the numbers that round up to `2 ^ n` are those within
half a unit of the last place; the middle itself rounds up, because the significand below it is odd.
-/
theorem roundNat_lt_iff {p n x : Nat} (hp : 0 < p) (hpn : p < n) (hx : x < 2 ^ n) :
    roundNat p x < 2 ^ n ↔ x < 2 ^ n - 2 ^ (n - p - 1) := by
  obtain ⟨k, rfl⟩ : ∃ k, n = p + (k + 1) := ⟨n - p - 1, by omega⟩
  rw [show p + (k + 1) - p - 1 = k by omega]
  have hP : 0 < 2 ^ p := Nat.two_pow_pos p
  have hK : 0 < 2 ^ k := Nat.two_pow_pos k
  have hpow : 2 ^ (p + (k + 1)) = 2 * (2 ^ p * 2 ^ k) := by rw [Nat.pow_add, Nat.pow_succ]; ring
  have hKle : 2 ^ k ≤ 2 ^ p * 2 ^ k := Nat.le_mul_of_pos_left _ hP
  unfold roundNat
  by_cases hsmall : x < 2 ^ p
  · rw [if_pos hsmall]
    have hPle : 2 ^ p ≤ 2 ^ p * 2 ^ k := Nat.le_mul_of_pos_right _ hK
    omega
  · rw [if_neg hsmall]
    have hx0 : x ≠ 0 := by omega
    have hlog : p ≤ Nat.log2 x := (Nat.le_log2 hx0).mpr (by omega)
    have hlt : Nat.log2 x < p + (k + 1) := (Nat.log2_lt hx0).mpr hx
    obtain ⟨e, he⟩ : ∃ e, Nat.log2 x = p + e := ⟨Nat.log2 x - p, by omega⟩
    have hxe : x < 2 ^ p * 2 ^ (e + 1) := by
      rw [← Nat.pow_add]
      exact (Nat.log2_lt hx0).mp (by omega)
    simp only [show Nat.log2 x + 1 - p = e + 1 by omega, Nat.add_sub_cancel]
    have hq : x / 2 ^ (e + 1) < 2 ^ p := (Nat.div_lt_iff_lt_mul (Nat.two_pow_pos _)).mpr hxe
    have hdiv : x / 2 ^ (e + 1) * 2 ^ (e + 1) + x % 2 ^ (e + 1) = x := Nat.div_add_mod' _ _
    have hmod : x % 2 ^ (e + 1) < 2 ^ (e + 1) := Nat.mod_lt _ (Nat.two_pow_pos _)
    generalize x / 2 ^ (e + 1) = q at hq hdiv ⊢
    generalize x % 2 ^ (e + 1) = r at hdiv hmod ⊢
    have hup : (q + 1) * 2 ^ (e + 1) ≤ 2 ^ p * 2 ^ (e + 1) := Nat.mul_le_mul_right _ hq
    have hdown : q * 2 ^ (e + 1) + 2 ^ (e + 1) = (q + 1) * 2 ^ (e + 1) := (Nat.succ_mul ..).symm
    rcases Nat.lt_or_ge e k with hek | hek
    · -- far below `2 ^ n`, rounded or not
      have hle : 2 ^ p * 2 ^ (e + 1) ≤ 2 ^ p * 2 ^ k :=
        Nat.mul_le_mul_left _ (Nat.pow_le_pow_right (by omega) hek)
      split <;> omega
    · obtain rfl : e = k := by omega
      have htwo : 2 ^ (e + 1) = 2 * 2 ^ e := Nat.pow_succ'
      rcases Nat.lt_or_ge (q + 1) (2 ^ p) with hq1 | hq1
      · have hle : (q + 1 + 1) * 2 ^ (e + 1) ≤ 2 ^ p * 2 ^ (e + 1) := Nat.mul_le_mul_right _ hq1
        rw [Nat.succ_mul] at hle
        have htop : 2 ^ p * 2 ^ (e + 1) = 2 * (2 ^ p * 2 ^ e) := by rw [htwo]; ring
        split <;> omega
      · -- the last significand: it is odd, so only what is below the middle rounds down
        have hqP : q + 1 = 2 ^ p := by omega
        have hodd : q % 2 = 1 := by
          have heven : 2 ^ p % 2 = 0 := by
            obtain ⟨p', rfl⟩ : ∃ p', p = p' + 1 := ⟨p - 1, by omega⟩
            rw [Nat.pow_succ]
            omega
          omega
        have htop : (q + 1) * 2 ^ (e + 1) = 2 * (2 ^ p * 2 ^ e) := by rw [hqP, htwo]; ring
        split <;> omega

end Infra
