import Mathlib.Data.Nat.Digits.Defs

/-!
# Fixed-width integers as byte lists

An integer of `n` bytes is written least significant byte first (`littleEndian`) or most
significant byte first (`bigEndian`), and read back by `ofLittleEndian` / `ofBigEndian`.
Everything is about `Nat`; a fixed-width machine integer enters through its value.

The two facts the rest leans on:

* writing and reading back keeps the value modulo `256 ^ n` (`ofLittleEndian_littleEndian`,
  `ofBigEndian_bigEndian`);
* among byte lists of one length, the lexicographic order is the order of the big-endian values
  (`bytes_lt_iff`).
-/

namespace Infra

abbrev Bytes := List UInt8

/-! ## Writing and reading -/

/-- The `n` low bytes of `v`, least significant first. -/
def littleEndian : Nat → Nat → Bytes
  | 0, _ => []
  | n + 1, v => UInt8.ofNat v :: littleEndian n (v / 256)

/-- The `n` low bytes of `v`, most significant first. -/
def bigEndian (n v : Nat) : Bytes := (littleEndian n v).reverse

/-- The number a byte list spells, least significant byte first. -/
def ofLittleEndian (bs : Bytes) : Nat := Nat.ofDigits 256 (bs.map UInt8.toNat)

/-- The number a byte list spells, most significant byte first. -/
def ofBigEndian (bs : Bytes) : Nat := bs.foldl (fun acc b => acc * 256 + b.toNat) 0

@[simp] theorem length_littleEndian : ∀ n v : Nat, (littleEndian n v).length = n
  | 0, _ => rfl
  | n + 1, v => by simp [littleEndian, length_littleEndian n]

@[simp] theorem length_bigEndian (n v : Nat) : (bigEndian n v).length = n := by
  simp [bigEndian]

@[simp] theorem reverse_bigEndian (n v : Nat) : (bigEndian n v).reverse = littleEndian n v := by
  simp [bigEndian]

@[simp] theorem ofLittleEndian_nil : ofLittleEndian [] = 0 := rfl

theorem ofLittleEndian_cons (b : UInt8) (bs : Bytes) :
    ofLittleEndian (b :: bs) = b.toNat + 256 * ofLittleEndian bs := by
  simp [ofLittleEndian, Nat.ofDigits_cons]

theorem ofLittleEndian_append (as bs : Bytes) :
    ofLittleEndian (as ++ bs) = ofLittleEndian as + 256 ^ as.length * ofLittleEndian bs := by
  simp [ofLittleEndian, Nat.ofDigits_append]

theorem ofLittleEndian_lt (bs : Bytes) : ofLittleEndian bs < 256 ^ bs.length := by
  have h : ∀ x ∈ bs.map UInt8.toNat, x < 256 := by
    intro x hx
    obtain ⟨b, _, rfl⟩ := List.mem_map.mp hx
    exact b.toNat_lt
  simpa [ofLittleEndian] using Nat.ofDigits_lt_base_pow_length (by omega) h

/-- Writing `n` bytes and reading them back keeps the value modulo `256 ^ n`. -/
theorem ofLittleEndian_littleEndian : ∀ n v : Nat,
    ofLittleEndian (littleEndian n v) = v % 256 ^ n
  | 0, v => by simp [littleEndian, Nat.mod_one]
  | n + 1, v => by
    have hpow : 256 ^ (n + 1) = 256 * 256 ^ n := Nat.pow_succ'
    rw [littleEndian, ofLittleEndian_cons, ofLittleEndian_littleEndian n (v / 256),
      UInt8.toNat_ofNat', hpow, Nat.mod_mul]

/-- Reading a byte list and writing it at its own length gives the list back. -/
theorem littleEndian_ofLittleEndian : ∀ bs : Bytes,
    littleEndian bs.length (ofLittleEndian bs) = bs
  | [] => rfl
  | b :: bs => by
    have hb : b.toNat < 256 := b.toNat_lt
    rw [List.length_cons, littleEndian, ofLittleEndian_cons]
    rw [show (b.toNat + 256 * ofLittleEndian bs) / 256 = ofLittleEndian bs by omega,
      littleEndian_ofLittleEndian bs]
    congr 1
    rw [← UInt8.toNat_inj, UInt8.toNat_ofNat']
    omega

/-- Only the low `n` bytes matter. -/
theorem littleEndian_mod (n v : Nat) : littleEndian n (v % 256 ^ n) = littleEndian n v := by
  have h := littleEndian_ofLittleEndian (littleEndian n v)
  rwa [length_littleEndian, ofLittleEndian_littleEndian] at h

/-- A value already read counts with the weight of the bytes that follow. -/
theorem foldl_bigEndian : ∀ (bs : Bytes) (acc : Nat),
    bs.foldl (fun acc b => acc * 256 + b.toNat) acc = acc * 256 ^ bs.length + ofBigEndian bs
  | [], acc => by simp [ofBigEndian]
  | b :: bs, acc => by
    rw [ofBigEndian, List.foldl_cons, List.foldl_cons, foldl_bigEndian bs, foldl_bigEndian bs,
      List.length_cons, Nat.pow_succ]
    ring

theorem ofBigEndian_append (as bs : Bytes) :
    ofBigEndian (as ++ bs) = ofBigEndian as * 256 ^ bs.length + ofBigEndian bs := by
  rw [ofBigEndian, List.foldl_append, foldl_bigEndian bs]
  rfl

theorem ofBigEndian_cons (b : UInt8) (bs : Bytes) :
    ofBigEndian (b :: bs) = b.toNat * 256 ^ bs.length + ofBigEndian bs := by
  rw [ofBigEndian, List.foldl_cons, foldl_bigEndian bs]
  simp

/-- The two ways of reading differ by reversing the list. -/
theorem ofBigEndian_eq_ofLittleEndian : ∀ bs : Bytes,
    ofBigEndian bs = ofLittleEndian bs.reverse
  | [] => rfl
  | b :: bs => by
    rw [ofBigEndian_cons, ofBigEndian_eq_ofLittleEndian bs, List.reverse_cons,
      ofLittleEndian_append, List.length_reverse, Nat.add_comm, Nat.mul_comm]
    simp [ofLittleEndian_cons]

theorem ofBigEndian_lt (bs : Bytes) : ofBigEndian bs < 256 ^ bs.length := by
  rw [ofBigEndian_eq_ofLittleEndian]
  simpa using ofLittleEndian_lt bs.reverse

theorem ofBigEndian_bigEndian (n v : Nat) : ofBigEndian (bigEndian n v) = v % 256 ^ n := by
  rw [ofBigEndian_eq_ofLittleEndian, reverse_bigEndian, ofLittleEndian_littleEndian]

theorem ofBigEndian_bigEndian_of_lt {n v : Nat} (h : v < 256 ^ n) :
    ofBigEndian (bigEndian n v) = v := by
  rw [ofBigEndian_bigEndian, Nat.mod_eq_of_lt h]

/-- Reading a byte list and writing it at its own length gives the list back. -/
theorem bigEndian_ofBigEndian {n : Nat} {bs : Bytes} (h : bs.length = n) :
    bigEndian n (ofBigEndian bs) = bs := by
  have hrev := littleEndian_ofLittleEndian bs.reverse
  rw [List.length_reverse, h] at hrev
  rw [bigEndian, ofBigEndian_eq_ofLittleEndian, hrev, List.reverse_reverse]

/-- Two values that fit are equal as soon as their bytes are. -/
theorem bigEndian_inj {n v w : Nat} (hv : v < 256 ^ n) (hw : w < 256 ^ n) :
    bigEndian n v = bigEndian n w ↔ v = w := by
  constructor
  · intro h
    rw [← ofBigEndian_bigEndian_of_lt hv, h, ofBigEndian_bigEndian_of_lt hw]
  · rintro rfl; rfl

/-! ## The bytes one by one -/

/-- Byte `i` of the little-endian list is digit `i` in base 256. -/
theorem littleEndian_eq_ofFn : ∀ n v : Nat,
    littleEndian n v = List.ofFn fun i : Fin n => UInt8.ofNat (v / 256 ^ i.val)
  | 0, _ => by simp [littleEndian]
  | n + 1, v => by
    rw [littleEndian, littleEndian_eq_ofFn n, List.ofFn_succ]
    simp [Nat.div_div_eq_div_mul, Nat.pow_succ, Nat.mul_comm]

/-- Byte `i` of the big-endian list is digit `n - 1 - i` in base 256. -/
theorem bigEndian_eq_ofFn (n v : Nat) :
    bigEndian n v = List.ofFn fun i : Fin n => UInt8.ofNat (v / 256 ^ (n - 1 - i.val)) := by
  refine List.ext_getElem (by simp) ?_
  intro i hi _
  simp [bigEndian, littleEndian_eq_ofFn]

/-! ## Order -/

/-- **The lexicographic order of equally long byte lists is the order of their values.** -/
theorem bytes_lt_iff : ∀ {as bs : Bytes}, as.length = bs.length →
    (as < bs ↔ ofBigEndian as < ofBigEndian bs)
  | [], [], _ => by simp
  | a :: as, b :: bs, h => by
    have hlen : as.length = bs.length := by simpa using h
    have ha := ofBigEndian_lt as
    have hb := ofBigEndian_lt bs
    rw [hlen] at ha
    rw [List.cons_lt_cons_iff, bytes_lt_iff hlen, ofBigEndian_cons, ofBigEndian_cons, hlen,
      ← UInt8.toNat_inj, UInt8.lt_iff_toNat_lt]
    constructor
    · rintro (hlt | ⟨heq, hrest⟩)
      · calc a.toNat * 256 ^ bs.length + ofBigEndian as
            < a.toNat * 256 ^ bs.length + 256 ^ bs.length := by omega
          _ = (a.toNat + 1) * 256 ^ bs.length := by ring
          _ ≤ b.toNat * 256 ^ bs.length := Nat.mul_le_mul_right _ hlt
          _ ≤ b.toNat * 256 ^ bs.length + ofBigEndian bs := Nat.le_add_right _ _
      · rw [heq]; omega
    · intro hlt
      rcases Nat.lt_trichotomy a.toNat b.toNat with hc | hc | hc
      · exact Or.inl hc
      · rw [hc] at hlt
        exact Or.inr ⟨hc, by omega⟩
      · have hge : (b.toNat + 1) * 256 ^ bs.length ≤ a.toNat * 256 ^ bs.length :=
          Nat.mul_le_mul_right _ hc
        rw [Nat.add_mul] at hge
        omega

/-- The weak order, in the same way. -/
theorem bytes_le_iff {as bs : Bytes} (h : as.length = bs.length) :
    as ≤ bs ↔ ofBigEndian as ≤ ofBigEndian bs := by
  rw [← List.not_lt, bytes_lt_iff h.symm, Nat.not_lt]

end Infra
