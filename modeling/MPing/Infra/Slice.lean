import Mathlib.Data.List.Basic

/-!
# Slices of a list

`slice l o n` is the `n` elements of `l` from offset `o` on. A reader with absolute offsets meets a
writer that appends: `slice_append_left` and `slice_append_right` move a slice into the part of an
append it lies in, and `slice_all` ends the walk.

`overwrite l o src` is what copying `src` to position `o` of a buffer leaves behind.

A text that ends at a terminator is found by scanning; `takeWhile_ne_eq_iff` says at which slice the
terminator then stands.
-/

namespace Infra

variable {α : Type _}

/-- The `n` elements of `l` from offset `o` on. -/
def slice (l : List α) (o n : Nat) : List α := (l.drop o).take n

theorem length_slice {l : List α} {o n : Nat} (h : o + n ≤ l.length) :
    (slice l o n).length = n := by
  rw [slice, List.length_take, List.length_drop]
  omega

theorem slice_append_left {a b : List α} {o n : Nat} (h : o + n ≤ a.length) :
    slice (a ++ b) o n = slice a o n := by
  rw [slice, slice, List.drop_append_of_le_length (by omega),
    List.take_append_of_le_length (by rw [List.length_drop]; omega)]

theorem slice_append_right {a b : List α} {o n : Nat} (h : a.length ≤ o) :
    slice (a ++ b) o n = slice b (o - a.length) n := by
  rw [slice, slice, List.drop_append, List.drop_eq_nil_of_le h, List.nil_append]

theorem slice_all {l : List α} {n : Nat} (h : l.length = n) : slice l 0 n = l := by
  rw [slice, List.drop_zero, ← h, List.take_length]

/-- A slice of a slice is a slice of the list. -/
theorem slice_slice {l : List α} {o n i k : Nat} (h : i + k ≤ n) :
    slice (slice l o n) i k = slice l (o + i) k := by
  rw [slice, slice, slice, List.drop_take, List.take_take, List.drop_drop,
    Nat.min_eq_left (by omega)]

/-- A slice falls into two slices that follow each other. -/
theorem slice_add (l : List α) (o m n : Nat) :
    slice l o (m + n) = slice l o m ++ slice l (o + m) n := by
  rw [slice, slice, slice, List.take_add, List.drop_drop]

theorem slice_replicate {x : α} {m o n : Nat} (h : o + n ≤ m) :
    slice (List.replicate m x) o n = List.replicate n x := by
  rw [slice, List.drop_replicate, List.take_replicate, Nat.min_eq_left (by omega)]

/-- A slice decides the slices inside it. -/
theorem slice_congr {l l' : List α} {o n i k : Nat} (h : slice l o n = slice l' o n)
    (hi : o ≤ i) (hk : i + k ≤ o + n) : slice l i k = slice l' i k := by
  obtain ⟨j, rfl⟩ := Nat.exists_eq_add_of_le hi
  rw [← slice_slice (n := n) (by omega), h, slice_slice (by omega)]

theorem mem_of_mem_slice {l : List α} {o n : Nat} {x : α} (h : x ∈ slice l o n) : x ∈ l :=
  List.mem_of_mem_drop (List.mem_of_mem_take h)

/-- Scanning up to `x` gives `v` exactly when the list opens with `v` and the terminator. -/
theorem takeWhile_ne_eq_iff [DecidableEq α] {x : α} : ∀ {l v : List α}, x ∈ l →
    (l.takeWhile (· ≠ x) = v ↔ x ∉ v ∧ slice l 0 (v.length + 1) = v ++ [x])
  | a :: l, [], hl => by
    by_cases ha : a = x <;> simp [slice, ha]
  | a :: l, b :: v, hl => by
    by_cases ha : a = x
    · -- the scan stops at once, and `x` is not in `b :: v`
      subst ha
      simp only [slice, List.takeWhile_cons, List.drop_zero, List.length_cons, List.take_succ_cons,
        List.cons_append, List.cons.injEq, List.mem_cons, not_or]
      simp
      tauto
    · have hl' : x ∈ l := (List.mem_cons.mp hl).resolve_left (Ne.symm ha)
      have ih := takeWhile_ne_eq_iff (v := v) hl'
      simp only [slice, List.drop_zero] at ih
      simp only [slice, List.takeWhile_cons, ha, ne_eq, not_false_eq_true, decide_true, if_true,
        List.cons.injEq, ih, List.drop_zero, List.length_cons, List.take_succ_cons,
        List.cons_append, List.mem_cons, not_or]
      constructor
      · rintro ⟨rfl, hv, htake⟩
        exact ⟨⟨Ne.symm ha, hv⟩, rfl, htake⟩
      · rintro ⟨⟨-, hv⟩, rfl, htake⟩
        exact ⟨rfl, hv, htake⟩

/-- The list after `src` has been copied over its elements from `o` on. -/
def overwrite (l : List α) (o : Nat) (src : List α) : List α :=
  l.take o ++ src ++ l.drop (o + src.length)

/--
A buffer written up to some point and filled with `x` behind it: copying `k` places further on
leaves `k` of the fill untouched.
-/
theorem overwrite_fill {a src : List α} {x : α} {m k o : Nat} (ho : o = a.length + k)
    (hk : k ≤ m) :
    overwrite (a ++ List.replicate m x) o src
      = a ++ List.replicate k x ++ src ++ List.replicate (m - k - src.length) x := by
  have htake : (a ++ List.replicate m x).take o = a ++ List.replicate k x := by
    rw [ho, List.take_length_add_append, List.take_replicate, Nat.min_eq_left hk]
  have hdrop : (a ++ List.replicate m x).drop (o + src.length)
      = List.replicate (m - k - src.length) x := by
    rw [ho, Nat.add_assoc, List.drop_length_add_append, List.drop_replicate, Nat.sub_add_eq]
  rw [overwrite, htake, hdrop]

end Infra
