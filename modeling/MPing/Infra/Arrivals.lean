import Mathlib.Data.List.Dedup
import Mathlib.Order.Lattice

/-!
# Putting back in order what arrived

A channel that loses, repeats and reorders delivers some list of what was sent. If the keys of the
items grow in the order they were sent, the receiver can undo all of it but the losses.

* `restore_eq_filter` — without repetitions and sorted by the key, what arrived is what was sent
  without what was lost
-/

namespace Infra

variable {α κ : Type} [LinearOrder κ] {key : α → κ} {sent arrived : List α}

/-! ## Growing keys -/

/-- Keys that grow tell the items apart. -/
theorem nodup_of_growing (hsent : sent.Pairwise fun a b => key a < key b) : sent.Nodup := by
  refine hsent.imp ?_
  rintro a b hlt rfl
  exact lt_irrefl _ hlt

/-- Of the items sent, only one has a given key. -/
theorem eq_of_key_eq (hsent : sent.Pairwise fun a b => key a < key b) {a b : α} (ha : a ∈ sent)
    (hb : b ∈ sent) (hkey : key a = key b) : a = b := by
  have hinj : sent.Pairwise fun a b => key a = key b → a = b :=
    hsent.imp fun hlt heq => absurd heq hlt.ne
  have hflip : sent.Pairwise (flip fun a b => key a = key b → a = b) :=
    hsent.imp fun hlt heq => absurd heq hlt.ne'
  exact hinj.forall_of_forall_of_flip (fun _ _ _ => rfl) hflip ha hb hkey

/-! ## Sorting -/

section Restore

variable [DecidableEq α]

/-- Each item once, in the order of the keys. -/
def restore (key : α → κ) (arrived : List α) : List α :=
  arrived.dedup.mergeSort fun a b => decide (key a ≤ key b)

theorem restore_perm (key : α → κ) (arrived : List α) :
    (restore key arrived).Perm arrived.dedup := List.mergeSort_perm _ _

theorem restore_sorted (key : α → κ) (arrived : List α) :
    (restore key arrived).Pairwise fun a b => key a ≤ key b := by
  have hsorted : (restore key arrived).Pairwise fun a b => decide (key a ≤ key b) = true := by
    refine List.pairwise_mergeSort ?_ ?_ arrived.dedup
    · intro a b c hab hbc
      rw [decide_eq_true_eq] at hab hbc ⊢
      exact hab.trans hbc
    · intro a b
      simpa using le_total (key a) (key b)
  exact hsorted.imp of_decide_eq_true

/-- **Everything but a loss can be undone.** -/
theorem restore_eq_filter (hsent : sent.Pairwise fun a b => key a < key b)
    (h : arrived ⊆ sent) : restore key arrived = sent.filter (· ∈ arrived) := by
  have hmem : ∀ a, a ∈ restore key arrived ↔ a ∈ arrived := by
    intro a
    rw [(restore_perm key arrived).mem_iff, List.mem_dedup]
  refine List.Perm.eq_of_pairwise ?_ (restore_sorted key arrived)
    ((hsent.imp le_of_lt).filter _) ?_
  · -- both lists hold items that were sent
    intro a b ha hb hab hba
    exact eq_of_key_eq hsent (h ((hmem a).mp ha)) (List.mem_of_mem_filter hb) (le_antisymm hab hba)
  · refine (List.perm_ext_iff_of_nodup ?_ ((nodup_of_growing hsent).filter _)).mpr ?_
    · exact (restore_perm key arrived).nodup_iff.mpr (List.nodup_dedup arrived)
    · intro a
      rw [hmem, List.mem_filter, decide_eq_true_eq]
      exact ⟨fun ha => ⟨h ha, ha⟩, And.right⟩

end Restore

end Infra
