import MPing.Infra.Machine

/-!
# What the sender is for

A beacon announces itself at every tick. Its announcements are numbered from 0 without gap, each
carries the time of its tick, and nothing else has an effect. Numbers are unbounded here; the
sender has 32 bits for them.
-/

namespace MPing.Spec

open Infra

variable {τ : Type}

structure Beat (τ : Type) where
  number : Nat
  time : τ
deriving DecidableEq, Repr

/-- The announcements so far. One that is numbered out of turn cannot be built. -/
structure Beacon (τ : Type) where
  beats : List (Beat τ)
  numbered : ∀ (k : Nat) (b : Beat τ), beats[k]? = some b → b.number = k

namespace Beacon

/-- Before the first tick. -/
def start : Beacon τ := ⟨[], by simp⟩

/-- The next beat takes the next number. -/
theorem numbered_concat (b : Beacon τ) (t : τ) (k : Nat) (beat : Beat τ)
    (h : (b.beats ++ [⟨b.beats.length, t⟩])[k]? = some beat) : beat.number = k := by
  rcases Nat.lt_trichotomy k b.beats.length with hlt | rfl | hgt
  · rw [List.getElem?_append_left hlt] at h
    exact b.numbered k beat h
  · rw [List.getElem?_concat_length, Option.some.injEq] at h
    rw [← h]
  · rw [List.getElem?_eq_none (by simp; omega)] at h
    cases h

/-- A tick at time `t`. -/
def tick (b : Beacon τ) (t : τ) : Beacon τ where
  beats := b.beats ++ [⟨b.beats.length, t⟩]
  numbered := numbered_concat b t

/-- A tick can always happen. -/
def step (b : Beacon τ) (t : τ) : Option (Beacon τ) := some (b.tick t)

/-- **The beats of a run are its ticks.** -/
theorem run_times {ts : List τ} {b : Beacon τ} (h : run step start ts = some b) :
    b.beats.map Beat.time = ts := by
  refine run_invariant (I := fun ts b => b.beats.map Beat.time = ts) rfl ?_ h
  intro ts b t b' _ hb hstep
  obtain rfl : b.tick t = b' := Option.some.inj hstep
  simp [tick, hb]

/-- The `k`-th beat carries number `k` and the `k`-th time. -/
theorem run_getElem? {ts : List τ} {b : Beacon τ} (h : run step start ts = some b) {k : Nat}
    {beat : Beat τ} (hk : b.beats[k]? = some beat) : beat.number = k ∧ ts[k]? = some beat.time := by
  refine ⟨b.numbered k beat hk, ?_⟩
  rw [← run_times h, List.getElem?_map, hk, Option.map_some]

/-- The announcements depend on the ticks alone. -/
theorem run_unique {ts : List τ} {b b' : Beacon τ} (h : run step start ts = some b)
    (h' : run step start ts = some b') : b = b' := Option.some.inj (h.symm.trans h')

end Beacon

end MPing.Spec
