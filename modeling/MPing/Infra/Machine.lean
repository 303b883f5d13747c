import Mathlib.Data.List.Induction

/-!
# Runs of a partial step function

A machine is a step function `step : σ → ε → Option σ`: `none` says that the event cannot happen in
the state. A run is a list of events, each of which happens in the state the earlier ones left.

* `run_invariant` — what one step keeps, a run keeps; the invariant may speak of the events so far
* `run_simulates` — a step-by-step simulation carries over to runs
* `Postponable.run_postpone` — events that commute with the others can be moved to the end of a run
-/

namespace Infra

variable {σ σ' ε ε' : Type} {step : σ → ε → Option σ}

/-- The state after a list of events, if each of them can happen in its turn. -/
def run (step : σ → ε → Option σ) : σ → List ε → Option σ
  | s, [] => some s
  | s, e :: es => (step s e).bind fun t => run step t es

@[simp] theorem run_nil (s : σ) : run step s [] = some s := rfl

theorem run_cons {s : σ} {e : ε} {es : List ε} :
    run step s (e :: es) = (step s e).bind fun t => run step t es := rfl

theorem run_cons_eq_some {s u : σ} {e : ε} {es : List ε} :
    run step s (e :: es) = some u ↔ ∃ t, step s e = some t ∧ run step t es = some u := by
  rw [run_cons, Option.bind_eq_some_iff]

theorem run_append_eq_some {s u : σ} {es fs : List ε} :
    run step s (es ++ fs) = some u ↔ ∃ t, run step s es = some t ∧ run step t fs = some u := by
  induction es generalizing s with
  | nil => simp
  | cons e es ih =>
    simp only [List.cons_append, run_cons_eq_some, ih]
    constructor
    · rintro ⟨t, ht, t', ht', hu⟩
      exact ⟨t', ⟨t, ht, ht'⟩, hu⟩
    · rintro ⟨t', ⟨t, ht, ht'⟩, hu⟩
      exact ⟨t, ht, t', ht', hu⟩

theorem run_concat_eq_some {s u : σ} {es : List ε} {e : ε} :
    run step s (es ++ [e]) = some u ↔ ∃ t, run step s es = some t ∧ step t e = some u := by
  simp [run_append_eq_some, run_cons_eq_some]

/--
**Invariants along runs.**

`I es s` relates a state to the events that led to it. It is enough that `I` holds at the start and
that a step from a state that is reached keeps it.
-/
theorem run_invariant {I : List ε → σ → Prop} {s₀ : σ} (init : I [] s₀)
    (keep : ∀ es s e t, run step s₀ es = some s → I es s → step s e = some t → I (es ++ [e]) t) :
    ∀ {es s}, run step s₀ es = some s → I es s := by
  intro es
  -- the last event is peeled off, so that the induction hypothesis starts where the run does
  induction es using List.reverseRecOn with
  | nil =>
    intro s h
    rw [run_nil, Option.some.injEq] at h
    exact h ▸ init
  | append_singleton es e ih =>
    intro s h
    obtain ⟨t, ht, hs⟩ := run_concat_eq_some.mp h
    exact keep es t e s ht (ih ht) hs

/--
**Simulation.**

Every event of the machine stands for a list of events of another one (for none, if the other
machine does not see it). If the relation `R` survives each step, it survives a run.
-/
theorem run_simulates {step' : σ' → ε' → Option σ'} {R : σ → σ' → Prop} {image : ε → List ε'}
    (sim : ∀ s s' e t, R s s' → step s e = some t →
      ∃ t', run step' s' (image e) = some t' ∧ R t t') :
    ∀ {es s s' t}, R s s' → run step s es = some t →
      ∃ t', run step' s' (es.flatMap image) = some t' ∧ R t t' := by
  intro es
  induction es with
  | nil =>
    intro s s' t hR h
    rw [run_nil, Option.some.injEq] at h
    exact ⟨s', rfl, h ▸ hR⟩
  | cons e es ih =>
    intro s s' t hR h
    obtain ⟨u, hu, ht⟩ := run_cons_eq_some.mp h
    obtain ⟨u', hu', hRu⟩ := sim s s' e u hR hu
    obtain ⟨t', ht', hRt⟩ := ih hRu ht
    exact ⟨t', by rw [List.flatMap_cons, run_append_eq_some]; exact ⟨u', hu', ht'⟩, hRt⟩

/-! ## Postponing events -/

section Postpone

variable {late : ε → Bool} {R : σ → σ → Prop} {Good : σ → Prop}

/--
The events of one kind can wait: a late event that happened just before another one can as well
happen just after it. What differs is not seen by `R`, and only steps to a good state count.
-/
structure Postponable (step : σ → ε → Option σ) (late : ε → Bool) (R : σ → σ → Prop)
    (Good : σ → Prop) : Prop where
  refl : ∀ s, R s s
  trans : ∀ {s t u}, R s t → R t u → R s u
  /-- Related states take the same events. -/
  congr : ∀ {s s' e t}, R s s' → step s e = some t → ∃ t', step s' e = some t' ∧ R t t'
  good_of_step : ∀ {s e t}, step s e = some t → Good t → Good s
  good_congr : ∀ {s s'}, R s s' → Good s → Good s'
  swap : ∀ {s e f t u}, late e = true → late f = false → step s e = some t →
    step t f = some u → Good u → ∃ t' u', step s f = some t' ∧ step t' e = some u' ∧ R u u'

namespace Postponable

variable (h : Postponable step late R Good)
include h

theorem run_congr {es : List ε} {s s' t : σ} (hR : R s s') (hrun : run step s es = some t) :
    ∃ t', run step s' es = some t' ∧ R t t' := by
  induction es generalizing s s' with
  | nil =>
    obtain rfl := Option.some.inj hrun
    exact ⟨s', rfl, hR⟩
  | cons e es ih =>
    obtain ⟨u, hu, ht⟩ := run_cons_eq_some.mp hrun
    obtain ⟨u', hu', hRu⟩ := h.congr hR hu
    obtain ⟨t', ht', hRt⟩ := ih hRu ht
    exact ⟨t', run_cons_eq_some.mpr ⟨u', hu', ht'⟩, hRt⟩

theorem good_of_run {es : List ε} {s t : σ} (hrun : run step s es = some t) (ht : Good t) :
    Good s := by
  induction es generalizing s with
  | nil =>
    obtain rfl := Option.some.inj hrun
    exact ht
  | cons e es ih =>
    obtain ⟨u, hu, ht⟩ := run_cons_eq_some.mp hrun
    exact h.good_of_step hu (ih ht)

/-- One late event past a list of others. -/
theorem run_past {e : ε} (he : late e = true) {fs : List ε} (hfs : ∀ f ∈ fs, late f = false)
    {s t u : σ} (hstep : step s e = some t) (hrun : run step t fs = some u) (hu : Good u) :
    ∃ v u', run step s fs = some v ∧ step v e = some u' ∧ R u u' := by
  induction fs generalizing s t u with
  | nil =>
    obtain rfl := Option.some.inj hrun
    exact ⟨s, t, rfl, hstep, h.refl t⟩
  | cons f fs ih =>
    obtain ⟨t₁, ht₁, hrest⟩ := run_cons_eq_some.mp hrun
    obtain ⟨t', u₁, hf, he', hR⟩ :=
      h.swap he (hfs f (by simp)) hstep ht₁ (h.good_of_run hrest hu)
    -- the rest of the run from the state the swap leads to
    obtain ⟨u₂, hu₂, hRu⟩ := h.run_congr hR hrest
    obtain ⟨v, u', hv, hve, hRv⟩ :=
      ih (fun f hf => hfs f (by simp [hf])) he' hu₂ (h.good_congr hRu hu)
    exact ⟨v, u', run_cons_eq_some.mpr ⟨t', hf, hv⟩, hve, h.trans hRu hRv⟩

/--
**Late events can be moved to the end of a run.**

They keep their order, and so do the others; the run leads to a related state.
-/
theorem run_postpone {es : List ε} {s t : σ} (hrun : run step s es = some t) (ht : Good t) :
    ∃ t', run step s (es.filter (!late ·) ++ es.filter late) = some t' ∧ R t t' := by
  induction es generalizing s with
  | nil =>
    obtain rfl := Option.some.inj hrun
    exact ⟨s, rfl, h.refl s⟩
  | cons e es ih =>
    obtain ⟨s₁, hs₁, hrest⟩ := run_cons_eq_some.mp hrun
    obtain ⟨t₁, ht₁, hR⟩ := ih hrest
    cases he : late e with
    | false =>
      refine ⟨t₁, ?_, hR⟩
      simp only [List.filter_cons, he, Bool.not_false, if_true, Bool.false_eq_true, if_false,
        List.cons_append]
      exact run_cons_eq_some.mpr ⟨s₁, hs₁, ht₁⟩
    | true =>
      simp only [List.filter_cons, he, Bool.not_true, Bool.false_eq_true, if_false, if_true]
      obtain ⟨u, hearly, hlate⟩ := run_append_eq_some.mp ht₁
      obtain ⟨v, u', hv, hve, hRu⟩ := h.run_past he (by simp) hs₁ hearly
        (h.good_of_run hlate (h.good_congr hR ht))
      obtain ⟨t₂, ht₂, hRt⟩ := h.run_congr hRu hlate
      refine ⟨t₂, ?_, h.trans hR hRt⟩
      exact run_append_eq_some.mpr ⟨v, hv, run_cons_eq_some.mpr ⟨u', hve, ht₂⟩⟩

end Postponable

end Postpone

end Infra
