import Mathlib.Data.List.Induction

/-!
# Runs of Partial Steps

A run takes steps one after the other and has no result as soon as one of them is not possible.

Main statements:
- `run_concat`: a run is a shorter run and one more step.
- `run_induction`: what holds before any step, and after every step that can follow, holds of every
  run, together with the steps it is made of.
- `seen_append`, `seen_concat`: what is noted of a run grows by what is noted of further steps.
- `run_filter`: who cannot tell some steps sees the same of a run without them.
-/

namespace BuildBroker.Runs

variable {σ ε : Type} {step : σ → ε → Option σ} {s₀ s' : σ}

/-- A run is a shorter run and one more step. -/
theorem run_concat {xs : List ε} {x : ε} :
    (xs ++ [x]).foldlM step s₀ = some s' ↔
      ∃ s, xs.foldlM step s₀ = some s ∧ step s x = some s' := by
  simp only [List.foldlM_append, List.foldlM_cons, List.foldlM_nil]
  constructor
  · intro h
    obtain ⟨s, hs, hrest⟩ := Option.bind_eq_some_iff.mp h
    obtain ⟨last, hlast, hpure⟩ := Option.bind_eq_some_iff.mp hrest
    cases hpure
    exact ⟨s, hs, hlast⟩
  · rintro ⟨s, hs, hlast⟩
    exact Option.bind_eq_some_iff.mpr ⟨s, hs, Option.bind_eq_some_iff.mpr ⟨s', hlast, rfl⟩⟩

/-- A run is a run over its first steps and a run over the others. -/
theorem run_append {xs ys : List ε} :
    (xs ++ ys).foldlM step s₀ = some s' ↔
      ∃ s, xs.foldlM step s₀ = some s ∧ ys.foldlM step s = some s' := by
  rw [List.foldlM_append]
  exact Option.bind_eq_some_iff

/-- Induction on the steps of a run, the last one first. -/
theorem run_induction {motive : List ε → σ → Prop} (start : motive [] s₀)
    (next : ∀ xs s x s', motive xs s → step s x = some s' → motive (xs ++ [x]) s')
    {xs : List ε} {s : σ} (h : xs.foldlM step s₀ = some s) : motive xs s := by
  induction xs using List.reverseRecOn generalizing s with
  | nil =>
    cases h
    exact start
  | append_singleton xs x ih =>
    obtain ⟨mid, hmid, hx⟩ := run_concat.mp h
    exact next xs mid x s (ih hmid) hx

/-! ## What is noted along the way -/

section Seen

variable {ω : Type} {see : σ → ε → List ω}

/-- What someone has noted by the end of a run who notes something of each state and the step that
is taken there. -/
def seen (step : σ → ε → Option σ) (see : σ → ε → List ω) : σ → List ε → List ω
  | _, [] => []
  | s, x :: xs => see s x ++ (step s x).elim [] fun s' => seen step see s' xs

/-- What is noted of a run is what is noted of its first steps and of the others. -/
theorem seen_append {xs ys : List ε} {s : σ} (h : xs.foldlM step s₀ = some s) :
    seen step see s₀ (xs ++ ys) = seen step see s₀ xs ++ seen step see s ys := by
  induction xs generalizing s₀ with
  | nil =>
    cases h
    rfl
  | cons x xs ih =>
    rw [List.foldlM_cons] at h
    obtain ⟨s₁, hx, hrest⟩ := Option.bind_eq_some_iff.mp h
    simp only [List.cons_append, seen, hx, Option.elim_some, ih hrest, List.append_assoc]

/-- What is noted of a run grows by what is noted of its last step. -/
theorem seen_concat {xs : List ε} {x : ε} {s : σ} (h : xs.foldlM step s₀ = some s) :
    seen step see s₀ (xs ++ [x]) = seen step see s₀ xs ++ see s x := by
  rw [seen_append h]
  cases hx : step s x <;> simp [seen, hx]

end Seen

/-! ## Leaving steps out -/

section Leaving

variable {ω : Type} {see : σ → ε → List ω} {about : ε → Bool} {alike : σ → σ → Prop}

/-- A run from which some steps are left out. If these change nothing that `alike` looks at, and the
others do the same to states that are alike, then the run without them is possible, ends in a state
that is alike, and shows the same to someone who sees nothing of the steps left out. -/
theorem run_filter {t₀ : σ} (start : alike s₀ t₀)
    (skips : ∀ s t x s', alike s t → about x = false → step s x = some s' → alike s' t)
    (keeps : ∀ s t x s', alike s t → about x = true → step s x = some s' →
      ∃ t', step t x = some t' ∧ alike s' t')
    (sees : ∀ s t x, alike s t → about x = true → see s x = see t x)
    (blind : ∀ s x, about x = false → see s x = [])
    {xs : List ε} {s : σ} (h : xs.foldlM step s₀ = some s) :
    ∃ t, (xs.filter about).foldlM step t₀ = some t ∧ alike s t ∧
      seen step see t₀ (xs.filter about) = seen step see s₀ xs := by
  have hrun : xs.foldlM step s₀ = some s ∧ ∃ t, (xs.filter about).foldlM step t₀ = some t ∧
      alike s t ∧ seen step see t₀ (xs.filter about) = seen step see s₀ xs := by
    refine run_induction (motive := fun xs s => xs.foldlM step s₀ = some s ∧
      ∃ t, (xs.filter about).foldlM step t₀ = some t ∧ alike s t ∧
        seen step see t₀ (xs.filter about) = seen step see s₀ xs) ⟨rfl, t₀, rfl, start, rfl⟩ ?_ h
    rintro xs s x s' ⟨hs, t, ht, halike, hseen⟩ hx
    refine ⟨run_concat.mpr ⟨s, hs, hx⟩, ?_⟩
    rw [seen_concat hs, List.filter_append]
    -- a step that is about something else is skipped, and one that is about it is taken alike
    cases habout : about x with
    | false =>
      refine ⟨t, ?_, skips s t x s' halike habout hx, ?_⟩
      · simpa [habout] using ht
      · simp [habout, hseen, blind s x habout]
    | true =>
      obtain ⟨t', hx', halike'⟩ := keeps s t x s' halike habout hx
      have hkept : [x].filter about = [x] := by simp [habout]
      rw [hkept, seen_concat ht, hseen, sees s t x halike habout]
      exact ⟨t', run_concat.mpr ⟨t, ht, hx'⟩, halike', rfl⟩
  exact hrun.2

end Leaving

end BuildBroker.Runs
