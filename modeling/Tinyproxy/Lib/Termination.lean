import Tinyproxy.Lib.Machine

/-!
# Runs that come to an end

A number that every step lowers bounds the length of a run, whatever the order of its
steps; if besides some step is possible wherever the machine is not finished, a run can
always be carried on to the end, and a run that cannot be carried on has finished.
-/

namespace Lib.Machine

variable {σ ε : Type} {M : Machine σ ε} {I : σ → Prop} {μ : σ → Nat} {s t : σ} {es : List ε}

/-- **The measure rule.** A run is no longer than the number it starts with. -/
theorem run_length_le (keeps : ∀ s e t, I s → M.step s e = some t → I t)
    (falls : ∀ s e t, I s → M.step s e = some t → μ t < μ s) (start : I s) (ran : M.run s es = some t) :
    es.length + μ t ≤ μ s := by
  induction es generalizing s with
  | nil =>
    cases ran
    simp
  | cons e es ih =>
    obtain ⟨u, step, rest⟩ := run_cons.1 ran
    have later := ih (keeps s e u start step) rest
    have lower := falls s e u start step
    rw [List.length_cons]
    omega

/-- **The progress rule.** Where every unfinished state has a step, a run can be carried on to the end. -/
theorem run_finishes {F : σ → Prop} (keeps : ∀ s e t, I s → M.step s e = some t → I t)
    (falls : ∀ s e t, I s → M.step s e = some t → μ t < μ s)
    (progress : ∀ s, I s → ¬ F s → ∃ e t, M.step s e = some t) (start : I s) :
    ∃ es t, M.run s es = some t ∧ F t := by
  induction bound : μ s using Nat.strongRecOn generalizing s with
  | ind n ih =>
    subst bound
    by_cases final : F s
    · exact ⟨[], s, rfl, final⟩
    · obtain ⟨e, u, step⟩ := progress s start final
      obtain ⟨es, t, rest, final⟩ := ih (μ u) (falls s e u start step) (keeps s e u start step) rfl
      exact ⟨e :: es, t, run_cons.2 ⟨u, step, rest⟩, final⟩

end Lib.Machine
