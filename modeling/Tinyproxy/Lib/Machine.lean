import Mathlib.Data.List.Induction

/-!
# Labelled machines

A machine is a partial step function on states and labels. Everything the
environment decides (which thread moves, what a read returns, whether a send
fits) is part of the label, so a run is determined by its start and its list of
labels and can be evaluated. `run_invariant` is the induction every safety
result goes through, `run_traced` the same induction with the labels handled so
far in view, `run_along` the one for runs whose steps meet a side condition, and
`run_simulates` carries a run of one machine to a run of another.
-/

namespace Lib

/-- A guarded step happened: its guard held, and this is its result. -/
theorem guard_some {α : Type} {c : Prop} [Decidable c] {x y : α} (step : (if c then some x else none) = some y) :
    c ∧ x = y := by
  by_cases holds : c
  · rw [if_pos holds, Option.some.injEq] at step
    exact ⟨holds, step⟩
  · rw [if_neg holds] at step
    cases step

/-- `step s e` is the state after label `e`, or `none` where `e` cannot happen. -/
structure Machine (σ ε : Type) where
  step : σ → ε → Option σ

namespace Machine

variable {σ ε : Type} (M : Machine σ ε)

/-- Handle the labels one after another; `none` as soon as one cannot happen. -/
def run : σ → List ε → Option σ
  | s, [] => some s
  | s, e :: es => (M.step s e).bind fun t => run t es

/-- Every step of the run of `es` from `s` meets `ok`. -/
def Along (ok : σ → ε → Prop) : σ → List ε → Prop
  | _, [] => True
  | s, e :: es => ok s e ∧ ∀ t, M.step s e = some t → Along ok t es

variable {M} {s t : σ} {e : ε} {es : List ε}

@[simp] theorem run_nil : M.run s [] = some s := rfl

theorem run_cons : M.run s (e :: es) = some t ↔ ∃ u, M.step s e = some u ∧ M.run u es = some t := by
  simp only [run, Option.bind_eq_some_iff]

theorem run_append {ds : List ε} :
    M.run s (ds ++ es) = some t ↔ ∃ u, M.run s ds = some u ∧ M.run u es = some t := by
  induction ds generalizing s with
  | nil => simp
  | cons d ds ih =>
    simp only [List.cons_append, run_cons, ih]
    constructor
    · rintro ⟨v, step, u, left, right⟩
      exact ⟨u, ⟨v, step, left⟩, right⟩
    · rintro ⟨u, ⟨v, step, left⟩, right⟩
      exact ⟨v, step, u, left, right⟩

theorem run_snoc : M.run s (es ++ [e]) = some t ↔ ∃ u, M.run s es = some u ∧ M.step u e = some t := by
  simp [run_append, run_cons]

theorem run_single : M.run s [e] = some t ↔ M.step s e = some t := by
  simp [run_cons]

/-- **The invariant rule.** What every step keeps, every run keeps. -/
theorem run_invariant {I : σ → Prop} (keeps : ∀ s e t, I s → M.step s e = some t → I t)
    (start : I s) (ran : M.run s es = some t) : I t := by
  induction es generalizing s with
  | nil => cases ran; exact start
  | cons e es ih =>
    obtain ⟨u, step, rest⟩ := run_cons.1 ran
    exact ih (keeps s e u start step) rest

/-- The invariant rule with the labels handled so far in view. -/
theorem run_traced {P : List ε → σ → Prop} (start : P [] s)
    (extend : ∀ es u e v, M.run s es = some u → P es u → M.step u e = some v → P (es ++ [e]) v)
    (ran : M.run s es = some t) : P es t := by
  induction es using List.reverseRecOn generalizing t with
  | nil => cases ran; exact start
  | append_singleton es e ih =>
    obtain ⟨u, before, step⟩ := run_snoc.1 ran
    exact extend es u e t before (ih before) step

/-- The invariant rule for runs whose steps all meet `ok`. -/
theorem run_along {ok : σ → ε → Prop} {I : σ → Prop}
    (keeps : ∀ s e t, I s → ok s e → M.step s e = some t → I t)
    (start : I s) (along : M.Along ok s es) (ran : M.run s es = some t) : I t := by
  induction es generalizing s with
  | nil => cases ran; exact start
  | cons e es ih =>
    obtain ⟨u, step, rest⟩ := run_cons.1 ran
    exact ih (keeps s e u start along.1 step) (along.2 u step) rest

/-- A last step is checked where the run before it ends. -/
theorem along_snoc {ok : σ → ε → Prop} :
    M.Along ok s (es ++ [e]) ↔ M.Along ok s es ∧ ∀ u, M.run s es = some u → ok u e := by
  induction es generalizing s with
  | nil => simp [Along]
  | cons d es ih =>
    simp only [List.cons_append, Along, run_cons, ih]
    constructor
    · rintro ⟨first, rest⟩
      refine ⟨⟨first, fun t step => (rest t step).1⟩, ?_⟩
      rintro u ⟨t, step, ran⟩
      exact (rest t step).2 u ran
    · rintro ⟨⟨first, rest⟩, last⟩
      exact ⟨first, fun t step => ⟨rest t step, fun u ran => last u ⟨t, step, ran⟩⟩⟩

/-- The side condition, step by step: it is checked wherever a prefix of the run ends. -/
theorem along_iff {ok : σ → ε → Prop} :
    M.Along ok s es ↔ ∀ ds e, ds ++ [e] <+: es → ∀ u, M.run s ds = some u → ok u e := by
  induction es using List.reverseRecOn with
  | nil => simp [Along]
  | append_singleton es e ih =>
    rw [along_snoc, ih]
    constructor
    · rintro ⟨before, last⟩ ds d cut u ran
      rcases List.prefix_concat_iff.1 cut with whole | shorter
      · obtain ⟨rfl, same⟩ := List.append_inj' whole rfl
        cases same
        exact last u ran
      · exact before ds d shorter u ran
    · intro every
      constructor
      · intro ds d cut
        exact every ds d (cut.trans (List.prefix_append es [e]))
      · exact every es e (List.prefix_refl _)

/-- A side condition that can be decided at each step can be decided along a run. -/
instance decidableAlong {ok : σ → ε → Prop} [∀ s e, Decidable (ok s e)] :
    (s : σ) → (es : List ε) → Decidable (M.Along ok s es)
  | _, [] => .isTrue trivial
  | s, e :: es =>
    match taken : M.step s e with
    | none =>
      decidable_of_iff (ok s e)
        ⟨fun first => ⟨first, fun t step => by rw [taken] at step; cases step⟩, And.left⟩
    | some u =>
      have : Decidable (M.Along ok u es) := decidableAlong u es
      decidable_of_iff (ok s e ∧ M.Along ok u es)
        ⟨fun both => ⟨both.1, fun t step => by rw [taken] at step; cases step; exact both.2⟩,
          fun both => ⟨both.1, both.2 u taken⟩⟩

/-- A condition on the labels alone is checked label by label. -/
theorem along_of_forall {ok : σ → ε → Prop} (every : ∀ e ∈ es, ∀ s, ok s e) : M.Along ok s es := by
  induction es generalizing s with
  | nil => trivial
  | cons e es ih =>
    exact ⟨every e List.mem_cons_self s, fun _ _ => ih fun d mem => every d (List.mem_cons_of_mem e mem)⟩

/-- `R` is a simulation of `M` by `N`: each step of `M` is matched by a run of `N`. -/
def Simulates {τ φ : Type} (M : Machine σ ε) (N : Machine τ φ) (R : σ → τ → Prop) : Prop :=
  ∀ s e s' t, R s t → M.step s e = some s' → ∃ fs t', N.run t fs = some t' ∧ R s' t'

/-- Related states stay related along whole runs. -/
theorem run_simulates {τ φ : Type} {N : Machine τ φ} {R : σ → τ → Prop} {s' : σ} {t : τ}
    (sim : Simulates M N R) (start : R s t) (ran : M.run s es = some s') :
    ∃ fs t', N.run t fs = some t' ∧ R s' t' := by
  induction es generalizing s t with
  | nil => cases ran; exact ⟨[], t, rfl, start⟩
  | cons e es ih =>
    obtain ⟨u, step, rest⟩ := run_cons.1 ran
    obtain ⟨fs, v, left, related⟩ := sim s e u t start step
    obtain ⟨gs, w, right, final⟩ := ih related rest
    exact ⟨fs ++ gs, w, run_append.2 ⟨v, left, right⟩, final⟩

end Machine

end Lib
