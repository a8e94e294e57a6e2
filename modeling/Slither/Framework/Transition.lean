import Slither.Framework.Post

/-!
# Runs of a labelled transition relation

A run is the list of its events.  Restricting the step relation restricts every step of a run,
which is how a property of the runs whose steps all meet a condition is stated.
-/

namespace Slither.Framework

variable {σ ε : Type*}

/-- `Run step s es t`: the events `es`, in order, lead from `s` to `t`. -/
inductive Run (step : σ → ε → σ → Prop) (s : σ) : List ε → σ → Prop
  | nil : Run step s [] s
  | snoc {es : List ε} {t u : σ} {e : ε} :
      Run step s es t → step t e u → Run step s (es ++ [e]) u

namespace Run

variable {step : σ → ε → σ → Prop} {s t : σ} {es : List ε}

/-- An invariant that may mention the events so far holds after every run. -/
theorem invariant {I : List ε → σ → Prop} (hinit : I [] s)
    (hstep : ∀ es t e u, I es t → step t e u → I (es ++ [e]) u)
    (hrun : Run step s es t) : I es t := by
  induction hrun with
  | nil => exact hinit
  | snoc _ hlast ih => exact hstep _ _ _ _ ih hlast

/-- An invariant of the states alone. -/
theorem state_invariant {I : σ → Prop} (hinit : I s)
    (hstep : ∀ t e u, I t → step t e u → I u) (hrun : Run step s es t) : I t :=
  hrun.invariant (I := fun _ t => I t) hinit fun _ t e u => hstep t e u

theorem mono {step' : σ → ε → σ → Prop} (h : ∀ t e u, step t e u → step' t e u)
    (hrun : Run step s es t) : Run step' s es t := by
  induction hrun with
  | nil => exact .nil
  | snoc _ hlast ih => exact .snoc ih (h _ _ _ hlast)

theorem append {es' : List ε} {u : σ} (hrun : Run step s es t) (hrest : Run step t es' u) :
    Run step s (es ++ es') u := by
  induction hrest with
  | nil => simpa using hrun
  | snoc _ hlast ih => simpa using Run.snoc ih hlast

theorem single {e : ε} (h : step s e t) : Run step s [e] t := Run.snoc .nil h

/-- A run by evaluation: `f` computes the steps, on states that may carry more. -/
theorem of_foldlM {τ : Type*} {f : τ → ε → Option τ} (view : τ → σ)
    (hstep : ∀ a e b, f a e = some b → step (view a) e (view b)) {a b : τ}
    (h : es.foldlM f a = some b) : Run step (view a) es (view b) := by
  induction es generalizing a with
  | nil =>
      cases h
      exact .nil
  | cons e es ih =>
      rw [List.foldlM_cons] at h
      obtain ⟨u, hu, hrest⟩ := Option.bind_eq_some_iff.mp h
      exact (Run.single (hstep a e u hu)).append (ih hrest)

end Run

end Slither.Framework
