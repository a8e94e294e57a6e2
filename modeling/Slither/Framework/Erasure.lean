import Slither.Framework.Keyed
import Slither.Framework.Post
import Slither.Framework.Transition

/-!
# Computations that do not look

Part of a state can be erased.  A computation that does not look at that part gives the erased result
on the erased state, and fails where it failed.
-/

namespace Slither.Framework

universe u v
variable {ε : Type u} {α β γ δ σ τ : Type v}

/-- `y` is what is left of `x` under the erasure `g`. -/
def Erases (g : α → β) (x : Except ε α) (y : Except ε β) : Prop := y = x.map g

namespace Erases

variable {g : α → β} {h : γ → δ} {x : Except ε α} {y : Except ε β}

theorem bind {k : α → Except ε γ} {k' : β → Except ε δ} (hx : Erases g x y)
    (hk : ∀ a, Erases h (k a) (k' (g a))) : Erases h (x >>= k) (y >>= k') := by
  unfold Erases at hx
  subst hx
  cases x with
  | ok a => exact hk a
  | error e => rfl

theorem same_bind {z : Except ε τ} {k : τ → Except ε γ} {k' : τ → Except ε δ}
    (hk : ∀ a, z = .ok a → Erases h (k a) (k' a)) : Erases h (z >>= k) (z >>= k') := by
  cases z with
  | ok a => exact hk a rfl
  | error e => rfl

theorem foldlM {e : σ → τ} {f : σ → α → Except ε σ} {f' : τ → α → Except ε τ}
    (hstep : ∀ s a, Erases e (f s a) (f' (e s) a)) (as : List α) (s : σ) :
    Erases e (as.foldlM f s) (as.foldlM f' (e s)) := by
  induction as generalizing s with
  | nil => rfl
  | cons a as ih =>
      rw [List.foldlM_cons, List.foldlM_cons]
      exact (hstep s a).bind fun t => ih t

theorem eq_ok_iff (hx : Erases g x y) {b : β} : y = .ok b ↔ ∃ a, x = .ok a ∧ g a = b := by
  unfold Erases at hx
  subst hx
  cases x with
  | ok a => simp [Except.map]
  | error e => simp [Except.map]

end Erases

/-- A machine that does not look at what is erased, in the states it reaches, runs as the machine
without it. -/
theorem Run.erased {σ τ ι : Type*} {e : σ → τ} {step : σ → ι → σ → Prop} {step' : τ → ι → τ → Prop}
    {s : σ} {es : List ι} {t' : τ}
    (hstep : ∀ es t, Run step s es t → ∀ a u', step' (e t) a u' ↔ ∃ u, step t a u ∧ e u = u') :
    Run step' (e s) es t' ↔ ∃ t, Run step s es t ∧ e t = t' := by
  constructor
  · intro hrun
    induction hrun with
    | nil => exact ⟨s, .nil, rfl⟩
    | snoc _ hlast ih =>
        obtain ⟨t, ht, rfl⟩ := ih
        obtain ⟨u, hu, rfl⟩ := (hstep _ t ht _ _).mp hlast
        exact ⟨u, ht.snoc hu, rfl⟩
  · intro hrun
    obtain ⟨t, ht, rfl⟩ := hrun
    induction ht with
    | nil => exact .nil
    | snoc hrun hlast ih => exact ih.snoc ((hstep _ _ hrun _ _).mpr ⟨_, hlast, rfl⟩)

namespace Keyed

variable {κ ι : Type v} [DecidableEq κ] {key : ι → κ} {f : ι → ι}

theorem mapEntries_replace (hf : ∀ a, key (f a) = key a) (m : Keyed key) (a : ι) :
    (m.replace a).mapEntries f hf = (m.mapEntries f hf).replace (f a) := by
  ext1
  simp only [mapEntries, replace, List.map_map]
  apply List.map_congr_left
  intro b _
  by_cases hb : key b = key a <;> simp [hf, hb]

theorem mapEntries_erase (hf : ∀ a, key (f a) = key a) (m : Keyed key) (k : κ) :
    (m.erase k).mapEntries f hf = (m.mapEntries f hf).erase k := by
  ext1
  simp only [mapEntries, erase, List.filter_map]
  congr 2
  funext a
  simp [hf]

private theorem mapEntries_insert (hf : ∀ a, key (f a) = key a) (m : Keyed key) (a : ι) :
    (m.insert a).mapEntries f hf = (m.mapEntries f hf).insert (f a) := by
  have hfind : (m.mapEntries f hf).find? (key (f a)) = (m.find? (key a)).map f := by
    rw [find?_mapEntries, hf]
  cases h : m.find? (key a) with
  | none =>
      rw [h] at hfind
      ext1
      rw [entries_insert hfind]
      simp only [mapEntries, entries_insert h, List.map_append, List.map_singleton]
  | some b =>
      rw [h] at hfind
      rw [insert_of_some h, insert_of_some hfind]

theorem mapEntries_assign (hf : ∀ a, key (f a) = key a) (m : Keyed key) (a : ι) :
    (m.assign a).mapEntries f hf = (m.mapEntries f hf).assign (f a) := by
  unfold assign
  rw [find?_mapEntries, hf, Option.isSome_map]
  split
  · exact mapEntries_replace hf m a
  · exact mapEntries_insert hf m a

end Keyed

end Slither.Framework
