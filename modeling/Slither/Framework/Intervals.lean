import Mathlib

/-!
# Intervals of a clock in a counter

A sender writes down how far its clock has moved since the last message, in a counter that wraps.
A receiver that adds the intervals up knows when the last message was sent, as far as such a counter
can tell.
-/

namespace Slither.Framework

/-- The steps from `last` on through the readings, in a counter of `M` values. -/
def intervals (M : ℕ) : ℕ → List ℕ → List ℕ
  | _, [] => []
  | last, t :: ts => (t - last) % M :: intervals M t ts

variable {M last : ℕ} {ts : List ℕ}

theorem intervals_concat (M last : ℕ) (ts : List ℕ) (t : ℕ) :
    intervals M last (ts ++ [t]) = intervals M last ts ++ [(t - ts.getLastD last) % M] := by
  induction ts generalizing last with
  | nil => rfl
  | cons u ts ih =>
      rw [List.cons_append, intervals, ih, List.getLastD_cons]
      rfl

theorem take_intervals (M last : ℕ) (ts : List ℕ) (k : ℕ) :
    (intervals M last ts).take k = intervals M last (ts.take k) := by
  induction ts generalizing last k with
  | nil => simp [intervals]
  | cons t ts ih =>
      cases k with
      | zero => rfl
      | succ k => simp [intervals, ih]

theorem le_getLastD (h : (last :: ts).Pairwise (· ≤ ·)) {t : ℕ} (ht : t ∈ last :: ts) :
    t ≤ ts.getLastD last := by
  induction ts generalizing last t with
  | nil => exact Nat.le_of_eq (List.mem_singleton.mp ht)
  | cons u ts ih =>
      obtain ⟨hfirst, hrest⟩ := List.pairwise_cons.mp h
      rw [List.getLastD_cons]
      rcases List.mem_cons.mp ht with rfl | ht
      · exact (hfirst u (List.mem_cons_self ..)).trans (ih hrest (List.mem_cons_self ..))
      · exact ih hrest ht

theorem isChain_concat {R : ℕ → ℕ → Prop} {t : ℕ} (h : (last :: ts).IsChain R)
    (hlast : R (ts.getLastD last) t) : (last :: (ts ++ [t])).IsChain R := by
  induction ts generalizing last with
  | nil => exact List.isChain_pair.mpr hlast
  | cons u ts ih =>
      obtain ⟨hfirst, hrest⟩ := List.isChain_cons_cons.mp h
      rw [List.getLastD_cons] at hlast
      exact List.isChain_cons_cons.mpr ⟨hfirst, ih hrest hlast⟩

/-- On a clock that does not go back the sum is right up to multiples of `M`. -/
theorem add_sum_intervals (h : (last :: ts).Pairwise (· ≤ ·)) :
    last + (intervals M last ts).sum ≡ ts.getLastD last [MOD M] := by
  induction ts generalizing last with
  | nil => exact Nat.ModEq.refl last
  | cons t ts ih =>
      obtain ⟨hfirst, hrest⟩ := List.pairwise_cons.mp h
      have hle : last ≤ t := hfirst t (List.mem_cons_self ..)
      have hstep : last + (t - last) % M ≡ t [MOD M] := by
        calc last + (t - last) % M ≡ last + (t - last) [MOD M] := (Nat.mod_modEq _ _).add_left last
          _ = t := Nat.add_sub_cancel' hle
      rw [intervals, List.sum_cons, List.getLastD_cons, ← Nat.add_assoc]
      exact (hstep.add_right _).trans (ih hrest)

/-- It is right if no interval is too long for the counter. -/
theorem add_sum_intervals_eq (h : (last :: ts).Pairwise (· ≤ ·))
    (hshort : (last :: ts).IsChain fun a b => b < a + M) :
    last + (intervals M last ts).sum = ts.getLastD last := by
  induction ts generalizing last with
  | nil => rfl
  | cons t ts ih =>
      obtain ⟨hfirst, hrest⟩ := List.pairwise_cons.mp h
      obtain ⟨hnear, hchain⟩ := List.isChain_cons_cons.mp hshort
      have hle : last ≤ t := hfirst t (List.mem_cons_self ..)
      have hmod : (t - last) % M = t - last := Nat.mod_eq_of_lt (by omega)
      rw [intervals, List.sum_cons, List.getLastD_cons, ← ih hrest hchain, hmod]
      omega

end Slither.Framework
