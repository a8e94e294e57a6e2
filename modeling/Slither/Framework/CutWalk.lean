import Mathlib

/-!
# Walks whose position is cut to an integer

A walk along an axis in steps of one sign, whose position is rounded down after every step.  Since it
never turns, it stays between two integer bounds exactly when it ends between them.
-/

namespace Slither.Framework

variable {F : Type*} [Field F] [LinearOrder F] [FloorRing F]

/-- The positions of the walk before they are cut, with the rate `c` and the step lengths `ds`. -/
def cutWalk (c : F) : ℤ → List F → List F
  | _, [] => []
  | x, d :: ds => ((x : F) + c * d) :: cutWalk c ⌊(x : F) + c * d⌋ ds

/-- Where the walk ends. -/
def cutWalkEnd (c : F) (x : ℤ) (ds : List F) : ℤ := x + (ds.map fun d => ⌊c * d⌋).sum

private theorem cutWalkEnd_cons (c : F) (x : ℤ) (d : F) (ds : List F) :
    cutWalkEnd c x (d :: ds) = cutWalkEnd c (x + ⌊c * d⌋) ds := by
  simp only [cutWalkEnd, List.map_cons, List.sum_cons]
  ring

variable [IsStrictOrderedRing F]

private theorem floor_add_mul (c : F) (x : ℤ) (d : F) : ⌊(x : F) + c * d⌋ = x + ⌊c * d⌋ :=
  Int.floor_intCast_add x (c * d)

private theorem cutWalkEnd_away {c : F} {ds : List F} (hds : ∀ d ∈ ds, 0 ≤ d) (x : ℤ) :
    (0 ≤ c → x ≤ cutWalkEnd c x ds) ∧ (c ≤ 0 → cutWalkEnd c x ds ≤ x) := by
  induction ds generalizing x with
  | nil => exact ⟨fun _ => by simp [cutWalkEnd], fun _ => by simp [cutWalkEnd]⟩
  | cons d ds ih =>
      obtain ⟨hd, hrest⟩ := List.forall_mem_cons.mp hds
      obtain ⟨hup, hdown⟩ := ih hrest (x + ⌊c * d⌋)
      rw [cutWalkEnd_cons]
      constructor
      · intro hc
        have hstep : 0 ≤ ⌊c * d⌋ := Int.floor_nonneg.mpr (mul_nonneg hc hd)
        have hend := hup hc
        omega
      · intro hc
        have hstep : ⌊c * d⌋ ≤ 0 := Int.floor_nonpos (mul_nonpos_of_nonpos_of_nonneg hc hd)
        have hend := hdown hc
        omega

omit [IsStrictOrderedRing F] in
private theorem floor_mem_iff (v : F) (bound : ℕ) :
    (0 ≤ v ∧ v < (bound : F)) ↔ 0 ≤ ⌊v⌋ ∧ ⌊v⌋ < bound := by
  rw [Int.floor_nonneg, Int.floor_lt, Int.cast_natCast]

/-- A walk from between the bounds stays between them if and only if it ends there. -/
theorem cutWalk_mem_iff {c : F} {ds : List F} (hds : ∀ d ∈ ds, 0 ≤ d) (bound : ℕ) {x : ℤ}
    (hx : 0 ≤ x ∧ x < bound) :
    (∀ v ∈ cutWalk c x ds, 0 ≤ v ∧ v < (bound : F)) ↔
      0 ≤ cutWalkEnd c x ds ∧ cutWalkEnd c x ds < bound := by
  induction ds generalizing x with
  | nil => simpa [cutWalk, cutWalkEnd] using hx
  | cons d ds ih =>
      obtain ⟨hd, hrest⟩ := List.forall_mem_cons.mp hds
      rw [cutWalk, List.forall_mem_cons, floor_mem_iff, floor_add_mul, cutWalkEnd_cons]
      by_cases hnext : 0 ≤ x + ⌊c * d⌋ ∧ x + ⌊c * d⌋ < bound
      · rw [and_iff_right hnext]
        exact ih hrest hnext
      · -- past a bound the walk goes on in the same direction
        refine iff_of_false (fun h => hnext h.1) fun hend => hnext ?_
        obtain ⟨hup, hdown⟩ := cutWalkEnd_away hrest (x + ⌊c * d⌋) (c := c)
        rcases le_total 0 c with hc | hc
        · have hstep : 0 ≤ ⌊c * d⌋ := Int.floor_nonneg.mpr (mul_nonneg hc hd)
          have hle := hup hc
          omega
        · have hstep : ⌊c * d⌋ ≤ 0 := Int.floor_nonpos (mul_nonpos_of_nonpos_of_nonneg hc hd)
          have hle := hdown hc
          omega

end Slither.Framework
