import Mathlib

/-!
# Vectors of the plane

Lengths in the plane over an ordered field that need not have square roots: a vector is no longer
than `d` if its square is at most `d * d`.
-/

namespace Slither.Framework

variable {F : Type*} [Field F] [LinearOrder F]

def normSq (v : F × F) : F := v.1 * v.1 + v.2 * v.2

/-- The vector is no longer than `d`. -/
structure Within (d : F) (v : F × F) : Prop where
  nonneg : 0 ≤ d
  normSq_le : normSq v ≤ d * d

namespace Within

variable [IsStrictOrderedRing F] {a b d : F} {u v : F × F}

theorem zero (hd : 0 ≤ d) : Within d 0 where
  nonneg := hd
  normSq_le := by
    have hsq : 0 ≤ d * d := mul_nonneg hd hd
    simpa [normSq] using hsq

theorem mono (h : Within a v) (hab : a ≤ b) : Within b v where
  nonneg := h.nonneg.trans hab
  normSq_le := h.normSq_le.trans (mul_le_mul hab hab h.nonneg (h.nonneg.trans hab))

omit [IsStrictOrderedRing F] in
theorem neg (h : Within a v) : Within a (-v) where
  nonneg := h.nonneg
  normSq_le := by simpa [normSq] using h.normSq_le

private theorem inner_le (hu : Within a u) (hv : Within b v) : u.1 * v.1 + u.2 * v.2 ≤ a * b := by
  have hab : 0 ≤ a * b := mul_nonneg hu.nonneg hv.nonneg
  have hlagrange : (u.1 * v.1 + u.2 * v.2) ^ 2 + (u.1 * v.2 - u.2 * v.1) ^ 2 =
      normSq u * normSq v := by
    unfold normSq
    ring
  have hnorms : normSq u * normSq v ≤ (a * a) * (b * b) :=
    mul_le_mul hu.normSq_le hv.normSq_le (add_nonneg (mul_self_nonneg _) (mul_self_nonneg _))
      (mul_self_nonneg a)
  have hsq : (u.1 * v.1 + u.2 * v.2) ^ 2 ≤ (a * b) ^ 2 := by
    have hcross := sq_nonneg (u.1 * v.2 - u.2 * v.1)
    linarith
  exact (le_abs_self _).trans (abs_le_of_sq_le_sq hsq hab)

theorem abs_fst_le (h : Within a v) : |v.1| ≤ a := by
  refine abs_le_of_sq_le_sq ?_ h.nonneg
  have hsnd := mul_self_nonneg v.2
  have hsq := h.normSq_le
  unfold normSq at hsq
  linarith

theorem abs_snd_le (h : Within a v) : |v.2| ≤ a := by
  refine abs_le_of_sq_le_sq ?_ h.nonneg
  have hfst := mul_self_nonneg v.1
  have hsq := h.normSq_le
  unfold normSq at hsq
  linarith

theorem add (hu : Within a u) (hv : Within b v) : Within (a + b) (u + v) where
  nonneg := add_nonneg hu.nonneg hv.nonneg
  normSq_le := by
    have hexpand : normSq (u + v) = normSq u + normSq v + 2 * (u.1 * v.1 + u.2 * v.2) := by
      simp only [normSq, Prod.fst_add, Prod.snd_add]
      ring
    have hinner := inner_le hu hv
    calc normSq (u + v) = normSq u + normSq v + 2 * (u.1 * v.1 + u.2 * v.2) := hexpand
      _ ≤ a * a + b * b + 2 * (a * b) := by linarith [hu.normSq_le, hv.normSq_le]
      _ = (a + b) * (a + b) := by ring

theorem sub (hu : Within a u) (hv : Within b v) : Within (a + b) (u - v) := by
  rw [sub_eq_add_neg]
  exact hu.add hv.neg

theorem smul {k : F} (hk : 0 ≤ k) (h : Within a v) : Within (k * a) (k • v) where
  nonneg := mul_nonneg hk h.nonneg
  normSq_le := by
    have hscale : normSq (k • v) = k * k * normSq v := by
      simp only [normSq, Prod.smul_fst, Prod.smul_snd, smul_eq_mul]
      ring
    calc normSq (k • v) = k * k * normSq v := hscale
      _ ≤ k * k * (a * a) := mul_le_mul_of_nonneg_left h.normSq_le (mul_self_nonneg k)
      _ = k * a * (k * a) := by ring

theorem sum {ι : Type*} (s : Finset ι) {d : ι → F} {v : ι → F × F}
    (h : ∀ i ∈ s, Within (d i) (v i)) : Within (∑ i ∈ s, d i) (∑ i ∈ s, v i) := by
  classical
  induction s using Finset.induction_on with
  | empty => exact zero le_rfl
  | insert i s hi ih =>
      rw [Finset.sum_insert hi, Finset.sum_insert hi]
      exact (h i (Finset.mem_insert_self i s)).add
        (ih fun j hj => h j (Finset.mem_insert_of_mem hj))

end Within

end Slither.Framework
