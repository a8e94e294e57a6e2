import Slither.Framework.Plane

/-!
# A chain of points that follows its head

When the head of a chain moves, every other point goes where its predecessor was, pulled on towards
where the predecessor is now by a share that depends on the position in the chain.
-/

namespace Slither.Framework

variable {F : Type*} [Field F] [LinearOrder F]

/-- The point that lies the share `k` of the way from `p` to `q`. -/
def blend (k : F) (p q : F × F) : F × F := p + k • (q - p)

/-- The chain `P` after its head has moved to `head`. -/
def follow (c : ℕ → F) (head : F × F) (P : ℕ → F × F) : ℕ → F × F
  | 0 => head
  | i + 1 => blend (c (i + 1)) (P i) (follow c head P i)

/-- Of the first `n` points, each is within its gap of its predecessor. -/
def Spaced (gap : ℕ → F) (n : ℕ) (P : ℕ → F × F) : Prop :=
  ∀ i, i + 1 < n → Within (gap (i + 1)) (P (i + 1) - P i)

theorem Spaced.mono {gap : ℕ → F} {n k : ℕ} {P : ℕ → F × F} (h : Spaced gap n P) (hk : k ≤ n) :
    Spaced gap k P := fun i hi => h i (hi.trans_le hk)

theorem Spaced.congr {gap : ℕ → F} {n : ℕ} {P Q : ℕ → F × F} (h : Spaced gap n P)
    (hPQ : ∀ i < n, Q i = P i) : Spaced gap n Q := by
  intro i hi
  rw [hPQ i (by omega), hPQ (i + 1) hi]
  exact h i hi

variable [IsStrictOrderedRing F] {c gap : ℕ → F} {head : F × F} {n : ℕ} {P : ℕ → F × F}

theorem Spaced.succ {Q : ℕ → F × F} (h : Spaced gap n P) (hgap : ∀ i, 0 ≤ gap i)
    (hPQ : ∀ i < n, Q i = P i) (hlast : Q n = P (n - 1)) : Spaced gap (n + 1) Q := by
  intro i hi
  rcases Nat.lt_succ_iff_lt_or_eq.mp hi with hi | hi
  · exact h.congr hPQ i hi
  · have hprev : Q i = P (n - 1) := by
      rw [hPQ i (by omega), ← hi, Nat.add_sub_cancel]
    rw [hi, hlast, hprev, sub_self]
    exact .zero (hgap n)

private theorem Spaced.path (h : Spaced gap n P) {j k : ℕ} (hjk : j ≤ k) (hk : k < n) :
    Within (∑ i ∈ Finset.Ico j k, gap (i + 1)) (P k - P j) := by
  rw [← Finset.sum_Ico_sub P hjk]
  exact Within.sum _ fun i hi => h i (by have := Finset.mem_Ico.mp hi; omega)

/-- A chain in a convex set stays in it if its head does. -/
theorem follow_mem {K : Set (F × F)} (hK : Convex F K) (hc : ∀ i, 0 ≤ c i ∧ c i ≤ 1)
    (hhead : head ∈ K) (hP : ∀ i < n, P i ∈ K) {i : ℕ} (hi : i < n) :
    follow c head P i ∈ K := by
  induction i with
  | zero => exact hhead
  | succ i ih => exact hK.add_smul_sub_mem (hP i (by omega)) (ih (by omega)) (hc (i + 1))

private theorem follow_moves {b : ℕ → F} (hc : ∀ i, 0 ≤ c i)
    (hb : ∀ i, gap i + c i * b (i - 1) ≤ b i)
    (hhead : Within (b 0) (head - P 0)) (h : Spaced gap n P) {i : ℕ} (hi : i < n) :
    Within (b i) (follow c head P i - P i) := by
  induction i with
  | zero => exact hhead
  | succ i ih =>
      have hsplit : follow c head P (i + 1) - P (i + 1) =
          c (i + 1) • (follow c head P i - P i) - (P (i + 1) - P i) := by
        simp only [follow, blend]
        abel
      have hmove := ((ih (by omega)).smul (hc (i + 1))).sub (h i hi)
      rw [hsplit]
      exact hmove.mono ((add_comm _ _).trans_le (hb (i + 1)))

/-- The new gap is what the pull leaves of the way the predecessor has moved. -/
private theorem follow_spaced {gap' b : ℕ → F} (hc : ∀ i, 0 ≤ c i ∧ c i ≤ 1)
    (hb : ∀ i, gap i + c i * b (i - 1) ≤ b i) (hgap : ∀ i, (1 - c (i + 1)) * b i ≤ gap' (i + 1))
    (hhead : Within (b 0) (head - P 0)) (h : Spaced gap n P) :
    Spaced gap' n (follow c head P) := by
  intro i hi
  have hstep : follow c head P (i + 1) - follow c head P i =
      (1 - c (i + 1)) • -(follow c head P i - P i) := by
    simp only [follow, blend, sub_smul, one_smul, smul_neg]
    abel_nf
  have hmove := follow_moves (fun i => (hc i).1) hb hhead h (show i < n by omega)
  rw [hstep]
  exact (hmove.neg.smul (sub_nonneg.mpr (hc (i + 1)).2)).mono (hgap i)

/-- A bound on the step of the head bounds every gap, if the shares do not decrease. -/
theorem follow_spaced_le {d : F} (hc : ∀ i, 0 ≤ c i ∧ c i < 1) (hmono : Monotone c)
    (hzero : c 0 = 0) (hhead : Within d (head - P 0)) (h : Spaced (fun _ => d) n P) :
    Spaced (fun _ => d) n (follow c head P) := by
  have hd := hhead.nonneg
  have hpos : ∀ i, 0 < 1 - c i := fun i => sub_pos.mpr (hc i).2
  refine follow_spaced (b := fun i => d / (1 - c i)) (fun i => ⟨(hc i).1, (hc i).2.le⟩) ?_ ?_ ?_ h
  · intro i
    have hprev : d / (1 - c (i - 1)) ≤ d / (1 - c i) :=
      div_le_div_of_nonneg_left hd (hpos i) (sub_le_sub_left (hmono (Nat.sub_le i 1)) 1)
    have hone : d + c i * (d / (1 - c i)) = d / (1 - c i) := by
      have := (hpos i).ne'
      field_simp
      ring
    exact (add_le_add_right (mul_le_mul_of_nonneg_left hprev (hc i).1) d).trans hone.le
  · intro i
    rw [← mul_div_assoc, div_le_iff₀ (hpos i), mul_comm]
    exact mul_le_mul_of_nonneg_left (sub_le_sub_left (hmono (Nat.le_succ i)) 1) hd
  · simpa [hzero] using hhead

/-- The gaps that a step of length `d` leaves behind are kept by every further one. -/
theorem follow_spaced_profile {d : F} (hc : ∀ i, 0 ≤ c i ∧ c i ≤ 1)
    (hhead : Within d (head - P 0)) (h : Spaced (fun i => (1 - c i) * d) n P) :
    Spaced (fun i => (1 - c i) * d) n (follow c head P) := by
  refine follow_spaced (b := fun _ => d) hc (fun i => ?_) (fun i => le_rfl) hhead h
  exact le_of_eq (by ring)

private theorem sum_dist_le {k n : ℕ} (hk : k < n) :
    2 * ∑ j ∈ Finset.range n, Nat.dist j k ≤ n * (n - 1) := by
  induction n, hk using Nat.le_induction with
  | base =>
      have hreflect : ∑ j ∈ Finset.range (k + 1), Nat.dist j k = ∑ j ∈ Finset.range (k + 1), j := by
        rw [← Finset.sum_range_reflect]
        refine Finset.sum_congr rfl fun j hj => ?_
        have hle := Finset.mem_range.mp hj
        rw [Nat.dist_eq_sub_of_le (by omega)]
        omega
      rw [hreflect, mul_comm, Finset.sum_range_id_mul_two]
  | succ n hn ih =>
      rw [Finset.sum_range_succ, Nat.dist_eq_sub_of_le_right (by omega)]
      have hsquare : (n + 1) * (n + 1 - 1) = n * (n - 1) + 2 * n := by
        obtain ⟨r, rfl⟩ : ∃ r, n = r + 1 := ⟨n - 1, by omega⟩
        simp only [Nat.add_sub_cancel]
        ring
      omega

private theorem Spaced.path_le {slack : ℕ → F} {a e : F} (h : Spaced gap n P)
    (hslack : ∀ i, gap (i + 1) + slack i ≤ a + slack (i + 1)) (hnonneg : ∀ i, 0 ≤ slack i)
    (hle : ∀ i, slack i ≤ e) {j k : ℕ} (hjk : j ≤ k) (hk : k < n) :
    Within (a * ((k - j : ℕ) : F) + e) (P k - P j) := by
  have hsum : ∑ i ∈ Finset.Ico j k, gap (i + 1) ≤ a * ((k - j : ℕ) : F) + slack k := by
    clear hk
    induction k, hjk using Nat.le_induction with
    | base => simpa using hnonneg j
    | succ k hjk ih =>
        rw [Finset.sum_Ico_succ_top hjk, Nat.succ_sub hjk, Nat.cast_succ, mul_add, mul_one]
        linarith [hslack k]
  exact (h.path hjk hk).mono (hsum.trans (add_le_add_right (hle k) _))

/-- No point of a chain is further from the mean than half the chain and the excess. -/
theorem Spaced.mean_le {slack : ℕ → F} {a e : F} (ha : 0 ≤ a) (h : Spaced gap n P)
    (hslack : ∀ i, gap (i + 1) + slack i ≤ a + slack (i + 1)) (hnonneg : ∀ i, 0 ≤ slack i)
    (hle : ∀ i, slack i ≤ e) {k : ℕ} (hk : k < n) :
    Within (a * ((n : F) - 1) / 2 + e) (P k - (n : F)⁻¹ • ∑ j ∈ Finset.range n, P j) := by
  have hn : (0 : F) < n := by exact_mod_cast (Nat.zero_le k).trans_lt hk
  have hpath : ∀ j ∈ Finset.range n, Within (a * (Nat.dist j k : F) + e) (P k - P j) := by
    intro j hj
    rcases Nat.le_total j k with hjk | hkj
    · rw [Nat.dist_eq_sub_of_le hjk]
      exact h.path_le hslack hnonneg hle hjk hk
    · rw [Nat.dist_eq_sub_of_le_right hkj, ← neg_sub]
      exact (h.path_le hslack hnonneg hle hkj (Finset.mem_range.mp hj)).neg
  have hmean : P k - (n : F)⁻¹ • ∑ j ∈ Finset.range n, P j =
      (n : F)⁻¹ • ∑ j ∈ Finset.range n, (P k - P j) := by
    rw [Finset.sum_sub_distrib, Finset.sum_const, Finset.card_range, smul_sub,
      ← Nat.cast_smul_eq_nsmul F, inv_smul_smul₀ hn.ne']
  have hdist : ((2 * ∑ j ∈ Finset.range n, Nat.dist j k : ℕ) : F) ≤ n * ((n : F) - 1) := by
    have hcast : ((n * (n - 1) : ℕ) : F) = n * ((n : F) - 1) := by
      rw [Nat.cast_mul, Nat.cast_sub (by omega), Nat.cast_one]
    rw [← hcast]
    exact_mod_cast sum_dist_le hk
  rw [hmean]
  refine ((Within.sum _ hpath).smul (inv_nonneg.mpr hn.le)).mono ?_
  rw [Finset.sum_add_distrib, ← Finset.mul_sum, Finset.sum_const, Finset.card_range, nsmul_eq_mul,
    inv_mul_le_iff₀ hn]
  push_cast at hdist
  nlinarith [mul_le_mul_of_nonneg_left hdist ha]

end Slither.Framework
