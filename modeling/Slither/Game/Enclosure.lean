import Slither.Game.Spacing

/-!
# The bound box of a body

The centre that `Tick` sums up on the way is the mean of the parts, and the radius taken from the
number of parts reaches every one of them once the body has the gaps of a move.
-/

set_option linter.unusedSectionVars false

namespace Slither

open Framework

variable {F : Type} [Field F] [LinearOrder F] [FloorRing F]

namespace Snake

/-- The centre of the bound box. -/
def centre (s : Snake F) : F × F := (s.sbb.x, s.sbb.y)

private theorem sum_point (parts : List (Body F)) :
    ∑ i ∈ Finset.range parts.length, point parts i =
      ((parts.map Body.x).sum, (parts.map Body.y).sum) := by
  induction parts with
  | nil => rfl
  | cons p parts ih =>
      rw [List.length_cons, Finset.sum_range_succ', Finset.sum_congr rfl fun i _ =>
        point_cons_succ p parts i, ih, add_comm, List.map_cons, List.sum_cons, List.map_cons,
        List.sum_cons]
      rfl

private theorem foldl_sum (parts : List (Body F)) (c : Body F) :
    parts.foldl (fun c p => (⟨c.x + p.x, c.y + p.y⟩ : Body F)) c =
      ⟨c.x + (parts.map Body.x).sum, c.y + (parts.map Body.y).sum⟩ := by
  induction parts generalizing c with
  | nil => simp
  | cons p parts ih => simp only [List.foldl_cons, ih, List.map_cons, List.sum_cons, add_assoc]

theorem centre_updateBoxCenter (s : Snake F) :
    s.updateBoxCenter.centre =
      (s.parts.length : F)⁻¹ • ∑ i ∈ Finset.range s.parts.length, point s.parts i := by
  have hsum := foldl_sum s.parts ⟨0, 0⟩
  rw [sum_point, Prod.smul_mk, smul_eq_mul, smul_eq_mul, ← div_eq_inv_mul, ← div_eq_inv_mul]
  exact Prod.ext (congrArg (· / (s.parts.length : F)) ((congrArg Body.x hsum).trans (zero_add _)))
    (congrArg (· / (s.parts.length : F)) ((congrArg Body.y hsum).trans (zero_add _)))

theorem centre_settled (s : Snake F) (ss : SectorSeq) (newHead : Body F) :
    (s.settled ss newHead).centre = (s.settled ss newHead).updateBoxCenter.centre := by
  have h := s.moveLoops_following ss newHead
  have hn := s.length_settled ss newHead
  rw [centre_updateBoxCenter, hn, ← hn, sum_point, hn, Prod.smul_mk, smul_eq_mul, smul_eq_mul,
    ← div_eq_inv_mul, ← div_eq_inv_mul]
  exact Prod.ext (congrArg (· / (s.parts.length : F)) h.bbx)
    (congrArg (· / (s.parts.length : F)) h.bby)

/-- By how much the gaps up to part `i` exceed 24 altogether. -/
def slack : ℕ → F
  | 0 => 0
  | 1 => 18
  | 2 => 36
  | 3 => 49485 / 1000
  | 4 => 58455 / 1000
  | _ => 6291 / 100

variable [IsStrictOrderedRing F]

private theorem slack_mem (i : ℕ) : (0 : F) ≤ slack i ∧ (slack i : F) ≤ 6291 / 100 := by
  unfold slack
  split <;> constructor <;> norm_num

private theorem followGap_slack (i : ℕ) :
    followGap (42 : F) (i + 1) + slack i ≤ 24 + slack (i + 1) := by
  by_cases hi : i < 5
  · interval_cases i <;>
      norm_num [followGap, followCoeff, snakeTailK, partsSkipCount, partsStartMoveCount, slack]
  · obtain ⟨j, rfl⟩ : ∃ j, i = j + 5 := ⟨i - 5, by omega⟩
    have hcoeff : (43 / 100 : F) ≤ followCoeff (j + 6) := by
      refine le_trans ?_ (followCoeff_mono (show 6 ≤ j + 6 by omega))
      norm_num [followCoeff, snakeTailK, partsSkipCount, partsStartMoveCount]
    have hgap : followGap (42 : F) (j + 5 + 1) ≤ 24 := by
      unfold followGap
      linarith
    exact add_le_add hgap le_rfl

private theorem boxRadius_le {n : ℕ} (hn : 1 ≤ n) :
    24 * ((n : F) - 1) / 2 + 6291 / 100 ≤ boxRadius n := by
  unfold boxRadius tailStepDistance WorldConfig.moveStepDistance
  dsimp only
  split
  · rename_i h8
    rw [Nat.cast_sub h8.le]
    push_cast
    linarith
  · have h8 : (n : F) ≤ 8 := by exact_mod_cast (show n ≤ 8 by omega)
    push_cast
    linarith

private theorem mean_encloses {s : Snake F} (h : s.SpacedBy (followGap 42)) {i : ℕ}
    (hi : i < s.parts.length) :
    Within (boxRadius s.parts.length) (point s.parts i - s.updateBoxCenter.centre) := by
  rw [centre_updateBoxCenter]
  exact (Spaced.mean_le (by norm_num) h followGap_slack (fun i => (slack_mem i).1)
    (fun i => (slack_mem i).2) hi).mono (boxRadius_le (by omega))

/-- The centre of a move is the mean, and a body with the gaps of a move lies in the circle of
`UpdateBoxCenter` and `UpdateBoxRadius`. -/
theorem box_encloses (s : Snake F) :
    (∀ ss newHead, (s.settled ss newHead).centre = (s.settled ss newHead).updateBoxCenter.centre) ∧
      (s.SpacedBy (followGap 42) → ∀ i < s.parts.length,
        Within s.updateBoxRadius.sbb.r (point s.parts i - s.updateBoxCenter.centre)) :=
  ⟨s.centre_settled, fun h _ hi => mean_encloses h hi⟩

theorem box_encloses_newborn :
    let s : Snake ℚ := Snake.newborn Libm.axis 1 9 21600 21600 0 0
    (∀ ss newHead, (s.settled ss newHead).centre = (s.settled ss newHead).updateBoxCenter.centre) ∧
      ∀ i < s.parts.length,
        Within s.updateBoxRadius.sbb.r (point s.parts i - s.updateBoxCenter.centre) := by
  intro s
  have hspaced : s.SpacedBy (followGap 42) := by
    intro i hi
    have hcases : i = 0 ∨ i = 1 := by
      have hlen : s.parts.length = 3 := by decide +kernel
      omega
    rcases hcases with rfl | rfl <;> exact ⟨by decide +kernel, by decide +kernel⟩
  exact ⟨(box_encloses s).1, (box_encloses s).2 hspaced⟩

/-- So a move by a step of at most 42 leaves the body in the circle it computes. -/
theorem settled_encloses {s : Snake F} (h : s.SpacedBy (followGap 42)) (ss : SectorSeq)
    {newHead : Body F} (hstep : Within 42 (newHead.pt - s.getHead.pt)) {i : ℕ}
    (hi : i < s.parts.length) :
    Within (s.settled ss newHead).sbb.r
      (point (s.settled ss newHead).parts i - (s.settled ss newHead).centre) := by
  have hlen := s.length_settled ss newHead
  have hspaced : (s.settled ss newHead).SpacedBy (followGap 42) := by
    unfold SpacedBy
    rw [hlen]
    rw [← point_zero] at hstep
    exact (follow_spaced_profile (fun i => ⟨(followCoeff_mem i).1, (followCoeff_lt_one i).le⟩)
      hstep h).congr fun i hi => s.point_settled ss newHead hi
  rw [centre_settled]
  exact mean_encloses hspaced (hlen ▸ hi)

end Snake

end Slither
