import Slither.Game.World

/-!
# The constants of a body

What `UpdateSnakeConsts` derives from the number of parts.  The scale, the radius and the number of
foods a dead part turns into stay in their ranges at any length.  The turning factor does so only up
to six parts: from seven parts on its subtraction in `size_t` wraps.
-/

set_option linter.unusedSectionVars false

namespace Slither

open Framework

private theorem sizeSub_eq {a b : ℕ} (hle : b ≤ a) (ha : a < 2 ^ 64) : sizeSub a b = a - b := by
  unfold sizeSub
  rw [show a + 2 ^ 64 - b = (a - b) + 2 ^ 64 by omega, Nat.add_mod_right]
  exact Nat.mod_eq_of_lt (by omega)

variable {F : Type} [Field F] [LinearOrder F] [FloorRing F]

namespace Snake

/-- None of the subtractions in `size_t` of `UpdateSnakeConsts` wraps. -/
structure NoWrap (n : ℕ) : Prop where
  length : 1 ≤ n
  scale : 2 ≤ sizeSub n 1
  seven : n ≤ 7
  turn : 1 ≤ sizeSub 7 n

/-- The number of foods a dead part turns into. -/
def deadFoodCount (s : Snake F) : ℕ := Math.toSize (s.sc * 2)

/-- The constants that follow from a length alone and stay in range at any length. -/
structure ScaleInRange (s : Snake F) : Prop where
  sc : 1 ≤ s.sc ∧ s.sc ≤ 6
  sbpr : 29 / 2 ≤ s.sbpr ∧ s.sbpr ≤ 87
  gsc : 1 / 2 < s.gsc ∧ s.gsc ≤ 9 / 10
  mono : ∀ k, 3 ≤ k → k ≤ s.parts.length → partScale k ≤ s.sc ∧ bodyPartRadius k ≤ s.sbpr
  count : 2 ≤ s.deadFoodCount ∧ s.deadFoodCount ≤ 12
  mass : ∃ size, divide 100 s.deadFoodCount = .ok size ∧ s.deadFoodCount * (size % 256) ≤ 100

/-- All that is said of the constants of a snake. -/
structure ConstsInRange (s : Snake F) : Prop extends ScaleInRange s where
  scang : 13 / 100 ≤ s.scang ∧ s.scang ≤ 1
  noWrap : NoWrap s.parts.length

private theorem noWrap_iff {n : ℕ} (hn : 3 ≤ n) : NoWrap n ↔ n ≤ 6 := by
  constructor
  · rintro ⟨-, -, h7, hturn⟩
    rw [sizeSub_eq h7 (by norm_num)] at hturn
    omega
  · intro h6
    refine ⟨by omega, ?_, by omega, ?_⟩
    · rw [sizeSub_eq (by omega) (by omega)]
      omega
    · rw [sizeSub_eq (by omega) (by norm_num)]
      omega

variable [IsStrictOrderedRing F]

private theorem partScale_eq {n : ℕ} (hn : 3 ≤ n) (hlt : n < 2 ^ 64) :
    (partScale n : F) = min 6 (1 + ((n - 3 : ℕ) : F) / 106) := by
  unfold partScale
  rw [sizeSub_eq (show 1 ≤ n by omega) hlt, sizeSub_eq (by omega) (by omega),
    Nat.sub_sub]

theorem partScale_bounds (n : ℕ) : (1 : F) ≤ partScale n ∧ partScale n ≤ (6 : F) := by
  refine ⟨le_min (by norm_num) ?_, min_le_left _ _⟩
  have hratio : (0 : F) ≤ ((sizeSub (sizeSub n 1) 2 : ℕ) : F) / 106 :=
    div_nonneg (Nat.cast_nonneg _) (by norm_num)
  exact le_add_of_nonneg_right hratio

private theorem partScale_mono {k n : ℕ} (hk : 3 ≤ k) (hkn : k ≤ n) (hlt : n < 2 ^ 64) :
    (partScale k : F) ≤ partScale n := by
  have hcast : ((k - 3 : ℕ) : F) ≤ ((n - 3 : ℕ) : F) := Nat.cast_le.mpr (by omega)
  rw [partScale_eq hk (by omega), partScale_eq (by omega) hlt]
  refine min_le_min_left 6 (add_le_add_right ?_ 1)
  exact div_le_div_of_nonneg_right hcast (by norm_num)

private theorem bodyPartRadius_mono {k n : ℕ} (hk : 3 ≤ k) (hkn : k ≤ n) (hlt : n < 2 ^ 64) :
    (bodyPartRadius k : F) ≤ bodyPartRadius n := by
  unfold bodyPartRadius
  exact mul_le_mul_of_nonneg_left (partScale_mono hk hkn hlt) (by norm_num)

theorem deadFoodCount_mem {s : Snake F} (h : 1 ≤ s.sc ∧ s.sc ≤ 6) :
    2 ≤ s.deadFoodCount ∧ s.deadFoodCount ≤ 12 := by
  have hnonneg : 0 ≤ s.sc * 2 := by linarith
  have hlo : (2 : ℤ) ≤ ⌊s.sc * 2⌋ := Int.le_floor.mpr (by push_cast; linarith)
  have hhi : ⌊s.sc * 2⌋ ≤ 12 := by
    have hle : (⌊s.sc * 2⌋ : F) ≤ ((12 : ℤ) : F) := (Int.floor_le _).trans (by push_cast; linarith)
    exact Int.cast_le.mp hle
  unfold deadFoodCount Math.toSize Math.trunc
  rw [if_pos hnonneg]
  omega

private theorem deadFood_mass {count : ℕ} (h : 2 ≤ count) :
    ∃ size, divide 100 count = .ok size ∧ count * (size % 256) ≤ 100 := by
  refine ⟨100 / count, if_neg (by omega), ?_⟩
  calc count * (100 / count % 256) ≤ count * (100 / count) :=
        Nat.mul_le_mul_left count (Nat.mod_le _ _)
    _ ≤ 100 := Nat.mul_div_le 100 count

private theorem scaleInRange (s : Snake F) (hlt : s.parts.length < 2 ^ 64) :
    s.updateSnakeConsts.ScaleInRange := by
  have hsc : (1 : F) ≤ partScale s.parts.length ∧ (partScale s.parts.length : F) ≤ 6 :=
    partScale_bounds _
  have hcount := deadFoodCount_mem (s := s.updateSnakeConsts) hsc
  refine ⟨hsc, ?_, ?_, fun k hk hkn => ?_, hcount, deadFood_mass hcount.1⟩
  · show 29 / 2 ≤ 29 * (1 / 2) * partScale s.parts.length ∧
      29 * (1 / 2) * partScale s.parts.length ≤ 87
    constructor <;> linarith
  · have hmax : (1 : F) ≤ max 1 (((sizeSub s.parts.length 1 + 16 : ℕ) : F) / 36) :=
      le_max_left _ _
    have hpos : (0 : F) < max 1 (((sizeSub s.parts.length 1 + 16 : ℕ) : F) / 36) := by linarith
    have hquot : (2 / 5 : F) / max 1 (((sizeSub s.parts.length 1 + 16 : ℕ) : F) / 36) ≤ 2 / 5 :=
      div_le_self (by norm_num) hmax
    have hquot' : 0 < (2 / 5 : F) / max 1 (((sizeSub s.parts.length 1 + 16 : ℕ) : F) / 36) :=
      div_pos (by norm_num) hpos
    show 1 / 2 < 1 / 2 + _ ∧ 1 / 2 + _ ≤ 9 / 10
    constructor <;> linarith
  · exact ⟨partScale_mono hk hkn hlt, bodyPartRadius_mono hk hkn hlt⟩

private theorem scang_mem {s : Snake F} (h6 : s.parts.length ≤ 6) :
    13 / 100 ≤ s.updateSnakeConsts.scang ∧ s.updateSnakeConsts.scang ≤ 1 := by
  have hsize := s.size_parts
  have hturn : sizeSub (sizeSub 7 s.parts.length) 1 = 6 - s.parts.length := by
    rw [sizeSub_eq (show s.parts.length ≤ 7 by omega) (by norm_num),
      sizeSub_eq (by omega) (by omega)]
    omega
  have hx : ((6 - s.parts.length : ℕ) : F) ≤ 3 := by
    exact_mod_cast (show 6 - s.parts.length ≤ 3 by omega)
  have hx' : (0 : F) ≤ ((6 - s.parts.length : ℕ) : F) := Nat.cast_nonneg _
  have hform : s.updateSnakeConsts.scang =
      13 / 100 + 87 / 100 * (((6 - s.parts.length : ℕ) : F) / 6) *
        (((6 - s.parts.length : ℕ) : F) / 6) := by
    rw [← hturn]
    rfl
  rw [hform]
  generalize ((6 - s.parts.length : ℕ) : F) = x at hx hx'
  constructor <;> nlinarith only [hx, hx']

/-- Everything is in range exactly up to six parts, and at any length but for the turning factor
and its subtraction. -/
theorem consts_in_range_iff (s : Snake F) (hlt : s.parts.length < 2 ^ 64) :
    (s.updateSnakeConsts.ConstsInRange ↔ s.parts.length ≤ 6) ∧
      s.updateSnakeConsts.ScaleInRange := by
  have hscale := s.scaleInRange hlt
  refine ⟨⟨fun h => (noWrap_iff s.size_parts).mp h.noWrap, fun h6 => ?_⟩, hscale⟩
  exact ⟨hscale, scang_mem h6, (noWrap_iff s.size_parts).mpr h6⟩

/-- A snake of three parts. -/
theorem consts_in_range_iff_newborn :
    let s : Snake ℚ := newborn Libm.axis 1 9 21600 21600 0 0
    (s.updateSnakeConsts.ConstsInRange ↔ s.parts.length ≤ 6) ∧
      s.updateSnakeConsts.ScaleInRange := by
  intro s
  exact consts_in_range_iff s (by decide +kernel)

/-- At seven parts the subtraction is `7 - 7 - 1`. -/
theorem consts_out_of_range :
    ¬ ∀ s : Snake ℚ, s.parts.length < 2 ^ 64 → s.updateSnakeConsts.ConstsInRange := by
  intro h
  have hrange := h (newborn Libm.axis 1 9 21600 21600 0 4) (by decide +kernel)
  have hlarge : ¬ (newborn Libm.axis 1 9 21600 21600 0 4).updateSnakeConsts.scang ≤ 1 := by
    decide +kernel
  exact hlarge hrange.scang.2

end Snake

end Slither
