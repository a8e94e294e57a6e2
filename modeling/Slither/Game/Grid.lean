import Slither.Framework.Plane
import Slither.Game.ViewPort

/-!
# The grid of sectors

Where a sector lies on the map, which sectors are around a point, and how far their middles are
from it.
-/

set_option linter.unusedSectionVars false

namespace Slither

open Framework

/-- The column and the row of a sector. -/
def sectorX (p : SectorPtr) : ℕ := p % WorldConfig.sectorCountAlongEdge

def sectorY (p : SectorPtr) : ℕ := p / WorldConfig.sectorCountAlongEdge

private theorem sectorX_lt (p : SectorPtr) : sectorX p < 144 := Nat.mod_lt _ (by norm_num)

private theorem sectorY_lt (p : SectorPtr) : sectorY p < 144 :=
  Nat.div_lt_of_lt_mul p.isLt

private theorem sectorAt?_eq_some {i j : ℤ} {p : SectorPtr} :
    SectorSeq.sectorAt? i j = some p ↔ i = sectorX p ∧ j = sectorY p := by
  have hx := sectorX_lt p
  have hy := sectorY_lt p
  have hp : (p : ℕ) = sectorY p * 144 + sectorX p := (Nat.div_add_mod' (p : ℕ) 144).symm
  unfold SectorSeq.sectorAt?
  constructor
  · intro h
    split at h
    · rename_i hin
      have hval : SectorSeq.getIndex i.toNat j.toNat = p := congrArg Fin.val (Option.some.inj h)
      simp only [SectorSeq.getIndex, WorldConfig.sectorCountAlongEdge] at hval hin
      omega
    · cases h
  · rintro ⟨rfl, rfl⟩
    rw [dif_pos (by simp only [WorldConfig.sectorCountAlongEdge]; omega)]
    refine congrArg some (Fin.ext ?_)
    show sectorY p * 144 + sectorX p = p
    exact hp.symm

theorem getSector_self (p : SectorPtr) : SectorSeq.getSector (sectorX p) (sectorY p) = .ok p := by
  have hp : SectorSeq.getIndex (sectorX p) (sectorY p) = p := Nat.div_add_mod' (p : ℕ) 144
  unfold SectorSeq.getSector
  rw [dif_pos (by rw [hp]; exact p.isLt)]
  exact congrArg Except.ok (Fin.ext hp)

private theorem mem_span {lo i : ℤ} {width : ℕ} :
    i ∈ span lo width ↔ lo ≤ i ∧ i ≤ lo + 2 * width := by
  have hmem : i ∈ span lo width ↔ ∃ k < 2 * width + 1, lo + k = i := by
    simp [span]
  rw [hmem]
  constructor
  · rintro ⟨k, hk, rfl⟩
    omega
  · rintro ⟨hlo, hhi⟩
    exact ⟨(i - lo).toNat, by omega, by omega⟩

/-- The sectors around `(sx, sy)` are those of the map that are at most `width` away both ways. -/
theorem mem_sectorsAround {p : SectorPtr} {sx sy : ℤ} {width : ℕ} :
    p ∈ sectorsAround sx sy width ↔
      (sx - width ≤ sectorX p ∧ (sectorX p : ℤ) ≤ sx + width) ∧
        sy - width ≤ sectorY p ∧ (sectorY p : ℤ) ≤ sy + width := by
  unfold sectorsAround window
  rw [List.mem_filterMap]
  constructor
  · rintro ⟨⟨i, j⟩, hmem, hsome⟩
    obtain ⟨rfl, rfl⟩ := sectorAt?_eq_some.mp hsome
    obtain ⟨j, hj, hmap⟩ := List.mem_flatMap.mp hmem
    obtain ⟨i, hi, heq⟩ := List.mem_map.mp hmap
    cases heq
    rw [mem_span] at hi hj
    omega
  · rintro ⟨hx, hy⟩
    refine ⟨((sectorX p : ℤ), (sectorY p : ℤ)), ?_, sectorAt?_eq_some.mpr ⟨rfl, rfl⟩⟩
    refine List.mem_flatMap.mpr ⟨sectorY p, mem_span.mpr (by omega), ?_⟩
    exact List.mem_map.mpr ⟨sectorX p, mem_span.mpr (by omega), rfl⟩

variable {F : Type} [Field F] [LinearOrder F] [FloorRing F]

/-- The circle around sector `p` meets the box.  It is the same in every grid. -/
def touches (p : SectorPtr) (box : BoundBoxPos F) : Bool :=
  (SectorSeq.init.cell p).intersect box

theorem intersect_eq_touches (ss : SectorSeq) (p : SectorPtr) (box : BoundBoxPos F) :
    (ss.cell p).intersect box = touches p box := ss.intersect_cell SectorSeq.init p box

/-- The middle of a sector. -/
def middle (p : SectorPtr) : F × F :=
  (300 * (sectorX p : F) + 150, 300 * (sectorY p : F) + 150)

theorem touches_iff (p : SectorPtr) (box : BoundBoxPos F) :
    touches p box = true ↔
      normSq (middle p - (box.x, box.y)) ≤ (425 / 2 + box.r) * (425 / 2 + box.r) := by
  have hx : (((WorldConfig.sectorSize * sectorX p + WorldConfig.sectorSize / 2 : ℕ)) : F) =
      300 * (sectorX p : F) + 150 := by
    push_cast
    norm_num
  have hy : (((WorldConfig.sectorSize * sectorY p + WorldConfig.sectorSize / 2 : ℕ)) : F) =
      300 * (sectorY p : F) + 150 := by
    push_cast
    norm_num
  unfold middle
  rw [← hx, ← hy]
  exact decide_eq_true_iff

/-- The point is on the map. -/
structure OnMap (p : F × F) : Prop where
  x : 0 ≤ p.1 ∧ p.1 < 43200
  y : 0 ≤ p.2 ∧ p.2 < 43200

instance (p : F × F) : Decidable (OnMap p) :=
  decidable_of_iff ((0 ≤ p.1 ∧ p.1 < 43200) ∧ 0 ≤ p.2 ∧ p.2 < 43200)
    ⟨fun h => ⟨h.1, h.2⟩, fun h => ⟨h.x, h.y⟩⟩

/-- The point lies in the sector. -/
structure InSector (p : SectorPtr) (q : F × F) : Prop where
  x : 300 * (sectorX p : F) ≤ q.1 ∧ q.1 < 300 * (sectorX p : F) + 300
  y : 300 * (sectorY p : F) ≤ q.2 ∧ q.2 < 300 * (sectorY p : F) + 300

/-- The sectors with the coordinates of a point. -/
def sectorsAt (q : F × F) : List SectorPtr := sectorsAround (sectorCoord q.1) (sectorCoord q.2) 0

instance (p : SectorPtr) (q : F × F) : Decidable (InSector p q) :=
  decidable_of_iff ((300 * (sectorX p : F) ≤ q.1 ∧ q.1 < 300 * (sectorX p : F) + 300) ∧
      300 * (sectorY p : F) ≤ q.2 ∧ q.2 < 300 * (sectorY p : F) + 300)
    ⟨fun h => ⟨h.1, h.2⟩, fun h => ⟨h.x, h.y⟩⟩

variable [IsStrictOrderedRing F]

theorem touches_of_within {p : SectorPtr} {box : BoundBoxPos F} {d : F}
    (h : Within d (middle p - (box.x, box.y))) (hd : d ≤ 425 / 2 + box.r) :
    touches p box = true :=
  (touches_iff p box).mpr (h.mono hd).normSq_le

theorem sectorCoord_bounds {v : F} (hv : 0 ≤ v) :
    300 * (sectorCoord v : F) ≤ v ∧ v < 300 * (sectorCoord v : F) + 300 := by
  have hdiv : 0 ≤ v / ((WorldConfig.sectorSize : ℕ) : F) := by positivity
  have h300 : ((WorldConfig.sectorSize : ℕ) : F) = 300 := by norm_num
  have hlo := Int.floor_le (v / ((WorldConfig.sectorSize : ℕ) : F))
  have hhi := Int.lt_floor_add_one (v / ((WorldConfig.sectorSize : ℕ) : F))
  unfold sectorCoord Math.trunc
  rw [if_pos hdiv]
  rw [h300] at hlo hhi ⊢
  rw [le_div_iff₀ (by norm_num)] at hlo
  rw [div_lt_iff₀ (by norm_num)] at hhi
  constructor <;> linarith

private theorem sectorCoord_eq {v : F} {n : ℕ} (hlo : 300 * (n : F) ≤ v)
    (hhi : v < 300 * (n : F) + 300) :
    sectorCoord v = n := by
  have hn : (0 : F) ≤ (n : F) := Nat.cast_nonneg n
  obtain ⟨hlo', hhi'⟩ := sectorCoord_bounds (F := F) (v := v) (by linarith)
  have h₁ : (sectorCoord v : F) < ((n + 1 : ℤ) : F) := by
    push_cast
    linarith
  have h₂ : ((n : ℤ) : F) < ((sectorCoord v + 1 : ℤ) : F) := by
    push_cast
    linarith
  have h₁' : sectorCoord v < n + 1 := Int.cast_lt.mp h₁
  have h₂' : (n : ℤ) < sectorCoord v + 1 := Int.cast_lt.mp h₂
  omega

theorem InSector.coord {p : SectorPtr} {q : F × F} (h : InSector p q) :
    sectorCoord q.1 = sectorX p ∧ sectorCoord q.2 = sectorY p :=
  ⟨sectorCoord_eq h.x.1 h.x.2, sectorCoord_eq h.y.1 h.y.2⟩

theorem InSector.mem_sectorsAround {p : SectorPtr} {q : F × F} (h : InSector p q) (width : ℕ) :
    p ∈ sectorsAround (sectorCoord q.1) (sectorCoord q.2) width := by
  rw [Slither.mem_sectorsAround, h.coord.1, h.coord.2]
  omega

private theorem all_sectorsAt_iff {q : F × F} {P : SectorPtr → Prop} [DecidablePred P] :
    ((sectorsAt q).all fun p => decide (InSector p q → P p)) = true ↔
      ∀ p, InSector p q → P p := by
  simp only [List.all_eq_true, decide_eq_true_eq]
  exact ⟨fun h p hp => h p (hp.mem_sectorsAround 0) hp, fun h p _ => h p⟩

/-- Only the sector of the point is looked at. -/
instance (q : F × F) (P : SectorPtr → Prop) [DecidablePred P] :
    Decidable (∀ p, InSector p q → P p) := decidable_of_iff _ all_sectorsAt_iff

theorem inSector_of_coord {p : SectorPtr} {q : F × F} (hq : OnMap q)
    (hx : sectorCoord q.1 = sectorX p) (hy : sectorCoord q.2 = sectorY p) : InSector p q := by
  have hbx := sectorCoord_bounds hq.x.1
  have hby := sectorCoord_bounds hq.y.1
  rw [hx, Int.cast_natCast] at hbx
  rw [hy, Int.cast_natCast] at hby
  exact ⟨hbx, hby⟩

private theorem abs_middle_sub_le {v : F} {n : ℤ} {k width : ℕ}
    (hv : 300 * (n : F) ≤ v ∧ v < 300 * (n : F) + 300)
    (hk : n - width ≤ k ∧ (k : ℤ) ≤ n + width) :
    |300 * (k : F) + 150 - v| ≤ 300 * (width : F) + 150 := by
  have hlo : ((n - width : ℤ) : F) ≤ ((k : ℤ) : F) := Int.cast_le.mpr hk.1
  have hhi : ((k : ℤ) : F) ≤ ((n + width : ℤ) : F) := Int.cast_le.mpr hk.2
  push_cast at hlo hhi
  rw [abs_le]
  constructor <;> linarith [hv.1, hv.2]

private theorem normSq_le_of_abs {v : F × F} {a b : F} (hx : |v.1| ≤ a) (hy : |v.2| ≤ b) :
    normSq v ≤ a * a + b * b := by
  have h₁ := mul_self_le_mul_self (abs_nonneg v.1) hx
  have h₂ := mul_self_le_mul_self (abs_nonneg v.2) hy
  rw [abs_mul_abs_self] at h₁ h₂
  exact add_le_add h₁ h₂

theorem normSq_middle_sub_le {p : SectorPtr} {q : F × F} {width : ℕ} (hq : OnMap q)
    (hp : p ∈ sectorsAround (sectorCoord q.1) (sectorCoord q.2) width) :
    normSq (middle p - q) ≤ 2 * ((300 * (width : F) + 150) * (300 * (width : F) + 150)) := by
  obtain ⟨hx, hy⟩ := mem_sectorsAround.mp hp
  have h := normSq_le_of_abs (v := middle p - q)
    (abs_middle_sub_le (sectorCoord_bounds hq.x.1) hx)
    (abs_middle_sub_le (sectorCoord_bounds hq.y.1) hy)
  linarith

theorem sectorCoord_near {v : F} {k : ℕ} (hv : 0 ≤ v) (h : |300 * (k : F) + 150 - v| ≤ 509 / 2) :
    sectorCoord v - (1 : ℕ) ≤ k ∧ (k : ℤ) ≤ sectorCoord v + (1 : ℕ) := by
  obtain ⟨hlo, hhi⟩ := sectorCoord_bounds hv
  obtain ⟨hneg, hpos⟩ := abs_le.mp h
  have h₁ : ((sectorCoord v : ℤ) : F) < ((k + 2 : ℤ) : F) := by
    push_cast
    linarith
  have h₂ : ((k : ℤ) : F) < ((sectorCoord v + 2 : ℤ) : F) := by
    push_cast
    linarith
  have h₁' := Int.cast_lt.mp h₁
  have h₂' := Int.cast_lt.mp h₂
  omega

theorem exists_inSector {q : F × F} (h : OnMap q) : ∃ p, InSector p q := by
  have hcell : ∀ v : F, 0 ≤ v ∧ v < 43200 → ∃ n : ℕ, n < 144 ∧ sectorCoord v = n := by
    intro v hv
    obtain ⟨hlo, hhi⟩ := sectorCoord_bounds hv.1
    have h₁ : ((-1 : ℤ) : F) < ((sectorCoord v : ℤ) : F) := by
      push_cast
      linarith
    have h₂ : ((sectorCoord v : ℤ) : F) < ((144 : ℤ) : F) := by
      push_cast
      linarith
    have h₁' := Int.cast_lt.mp h₁
    have h₂' := Int.cast_lt.mp h₂
    exact ⟨(sectorCoord v).toNat, by omega, by omega⟩
  obtain ⟨i, hi, hx⟩ := hcell q.1 h.x
  obtain ⟨j, hj, hy⟩ := hcell q.2 h.y
  have hin : 0 ≤ (i : ℤ) ∧ (i : ℤ) < 144 ∧ 0 ≤ (j : ℤ) ∧ (j : ℤ) < 144 := by omega
  obtain ⟨p, hp⟩ : ∃ p, SectorSeq.sectorAt? (i : ℤ) (j : ℤ) = some p := ⟨_, dif_pos hin⟩
  obtain ⟨hpx, hpy⟩ := sectorAt?_eq_some.mp hp
  exact ⟨p, inSector_of_coord h (hx.trans hpx) (hy.trans hpy)⟩

theorem InSector.within_middle {p : SectorPtr} {q : F × F} (h : InSector p q) :
    Within (1061 / 5) (middle p - q) where
  nonneg := by norm_num
  normSq_le := by
    have hx : |(middle p - q).1| ≤ 150 := by
      simp only [middle, Prod.fst_sub]
      exact abs_le.mpr ⟨by linarith [h.x.2], by linarith [h.x.1]⟩
    have hy : |(middle p - q).2| ≤ 150 := by
      simp only [middle, Prod.snd_sub]
      exact abs_le.mpr ⟨by linarith [h.y.2], by linarith [h.y.1]⟩
    exact (normSq_le_of_abs hx hy).trans (by norm_num)

end Slither
