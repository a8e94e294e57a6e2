import Slither.Game.Bounds
import Slither.Game.Prefilter

/-!
# The sectors around the head

`CheckSnakeBounds` tests only snakes listed in sectors near the head, and how near does not depend
on the sizes of the two snakes.  A snake that is met but listed nowhere near is not seen.
-/

set_option linter.unusedSectionVars false

namespace Slither

open Framework

variable {F : Type} [Field F] [LinearOrder F] [FloorRing F]

namespace Snake

private theorem touching_of_intersect {d : Snake F} {foe : BoundBoxPos F}
    (h : d.intersect foe = true) :
    ∃ k, PassAt (Body.touching d.sbpr foe) d.parts k := by
  have hpass : ∃ k, PassAt (Body.meets d.sbpr foe) d.parts k := by
    rw [intersect_eq, Body.windowedScan] at h
    split at h
    · exact (anyNeighbours_iff _ _).mp h
    · obtain ⟨win, -, hscan⟩ := List.any_eq_true.mp h
      obtain ⟨-, k, -, hk⟩ := (win.scan_iff _ _).mp hscan
      exact ⟨k, hk⟩
  obtain ⟨k, prev, iter, hprev, hiter, hmeets⟩ := hpass
  rw [Body.meets_eq] at hmeets
  exact ⟨k, prev, iter, hprev, hiter, (Bool.and_eq_true_iff.mp hmeets).2⟩

/-- If the radii are small and the parts close together, a part lies near the foe.  Of the two parts
around a point half way, the nearer one is no further than a right angle there would put it. -/
private theorem near_of_intersect [IsStrictOrderedRing F] {d : Snake F} {foe : BoundBoxPos F}
    (hpos : 0 ≤ foe.r + d.sbpr) (hsmall : foe.r + d.sbpr ≤ 36)
    (hspaced : ∀ k a b, d.parts[k]? = some a → d.parts[k + 1]? = some b → Within 44 (b.pt - a.pt))
    (h : d.intersect foe = true) :
    ∃ b ∈ d.parts, Within (423 / 10) (b.pt - (foe.x, foe.y)) := by
  obtain ⟨k, prev, iter, hprev, hiter, htouch⟩ := touching_of_intersect h
  have hreach : (foe.r + d.sbpr) * (foe.r + d.sbpr) ≤ 36 * 36 :=
    mul_self_le_mul_self hpos hsmall
  have hnear : ∀ b : Body F, normSq (b.pt - (foe.x, foe.y)) ≤ 1780 →
      Within (423 / 10) (b.pt - (foe.x, foe.y)) :=
    fun b hb => ⟨by norm_num, hb.trans (by norm_num)⟩
  have hgap := (hspaced k prev iter hprev hiter).normSq_le
  unfold Body.touching at htouch
  simp only [Bool.or_eq_true, Body.intersectCircle_iff] at htouch
  have hprev' := List.mem_of_getElem? hprev
  have hiter' := List.mem_of_getElem? hiter
  rcases htouch with (hhit | hhit) | hhit
  · exact ⟨iter, hiter', hnear iter (hhit.trans (by linarith))⟩
  · exact ⟨prev, hprev', hnear prev (hhit.trans (by linarith))⟩
  · have hlaw : normSq (iter.pt - (foe.x, foe.y)) + normSq (prev.pt - (foe.x, foe.y)) =
        2 * normSq ((iter.x + (prev.x - iter.x) / 2, iter.y + (prev.y - iter.y) / 2) -
          (foe.x, foe.y)) + normSq (iter.pt - prev.pt) / 2 := by
      simp only [normSq, Body.pt, Prod.fst_sub, Prod.snd_sub]
      ring
    rcases le_total (normSq (iter.pt - (foe.x, foe.y))) (normSq (prev.pt - (foe.x, foe.y))) with
      hle | hle
    · exact ⟨iter, hiter', hnear iter (by linarith)⟩
    · exact ⟨prev, hprev', hnear prev (by linarith)⟩

end Snake

namespace World

/-- The sectors list snakes of the world, and each sector that holds a part of a body lists its
snake. -/
structure Covered (w : World F) : Prop where
  listed : ∀ p, ∀ id ∈ (w.sectors.cell p).snakes, ∃ d, w.getSnake id = some d
  covers : ∀ d ∈ w.snakes, ∀ b ∈ d.parts, ∀ p, InSector p b.pt →
    d.id ∈ (w.sectors.cell p).snakes

/-- The check marks the snake exactly when the body of another one meets the circle around its
head. -/
def BoundsAgree (w : World F) (s : Snake F) : Prop :=
  ∃ cause, w.boundsCause s = .ok cause ∧
    w.checkSnakeBounds s = .ok (if cause.isSome = true then w.store s.markDying else w) ∧
      (cause.isSome = true ↔ ∃ id, w.Meets s s.headCircle id)

/-- A snake that is met is listed in a sector whose middle is at most 254.5 from the head. -/
def Spotted (w : World F) (s : Snake F) : Prop :=
  ∃ id, w.Meets s s.headCircle id ∧
    ∃ p, id ∈ (w.sectors.cell p).snakes ∧ Within (509 / 2) (middle p - s.getHead.pt)

private theorem checkSnakeBounds_of_cause {w : World F} {s : Snake F} {cause : Option Cause}
    (h : w.boundsCause s = .ok cause) :
    w.checkSnakeBounds s = .ok (if cause.isSome = true then w.store s.markDying else w) := by
  unfold checkSnakeBounds
  rw [h]
  cases cause <;> rfl

variable [IsStrictOrderedRing F]

private theorem mem_examined_iff (w : World F) {s : Snake F} (hhead : OnMap s.getHead.pt)
    (p : SectorPtr) : p ∈ w.examined s ↔ Within (509 / 2) (middle p - s.getHead.pt) := by
  have hreach : (425 / 2 + s.headReach.r : F) = 509 / 2 := by
    norm_num [Snake.headReach, WorldConfig.moveStepDistance]
  have htouch : touches p s.headReach = true ↔ Within (509 / 2) (middle p - s.getHead.pt) := by
    rw [touches_iff, hreach]
    exact ⟨fun h => ⟨by norm_num, h⟩, fun h => h.normSq_le⟩
  unfold examined
  rw [List.mem_filter, intersect_eq_touches, htouch]
  refine and_iff_right_of_imp fun h => mem_sectorsAround.mpr ?_
  exact ⟨sectorCoord_near hhead.x.1 h.abs_fst_le, sectorCoord_near hhead.y.1 h.abs_snd_le⟩

/-- The broad phase agrees with the test of all snakes exactly when a snake that is met is listed
near enough. -/
private theorem boundsAgree_iff {w : World F} (hw : w.Covered) {s : Snake F}
    (hhead : OnMap s.getHead.pt) (hin : ¬ s.Outside) :
    w.BoundsAgree s ↔ ((∃ id, w.Meets s s.headCircle id) → w.Spotted s) := by
  have hspec := w.boundsCause_spec s
  unfold BoundsAgree
  cases hcause : w.boundsCause s with
  | error e =>
      rw [hcause] at hspec
      obtain ⟨p, id, hid, hnone⟩ := hspec
      obtain ⟨d, hd⟩ := hw.listed p id hid
      rw [hnone] at hd
      cases hd
  | ok cause =>
      rw [hcause] at hspec
      have hmark := checkSnakeBounds_of_cause hcause
      have hfound : cause.isSome = true ↔ w.Spotted s := by
        match cause, hspec with
        | some .border, hout => exact absurd hout hin
        | some (.snake id), ⟨_, hmeets, p, hp, hid⟩ =>
            exact iff_of_true rfl ⟨id, hmeets, p, hid, (w.mem_examined_iff hhead p).mp hp⟩
        | none, ⟨_, hmiss⟩ =>
            refine iff_of_false Bool.false_ne_true ?_
            rintro ⟨id, hmeets, p, hid, hnear⟩
            exact hmiss p ((w.mem_examined_iff hhead p).mpr hnear) id hid hmeets
      constructor
      · rintro ⟨_, heq, -, hiff⟩ hmeets
        cases heq
        exact hfound.mp (hiff.mpr hmeets)
      · intro h
        exact ⟨cause, rfl, hmark, hfound.trans ⟨fun ⟨id, hmeets, _⟩ => ⟨id, hmeets⟩, h⟩⟩

private theorem onMap_of_near {s : Snake F} (hin : ¬ s.Outside) {q : F × F}
    (h : Within (423 / 10) (q - s.getHead.pt)) : OnMap q := by
  have hcentre : Within 21300 (s.getHead.pt - (21600, 21600)) := by
    refine ⟨by norm_num, ?_⟩
    have hlt := not_le.mp hin
    simp only [Body.distanceSquared, WorldConfig.gameRadius, WorldConfig.deathRadius] at hlt
    push_cast at hlt
    simp only [normSq, Body.pt, Prod.fst_sub, Prod.snd_sub]
    linarith
  have hsum := h.add hcentre
  have hx := abs_le.mp hsum.abs_fst_le
  have hy := abs_le.mp hsum.abs_snd_le
  simp only [Prod.fst_add, Prod.fst_sub, Prod.snd_add, Prod.snd_sub] at hx hy
  exact ⟨⟨by linarith [hx.1], by linarith [hx.2]⟩, by linarith [hy.1], by linarith [hy.2]⟩

private theorem spotted_of_near {w : World F} (hw : w.Covered) {s d : Snake F} (hin : ¬ s.Outside)
    (hd : d ∈ w.snakes) (hmeets : w.Meets s s.headCircle d.id) {b : Body F} (hb : b ∈ d.parts)
    (hnear : Within (423 / 10) (b.pt - s.getHead.pt)) : w.Spotted s := by
  obtain ⟨p, hp⟩ := exists_inSector (onMap_of_near hin hnear)
  refine ⟨d.id, hmeets, p, hw.covers d hd b hb p hp, ?_⟩
  have hsum := hp.within_middle.add hnear
  rw [sub_add_sub_cancel] at hsum
  exact hsum.mono (by norm_num)

private theorem boundsAgree_of_near {w : World F} (hw : w.Covered) {s : Snake F}
    (hhead : OnMap s.getHead.pt) (hin : ¬ s.Outside)
    (h : ∀ d ∈ w.snakes, w.Meets s s.headCircle d.id →
      ∃ b ∈ d.parts, Within (423 / 10) (b.pt - s.getHead.pt)) : w.BoundsAgree s := by
  refine (boundsAgree_iff hw hhead hin).mpr ?_
  rintro ⟨id, hmeets⟩
  obtain ⟨hne, d, hd, hhit⟩ := hmeets
  obtain ⟨hmem, rfl⟩ := Keyed.find?_eq_some.mp hd
  obtain ⟨b, hb, hnear⟩ := h d hmem ⟨hne, d, hd, hhit⟩
  exact spotted_of_near hw hin hmem ⟨hne, d, hd, hhit⟩ hb hnear

private theorem boundsAgree_of_small {w : World F} (hw : w.Covered) {s : Snake F}
    (hhead : OnMap s.getHead.pt) (hin : ¬ s.Outside)
    (hsmall : ∀ d ∈ w.snakes, 0 ≤ s.sbpr + d.sbpr ∧ s.sbpr + d.sbpr ≤ 36)
    (hspaced : ∀ d ∈ w.snakes, ∀ k a b, d.parts[k]? = some a → d.parts[k + 1]? = some b →
      Within 44 (b.pt - a.pt)) : w.BoundsAgree s := by
  refine boundsAgree_of_near hw hhead hin fun d hd hmeets => ?_
  obtain ⟨-, d', hd', hhit⟩ := hmeets
  cases hd'.symm.trans (Keyed.find?_key hd)
  exact Snake.near_of_intersect (hsmall d hd).1 (hsmall d hd).2 (hspaced d hd) hhit

/-- The broad phase agrees with the test of all snakes exactly when a snake that is met is listed
near enough.  So it does whenever each snake that is met has a part near the head, and so whenever
the radii are small and the parts close together. -/
theorem broad_phase_iff {w : World F} (hw : w.Covered) {s : Snake F} (hhead : OnMap s.getHead.pt)
    (hin : ¬ s.Outside) :
    (w.BoundsAgree s ↔ ((∃ id, w.Meets s s.headCircle id) → w.Spotted s)) ∧
      ((∀ d ∈ w.snakes, w.Meets s s.headCircle d.id →
        ∃ b ∈ d.parts, Within (423 / 10) (b.pt - s.getHead.pt)) → w.BoundsAgree s) ∧
      ((∀ d ∈ w.snakes, 0 ≤ s.sbpr + d.sbpr ∧ s.sbpr + d.sbpr ≤ 36) →
        (∀ d ∈ w.snakes, ∀ k a b, d.parts[k]? = some a → d.parts[k + 1]? = some b →
          Within 44 (b.pt - a.pt)) → w.BoundsAgree s) :=
  ⟨boundsAgree_iff hw hhead hin, boundsAgree_of_near hw hhead hin,
    boundsAgree_of_small hw hhead hin⟩

/-- Two snakes of three parts in one sector, one with its head in the other. -/
def crossed : World ℚ :=
  { (blank {} Rng.zero : World ℚ) with
    snakes :=
      { entries := [Snake.newborn Libm.axis 1 9 21742 21710 0 0,
          Snake.newborn Libm.axis 2 9 21700 21700 0 0]
        nodup := by decide }
    sectors := SectorSeq.init.modify middleSector fun sec =>
      { sec with snakes := [1, 2] } }

private theorem crossed_covered : crossed.Covered := by
  have hparts : ∀ d ∈ crossed.snakes.entries, ∀ b ∈ d.parts,
      sectorCoord b.x = 72 ∧ sectorCoord b.y = 72 := by
    decide +kernel
  have hids : ∀ d ∈ crossed.snakes.entries, d.id ∈ [1, 2] := by decide
  constructor
  · intro p id hid
    simp only [crossed, SectorSeq.modify, SectorSeq.cell_put] at hid
    split at hid
    · rcases List.mem_pair.mp hid with rfl | rfl <;> exact ⟨_, rfl⟩
    · cases hid
  · intro d hd b hb p hp
    obtain ⟨hx, hy⟩ := hp.coord
    obtain ⟨hbx, hby⟩ := hparts d hd b hb
    have hsector : p = middleSector := by
      simp only [Body.pt, hbx, hby, sectorX, sectorY, WorldConfig.sectorCountAlongEdge] at hx hy
      apply Fin.ext
      show (p : ℕ) = 72 * 144 + 72
      omega
    simp only [crossed, SectorSeq.modify, SectorSeq.cell_put]
    rw [if_pos hsector]
    exact hids d hd

theorem broad_phase_crossed :
    ∃ s ∈ crossed.snakes, crossed.BoundsAgree s ∧ crossed.Meets s s.headCircle 2 := by
  have hmeets : crossed.Meets (Snake.newborn Libm.axis 1 9 21742 21710 0 0)
      (Snake.newborn Libm.axis 1 9 21742 21710 0 0 : Snake ℚ).headCircle 2 :=
    ⟨by decide, _, rfl, by decide +kernel⟩
  have hin : ¬ (Snake.newborn Libm.axis 1 9 21742 21710 0 0 : Snake ℚ).Outside := by
    unfold Snake.Outside
    decide +kernel
  refine ⟨_, List.mem_cons_self .., ?_, hmeets⟩
  refine (broad_phase_iff crossed_covered (by decide +kernel) hin).1.mpr fun _ =>
    ⟨2, hmeets, middleSector, by decide +kernel, by norm_num, by decide +kernel⟩

/-- A snake of three parts, and one of 112 parts that ends in the corner of the next sector. -/
def cornerHead : Snake ℚ := Snake.newborn Libm.axis 1 9 21569 21569 0 0

def cornerTail : Snake ℚ := Snake.newborn Libm.axis 2 9 24390 21600 (355 / 113) 109

/-- The two snakes, listed in the sectors of their bodies only. -/
def cornered : World ℚ :=
  { (blank {} Rng.zero : World ℚ) with
    snakes := { entries := [cornerHead, cornerTail], nodup := by decide }
    sectors :=
      { cell p :=
          { SectorSeq.init.cell p with
            snakes :=
              if sectorY p = 71 ∧ 71 ≤ sectorX p ∧ sectorX p ≤ 72 then [1]
              else if sectorY p = 72 ∧ 72 ≤ sectorX p then [2] else [] }
        coords := SectorSeq.init.coords } }

private theorem cornered_covered : cornered.Covered := by
  have hfirst : ∀ b ∈ cornerHead.parts,
      (71 ≤ sectorCoord b.x ∧ sectorCoord b.x ≤ 72) ∧ sectorCoord b.y = 71 := by
    decide +kernel
  have hsecond : ∀ b ∈ cornerTail.parts,
      72 ≤ sectorCoord b.x ∧ sectorCoord b.y = 72 := by
    decide +kernel
  constructor
  · intro p id hid
    have hlist : id ∈ (if sectorY p = 71 ∧ 71 ≤ sectorX p ∧ sectorX p ≤ 72 then [1]
        else if sectorY p = 72 ∧ 72 ≤ sectorX p then [2] else []) := hid
    have hcases : id = 1 ∨ id = 2 := by
      split_ifs at hlist
      · exact .inl (List.mem_singleton.mp hlist)
      · exact .inr (List.mem_singleton.mp hlist)
      · cases hlist
    rcases hcases with rfl | rfl <;> exact ⟨_, rfl⟩
  · intro d hd b hb p hp
    obtain ⟨hx, hy⟩ := hp.coord
    show d.id ∈ (if sectorY p = 71 ∧ 71 ≤ sectorX p ∧ sectorX p ≤ 72 then [1]
        else if sectorY p = 72 ∧ 72 ≤ sectorX p then [2] else [])
    rcases List.mem_pair.mp hd with rfl | rfl
    · have h := hfirst b hb
      simp only [Body.pt] at hx hy
      rw [if_pos (by omega)]
      exact List.mem_singleton_self 1
    · have h := hsecond b hb
      simp only [Body.pt] at hx hy
      rw [if_neg (by omega), if_pos (by omega)]
      exact List.mem_singleton_self 2

/-- The tail meets the head across the corner, and the check does not look into its sector. -/
theorem broad_phase_misses :
    ¬ ∀ w : World ℚ, w.Covered → ∀ s ∈ w.snakes,
      (∀ d ∈ w.snakes, d.sbpr = Snake.bodyPartRadius d.parts.length) →
        OnMap s.getHead.pt → ¬ s.Outside → w.BoundsAgree s := by
  intro h
  have hradius : ∀ d ∈ cornered.snakes, d.sbpr = Snake.bodyPartRadius d.parts.length := by
    intro d hd
    rcases List.mem_pair.mp hd with rfl | rfl <;> decide +kernel
  have hin : ¬ cornerHead.Outside := by
    unfold Snake.Outside
    decide +kernel
  obtain ⟨cause, hcause, -, hiff⟩ := h cornered cornered_covered cornerHead
    (List.mem_cons_self ..) hradius (by decide +kernel) hin
  have hnone : cornered.boundsCause cornerHead = .ok none := by
    have hsome : (cornered.boundsCause cornerHead).toOption = some none := by decide +kernel
    cases hres : cornered.boundsCause cornerHead with
    | error e =>
        rw [hres] at hsome
        cases hsome
    | ok r =>
        rw [hres] at hsome
        exact congrArg _ (Option.some.inj hsome)
  cases hcause.symm.trans hnone
  have hhit : cornerTail.intersect cornerHead.headCircle = true := by decide +kernel
  exact Bool.false_ne_true (hiff.mpr ⟨2, by decide, cornerTail, rfl, hhit⟩)

end World

end Slither
