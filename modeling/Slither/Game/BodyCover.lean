import Slither.Game.Border
import Slither.Game.BroadPhase
import Slither.Game.Entering
import Slither.Game.Hull
import Slither.Game.Registry

/-!
# Sectors of the body

A body is covered if its snake lists the sectors of all its parts.  A move keeps this up exactly
when the circle around the moved body touches these sectors and the parts that are not registered,
the third to the sixth, come into no sector that is not listed for another reason.
-/

set_option linter.unusedSectionVars false

namespace Slither

open Framework

variable {F : Type} [Field F] [LinearOrder F] [FloorRing F]

namespace Snake

/-- The snake lists every sector that holds one of its parts. -/
def Covered (s : Snake F) : Prop := ∀ b ∈ s.parts, ∀ p, InSector p b.pt → p ∈ s.sbb.sectors

/-- The list of sectors is in order, and the body is covered. -/
structure Indexed (s : Snake F) : Prop where
  sorted : s.sbb.sectors.Pairwise (· < ·)
  covered : s.Covered

/-- The circle around the body after a move of the head to `newHead`. -/
def movedBox (s : Snake F) (newHead : Body F) : BoundBoxPos F :=
  let c := (s.parts.length : F)⁻¹ •
    ∑ i ∈ Finset.range s.parts.length, movedPoint newHead s.parts i
  ⟨c.1, c.2, boxRadius s.parts.length⟩

/-- What it takes for a move to keep a body covered.  The sectors that the parts come to touch the
circle; and those of the parts that are not registered, or come in from outside the map, are listed
already or entered by a part that is. -/
structure StepCovers (s : Snake F) (newHead : Body F) : Prop where
  reach : ∀ i < s.parts.length, ∀ p, InSector p (movedPoint newHead s.parts i) →
    touches p (s.movedBox newHead) = true
  enter : ∀ i < s.parts.length, 3 ≤ i ∧ i < 7 ∨ ¬ OnMap (point s.parts i) →
    ∀ p, InSector p (movedPoint newHead s.parts i) → s.SectorsAfter newHead p

private theorem covered_iff_bodyIn (s : Snake F) :
    s.Covered ↔ s.BodyIn {q | ∀ p, InSector p q → p ∈ s.sbb.sectors} := Iff.rfl

private theorem covered_iff_point (s : Snake F) :
    s.Covered ↔ ∀ i < s.parts.length, ∀ p, InSector p (point s.parts i) → p ∈ s.sbb.sectors := by
  rw [covered_iff_bodyIn]
  exact ⟨fun h _ hi => h.point hi, fun h => bodyIn_of_point fun i hi => h i hi⟩

private theorem length_leaveSectors (s : Snake F) (ss ss' : SectorSeq) (newHead : Body F) :
    ((s.settled ss newHead).leaveSectors ss').1.parts.length = s.parts.length :=
  s.length_settled ss newHead

private theorem point_leaveSectors (s : Snake F) (ss ss' : SectorSeq) (newHead : Body F) {i : ℕ}
    (hi : i < s.parts.length) :
    point ((s.settled ss newHead).leaveSectors ss').1.parts i = movedPoint newHead s.parts i :=
  s.point_settled ss newHead hi

private theorem settled_box (s : Snake F) (ss : SectorSeq) (newHead : Body F) :
    (s.settled ss newHead).sbb.toBoundBoxPos = s.movedBox newHead := by
  have hlen := s.length_settled ss newHead
  have hcentre : (s.settled ss newHead).centre = (s.parts.length : F)⁻¹ •
      ∑ i ∈ Finset.range s.parts.length, movedPoint newHead s.parts i := by
    rw [centre_settled, centre_updateBoxCenter, hlen]
    refine congrArg _ (Finset.sum_congr rfl fun i hi => ?_)
    exact s.point_settled ss newHead (Finset.mem_range.mp hi)
  have hradius : (s.settled ss newHead).sbb.r = boxRadius s.parts.length :=
    congrArg boxRadius hlen
  unfold movedBox
  rw [← hcentre, ← hradius]
  rfl

section Order

variable [IsStrictOrderedRing F]

instance (s : Snake F) (newHead : Body F) : Decidable (s.StepCovers newHead) :=
  decidable_of_iff
    ((∀ i < s.parts.length, ∀ p, InSector p (movedPoint newHead s.parts i) →
        touches p (s.movedBox newHead) = true) ∧
      ∀ i < s.parts.length, 3 ≤ i ∧ i < 7 ∨ ¬ OnMap (point s.parts i) →
        ∀ p, InSector p (movedPoint newHead s.parts i) → s.SectorsAfter newHead p)
    ⟨fun h => ⟨h.1, h.2⟩, fun h => ⟨h.reach, h.enter⟩⟩

private theorem sectorsAfter_of_covered {s : Snake F} (h : s.Covered) {newHead : Body F} {i : ℕ}
    (hi : i < s.parts.length) (hskip : ¬ (3 ≤ i ∧ i < 7)) (hmap : OnMap (point s.parts i))
    {p : SectorPtr} (hp : InSector p (movedPoint newHead s.parts i)) :
    s.SectorsAfter newHead p := by
  have hpoint := s.covered_iff_point.mp h
  by_cases hsampled : Sampled i
  · by_cases hsame : sectorCoord (movedPoint newHead s.parts i).1 = sectorCoord (point s.parts i).1 ∧
      sectorCoord (movedPoint newHead s.parts i).2 = sectorCoord (point s.parts i).2
    · refine .inl (hpoint i hi p (inSector_of_coord hmap ?_ ?_))
      · exact hsame.1.symm.trans hp.coord.1
      · exact hsame.2.symm.trans hp.coord.2
    · refine .inr ⟨i, hi, hsampled, hsame, hp.mem_sectorsAround 1, ?_⟩
      exact touches_of_within hp.within_middle (by norm_num [partBoxRadius])
  · unfold Sampled at hsampled
    obtain ⟨j, rfl⟩ : ∃ j, i = j + 1 := ⟨i - 1, by omega⟩
    have hzero : (followCoeff (j + 1) : F) = 0 := if_pos (by
      show j + 1 < 3
      omega)
    have hprev : movedPoint newHead s.parts (j + 1) = point s.parts j := by
      show blend (followCoeff (j + 1)) (point s.parts j) _ = _
      rw [hzero, blend, zero_smul, add_zero]
    rw [hprev] at hp
    exact .inl (hpoint j (by omega) p hp)

private theorem leaveSectors_indexed {s : Snake F} (h : s.Indexed) (ss ss' : SectorSeq)
    (newHead : Body F) :
    ((s.settled ss newHead).leaveSectors ss').1.sbb.sectors.Pairwise (· < ·) ∧
      (((s.settled ss newHead).leaveSectors ss').1.Covered ↔ s.StepCovers newHead) := by
  obtain ⟨hsorted, hmem⟩ := leaveSectors_sectors h.sorted ss ss' newHead
  refine ⟨hsorted, ?_⟩
  rw [covered_iff_point, length_leaveSectors]
  constructor
  · intro hall
    have hboth : ∀ i < s.parts.length, ∀ p, InSector p (movedPoint newHead s.parts i) →
        s.SectorsAfter newHead p ∧ touches p (s.movedBox newHead) = true := by
      intro i hi p hp
      rw [← settled_box s ss, ← hmem]
      exact hall i hi p (by rwa [point_leaveSectors _ _ _ _ hi])
    exact ⟨fun i hi p hp => (hboth i hi p hp).2, fun i hi _ p hp => (hboth i hi p hp).1⟩
  · intro hstep i hi p hp
    rw [point_leaveSectors _ _ _ _ hi] at hp
    rw [hmem, settled_box]
    refine ⟨?_, hstep.reach i hi p hp⟩
    by_cases hcase : 3 ≤ i ∧ i < 7 ∨ ¬ OnMap (point s.parts i)
    · exact hstep.enter i hi hcase p hp
    · rw [not_or, not_not] at hcase
      exact sectorsAfter_of_covered h.covered hi hcase.1 hcase.2 hp

/-- Every sector that one of the parts 3 to 6, or a part that was outside the map, comes to is in the
list after the move. -/
def StepEnters (newHead : Body F) (s : Snake F) : Prop :=
  ∀ i < s.parts.length, 3 ≤ i ∧ i < 7 ∨ ¬ OnMap (point s.parts i) →
    ∀ p, InSector p (movedPoint newHead s.parts i) → s.SectorsAfter newHead p

private theorem stepCovers_iff_of_spaced {s : Snake F} (h : s.SpacedBy (followGap 42))
    {newHead : Body F}
    (hstep : Within 42 (newHead.pt - s.getHead.pt)) : s.StepCovers newHead ↔ s.StepEnters newHead := by
  refine ⟨fun hs => hs.enter, fun henter => ⟨fun i hi p hp => ?_, henter⟩⟩
  have hin := settled_encloses h SectorSeq.init hstep hi
  rw [s.point_settled _ _ hi] at hin
  have hbox := s.settled_box SectorSeq.init newHead
  have hmiddle : middle p - (s.settled SectorSeq.init newHead).centre =
      (middle p - movedPoint newHead s.parts i) +
        (movedPoint newHead s.parts i - (s.settled SectorSeq.init newHead).centre) :=
    (sub_add_sub_cancel _ _ _).symm
  have hreach := hp.within_middle.add hin
  rw [← hbox]
  refine touches_of_within (d := 1061 / 5 + (s.settled SectorSeq.init newHead).sbb.r) ?_ ?_
  · exact hmiddle ▸ hreach
  · exact add_le_add_left (by norm_num) _

end Order

private theorem Indexed.congr {s t : Snake F} (h : s.Indexed) (hparts : t.parts = s.parts)
    (hsbb : t.sbb = s.sbb) : t.Indexed := by
  constructor
  · rw [hsbb]
    exact h.sorted
  · unfold Covered
    rw [hparts, hsbb]
    exact h.covered

private theorem Indexed.onFoodEaten {s : Snake F} (h : s.Indexed) (f : Food) :
    (s.onFoodEaten f).Indexed := by
  have hsbb := s.sbb_onFoodEaten f
  have hbody := (s.covered_iff_bodyIn.mp h.covered).increase f.size
  refine ⟨hsbb ▸ h.sorted, fun b hb p hp => ?_⟩
  rw [hsbb]
  exact hbody b hb p hp

private theorem sbb_updateAcceleration (s : Snake F) (ss : SectorSeq) :
    (s.updateAcceleration ss).1.sbb = s.sbb :=
  updateAcceleration_keeps Snake.sbb (fun _ _ _ _ => rfl) (fun _ _ => rfl) (fun _ => rfl) s ss

private theorem Indexed.accelerate {s : Snake F} (h : s.Indexed) (ss : SectorSeq) :
    (s.updateAcceleration ss).1.Indexed := by
  have hsbb := s.sbb_updateAcceleration ss
  have hbody := (s.covered_iff_bodyIn.mp h.covered).accelerate ss
  refine ⟨hsbb ▸ h.sorted, fun b hb p hp => ?_⟩
  rw [hsbb]
  exact hbody b hb p hp

/-- The step that a tick makes, if it makes one, keeps the body covered. -/
def CoverKept (m : Libm F) (dt : ℕ) (s : Snake F) : Prop :=
  s.Alive → s.framesTicks dt ≠ 0 → s.StepCovers (s.nextHead m dt)

/-- A tick.  Before the next one anything may happen that leaves the body and its sectors alone. -/
def Ticks (m : Libm F) (dt : ℕ) (s t : Snake F) : Prop :=
  ∃ ss r, s.tick m dt ss = .ok r ∧ t.parts = r.snake.parts ∧ t.sbb = r.snake.sbb

variable [IsStrictOrderedRing F]

/-- The move of a tick keeps a covered body covered exactly under the condition. -/
private theorem eater_indexed (m : Libm F) (dt : ℕ) {s : Snake F} (h : s.Indexed) (ss : SectorSeq) :
    (s.eater m dt ss).1.sbb.sectors.Pairwise (· < ·) ∧
      ((s.eater m dt ss).1.Covered ↔ s.StepCovers (s.nextHead m dt)) := by
  have hbody := s.body_steered m dt
  have hparts : (s.poised m dt).parts = s.parts := congrArg Prod.fst hbody
  have hsbb : (s.poised m dt).sbb = s.sbb := congrArg (fun b => b.2.1) hbody
  have hsame : (s.poised m dt).StepCovers (s.nextHead m dt) ↔ s.StepCovers (s.nextHead m dt) := by
    have hbox : (s.poised m dt).movedBox (s.nextHead m dt) = s.movedBox (s.nextHead m dt) := by
      unfold movedBox
      rw [hparts]
    have hafter : ∀ p, (s.poised m dt).SectorsAfter (s.nextHead m dt) p ↔
        s.SectorsAfter (s.nextHead m dt) p := by
      intro p
      unfold SectorsAfter
      rw [hparts, hsbb]
    constructor
    · rintro ⟨hreach, henter⟩
      rw [hparts, hbox] at hreach
      simp only [hparts, hafter] at henter
      exact ⟨hreach, henter⟩
    · rintro ⟨hreach, henter⟩
      rw [← hparts, ← hbox] at hreach
      simp only [← hparts, ← hafter] at henter
      exact ⟨hreach, henter⟩
  rw [← hsame, ← s.poised_movedHead m dt]
  exact leaveSectors_indexed (h.congr hparts hsbb) ss _ _

private theorem Indexed.tick {m : Libm F} {dt : ℕ} {s : Snake F} (h : s.Indexed)
    (hstep : s.CoverKept m dt)
    (ss : SectorSeq) : Post (s.tick m dt ss) (fun r => r.snake.Indexed) (fun _ => True) := by
  apply tick_body
  · exact fun t u hparts hsbb ht => ht.congr hparts hsbb
  · exact fun t f ht => ht.onFoodEaten f
  · exact fun t ss' ht => ht.accelerate ss'
  · exact h
  · intro hlive hmove
    obtain ⟨hsorted, hcovered⟩ := eater_indexed m dt h ss
    exact ⟨hsorted, hcovered.mpr (hstep hlive hmove)⟩

/-- If all steps of a run meet the condition, the body stays covered. -/
private theorem Indexed.run {m : Libm F} {s t : Snake F} {dts : List ℕ} (h : s.Indexed)
    (hrun : Run (fun t dt u => t.CoverKept m dt ∧ t.Ticks m dt u) s dts t) : t.Indexed := by
  refine hrun.state_invariant h ?_
  rintro t dt u ht ⟨hstep, ss, r, htick, hparts, hsbb⟩
  exact ((ht.tick hstep ss).of_ok htick).congr hparts hsbb

section Creation

open SnakeBoundBox

/-- The parts that creation registers. -/
def Seeded (k : ℕ) : Prop := k = 0 ∨ k % tailStep = 3

instance (k : ℕ) : Decidable (Seeded k) := inferInstanceAs (Decidable (_ ∨ _))

/-- Every sector that holds a part is entered by one of the parts that creation registers, all of
which seem to come from the corner of the map. -/
def Laid (s : Snake F) : Prop :=
  ∀ i < s.parts.length, ∀ p, InSector p (point s.parts i) →
    ∃ k < s.parts.length, Seeded k ∧ Enters (point s.parts k) (0, 0) p

instance (s : Snake F) : Decidable s.Laid :=
  inferInstanceAs (Decidable (∀ i < s.parts.length, ∀ p, InSector p (point s.parts i) →
    ∃ k < s.parts.length, Seeded k ∧ Enters (point s.parts k) (0, 0) p))

omit [IsStrictOrderedRing F] in
private theorem initBoxNewSectors_adds {s : Snake F} (hs : s.sbb.sectors.Pairwise (· < ·))
    (ss : SectorSeq) :
    s.sbb.Adds (s.initBoxNewSectors ss).1.sbb fun p =>
      ∃ k < s.parts.length, Seeded k ∧ Enters (point s.parts k) (0, 0) p := by
  have hsize := s.size_parts
  have hloop : ∀ (ks : List ℕ) (st : SnakeBoundBox F × SectorSeq),
      st.1.sectors.Pairwise (· < ·) →
      st.1.Adds (ks.foldl (fun (st : SnakeBoundBox F × SectorSeq) i =>
        let pt := s.parts.getD i ⟨0, 0⟩
        st.1.updateBoxNewSectors st.2 partBoxRadius pt.x pt.y 0 0) st).1
        fun p => ∃ k ∈ ks, Enters (point s.parts k) (0, 0) p := by
    intro ks
    induction ks with
    | nil =>
        intro st hst
        exact (Adds.refl hst).congr fun p => by simp
    | cons k ks ih =>
        intro st hst
        have hfirst := updateBoxNewSectors_adds hst st.2 (point s.parts k) (0, 0)
        refine (hfirst.trans (ih _ hfirst.sorted)).congr fun p => ?_
        simp only [List.mem_cons, exists_eq_or_imp]
  have hhead := updateBoxNewSectors_adds hs ss (point s.parts 0) (0, 0)
  rw [point_zero] at hhead
  refine (hhead.trans (hloop (List.range' 3 ((s.parts.length - 3 + (tailStep - 1)) / tailStep)
    tailStep) _ hhead.sorted)).congr fun p => ?_
  have hmem : ∀ k, k ∈ List.range' 3 ((s.parts.length - 3 + (tailStep - 1)) / tailStep) tailStep ↔
      k < s.parts.length ∧ k % tailStep = 3 := by
    intro k
    rw [List.mem_range']
    simp only [tailStep]
    constructor
    · rintro ⟨j, hj, rfl⟩
      omega
    · rintro ⟨hk, hmod⟩
      exact ⟨k / 12, by omega, by omega⟩
  constructor
  · rintro (h | ⟨k, hk, h⟩)
    · exact ⟨0, by omega, .inl rfl, by rwa [point_zero]⟩
    · exact ⟨k, ((hmem k).mp hk).1, .inr ((hmem k).mp hk).2, h⟩
  · rintro ⟨k, hk, rfl | hmod, h⟩
    · exact .inl (by rwa [point_zero] at h)
    · exact .inr ⟨k, (hmem k).mpr ⟨hk, hmod⟩, h⟩

private theorem createSnake_laid (m : Libm F) (w : World F) :
    Post (w.createSnake m)
      (fun r => r.1.sbb.sectors.Pairwise (· < ·) ∧ (r.1.Covered ↔ r.1.Laid)) (fun _ => True) := by
  refine (World.createSnake_post m w).mono ?_ fun _ _ => trivial
  rintro _ ⟨skin, x, y, angle, body, rng, rfl⟩
  dsimp only
  have hadds := initBoxNewSectors_adds
    (s := newborn m ((w.lastSnakeId + 1) % 65536) skin x y angle body) List.Pairwise.nil w.sectors
  refine ⟨hadds.sorted, ?_⟩
  rw [covered_iff_point]
  refine forall₄_congr fun i hi p hp => ?_
  rw [hadds.sectors]
  exact or_iff_right (List.not_mem_nil (a := p))

end Creation

private theorem covered_of_registered {w : World F} (h : w.Registered)
    (hcovered : ∀ s ∈ w.snakes, s.Covered) : w.Covered where
  listed p id hid := by
    obtain ⟨s, hs, rfl⟩ := h.live p id ((w.sectors.mem_snakes_iff p id).mp hid)
    exact ⟨s, Keyed.find?_key hs⟩
  covers s hs b hb p hp := by
    have hlisted := (h.consistent s hs).listed p
    rw [if_pos (hcovered s hs b hb p hp), h.boxId s hs] at hlisted
    rw [SectorSeq.mem_snakes_iff, hlisted]
    exact Nat.one_pos

/-- A new snake is covered exactly if it is laid out well.  From then on a move keeps the body
covered exactly if it meets the condition, so a run whose ticks all do so leaves it covered.  For a
body that moves have pulled together half of the condition is enough.  Where boxes and sectors
agree, bodies that are covered are found in the sectors. -/
theorem body_covered (m : Libm F) :
    (∀ (w : World F) s w', w.createSnake m = .ok (s, w') → (s.Covered ↔ s.Laid) ∧
      (s.Laid → ∀ dts t,
        Run (fun t dt u => t.CoverKept m dt ∧ t.Ticks m dt u) s dts t → t.Covered)) ∧
    (∀ (s : Snake F) dt ss, s.Indexed →
      ((s.eater m dt ss).1.Covered ↔ s.StepCovers (s.nextHead m dt)) ∧
      (s.SpacedBy (followGap 42) → Within 42 ((s.nextHead m dt).pt - s.getHead.pt) →
        ((s.eater m dt ss).1.Covered ↔ s.StepEnters (s.nextHead m dt)))) ∧
    ∀ w : World F, w.Registered → (∀ s ∈ w.snakes, s.Covered) → w.Covered := by
  refine ⟨fun w s w' hcreate => ?_, fun s dt ss h => ?_, fun w => covered_of_registered⟩
  rotate_left
  · have hiff := (eater_indexed m dt h ss).2
    exact ⟨hiff, fun hspaced hstep => hiff.trans (stepCovers_iff_of_spaced hspaced hstep)⟩
  obtain ⟨hsorted, hiff⟩ := (createSnake_laid m w).of_ok hcreate
  refine ⟨hiff, fun hlaid dts t hrun => ?_⟩
  exact (Indexed.run ⟨hsorted, hiff.mpr hlaid⟩ hrun).covered

private theorem exists_created {w : World ℚ} {P : Snake ℚ × World ℚ → Prop} [DecidablePred P]
    (h : (w.createSnake Libm.axis).toOption.any fun r => decide (P r)) :
    ∃ s w', w.createSnake Libm.axis = .ok (s, w') ∧ P (s, w') := by
  cases hcreate : w.createSnake Libm.axis with
  | error e =>
      rw [hcreate] at h
      cases h
  | ok r =>
      rw [hcreate] at h
      exact ⟨r.1, r.2, rfl, of_decide_eq_true h⟩

/-- A snake of five parts makes its first move. -/
theorem body_covered_blank :
    ∃ (s t : Snake ℚ) (w' : World ℚ),
      (World.blank {} Rng.zero : World ℚ).createSnake Libm.axis = .ok (s, w') ∧
        s.framesTicks 227 ≠ 0 ∧ s.Ticks Libm.axis 227 t ∧ s.Covered ∧ t.Covered := by
  obtain ⟨s, w', hcreate, hlaid, hmove, hstep, hok⟩ := exists_created
    (w := World.blank {} Rng.zero)
    (P := fun r => r.1.Laid ∧ r.1.framesTicks 227 ≠ 0 ∧
      r.1.StepCovers (r.1.nextHead Libm.axis 227) ∧
        (r.1.tick Libm.axis 227 r.2.sectors).toOption.isSome = true) (by decide +kernel)
  obtain ⟨r, htick⟩ : ∃ r, s.tick Libm.axis 227 w'.sectors = .ok r := by
    cases htick : s.tick Libm.axis 227 w'.sectors with
    | error e =>
        rw [htick] at hok
        cases hok
    | ok r => exact ⟨r, rfl⟩
  have hticks : s.Ticks Libm.axis 227 r.snake := ⟨w'.sectors, r, htick, rfl, rfl⟩
  obtain ⟨hiff, hrun⟩ := (body_covered Libm.axis).1 _ s w' hcreate
  exact ⟨s, r.snake, w', hcreate, hmove, hticks, hiff.mpr hlaid,
    hrun hlaid [227] r.snake (.single ⟨fun _ _ => hstep, hticks⟩)⟩

/-- A body of 14 parts reaches into a third column of sectors, but creation registers no part of it
beyond the third. -/
theorem body_uncovered :
    (∃ (s : Snake ℚ) (w' : World ℚ) (p : SectorPtr),
      (World.blank { snakeMinLength := 11 } Rng.zero : World ℚ).createSnake Libm.axis =
        .ok (s, w') ∧ s.parts.length = 14 ∧ InSector p (point s.parts 13) ∧
          p ∉ s.sbb.sectors) ∧
      ¬ ∀ (m : Libm ℚ) (w : World ℚ) (s : Snake ℚ) (w' : World ℚ), m.Unit →
        w.config.snakeMinLength < 65536 → w.createSnake m = .ok (s, w') → ∀ dts t,
          Run (fun t dt u => t.framesTicks dt ≤ t.movFrameInterval ∧ t.Ticks m dt u) s dts t →
            t.Covered := by
  obtain ⟨s, w', hcreate, (hlen : s.parts.length = 14), hin, hout⟩ := exists_created
    (w := World.blank { snakeMinLength := 11 } Rng.zero)
    (P := fun r => r.1.parts.length = 14 ∧ InSector 10441 (point r.1.parts 13) ∧
      10441 ∉ r.1.sbb.sectors) (by decide +kernel)
  refine ⟨⟨s, w', 10441, hcreate, hlen, hin, hout⟩, fun h => hout ?_⟩
  have hcovered := h Libm.axis _ s w' Libm.axis_unit (by decide) hcreate [] s .nil
  exact s.covered_iff_point.mp hcovered 13 (by omega) _ hin

end Snake

end Slither
