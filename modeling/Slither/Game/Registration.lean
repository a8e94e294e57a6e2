import Slither.Game.Frame

/-!
# Sector registration

A bound box lists the sectors it is in and every sector lists the bound boxes in it.  The two lists
are edited by different operations; `Consistent` says that they agree for one box, and every
operation of a snake re-establishes it and leaves the other boxes alone.
-/

set_option linter.unusedSectionVars false

namespace Slither

open Framework

variable {F : Type} [Field F] [LinearOrder F] [FloorRing F]

namespace SectorSeq

/-- The number of times `p` lists the snake `id`. -/
def listings (ss : SectorSeq) (p : SectorPtr) (id : SnakeId) : ℕ := (ss.cell p).snakes.count id

theorem mem_snakes_iff (ss : SectorSeq) (p : SectorPtr) (id : SnakeId) :
    id ∈ (ss.cell p).snakes ↔ 0 < ss.listings p id := List.count_pos_iff.symm

private theorem listings_pushSnake (ss : SectorSeq) (p q : SectorPtr) (id j : SnakeId) :
    (ss.modify p fun sec => sec.pushSnake id).listings q j =
      ss.listings q j + if q = p ∧ j = id then 1 else 0 := by
  unfold listings
  rw [snakes_modify]
  by_cases hq : q = p
  · subst hq
    by_cases hj : j = id
    · subst hj
      simp [Sector.pushSnake, List.count_append]
    · simp [Sector.pushSnake, List.count_append, hj, Ne.symm hj]
  · simp [hq]

private theorem listings_removeSnake (ss : SectorSeq) (p q : SectorPtr) (id j : SnakeId) :
    (ss.modify p fun sec => sec.removeSnake id).listings q j =
      if q = p ∧ j = id then 0 else ss.listings q j := by
  unfold listings
  rw [snakes_modify]
  by_cases hq : q = p
  · subst hq
    by_cases hj : j = id
    · subst hj
      simp [Sector.removeSnake, List.count_eq_zero]
    · simp [Sector.removeSnake, hj, List.count_filter]
  · simp [hq]

theorem listings_foldl_removeSnake (id : SnakeId) (ps : List SectorPtr) (ss : SectorSeq)
    (q : SectorPtr) (j : SnakeId) :
    (ps.foldl (fun ss p => ss.modify p fun sec => sec.removeSnake id) ss).listings q j =
      if q ∈ ps ∧ j = id then 0 else ss.listings q j := by
  induction ps generalizing ss with
  | nil => simp
  | cons p ps ih =>
      rw [List.foldl_cons, ih, listings_removeSnake]
      by_cases hj : j = id <;> by_cases hq : q = p <;> simp [hj, hq]

private theorem listings_of_snakes_eq {ss ss' : SectorSeq}
    (h : ∀ p, (ss'.cell p).snakes = (ss.cell p).snakes) (q : SectorPtr) (j : SnakeId) :
    ss'.listings q j = ss.listings q j := by
  unfold listings
  rw [h q]

end SectorSeq

namespace SnakeBoundBox

/-- The box and the grid agree on where the box is registered. -/
structure Consistent (b : SnakeBoundBox F) (ss : SectorSeq) : Prop where
  sorted : b.sectors.Pairwise (· < ·)
  listed : ∀ p, ss.listings p b.id = if p ∈ b.sectors then 1 else 0

/-- A change of one box and the grid that keeps the agreement and every other box. -/
structure Reregisters (b : SnakeBoundBox F) (ss : SectorSeq) (b' : SnakeBoundBox F)
    (ss' : SectorSeq) : Prop where
  id_eq : b'.id = b.id
  consistent : b.Consistent ss → b'.Consistent ss'
  others : b.Consistent ss → ∀ p j, j ≠ b.id → ss'.listings p j = ss.listings p j

namespace Reregisters

theorem refl (b : SnakeBoundBox F) (ss : SectorSeq) : Reregisters b ss b ss :=
  ⟨rfl, id, fun _ _ _ _ => rfl⟩

theorem trans {b₁ b₂ b₃ : SnakeBoundBox F} {ss₁ ss₂ ss₃ : SectorSeq}
    (h : Reregisters b₁ ss₁ b₂ ss₂) (h' : Reregisters b₂ ss₂ b₃ ss₃) :
    Reregisters b₁ ss₁ b₃ ss₃ where
  id_eq := h'.id_eq.trans h.id_eq
  consistent hc := h'.consistent (h.consistent hc)
  others hc p j hj := by
    rw [h'.others (h.consistent hc) p j (by rwa [h.id_eq]), h.others hc p j hj]

theorem of_same {b b' : SnakeBoundBox F} {ss ss' : SectorSeq} (hid : b'.id = b.id)
    (hsec : b'.sectors = b.sectors) (hss : ∀ p, (ss'.cell p).snakes = (ss.cell p).snakes) :
    Reregisters b ss b' ss' where
  id_eq := hid
  consistent hc := by
    refine ⟨hsec ▸ hc.sorted, fun p => ?_⟩
    rw [SectorSeq.listings_of_snakes_eq hss, hid, hsec, hc.listed]
  others _ p j _ := SectorSeq.listings_of_snakes_eq hss p j

end Reregisters

private theorem insertSortedWithReg_reregisters (b : SnakeBoundBox F) (ss : SectorSeq)
    (p : SectorPtr) (hp : b.isPresent p = false) :
    Reregisters b ss (b.insertSortedWithReg ss p).1 (b.insertSortedWithReg ss p).2 where
  id_eq := rfl
  consistent hc := by
    have habs : p ∉ b.sectors := by
      intro hmem
      have hpres := (binarySearch_iff hc.sorted p).mpr hmem
      rw [BoundBox.isPresent, hpres] at hp
      cases hp
    refine ⟨insertAtLowerBound_sorted hc.sorted habs, fun q => ?_⟩
    have hperm := insertAtLowerBound_perm (fun q => decide (q < p)) p b.sectors
    simp only [insertSortedWithReg, BoundBox.insert, SectorSeq.listings_pushSnake, hc.listed,
      hperm.mem_iff, List.mem_cons, and_true]
    by_cases hq : q = p
    · subst hq
      simp [habs]
    · simp [hq]
  others _ q j hj := by
    simp [insertSortedWithReg, SectorSeq.listings_pushSnake, hj]

private theorem updateNewSector_reregisters (box : BoundBoxPos F) (st : SnakeBoundBox F × SectorSeq)
    (p : SectorPtr) :
    Reregisters st.1 st.2 (updateNewSector box st p).1 (updateNewSector box st p).2 := by
  unfold updateNewSector
  split
  · rename_i h
    simp only [Bool.and_eq_true, Bool.not_eq_true'] at h
    exact insertSortedWithReg_reregisters _ _ _ h.1
  · exact .refl _ _

theorem updateBoxNewSectors_reregisters (b : SnakeBoundBox F) (ss : SectorSeq)
    (bbR newX newY oldX oldY : F) :
    Reregisters b ss (b.updateBoxNewSectors ss bbR newX newY oldX oldY).1
      (b.updateBoxNewSectors ss bbR newX newY oldX oldY).2 := by
  simp only [updateBoxNewSectors]
  split
  · exact .refl _ _
  · exact foldl_inv (fun _ st => Reregisters b ss st.1 st.2)
      (fun p _ st h => h.trans (updateNewSector_reregisters _ st p)) _ (b, ss) (.refl b ss)

private theorem updateBoxOldSectors_reregisters (b : SnakeBoundBox F) (ss : SectorSeq) :
    Reregisters b ss (b.updateBoxOldSectors ss).1 (b.updateBoxOldSectors ss).2 := by
  have hspec : b.Consistent ss →
      (b.updateBoxOldSectors ss).1.sectors =
        b.sectors.filter (fun p => (ss.cell p).intersect b.toBoundBoxPos) ∧
      ∀ p j, (b.updateBoxOldSectors ss).2.listings p j =
        if (p ∈ b.sectors ∧ (ss.cell p).intersect b.toBoundBoxPos = false) ∧ j = b.id then 0
        else ss.listings p j := by
    intro hc
    obtain ⟨hfilter, dropped, hperm, hdrop⟩ := swapRemoveSorted_eq_filter
      (fun p => (ss.cell p).intersect b.toBoundBoxPos)
      (fun ss p => ss.modify p fun sec => sec.removeSnake b.id) hc.sorted ss
    refine ⟨hfilter, fun p j => ?_⟩
    simp only [updateBoxOldSectors, hdrop, SectorSeq.listings_foldl_removeSnake, hperm.mem_iff,
      List.mem_filter, Bool.not_eq_true']
  refine ⟨rfl, fun hc => ?_, fun hc p j hj => ?_⟩
  · obtain ⟨hsec, hlist⟩ := hspec hc
    refine ⟨hsec ▸ hc.sorted.filter _, fun p => ?_⟩
    have hid : (b.updateBoxOldSectors ss).1.id = b.id := rfl
    rw [hlist, hsec, hid, hc.listed]
    by_cases hp : p ∈ b.sectors <;>
      cases hk : (ss.cell p).intersect b.toBoundBoxPos <;> simp [hp, hk]
  · rw [(hspec hc).2]
    simp [hj]

end SnakeBoundBox

namespace Snake

open SnakeBoundBox

/-- The registration effect of an operation on a snake. -/
abbrev RegStep (s : Snake F) (ss : SectorSeq) (s' : Snake F) (ss' : SectorSeq) : Prop :=
  Reregisters s.sbb ss s'.sbb ss'

private theorem moveTail_reregisters (st : MoveLoop F) (old : Body F) :
    Reregisters st.sbb st.ss (moveTail st old).sbb (moveTail st old).ss := by
  simp only [moveTail, MoveLoop.push]
  split
  · exact updateBoxNewSectors_reregisters _ _ _ _ _ _ _
  · exact .refl _ _

theorem foldl_sbb_ss {f : MoveLoop F → Body F → MoveLoop F}
    (hf : ∀ st old, ((f st old).sbb, (f st old).ss) = (st.sbb, st.ss)) (xs : List (Body F))
    (st : MoveLoop F) : (xs.foldl f st).sbb = st.sbb ∧ (xs.foldl f st).ss = st.ss := by
  have h := foldl_keeps (fun st : MoveLoop F => (st.sbb, st.ss)) hf xs st
  exact ⟨congrArg Prod.fst h, congrArg Prod.snd h⟩

private theorem moveParts_reregisters (head newHead : Body F) (rest : List (Body F))
    (sbb : SnakeBoundBox F) (ss : SectorSeq) :
    Reregisters sbb ss (moveParts head newHead rest sbb ss).sbb
      (moveParts head newHead rest sbb ss).ss := by
  apply foldl_inv (fun _ (st : MoveLoop F) => Reregisters sbb ss st.sbb st.ss)
    (fun old _ st h => h.trans (moveTail_reregisters st old))
  obtain ⟨hsbb, hss⟩ := foldl_sbb_ss (f := moveIntermediate) (fun _ _ => rfl)
    ((rest.drop (partsSkipCount - 1)).take partsStartMoveCount)
    { (rest.take (partsSkipCount - 1)).foldl moveSkip
        { done := [], prev := head, last := newHead, bbx := newHead.x, bby := newHead.y
          i := 1, j := 0, sbb := sbb, ss := ss } with j := 0 }
  obtain ⟨hsbb', hss'⟩ := foldl_sbb_ss (f := moveSkip) (fun _ _ => rfl)
    (rest.take (partsSkipCount - 1))
    { done := [], prev := head, last := newHead, bbx := newHead.x, bby := newHead.y
      i := 1, j := 0, sbb := sbb, ss := ss }
  dsimp only at hsbb hss hsbb' hss' ⊢
  rw [hsbb, hss, hsbb', hss']
  exact .refl _ _

private theorem leaveSectors_reregisters (s : Snake F) (ss : SectorSeq) :
    RegStep s ss (s.leaveSectors ss).1 (s.leaveSectors ss).2 :=
  updateBoxOldSectors_reregisters s.sbb ss

private theorem moveBody_reregisters (m : Libm F) (moveDist : F) (s : Snake F) (ss : SectorSeq) :
    RegStep s ss (s.moveBody m moveDist ss).1 (s.moveBody m moveDist ss).2 := by
  have hhead : Reregisters s.sbb ss (s.enterHead ss (s.movedHead m moveDist)).1
      (s.enterHead ss (s.movedHead m moveDist)).2 := updateBoxNewSectors_reregisters _ _ _ _ _ _ _
  have hloops := hhead.trans (moveParts_reregisters s.getHead (s.movedHead m moveDist)
    s.parts.tail _ _)
  have hsettle : Reregisters (s.moveLoops ss (s.movedHead m moveDist)).sbb
      (s.moveLoops ss (s.movedHead m moveDist)).ss (s.settled ss (s.movedHead m moveDist)).sbb
      (s.moveLoops ss (s.movedHead m moveDist)).ss := .of_same rfl rfl fun _ => rfl
  exact (hloops.trans hsettle).trans (leaveSectors_reregisters _ _)

theorem snakes_put (ss : SectorSeq) (p : SectorPtr) (sec : Sector)
    (h : sec.snakes = (ss.cell p).snakes) (q : SectorPtr) :
    ((ss.put p sec).cell q).snakes = (ss.cell q).snakes := by
  rw [SectorSeq.cell_put]
  by_cases hq : q = p
  · subst hq
    simpa using h
  · simp [hq]

theorem snakes_insertFood (ss : SectorSeq) (p : SectorPtr) (f : Food) (q : SectorPtr) :
    ((ss.modify p fun sec => sec.insert f).cell q).snakes = (ss.cell q).snakes :=
  snakes_put ss p ((ss.cell p).insert f) rfl q

theorem sbb_onFoodEaten (s : Snake F) (f : Food) : (s.onFoodEaten f).sbb = s.sbb := by
  simp only [onFoodEaten, increaseSnake, updateSnakeConsts]
  split <;> rfl

private theorem eatLeft_frame (close : Food → Bool) (i : ℕ) (s : Snake F) (sec : Sector) :
    (eatLeft close i s sec).1.sbb = s.sbb ∧ (eatLeft close i s sec).2.1.snakes = sec.snakes := by
  induction i generalizing s sec with
  | zero => exact ⟨rfl, rfl⟩
  | succ i ih =>
      rw [eatLeft]
      split
      · exact ⟨rfl, rfl⟩
      · split
        · rw [(ih _ _).1, (ih _ _).2, sbb_onFoodEaten]
          exact ⟨rfl, rfl⟩
        · exact ⟨rfl, rfl⟩

private theorem eatRight_frame (close : Food → Bool) (i fuel : ℕ) (s : Snake F) (sec : Sector) :
    (eatRight close i fuel s sec).1.sbb = s.sbb ∧
      (eatRight close i fuel s sec).2.snakes = sec.snakes := by
  induction fuel generalizing s sec with
  | zero => exact ⟨rfl, rfl⟩
  | succ fuel ih =>
      rw [eatRight]
      split
      · exact ⟨rfl, rfl⟩
      · split
        · rw [(ih _ _).1, (ih _ _).2, sbb_onFoodEaten]
          exact ⟨rfl, rfl⟩
        · exact ⟨rfl, rfl⟩

private theorem spawnFood_reregisters (s : Snake F) (ss : SectorSeq) (f : Food) :
    RegStep s ss (s.spawnFood ss f).1 (s.spawnFood ss f).2 := by
  simp only [spawnFood]
  split
  · exact .of_same rfl rfl (snakes_insertFood _ _ _)
  · exact .refl _ _

private theorem decreaseSnake_reregisters (s : Snake F) (ss : SectorSeq) (volume : ℕ) :
    RegStep s ss (s.decreaseSnake ss volume).1 (s.decreaseSnake ss volume).2 := by
  have hdrop : ∀ st : Snake F × SectorSeq,
      RegStep st.1 st.2 (dropPart st).1 (dropPart st).2 := by
    intro st
    simp only [dropPart]
    split
    · exact spawnFood_reregisters _ _ _
    · exact .refl _ _
  simp only [decreaseSnake, updateSnakeConsts]
  split
  · exact foldl_inv (fun _ st => RegStep s ss st.1 st.2)
      (fun _ _ st h => h.trans (hdrop st)) _ (s, ss) (.refl _ _)
  · exact .refl _ _

private theorem updateAcceleration_reregisters (s : Snake F) (ss : SectorSeq) :
    RegStep s ss (s.updateAcceleration ss).1 (s.updateAcceleration ss).2 := by
  simp only [updateAcceleration]
  split
  · split
    · exact .refl _ _
    · exact decreaseSnake_reregisters s ss 33
  · exact .refl _ _

private theorem updateEatenFood_reregisters (s : Snake F) (ss : SectorSeq) :
    Post (s.updateEatenFood ss) (fun r => RegStep s ss r.1 r.2) (fun e => e = .sectorIndex) := by
  refine (updateEatenFood_post s ss).mono ?_ fun _ h => h
  rintro r ⟨p, close, i₀, fuel, rfl⟩
  have hl := eatLeft_frame close i₀ s (ss.cell p)
  have hr := eatRight_frame close (eatLeft close i₀ s (ss.cell p)).2.2 fuel
    (eatLeft close i₀ s (ss.cell p)).1 (eatLeft close i₀ s (ss.cell p)).2.1
  have hsbb := hr.1.trans hl.1
  exact .of_same (by rw [hsbb]) (by rw [hsbb]) (snakes_put _ _ _ (hr.2.trans hl.2))

private theorem sbb_updateSpeed (framesTicks : ℕ) (s : Snake F) :
    (s.updateSpeed framesTicks).1.sbb = s.sbb := by
  obtain ⟨speed, hspeed⟩ := s.updateSpeed_eq framesTicks
  rw [hspeed]

private theorem moveFrames_reregisters (m : Libm F) (framesTicks : ℕ) (s : Snake F)
    (ss : SectorSeq) :
    Post (s.moveFrames m framesTicks ss) (fun r => RegStep s ss r.snake r.ss)
      (fun e => e = .sectorIndex) := by
  apply Post.bind (updateEatenFood_reregisters _ _)
  intro t ht
  have hacc := updateAcceleration_reregisters t.1 t.2
  have hspeed := sbb_updateSpeed framesTicks (t.1.updateAcceleration t.2).1
  have hlast : Reregisters (t.1.updateAcceleration t.2).1.sbb (t.1.updateAcceleration t.2).2
      ((t.1.updateAcceleration t.2).1.updateSpeed framesTicks).1.sbb
      (t.1.updateAcceleration t.2).2 := hspeed ▸ .refl _ _
  exact (((moveBody_reregisters _ _ _ _).trans ht).trans hacc).trans hlast

private theorem advance_reregisters (m : Libm F) (dt : ℕ) (s : Snake F) (ss : SectorSeq) :
    Post (s.advance m dt ss) (fun a => a.snake.id = s.id ∧ RegStep s ss a.snake a.ss)
      (fun e => e = .sectorIndex ∨ e = .divByZero) := by
  have hsbb : ((s.tickBot m dt).tickRotation m dt).1.sbb = s.sbb :=
    congrArg (fun b => b.2.1)
      ((body_tickRotation m dt (s.tickBot m dt)).trans (body_tickBot m dt s))
  have hreg : Post (s.advance m dt ss) (fun a => RegStep s ss a.snake a.ss)
      (fun e => e = .sectorIndex ∨ e = .divByZero) := by
    apply advance_rule
    unfold RegStep
    rw [← hsbb]
    apply tickMovement_rule
    · exact .refl _ _
    · exact fun framesTicks => (moveFrames_reregisters m framesTicks _ ss).mono
        (fun _ h => h) fun _ h => .inl h
    · exact .inr rfl
  exact ((advance_post m dt s ss).and hreg).mono
    (fun a h => ⟨congrArg Prod.fst h.1.1, h.2⟩) fun _ h => h.1

/-- A tick registers and unregisters its own snake consistently. -/
theorem tick_reregisters (m : Libm F) (dt : ℕ) (s : Snake F) (ss : SectorSeq) :
    Post (s.tick m dt ss) (fun r => r.snake.id = s.id ∧ RegStep s ss r.snake r.ss)
      (fun e => e = .sectorIndex ∨ e = .divByZero) := by
  unfold tick
  split
  · exact ⟨rfl, .refl _ _⟩
  · apply Post.bind (advance_reregisters m dt s ss)
    rintro a ⟨hid, hreg⟩
    simp only [report]
    split <;> exact ⟨hid, hreg⟩

end Snake

end Slither
