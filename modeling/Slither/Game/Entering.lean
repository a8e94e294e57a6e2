import Slither.Game.Enclosure
import Slither.Game.Grid
import Slither.Game.OldSectors
import Slither.Game.Registration

/-!
# Entering sectors

Which sectors a move adds to the list of a body, and which ones are left at its end.  The head is
registered in what it enters and so is every part from the seventh on; the parts in between are not.
-/

set_option linter.unusedSectionVars false

namespace Slither

open Framework

variable {F : Type} [Field F] [LinearOrder F] [FloorRing F]

/-- The way from `old` to `new` leads to another sector, and `p` is next to it or the same and in
reach of the radius for parts. -/
structure Enters (new old : F × F) (p : SectorPtr) : Prop where
  crosses : ¬ (sectorCoord new.1 = sectorCoord old.1 ∧ sectorCoord new.2 = sectorCoord old.2)
  around : p ∈ sectorsAround (sectorCoord new.1) (sectorCoord new.2) 1
  near : touches p (⟨new.1, new.2, Snake.partBoxRadius⟩ : BoundBoxPos F) = true

instance (new old : F × F) (p : SectorPtr) : Decidable (Enters new old p) :=
  decidable_of_iff
    (¬ (sectorCoord new.1 = sectorCoord old.1 ∧ sectorCoord new.2 = sectorCoord old.2) ∧
      p ∈ sectorsAround (sectorCoord new.1) (sectorCoord new.2) 1 ∧
        touches p (⟨new.1, new.2, Snake.partBoxRadius⟩ : BoundBoxPos F) = true)
    ⟨fun h => ⟨h.1, h.2.1, h.2.2⟩, fun h => ⟨h.crosses, h.around, h.near⟩⟩

namespace SnakeBoundBox

/-- The sectors of `b'` are those of `b` and the ones that are `entered`. -/
structure Adds (b b' : SnakeBoundBox F) (entered : SectorPtr → Prop) : Prop where
  sorted : b'.sectors.Pairwise (· < ·)
  sectors : ∀ p, p ∈ b'.sectors ↔ p ∈ b.sectors ∨ entered p

namespace Adds

variable {b b' b'' : SnakeBoundBox F} {entered entered' : SectorPtr → Prop}

theorem refl (hs : b.sectors.Pairwise (· < ·)) : b.Adds b fun _ => False :=
  ⟨hs, fun p => by simp⟩

theorem trans (h : b.Adds b' entered) (h' : b'.Adds b'' entered') :
    b.Adds b'' fun p => entered p ∨ entered' p :=
  ⟨h'.sorted, fun p => by rw [h'.sectors, h.sectors, or_assoc]⟩

theorem congr (h : b.Adds b' entered) (hiff : ∀ p, entered p ↔ entered' p) :
    b.Adds b' entered' :=
  ⟨h.sorted, fun p => by rw [h.sectors, hiff]⟩

end Adds

private theorem updateNewSector_adds (box : BoundBoxPos F) {st : SnakeBoundBox F × SectorSeq}
    (hs : st.1.sectors.Pairwise (· < ·)) (p : SectorPtr) :
    st.1.Adds (updateNewSector box st p).1 fun q => q = p ∧ touches p box = true := by
  have hpres : st.1.isPresent p = true ↔ p ∈ st.1.sectors := binarySearch_iff hs p
  unfold updateNewSector
  rw [intersect_eq_touches]
  split
  · rename_i h
    simp only [Bool.and_eq_true, Bool.not_eq_true'] at h
    have habs : p ∉ st.1.sectors := fun hmem => by
      rw [hpres.mpr hmem] at h
      cases h.1
    have hperm := insertAtLowerBound_perm (fun q => decide (q < p)) p st.1.sectors
    refine ⟨insertAtLowerBound_sorted hs habs, fun q => ?_⟩
    show q ∈ insertAtLowerBound (fun q => decide (q < p)) p st.1.sectors ↔ _
    rw [hperm.mem_iff, List.mem_cons, and_iff_left h.2, or_comm]
  · rename_i h
    refine ⟨hs, fun q => ?_⟩
    simp only [Bool.and_eq_true, Bool.not_eq_true', not_and] at h
    refine ⟨.inl, fun hq => hq.elim id ?_⟩
    rintro ⟨rfl, htouch⟩
    by_contra habs
    exact h (Bool.eq_false_iff.mpr fun hp => habs (hpres.mp hp)) htouch

/-- A part that moves is registered in the sectors it enters. -/
theorem updateBoxNewSectors_adds {b : SnakeBoundBox F} (hs : b.sectors.Pairwise (· < ·))
    (ss : SectorSeq) (new old : F × F) :
    b.Adds (b.updateBoxNewSectors ss Snake.partBoxRadius new.1 new.2 old.1 old.2).1
      (Enters new old) := by
  have hloop : ∀ (ps : List SectorPtr) (st : SnakeBoundBox F × SectorSeq) (box : BoundBoxPos F),
      st.1.sectors.Pairwise (· < ·) →
      st.1.Adds (ps.foldl (updateNewSector box) st).1 fun q => q ∈ ps ∧ touches q box = true := by
    intro ps
    induction ps with
    | nil =>
        intro st box hst
        exact (Adds.refl hst).congr fun p => by simp
    | cons p ps ih =>
        intro st box hst
        have hfirst := updateNewSector_adds box hst p
        refine (hfirst.trans (ih _ box hfirst.sorted)).congr fun q => ?_
        rw [List.mem_cons, or_and_right]
        refine or_congr_left (and_congr_right ?_)
        rintro rfl
        rfl
  unfold updateBoxNewSectors
  dsimp only
  split
  · rename_i hsame
    exact (Adds.refl hs).congr fun p => iff_of_false id fun h => h.crosses hsame
  · rename_i hcross
    exact (hloop _ (b, ss) _ hs).congr fun p =>
      ⟨fun h => ⟨hcross, h.1, h.2⟩, fun h => ⟨h.around, h.near⟩⟩

end SnakeBoundBox

namespace Snake

open SnakeBoundBox

/-- The parts that are registered where they go. -/
def Sampled (k : ℕ) : Prop := k = 0 ∨ 7 ≤ k

instance (k : ℕ) : Decidable (Sampled k) := inferInstanceAs (Decidable (_ ∨ _))

/-- Where part `k` of `parts` goes when the head moves to `newHead`. -/
def movedPoint (newHead : Body F) (parts : List (Body F)) (k : ℕ) : F × F :=
  follow followCoeff newHead.pt (point parts) k

/-- Part `k` of `parts` enters the sector when the head moves to `newHead`. -/
def PartEnters (newHead : Body F) (parts : List (Body F)) (k : ℕ) (p : SectorPtr) : Prop :=
  Enters (movedPoint newHead parts k) (point parts k) p

/-- The sectors after a move of the head to `newHead`, before any is dropped. -/
def SectorsAfter (s : Snake F) (newHead : Body F) (p : SectorPtr) : Prop :=
  p ∈ s.sbb.sectors ∨ ∃ k < s.parts.length, Sampled k ∧ PartEnters newHead s.parts k p

instance (s : Snake F) (newHead : Body F) (p : SectorPtr) :
    Decidable (s.SectorsAfter newHead p) :=
  inferInstanceAs (Decidable (_ ∨ ∃ k < _, _ ∧ Enters _ _ p))

/-- The loop over the tail when it is done with `done`: no part of it is left out. -/
structure TailEntering (newHead : Body F) (parts rem : List (Body F)) (b : SnakeBoundBox F)
    (st : MoveLoop F) : Prop where
  following : Following newHead parts rem [] st
  six : rem = [] ∨ 6 ≤ st.done.length
  index : st.i = st.done.length + 1
  due : st.i ≤ st.j + tailStep
  adds : b.Adds st.sbb fun p => ∃ k, 7 ≤ k ∧ k ≤ st.done.length ∧ PartEnters newHead parts k p

private theorem moveTail_due {st : MoveLoop F} (h : st.i ≤ st.j + tailStep) (old : Body F) :
    moveTail st old =
      let pt := pull snakeTailK st.prev st.last
      let r := st.sbb.updateBoxNewSectors st.ss partBoxRadius pt.x pt.y old.x old.y
      { st with sbb := r.1, ss := r.2, j := st.i }.push pt old := by
  unfold moveTail
  dsimp only
  rw [if_pos h]

private theorem TailEntering.next {newHead : Body F} {parts rem : List (Body F)} {old : Body F}
    {b : SnakeBoundBox F} {st : MoveLoop F} (h : TailEntering newHead parts (old :: rem) b st) :
    TailEntering newHead parts rem b (moveTail st old) := by
  have hsix : 6 ≤ st.done.length := h.six.resolve_left (List.cons_ne_nil _ _)
  have hfollow := h.following.tail hsix
  have hdone := length_moveTail st old
  have hlast := hfollow.last
  have hprev := hfollow.prev
  rw [hdone, moveTail_due h.due old] at hlast hprev
  have henter := updateBoxNewSectors_adds h.adds.sorted st.ss
    (pull snakeTailK st.prev st.last).pt old.pt
  have hpart : Enters (pull snakeTailK st.prev st.last).pt old.pt =
      PartEnters newHead parts (st.done.length + 1) := congrArg₂ Enters hlast hprev
  rw [hpart] at henter
  refine ⟨hfollow, .inr (by omega), ?_, ?_, ?_⟩
  · rw [hdone, moveTail_due h.due]
    exact congrArg (· + 1) h.index
  · rw [moveTail_due h.due]
    exact Nat.add_le_add_left (by norm_num) _
  · rw [hdone, moveTail_due h.due]
    refine (h.adds.trans henter).congr fun p => ?_
    constructor
    · rintro (⟨k, hlo, hhi, hk⟩ | hk)
      · exact ⟨k, hlo, by omega, hk⟩
      · exact ⟨_, by omega, le_rfl, hk⟩
    · rintro ⟨k, hlo, hhi, hk⟩
      rcases Nat.le_succ_iff.mp hhi with hhi | rfl
      · exact .inl ⟨k, hlo, hhi, hk⟩
      · exact .inr hk

private theorem moveParts_adds (head newHead : Body F) {parts : List (Body F)}
    (h3 : 3 ≤ parts.length) (hhead : point parts 0 = head.pt) {sbb : SnakeBoundBox F}
    (hs : sbb.sectors.Pairwise (· < ·)) (ss : SectorSeq) :
    sbb.Adds (moveParts head newHead parts.tail sbb ss).sbb fun p =>
      ∃ k < parts.length, 7 ≤ k ∧ PartEnters newHead parts k p := by
  obtain ⟨hstart, hsix, hle, hj, hi, hsbb, -⟩ := beforeTail_following newHead
    sbb ss h3 hhead
  have hlen := length_moveParts head newHead parts.tail sbb ss
  rw [List.length_tail] at hlen
  have hrun : TailEntering newHead parts [] sbb (moveParts head newHead parts.tail sbb ss) := by
    rw [moveParts_eq]
    refine foldl_inv (TailEntering newHead parts · sbb) (fun _ _ _ h => h.next) _ _
      ⟨hstart, hsix.imp_right ge_of_eq, hi, ?_, ?_⟩
    · rw [hi, hj]
      show _ ≤ 0 + 12
      omega
    · rw [hsbb]
      exact (Adds.refl hs).congr fun p => iff_of_false not_false fun ⟨k, hlo, hhi, _⟩ => by omega
  refine hrun.adds.congr fun p => exists_congr fun k => ?_
  rw [hlen]
  constructor
  · exact fun ⟨hlo, hhi, hk⟩ => ⟨by omega, hlo, hk⟩
  · exact fun ⟨hhi, hlo, hk⟩ => ⟨hlo, by omega, hk⟩

private theorem moveLoops_sectors {s : Snake F} (hs : s.sbb.sectors.Pairwise (· < ·))
    (ss : SectorSeq) (newHead : Body F) :
    (s.moveLoops ss newHead).sbb.sectors.Pairwise (· < ·) ∧
      ∀ p, p ∈ (s.moveLoops ss newHead).sbb.sectors ↔ s.SectorsAfter newHead p := by
  have hsize := s.size_parts
  have hhead : s.sbb.Adds (s.enterHead ss newHead).1 (PartEnters newHead s.parts 0) := by
    have h := updateBoxNewSectors_adds hs ss newHead.pt (point s.parts 0)
    rw [point_zero] at h
    unfold PartEnters
    rw [point_zero]
    exact h
  have hall := hhead.trans (moveParts_adds s.getHead newHead s.size_parts s.point_zero
    hhead.sorted (s.enterHead ss newHead).2)
  refine ⟨hall.sorted, fun p => (hall.sectors p).trans (or_congr_right ?_)⟩
  constructor
  · rintro (h | ⟨k, hk, hlo, h⟩)
    · exact ⟨0, by omega, .inl rfl, h⟩
    · exact ⟨k, hk, .inr hlo, h⟩
  · rintro ⟨k, hk, rfl | hlo, h⟩
    · exact .inl h
    · exact .inr ⟨k, hk, hlo, h⟩

/-- The sectors after the move: those that do not touch the circle around the body are dropped. -/
theorem leaveSectors_sectors {s : Snake F} (hs : s.sbb.sectors.Pairwise (· < ·))
    (ss ss' : SectorSeq) (newHead : Body F) :
    let b := ((s.settled ss newHead).leaveSectors ss').1.sbb
    b.sectors.Pairwise (· < ·) ∧ ∀ p, p ∈ b.sectors ↔
      s.SectorsAfter newHead p ∧ touches p (s.settled ss newHead).sbb.toBoundBoxPos = true := by
  intro b
  obtain ⟨hsorted, hmem⟩ := moveLoops_sectors hs ss newHead
  have hfilter : b.sectors = (s.moveLoops ss newHead).sbb.sectors.filter
      (ss'.inReach (s.settled ss newHead).sbb.toBoundBoxPos) :=
    ((s.settled ss newHead).sbb.updateBoxOldSectors_filtered ss' hsorted).filter
  refine ⟨hfilter ▸ hsorted.filter _, fun p => ?_⟩
  rw [hfilter, List.mem_filter, hmem, SectorSeq.inReach, intersect_eq_touches]

end Snake

end Slither
