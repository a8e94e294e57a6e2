import Slither.Game.ViewPort

/-!
# Leaving sectors

`UpdateBoxOldSectors` of a body and of a view port: the same loop, which in the one case takes the
snake out of the sectors left behind and in the other notes them for the client.
-/

set_option linter.unusedSectionVars false

namespace Slither

open Framework

variable {F : Type} [Field F] [LinearOrder F] [FloorRing F]

/-- A sector is kept if it intersects the box. -/
def SectorSeq.inReach (ss : SectorSeq) (box : BoundBoxPos F) (p : SectorPtr) : Bool :=
  (ss.cell p).intersect box

theorem SnakeBoundBox.updateBoxOldSectors_filtered (b : SnakeBoundBox F) (ss : SectorSeq)
    (hs : b.sectors.Pairwise (· < ·)) :
    SwapFiltered (ss.inReach b.toBoundBoxPos)
      (fun ss p => ss.modify p fun sec => sec.removeSnake b.id) b.sectors ss
      (b.updateBoxOldSectors ss).1.sectors (b.updateBoxOldSectors ss).2 :=
  swapRemoveSorted_filtered _ _ hs ss

namespace ViewPort

private theorem foldl_regOldSectorIfMissing (v : ViewPort F) {ps : List SectorPtr} (hn : ps.Nodup) :
    ∃ added, (ps.foldl regOldSectorIfMissing v) = { v with oldSectors := v.oldSectors ++ added } ∧
      added.Nodup ∧ ∀ p, p ∈ added ↔ p ∈ ps ∧ p ∉ v.oldSectors := by
  induction ps generalizing v with
  | nil => exact ⟨[], by simp, .nil, fun p => by simp⟩
  | cons q ps ih =>
      obtain ⟨hq, hps⟩ := List.nodup_cons.mp hn
      obtain ⟨added, hfold, hadded, hmem⟩ := ih (v.regOldSectorIfMissing q) hps
      rw [List.foldl_cons, hfold]
      by_cases hin : q ∈ v.oldSectors
      · have hsame : v.regOldSectorIfMissing q = v := by
          unfold regOldSectorIfMissing regIfMissing
          rw [if_pos hin]
        rw [hsame] at hmem ⊢
        refine ⟨added, rfl, hadded, fun p => ?_⟩
        rw [hmem, List.mem_cons]
        constructor
        · exact fun h => ⟨.inr h.1, h.2⟩
        · rintro ⟨rfl | hp, hold⟩
          · exact absurd hin hold
          · exact ⟨hp, hold⟩
      · have hnext : (v.regOldSectorIfMissing q).oldSectors = v.oldSectors ++ [q] := if_neg hin
        refine ⟨q :: added, ?_, ?_, fun p => ?_⟩
        · rw [hnext, List.append_assoc]
          rfl
        · refine List.nodup_cons.mpr ⟨fun hqa => ?_, hadded⟩
          exact hq ((hmem q).mp hqa).1
        · rw [List.mem_cons, hmem, hnext, List.mem_cons, List.mem_append, List.mem_singleton]
          constructor
          · rintro (rfl | ⟨hp, hold⟩)
            · exact ⟨.inl rfl, hin⟩
            · exact ⟨.inr hp, fun h => hold (.inl h)⟩
          · rintro ⟨rfl | hp, hold⟩
            · exact .inl rfl
            · refine .inr ⟨hp, ?_⟩
              rintro (h | rfl)
              · exact hold h
              · exact hq hp

private theorem updateBoxOldSectors_filtered (v : ViewPort F) (ss : SectorSeq)
    (hs : v.sectors.Pairwise (· < ·)) :
    SwapFiltered (ss.inReach v.toBoundBoxPos) regOldSectorIfMissing v.sectors v
        (v.updateBoxOldSectors ss).sectors { v.updateBoxOldSectors ss with sectors := v.sectors } ∧
      ∃ added, (v.updateBoxOldSectors ss).oldSectors = v.oldSectors ++ added ∧ added.Nodup ∧
        ∀ p, p ∈ added ↔
          (p ∈ v.sectors ∧ ss.inReach v.toBoundBoxPos p = false) ∧ p ∉ v.oldSectors := by
  have h := swapRemoveSorted_filtered (ss.inReach v.toBoundBoxPos) regOldSectorIfMissing hs v
  obtain ⟨added, hfold, hadded, hmem⟩ := v.foldl_regOldSectorIfMissing h.once
  have hreg := h.reports.trans hfold
  constructor
  · have hsame : ({ v.updateBoxOldSectors ss with sectors := v.sectors } : ViewPort F) =
        (swapRemoveSorted (ss.inReach v.toBoundBoxPos) regOldSectorIfMissing v.sectors v).2 := by
      show ({ (swapRemoveSorted (ss.inReach v.toBoundBoxPos) regOldSectorIfMissing v.sectors
        v).2 with sectors := v.sectors } : ViewPort F) = _
      rw [hreg]
    rw [hsame]
    exact h
  · refine ⟨added, congrArg ViewPort.oldSectors hreg, hadded, fun p => ?_⟩
    rw [hmem, h.dropped]

end ViewPort

/-- Both loops come to their end and leave the filtered list in its order.  `RemoveSnake` is called
once for each sector left behind and for no other, and a view port appends each of them once to its
old sectors, unless it is already there. -/
theorem old_sectors_filtered (ss : SectorSeq) (b : SnakeBoundBox F) (v : ViewPort F)
    (hb : b.sectors.Pairwise (· < ·)) (hv : v.sectors.Pairwise (· < ·)) :
    SwapFiltered (ss.inReach b.toBoundBoxPos)
        (fun ss p => ss.modify p fun sec => sec.removeSnake b.id) b.sectors ss
        (b.updateBoxOldSectors ss).1.sectors (b.updateBoxOldSectors ss).2 ∧
      SwapFiltered (ss.inReach v.toBoundBoxPos) ViewPort.regOldSectorIfMissing v.sectors v
        (v.updateBoxOldSectors ss).sectors { v.updateBoxOldSectors ss with sectors := v.sectors } ∧
      ∃ added, (v.updateBoxOldSectors ss).oldSectors = v.oldSectors ++ added ∧ added.Nodup ∧
        ∀ p, p ∈ added ↔
          (p ∈ v.sectors ∧ ss.inReach v.toBoundBoxPos p = false) ∧ p ∉ v.oldSectors :=
  ⟨b.updateBoxOldSectors_filtered ss hb, v.updateBoxOldSectors_filtered ss hv⟩

/-- Of three sectors of the first row, the box is in reach of the first one only. -/
theorem old_sectors_filtered_row :
    let b : SnakeBoundBox ℚ := ⟨{ x := 150, y := 150, r := 0, id := 1, sectors := [0, 2, 9] }⟩
    let v : ViewPort ℚ :=
      { x := 150, y := 150, r := 0, id := 1, sectors := [0, 2, 9], newSectors := [],
        oldSectors := [2] }
    (b.updateBoxOldSectors SectorSeq.init).1.sectors =
        [0, 2, 9].filter (SectorSeq.init.inReach b.toBoundBoxPos) ∧
      ∃ added, (v.updateBoxOldSectors SectorSeq.init).oldSectors = [2] ++ added ∧ added.Nodup := by
  intro b v
  obtain ⟨hbody, -, added, hold, hnodup, -⟩ :=
    old_sectors_filtered SectorSeq.init b v (by decide) (by decide)
  exact ⟨hbody.filter, added, hold, hnodup⟩

end Slither
