import Slither.Game.Changes

/-!
# View ports

A view port's sectors and the changes not yet sent.  The client has the sectors sent so far; the
pending lists lead from these to the view port's own list, additions first.
-/

set_option linter.unusedSectionVars false

namespace Slither

open Framework

variable {F : Type} [Field F] [LinearOrder F] [FloorRing F]

namespace SectorSeq

theorem intersect_cell (ss ss' : SectorSeq) (p : SectorPtr) (box : BoundBoxPos F) :
    (ss.cell p).intersect box = (ss'.cell p).intersect box := by
  unfold Sector.intersect Sector.box
  rw [(ss.coords p).1, (ss.coords p).2, (ss'.coords p).1, (ss'.coords p).2]

end SectorSeq

namespace ViewPort

private theorem mem_regIfMissing {pending : List SectorPtr} {p q : SectorPtr} :
    q ∈ regIfMissing pending p ↔ q = p ∨ q ∈ pending := by
  unfold regIfMissing
  split
  · rename_i h
    constructor
    · exact .inr
    · rintro (rfl | hq)
      · exact h
      · exact hq
  · rw [List.mem_append, List.mem_singleton, or_comm]

/-- A client that has the sectors `held` comes to the view port's sectors by the pending changes. -/
structure Replays (v : ViewPort F) (held : SectorPtr → Prop) : Prop where
  sorted : v.sectors.Pairwise (· < ·)
  replay : ∀ p, p ∈ v.sectors ↔ (held p ∨ p ∈ v.newSectors) ∧ p ∉ v.oldSectors

/-- Nothing is pending. -/
structure Flushed (v : ViewPort F) : Prop where
  new : v.newSectors = []
  old : v.oldSectors = []

/-- What the loop over the new sectors has done: `seen` are the sectors it has come to. -/
structure Extends (v v' : ViewPort F) (seen : SectorPtr → Prop) : Prop where
  sorted : v'.sectors.Pairwise (· < ·)
  sectors : ∀ p, p ∈ v'.sectors ↔ p ∈ v.sectors ∨ seen p
  new : ∀ p, p ∈ v'.newSectors ↔ p ∈ v.newSectors ∨ seen p ∧ p ∉ v.sectors
  old : v'.oldSectors = v.oldSectors
  box : v'.toBoundBoxPos = v.toBoundBoxPos

private theorem updateNewSector_extends (ss : SectorSeq) {v v' : ViewPort F}
    {seen : SectorPtr → Prop} (h : v.Extends v' seen) (p : SectorPtr) :
    v.Extends (updateNewSector ss v' p) fun q =>
      seen q ∨ q = p ∧ (ss.cell p).intersect v.toBoundBoxPos = true := by
  have hpresent : v'.isPresent p = true ↔ p ∈ v'.sectors := binarySearch_iff h.sorted p
  unfold updateNewSector
  rw [h.box]
  by_cases hin : p ∈ v'.sectors
  · -- already there: `p` was in view before or has been seen
    rw [hpresent.mpr hin, if_neg (by simp)]
    have hold := (h.sectors p).mp hin
    refine ⟨h.sorted, fun q => ?_, fun q => ?_, h.old, h.box⟩
    · rw [h.sectors]
      by_cases hq : q = p
      · subst hq
        tauto
      · tauto
    · rw [h.new]
      by_cases hq : q = p
      · subst hq
        tauto
      · tauto
  · have habs : v'.isPresent p = false := by
      rw [← Bool.not_eq_true, hpresent]
      exact hin
    have hfresh : p ∉ v.sectors ∧ ¬ seen p := by
      rw [h.sectors] at hin
      tauto
    cases hcut : (ss.cell p).intersect v.toBoundBoxPos with
    | false =>
        rw [habs, if_neg (by simp)]
        refine ⟨h.sorted, fun q => ?_, fun q => ?_, h.old, h.box⟩
        · rw [h.sectors]
          simp
        · rw [h.new]
          simp
    | true =>
        rw [habs, if_pos (by simp)]
        have hperm := insertAtLowerBound_perm (fun q => decide (q < p)) p v'.sectors
        refine ⟨insertAtLowerBound_sorted h.sorted hin, fun q => ?_, fun q => ?_, h.old, h.box⟩
        · show q ∈ insertAtLowerBound (fun q => decide (q < p)) p v'.sectors ↔ _
          rw [hperm.mem_iff, List.mem_cons, h.sectors]
          tauto
        · show q ∈ regIfMissing v'.newSectors p ↔ _
          rw [mem_regIfMissing, h.new]
          by_cases hq : q = p
          · subst hq
            tauto
          · tauto

/-- Moving to `(newX, newY)` brings the sectors around it into view, as far as they touch the view
port where it was. -/
theorem updateBoxNewSectors_extends {v : ViewPort F} (hs : v.sectors.Pairwise (· < ·))
    (ss : SectorSeq) (newX newY oldX oldY : F) :
    v.Extends (v.updateBoxNewSectors ss newX newY oldX oldY) fun p =>
      ¬ (sectorCoord newX = sectorCoord oldX ∧ sectorCoord newY = sectorCoord oldY) ∧
      p ∈ sectorsAround (sectorCoord newX) (sectorCoord newY) 3 ∧
        (ss.cell p).intersect v.toBoundBoxPos = true := by
  have hrefl : v.Extends v fun _ => False :=
    ⟨hs, fun p => by simp, fun p => by simp, rfl, rfl⟩
  have hloop : ∀ (ps : List SectorPtr) (v' : ViewPort F) (seen : SectorPtr → Prop),
      v.Extends v' seen → v.Extends (ps.foldl (updateNewSector ss) v') fun p =>
        seen p ∨ p ∈ ps ∧ (ss.cell p).intersect v.toBoundBoxPos = true := by
    intro ps
    induction ps with
    | nil =>
        intro v' seen h
        simpa using h
    | cons p ps ih =>
        intro v' seen h
        rw [List.foldl_cons]
        have hnext := ih _ _ (updateNewSector_extends ss h p)
        have hseen : (fun q => (seen q ∨ q = p ∧ (ss.cell p).intersect v.toBoundBoxPos = true) ∨
            q ∈ ps ∧ (ss.cell q).intersect v.toBoundBoxPos = true) =
            fun q => seen q ∨ q ∈ p :: ps ∧ (ss.cell q).intersect v.toBoundBoxPos = true := by
          funext q
          rw [List.mem_cons]
          by_cases hq : q = p
          · subst hq
            simp only [true_and, true_or, eq_iff_iff]
            tauto
          · simp only [hq, false_and, or_false, false_or]
        exact hseen ▸ hnext
  unfold updateBoxNewSectors
  dsimp only
  split
  · rename_i hsame
    simpa [hsame] using hrefl
  · rename_i hcross
    have h := hloop (sectorsAround (sectorCoord newX) (sectorCoord newY) 3) v _ hrefl
    simpa [hcross] using h

/-- What is left after the sectors out of sight have gone. -/
theorem updateBoxOldSectors_spec {v : ViewPort F} (hs : v.sectors.Pairwise (· < ·))
    (ss : SectorSeq) :
    (v.updateBoxOldSectors ss).sectors =
      v.sectors.filter (fun p => (ss.cell p).intersect v.toBoundBoxPos) ∧
    (v.updateBoxOldSectors ss).newSectors = v.newSectors ∧
    (∀ p, p ∈ (v.updateBoxOldSectors ss).oldSectors ↔ p ∈ v.oldSectors ∨
      p ∈ v.sectors ∧ (ss.cell p).intersect v.toBoundBoxPos = false) ∧
    (v.updateBoxOldSectors ss).toBoundBoxPos = v.toBoundBoxPos := by
  obtain ⟨hfilter, dropped, hperm, hdrop⟩ := swapRemoveSorted_eq_filter
    (fun p => (ss.cell p).intersect v.toBoundBoxPos) regOldSectorIfMissing hs v
  have hreg : ∀ (ps : List SectorPtr) (v' : ViewPort F),
      (ps.foldl regOldSectorIfMissing v').newSectors = v'.newSectors ∧
      (ps.foldl regOldSectorIfMissing v').toBoundBoxPos = v'.toBoundBoxPos ∧
      ∀ p, p ∈ (ps.foldl regOldSectorIfMissing v').oldSectors ↔ p ∈ v'.oldSectors ∨ p ∈ ps := by
    intro ps
    induction ps with
    | nil =>
        intro v'
        simp
    | cons q ps ih =>
        intro v'
        obtain ⟨hnew, hbox, hold⟩ := ih (v'.regOldSectorIfMissing q)
        refine ⟨hnew, hbox, fun p => ?_⟩
        rw [List.foldl_cons, hold, List.mem_cons]
        show p ∈ regIfMissing v'.oldSectors q ∨ _ ↔ _
        rw [mem_regIfMissing]
        tauto
  obtain ⟨hnew, hbox, hold⟩ := hreg dropped v
  unfold updateBoxOldSectors
  dsimp only
  refine ⟨hfilter, by rw [hdrop]; exact hnew, fun p => ?_, by rw [hdrop]; exact hbox⟩
  rw [hdrop, hold, hperm.mem_iff, List.mem_filter, Bool.not_eq_true']

private theorem Replays.move {v : ViewPort F} {held : SectorPtr → Prop} (h : v.Replays held)
    (hf : v.Flushed) (ss ss' : SectorSeq) (newX newY oldX oldY x y r : F) :
    ({ v.updateBoxNewSectors ss newX newY oldX oldY with x := x, y := y, r := r } :
      ViewPort F).updateBoxOldSectors ss' |>.Replays held := by
  have hext := updateBoxNewSectors_extends h.sorted ss newX newY oldX oldY
  generalize v.updateBoxNewSectors ss newX newY oldX oldY = v₁ at hext
  obtain ⟨hsectors, hnew, hold, -⟩ := updateBoxOldSectors_spec
    (v := { v₁ with x := x, y := y, r := r }) hext.sorted ss'
  generalize ({ v₁ with x := x, y := y, r := r } : ViewPort F).updateBoxOldSectors ss' = v₂
    at hsectors hnew hold
  dsimp only at hsectors hnew hold
  have hheld : ∀ p, p ∈ v.sectors ↔ held p := by
    intro p
    rw [h.replay, hf.new, hf.old]
    simp
  refine ⟨by rw [hsectors]; exact hext.sorted.filter _, fun p => ?_⟩
  have h₁ := hext.sectors p
  have h₂ := hext.new p
  rw [hf.new] at h₂
  rw [hsectors, hnew, List.mem_filter, hold, hext.old, hf.old, ← hheld]
  simp only [List.not_mem_nil, false_or] at h₂ ⊢
  cases (ss'.cell p).intersect (⟨x, y, r⟩ : BoundBoxPos F) <;> simp only [and_true, and_false,
    Bool.true_eq_false, Bool.false_eq_true] <;> tauto

private theorem Replays.enter {v : ViewPort F} {held : SectorPtr → Prop} (h : v.Replays held)
    (hf : v.Flushed) (ss : SectorSeq) (newX newY oldX oldY : F) :
    (v.updateBoxNewSectors ss newX newY oldX oldY).Replays held := by
  have hext := updateBoxNewSectors_extends h.sorted ss newX newY oldX oldY
  refine ⟨hext.sorted, fun p => ?_⟩
  have hheld := h.replay p
  rw [hext.sectors, hext.new, hext.old, hheld, hf.new, hf.old]
  simp only [List.not_mem_nil, false_or, not_false_eq_true, and_true, or_false]
  tauto

end ViewPort

namespace Snake

private theorem vp_onFoodEaten (s : Snake F) (f : Food) : (s.onFoodEaten f).vp = s.vp := by
  simp only [onFoodEaten, increaseSnake, updateSnakeConsts]
  split <;> rfl

private theorem vp_updateAcceleration (s : Snake F) (ss : SectorSeq) :
    (s.updateAcceleration ss).1.vp = s.vp :=
  updateAcceleration_keeps Snake.vp (fun _ _ _ _ => rfl) (fun _ _ => rfl) (fun _ => rfl) s ss

private theorem vp_updateSpeed (framesTicks : ℕ) (s : Snake F) :
    (s.updateSpeed framesTicks).1.vp = s.vp := by
  obtain ⟨speed, hspeed⟩ := s.updateSpeed_eq framesTicks
  rw [hspeed]

theorem moveFrames_vp (m : Libm F) (framesTicks : ℕ) (s : Snake F) (ss : SectorSeq) :
    Post (s.moveFrames m framesTicks ss)
      (fun r => r.pos = true ∧ r.snake.vp =
        (s.moveBody m (((s.speed * framesTicks : ℕ) : F) / 1000) ss).1.vp)
      (fun e => e = .sectorIndex) := by
  apply Post.bind (updateEatenFood_keeps Snake.vp vp_onFoodEaten _ _)
  intro t ht
  exact ⟨rfl, (vp_updateSpeed _ _).trans ((vp_updateAcceleration _ _).trans ht)⟩

/-- A player's view port after its head has moved to `newHead`. -/
def movedView (v : ViewPort F) (ss ss' : SectorSeq) (oldHead newHead : Body F) : ViewPort F :=
  ({ v.updateBoxNewSectors ss newHead.x newHead.y oldHead.x oldHead.y with
    x := newHead.x, y := newHead.y, r := (WorldConfig.sectorDiagSize : F) * 3 } :
      ViewPort F).updateBoxOldSectors ss'

theorem vp_moveBody (m : Libm F) (moveDist : F) {s : Snake F} (ss : SectorSeq)
    (hbot : s.bot = false) :
    ∃ ss₁ ss₂, (s.moveBody m moveDist ss).1.vp =
      movedView s.vp ss₁ ss₂ s.getHead (s.movedHead m moveDist) := by
  refine ⟨(s.enterHead ss (s.movedHead m moveDist)).2,
    ((s.settled ss (s.movedHead m moveDist)).sbb.updateBoxOldSectors
      (s.moveLoops ss (s.movedHead m moveDist)).ss).2, ?_⟩
  have hbot' : (s.settled ss (s.movedHead m moveDist)).bot = false := hbot
  unfold moveBody leaveSectors
  dsimp only
  rw [hbot', if_neg Bool.false_ne_true]
  show ({ s.enterView ss (s.movedHead m moveDist) with
    x := _, y := _, r := _ } : ViewPort F).updateBoxOldSectors _ = _
  unfold enterView
  rw [hbot, if_neg Bool.false_ne_true]
  rfl

private theorem advance_vp (m : Libm F) (dt : ℕ) {s : Snake F} (ss : SectorSeq)
    (hbot : s.bot = false) :
    Post (s.advance m dt ss)
      (fun a => if a.changes.changePos then
          ∃ ss₁ ss₂ newHead, a.snake.vp = movedView s.vp ss₁ ss₂ s.getHead newHead
        else a.snake.vp = s.vp)
      (fun e => e = .sectorIndex ∨ e = .divByZero) := by
  have hbody : ((s.tickBot m dt).tickRotation m dt).1.body = s.body :=
    (body_tickRotation m dt (s.tickBot m dt)).trans (body_tickBot m dt s)
  have hkept : ((s.tickBot m dt).tickRotation m dt).1.kept = s.kept :=
    (kept_tickRotation m dt (s.tickBot m dt)).trans (kept_tickBot m dt s)
  apply advance_rule
  generalize ((s.tickBot m dt).tickRotation m dt).1 = t at hbody hkept
  have hvp : t.vp = s.vp := congrArg (fun b => b.2.2.1) hbody
  have hhead : t.getHead = s.getHead := by
    unfold getHead
    rw [show t.parts = s.parts from congrArg Prod.fst hbody]
  have htbot : t.bot = false := (congrArg (fun k => k.2.1) hkept).trans hbot
  apply tickMovement_rule
  · exact hvp
  · intro framesTicks
    let u : Snake F := { t with movTicks := t.movTicks + dt }
    obtain ⟨ss₁, ss₂, hmove⟩ := vp_moveBody m (((u.speed * framesTicks : ℕ) : F) / 1000)
      (s := u) ss htbot
    refine (moveFrames_vp m framesTicks u ss).mono ?_ fun e he => .inl he
    rintro r ⟨hpos, hr⟩
    rw [if_pos hpos]
    refine ⟨ss₁, ss₂, u.movedHead m (((u.speed * framesTicks : ℕ) : F) / 1000), ?_⟩
    have huvp : u.vp = s.vp := hvp
    have huhead : u.getHead = s.getHead := hhead
    rw [← huvp, ← huhead]
    exact hr.trans hmove
  · exact .inr rfl

/-- The pending changes of a view port lead to its sectors after a tick too, and a movement is
reported with them. -/
theorem tick_replays {m : Libm F} {dt : ℕ} {s : Snake F} {ss : SectorSeq}
    {held : SectorPtr → Prop} (hquiet : s.Quiet) (hbot : s.bot = false)
    (hv : s.vp.Replays held) (hf : s.vp.Flushed) :
    Post (s.tick m dt ss)
      (fun r => r.snake.vp.Replays held ∧
        (r.snake.vp.Flushed ∨ r.changed = true ∧ r.snake.update.changePos = true))
      (fun _ => True) := by
  unfold tick
  split
  · exact ⟨hv, .inl hf⟩
  · cases hadv : s.advance m dt ss with
    | error e => trivial
    | ok a =>
        have hview := (advance_vp m dt ss hbot).of_ok hadv
        obtain ⟨hkept, -, hwangle, hfullness, hdying, hdead⟩ := (advance_post m dt s ss).of_ok hadv
        show _ ∧ ((report a).snake.vp.Flushed ∨ _)
        have hvp : (report a).snake.vp = a.snake.vp := by
          unfold report
          split <;> rfl
        rw [hvp]
        cases hpos : a.changes.changePos with
        | false =>
            rw [hpos, if_neg Bool.false_ne_true] at hview
            rw [hview]
            exact ⟨hv, .inl hf⟩
        | true =>
            rw [hpos, if_pos rfl] at hview
            obtain ⟨ss₁, ss₂, newHead, hmoved⟩ := hview
            rw [hmoved]
            refine ⟨hv.move hf _ _ _ _ _ _ _ _ _, .inr ?_⟩
            simp only [kept, Changes.announced, Prod.mk.injEq] at hkept
            obtain ⟨-, -, -, hpos', hangle, hspeed, -⟩ := hkept
            have hchanged := report_changed (hpos'.trans hquiet.pos) (hangle.trans hquiet.angle)
              (hspeed.trans hquiet.speed) hwangle hfullness hdying hdead
            have hne : a.changes ≠ ∅ := by
              intro h
              rw [h] at hpos
              cases hpos
            have hyes : (report a).changed = true := by
              rw [hchanged]
              exact decide_eq_true hne
            refine ⟨hyes, ?_⟩
            unfold report at hyes ⊢
            split at hyes
            · rename_i hc
              rw [if_pos hc]
              simp [hpos]
            · cases hyes

end Snake

namespace World

theorem createSnake_replays (m : Libm F) (w : World F) :
    Post (w.createSnake m) (fun r => r.1.vp.Replays fun _ => False) (fun _ => True) := by
  refine (createSnake_post m w).mono ?_ fun _ _ => trivial
  rintro _ ⟨skin, x, y, angle, body, rng, rfl⟩
  generalize hs : Snake.newborn m ((w.lastSnakeId + 1) % 65536) skin x y angle body = s
  have hbot : s.bot = false := by rw [← hs]; rfl
  have hf : s.vp.Flushed := by rw [← hs]; exact ⟨rfl, rfl⟩
  have hsectors : s.vp.sectors = [] := by rw [← hs]; rfl
  have hv : s.vp.Replays fun _ => False := by
    refine ⟨by rw [hsectors]; exact .nil, fun p => ?_⟩
    rw [hsectors, hf.new]
    simp
  show (if s.bot = true then s.vp else s.vp.updateBoxNewSectors _ _ _ _ _).Replays _
  rw [hbot, if_neg Bool.false_ne_true]
  exact hv.enter hf _ _ _ _ _

end World

end Slither
