import Slither.Game.Bounds
import Slither.Game.Eating
import Slither.Game.Heads

/-!
# The border

Between two ticks of the world every living snake has its head inside the border: whoever moved out
has been marked.  The border lies 300 from the edge of the map, so a head that moves no further than
that is still on the map when its snake looks for food.
-/

set_option linter.unusedSectionVars false

namespace Slither

open Framework

variable {F : Type} [Field F] [LinearOrder F] [FloorRing F]

namespace Snake

/-- The snake is neither dying nor dead. -/
def Alive (s : Snake F) : Prop := s.update.changeDying = false ∧ s.update.changeDead = false

/-- A living snake has its head inside the border. -/
def Inside (s : Snake F) : Prop := s.Alive → ¬ s.Outside

theorem Outside.congr {s t : Snake F} (hparts : t.parts = s.parts) : t.Outside ↔ s.Outside := by
  unfold Outside getHead
  rw [hparts]

private theorem Inside.of_dying {s : Snake F} (h : s.update.changeDying = true) : s.Inside := by
  rintro ⟨hdying, -⟩
  rw [h] at hdying
  cases hdying

theorem Inside.of_dead {s : Snake F} (h : s.update.changeDead = true) : s.Inside := by
  rintro ⟨-, hdead⟩
  rw [h] at hdead
  cases hdead

private theorem tick_inside (m : Libm F) (dt : ℕ) {s : Snake F} (ss : SectorSeq)
    (hs : s.update.changeDead = true ∨ s.Quiet) (hin : s.Inside) :
    Post (s.tick m dt ss)
      (fun r => r.snake.Inside ∨ r.changed = true ∧ r.snake.update.changePos = true)
      (fun _ => True) := by
  unfold tick
  split
  · exact .inl hin
  · rename_i hlive
    simp only [Bool.or_eq_true, not_or, Bool.not_eq_true] at hlive
    have hquiet : s.Quiet := hs.resolve_left (by rw [hlive.2]; exact Bool.false_ne_true)
    refine Post.bind ((advance_post m dt s ss).mono (fun _ h => h) fun _ _ => trivial) ?_
    rintro a ⟨hkept, hstill, hwangle, hfullness, hdying, hdead⟩
    have hk := hkept
    simp only [kept, Changes.announced, Prod.mk.injEq] at hk
    obtain ⟨-, -, -, hpos, hangle, hspeed, -, -⟩ := hk
    rw [post_pure]
    cases hc : a.changes.changePos with
    | true =>
        have hne : a.changes ≠ ∅ := by
          intro h
          rw [h] at hc
          cases hc
        have hchanged := report_changed (hpos.trans hquiet.pos) (hangle.trans hquiet.angle)
          (hspeed.trans hquiet.speed) hwangle hfullness hdying hdead
        rw [decide_eq_true hne] at hchanged
        refine .inr ⟨hchanged, ?_⟩
        unfold report at hchanged ⊢
        split at hchanged
        · rename_i h
          rw [if_pos h, Changes.union_changePos, hc, Bool.or_true]
        · cases hchanged
    | false =>
        refine .inl fun _ => ?_
        have hparts : (report a).snake.parts = s.parts := by
          have hbody := congrArg Prod.fst (hstill hc).1
          unfold report
          split
          · exact hbody
          · exact hbody
        rw [Outside.congr hparts]
        exact hin hlive

/-- The head's cell is its position without the fractions, and it lies in the sector that
`get_sector` finds for it. -/
structure CellInRange (s : Snake F) : Prop where
  onMap : OnMap s.getHead.pt
  x : (s.headCell.1 : ℤ) = ⌊s.getHeadX⌋
  y : (s.headCell.2 : ℤ) = ⌊s.getHeadY⌋
  sector : ∃ p, SectorSeq.getSector (s.headCell.1 / WorldConfig.sectorSize)
    (s.headCell.2 / WorldConfig.sectorSize) = .ok p ∧ InSector p s.getHead.pt

section Order

variable [IsStrictOrderedRing F]

theorem cellInRange_iff (s : Snake F) : s.CellInRange ↔ OnMap s.getHead.pt := by
  refine ⟨fun h => h.onMap, fun h => ?_⟩
  have hx : (s.headCell.1 : ℤ) = ⌊s.getHeadX⌋ := Math.toUint16_eq_floor h.x
  have hy : (s.headCell.2 : ℤ) = ⌊s.getHeadY⌋ := Math.toUint16_eq_floor h.y
  refine ⟨h, hx, hy, ?_⟩
  obtain ⟨p, hp⟩ := exists_inSector h
  have hcell : ∀ {v : F} {n k : ℕ}, (n : ℤ) = ⌊v⌋ →
      300 * (k : F) ≤ v ∧ v < 300 * (k : F) + 300 → n / WorldConfig.sectorSize = k := by
    intro v n k hn ⟨hlo, hhi⟩
    have hge : 300 * (k : ℤ) ≤ ⌊v⌋ := Int.le_floor.mpr (by push_cast; exact hlo)
    have hlt : ⌊v⌋ < 300 * (k : ℤ) + 300 := Int.floor_lt.mpr (by push_cast; exact hhi)
    show n / 300 = k
    omega
  rw [hcell hx hp.x, hcell hy hp.y]
  exact ⟨p, getSector_self p, hp⟩

/-- The snake when a tick that moves it comes to `UpdateEatenFood`. -/
def eater (m : Libm F) (dt : ℕ) (s : Snake F) (ss : SectorSeq) : Snake F × SectorSeq :=
  (s.poised m dt).moveBody m ((((s.poised m dt).speed * s.framesTicks dt : ℕ) : F) / 1000) ss

theorem eater_getHead (m : Libm F) (dt : ℕ) (s : Snake F) (ss : SectorSeq) :
    (s.eater m dt ss).1.getHead = s.nextHead m dt := s.poised_movedHead m dt

theorem tickMovement_moves (m : Libm F) {dt : ℕ} {s : Snake F} (ss : SectorSeq)
    (h : s.framesTicks dt ≠ 0) : s.tickMovement m dt ss =
      { s with movTicks := s.movTicks + dt }.moveFrames m (s.framesTicks dt) ss := by
  have hcond : s.movTicks + dt ≥ s.movFrameInterval := by
    by_contra hlt
    exact h (if_neg hlt)
  have hticks : s.framesTicks dt = (s.movTicks + dt) / s.movFrameInterval * s.movFrameInterval :=
    if_pos hcond
  have hinterval : s.movFrameInterval ≠ 0 := by
    intro hzero
    rw [hticks, hzero, Nat.mul_zero] at h
    exact h rfl
  have hspeed : s.speed ≠ 0 := by
    intro hzero
    rw [movFrameInterval, hzero, Nat.div_zero] at hinterval
    exact hinterval rfl
  have hfirst : divide (1000 * WorldConfig.moveStepDistance) s.speed = .ok s.movFrameInterval :=
    divide_ok hspeed
  have hsecond : divide (s.movTicks + dt) s.movFrameInterval =
      .ok ((s.movTicks + dt) / s.movFrameInterval) := divide_ok hinterval
  unfold tickMovement
  simp only [hfirst]
  show (if s.movTicks + dt ≥ s.movFrameInterval then _ else _) = _
  rw [if_pos hcond, hsecond, hticks]
  rfl

/-- A head inside the border stays on the map if it moves at most to the edge. -/
theorem nextHead_onMap {m : Libm F} (hm : m.Unit) {dt : ℕ} {s : Snake F} (hin : ¬ s.Outside)
    (hmove : s.moveDist dt ≤ 300) : OnMap (s.nextHead m dt).pt := by
  have hpos : 0 ≤ s.moveDist (F := F) dt := by
    unfold moveDist
    positivity
  have hcoord : ∀ {u c v : F}, (u - 21600) * (u - 21600) < 21300 * 21300 → |c| ≤ 1 →
      v - u = s.moveDist dt * c → 0 ≤ v ∧ v < 43200 := by
    intro u c v hu hc hv
    have hbound : |u - 21600| < 21300 := by
      refine abs_lt_of_sq_lt_sq ?_ (by norm_num)
      linarith
    have hmoved : |s.moveDist dt * c| ≤ 300 := by
      rw [abs_mul, abs_of_nonneg hpos]
      calc s.moveDist dt * |c| ≤ s.moveDist dt * 1 := mul_le_mul_of_nonneg_left hc hpos
        _ ≤ 300 := by linarith
    obtain ⟨hlo, hhi⟩ := abs_lt.mp hbound
    obtain ⟨hlo', hhi'⟩ := abs_le.mp hmoved
    constructor <;> linarith
  have hlt := not_le.mp hin
  simp only [Body.distanceSquared, WorldConfig.gameRadius, WorldConfig.deathRadius] at hlt
  push_cast at hlt
  have hstep := s.nextHead_sub m dt
  have hx := mul_self_nonneg (s.getHead.x - 21600)
  have hy := mul_self_nonneg (s.getHead.y - 21600)
  exact ⟨hcoord (u := s.getHead.x) (by linarith) (hm.abs_cosf_le _) (congrArg Prod.fst hstep),
    hcoord (u := s.getHead.y) (by linarith) (hm.abs_sinf_le _) (congrArg Prod.snd hstep)⟩

theorem tick_timely {m : Libm F} {dt : ℕ} {s : Snake F} {ss : SectorSeq}
    {r : Ticked F} (hrange : s.InRange) (hrest : s.movTicks < 227) (htick : s.tick m dt ss = .ok r) :
    r.snake.InRange ∧ r.snake.movTicks < 227 := by
  cases halive : s.update.changeDying || s.update.changeDead with
  | true =>
      unfold tick at htick
      rw [halive, if_pos rfl] at htick
      cases htick
      exact ⟨hrange, hrest⟩
  | false =>
      obtain ⟨-, hless, hspeed⟩ := tick_clock hrange halive htick
      have hinterval := hrange.interval.2
      refine ⟨?_, by omega⟩
      split at hspeed
      · exact ⟨hspeed ▸ hrange.base, hspeed ▸ hrange.boost⟩
      · have happroach := hrange.approach r.snake (s.framesTicks dt % 65536)
        exact ⟨hspeed ▸ happroach.1, hspeed ▸ happroach.2⟩

theorem moveDist_le {s : Snake F} (h : s.InRange ∧ s.movTicks < 227)
    {dt : ℕ} (hdt : dt ≤ 443) : s.moveDist dt ≤ (300 : F) := by
  have hframes : s.framesTicks dt ≤ s.movTicks + dt := by
    unfold framesTicks
    split
    · exact Nat.div_mul_le_self _ _
    · exact Nat.zero_le _
  have hboost : s.speed ≤ 448 := h.1.boost
  have hmul : s.speed * s.framesTicks dt ≤ 448 * 669 :=
    Nat.mul_le_mul hboost (by omega)
  have hcast : ((s.speed * s.framesTicks dt : ℕ) : F) ≤ 300000 := by
    exact_mod_cast hmul.trans (by norm_num)
  unfold moveDist
  linarith

end Order

end Snake

namespace World

/-- Every living snake has its head inside the border, or has moved and is in `ids`. -/
def InsideExcept (ids : List SnakeId) (w : World F) : Prop :=
  ∀ s ∈ w.snakes, s.Inside ∨ s.id ∈ ids ∧ s.update.changePos = true

theorem InsideExcept.store {ids ids' : List SnakeId} {w : World F} {s : Snake F}
    (h : w.InsideExcept ids) (hids : ∀ id ∈ ids, id = s.id ∨ id ∈ ids')
    (hs : s.Inside ∨ s.id ∈ ids' ∧ s.update.changePos = true) :
    (w.store s).InsideExcept ids' := by
  intro t ht
  rcases Keyed.mem_replace.mp ht with ⟨ht, hne⟩ | ⟨rfl, -⟩
  · exact (h t ht).imp_right fun hin => ⟨(hids t.id hin.1).resolve_left hne, hin.2⟩
  · exact hs

private theorem tickAll_inside {m : Libm F} {dt : ℕ} {w : World F} (hquiet : w.Quiet)
    (h : w.InsideExcept []) :
    Post (w.tickAll m dt) (fun w' => w'.InsideExcept w'.changes) (fun _ => True) := by
  refine (tickAll_rule (fun rest (w' : World F) => w'.Reporting rest ∧ w'.InsideExcept w'.changes)
    ⟨hquiet.reporting _, hquiet.changes.symm ▸ h⟩ ?_).mono (fun _ hw => hw.2) fun _ h => h
  rintro s rest w' hs hne ⟨hrep, hin⟩
  have hself : s.Inside := by
    refine (hin s hs).resolve_right fun hlisted => ?_
    exact hrep.later s.id hlisted.1 s (List.mem_cons_self ..) rfl
  refine ((Snake.tick_reports m dt w'.sectors (hrep.next hs)).and
    (Snake.tick_inside m dt w'.sectors (hrep.next hs) hself)).mono ?_ fun _ _ => trivial
  rintro r ⟨⟨c, -, hr⟩, hsafe⟩
  refine ⟨hrep.ticked hs hne hr, ?_⟩
  have hlisted : ∀ id ∈ w'.changes, id ∈ (w'.ticked s r).changes := by
    intro id hid
    unfold ticked
    dsimp only
    split
    · exact List.mem_append_left _ hid
    · exact hid
  refine hin.store (s := r.snake) (fun id hid => .inr (hlisted id hid)) (hsafe.imp_right ?_)
  rintro ⟨hchanged, hpos⟩
  refine ⟨?_, hpos⟩
  unfold ticked
  rw [if_pos hchanged, hr.id]
  exact List.mem_append_right _ (List.mem_singleton_self _)

private theorem checkChanged_inside {w : World F} {id : SnakeId} {rest : List SnakeId}
    (h : w.InsideExcept (id :: rest)) :
    Post (w.checkChanged id) (InsideExcept rest) (fun _ => True) := by
  unfold checkChanged deref
  cases hget : w.getSnake id with
  | none => trivial
  | some s =>
      obtain ⟨hs, rfl⟩ := Keyed.find?_eq_some.mp hget
      have hothers : s.Inside → w.InsideExcept rest := by
        intro hself t ht
        by_cases heq : t.id = s.id
        · cases Keyed.mem_unique w.snakes ht hs heq
          exact .inl hself
        · exact (h t ht).imp_right fun hin => ⟨(List.mem_cons.mp hin.1).resolve_left heq, hin.2⟩
      show Post (if s.update.changePos = true then w.checkSnakeBounds s else pure w) _ _
      split
      · unfold checkSnakeBounds
        refine Post.bind ((w.boundsCause_spec s).mono (fun _ h => h) fun _ _ => trivial) ?_
        intro cause hcause
        cases cause with
        | none => exact hothers fun _ => hcause.1
        | some c =>
            refine h.store (s := s.markDying) (fun j hj => List.mem_cons.mp hj) (.inl ?_)
            exact .of_dying (Bool.or_true _)
      · rename_i hpos
        exact hothers ((h s hs).resolve_right fun hin => hpos hin.2)

theorem tick_inside {m : Libm F} {dt : ℕ} {w : World F} (hquiet : w.Quiet)
    (h : w.InsideExcept []) : Post (w.tick m dt) (InsideExcept []) (fun _ => True) := by
  apply tick_rule
  · exact h
  · intro vfrTime
    have hq : ({ w with ticks := w.ticks + dt } : World F).Quiet := ⟨hquiet.changes, hquiet.snakes⟩
    refine Post.bind (tickAll_inside hq h) fun w₁ hw₁ => ?_
    exact (Post.foldlM (fun ids (w' : World F) => w'.InsideExcept ids)
      (fun id rest w' hw' => checkChanged_inside hw') _ _ hw₁).mono
      (fun w₂ hw₂ ticks frames => hw₂) fun _ h => h

end World

end Slither
