import Slither.Game.Heads

/-!
# What a player sees

A head that crosses a border between sectors brings the sectors around it into view, but only as far
as they touch the view port, which is still around the old head.  A corner of the block is then left
out if the old head was too far from it, and it is not looked for again before the next crossing.
-/

set_option linter.unusedSectionVars false

namespace Slither

open Framework

variable {F : Type} [Field F] [LinearOrder F] [FloorRing F]

/-- What `UpdateBoxRadius` makes of the view port of a head. -/
def viewCircle (head : Body F) : BoundBoxPos F :=
  ⟨head.x, head.y, (WorldConfig.sectorDiagSize : F) * 3⟩

/-- The block of seven by seven sectors around a head, as far as it is on the map. -/
def viewBlock (head : Body F) : List SectorPtr :=
  sectorsAround (sectorCoord head.x) (sectorCoord head.y) 3

namespace Snake

/-- A view port that has been moved: it has what was in view before and the entered block as far
as it touches the old circle, less what does not touch the new one. -/
structure MovedTo (v : ViewPort F) (oldHead newHead : Body F) (v' : ViewPort F) : Prop where
  sorted : v'.sectors.Pairwise (· < ·)
  circle : v'.toBoundBoxPos = viewCircle newHead
  sectors : ∀ p, p ∈ v'.sectors ↔
    (p ∈ v.sectors ∨
      ¬ (sectorCoord newHead.x = sectorCoord oldHead.x ∧
          sectorCoord newHead.y = sectorCoord oldHead.y) ∧
        p ∈ viewBlock newHead ∧ touches p v.toBoundBoxPos = true) ∧
      touches p (viewCircle newHead) = true

private theorem movedView_movedTo {v : ViewPort F} (hs : v.sectors.Pairwise (· < ·))
    (ss₁ ss₂ : SectorSeq) (oldHead newHead : Body F) :
    MovedTo v oldHead newHead (movedView v ss₁ ss₂ oldHead newHead) := by
  have hext := ViewPort.updateBoxNewSectors_extends hs ss₁ newHead.x newHead.y oldHead.x oldHead.y
  unfold movedView
  generalize v.updateBoxNewSectors ss₁ newHead.x newHead.y oldHead.x oldHead.y = v₁ at hext
  obtain ⟨hsectors, -, -, hbox⟩ := ViewPort.updateBoxOldSectors_spec
    (v := { v₁ with x := newHead.x, y := newHead.y, r := (WorldConfig.sectorDiagSize : F) * 3 })
    hext.sorted ss₂
  refine ⟨?_, hbox, fun p => ?_⟩
  · rw [hsectors]
    exact hext.sorted.filter _
  · rw [hsectors, List.mem_filter, hext.sectors, intersect_eq_touches, intersect_eq_touches]
    rfl

/-- The view port has every sector of the block around the head, and none out of its reach. -/
structure ViewComplete (s : Snake F) : Prop where
  covers : ∀ p ∈ viewBlock s.getHead, p ∈ s.vp.sectors
  reaches : ∀ p ∈ s.vp.sectors, touches p ⟨s.getHeadX, s.getHeadY, s.vp.r⟩ = true

/-- A player on the map whose view port is around the head and complete. -/
structure Viewed (s : Snake F) : Prop extends ViewComplete s where
  player : s.bot = false
  sorted : s.vp.sectors.Pairwise (· < ·)
  circle : s.vp.toBoundBoxPos = viewCircle s.getHead

/-- Between two ticks the server may write to a player, but neither moves it nor its view port. -/
structure SameView (s t : Snake F) : Prop where
  bot : t.bot = s.bot
  head : t.getHead = s.getHead
  box : t.vp.toBoundBoxPos = s.vp.toBoundBoxPos
  sectors : t.vp.sectors = s.vp.sectors

private theorem Viewed.of_same {s t : Snake F} (h : s.Viewed) (hsame : s.SameView t) :
    t.Viewed where
  covers p hp := hsame.sectors ▸ h.covers p (hsame.head ▸ hp)
  reaches p hp := by
    have hr : t.vp.r = s.vp.r := congrArg BoundBoxPos.r hsame.box
    unfold getHeadX getHeadY
    rw [hsame.head, hr]
    exact h.reaches p (hsame.sectors ▸ hp)
  player := hsame.bot.trans h.player
  sorted := hsame.sectors ▸ h.sorted
  circle := by rw [hsame.box, h.circle, hsame.head]

private theorem Viewed.touches {s : Snake F} (h : s.Viewed) {p : SectorPtr}
    (hp : p ∈ s.vp.sectors) :
    touches p (viewCircle s.getHead) = true := by
  have hr : s.vp.r = (viewCircle s.getHead).r := congrArg BoundBoxPos.r h.circle
  have hreach := h.reaches p hp
  rw [hr] at hreach
  exact hreach

variable [IsStrictOrderedRing F]

private theorem viewBlock_touches {head : Body F} (hmap : OnMap head.pt) {p : SectorPtr}
    (hp : p ∈ viewBlock head) : Slither.touches p (viewCircle head) = true := by
  rw [touches_iff]
  have hfar := normSq_middle_sub_le hmap hp
  have hr : (viewCircle head).r = 1275 := by
    unfold viewCircle
    norm_num
  rw [hr]
  refine hfar.trans ?_
  norm_num

/-- The sectors that a living head brings into view touch the view port where it still is. -/
def Foreseen (m : Libm F) (dt : ℕ) (s : Snake F) : Prop :=
  (s.update.changeDying || s.update.changeDead) = false →
    ∀ p ∈ viewBlock (s.nextHead m dt), Slither.touches p (viewCircle s.getHead) = true

private theorem advance_view (m : Libm F) (dt : ℕ) {s : Snake F} (ss : SectorSeq)
    (hbot : s.bot = false) :
    Post (s.advance m dt ss)
      (fun a => a.snake.vp = s.vp ∧ s.nextHead m dt = s.getHead ∨
        ∃ ss₁ ss₂, a.snake.vp = movedView s.vp ss₁ ss₂ s.getHead (s.nextHead m dt))
      (fun e => e = .sectorIndex ∨ e = .divByZero) := by
  have hvp : (s.poised m dt).vp = s.vp := congrArg (fun b => b.2.2.1) (s.body_steered m dt)
  have hplayer : (s.poised m dt).bot = false :=
    (congrArg (fun k => k.2.1) (s.kept_steered m dt)).trans hbot
  apply advance_at (P := fun t => t.vp = s.vp ∧ s.nextHead m dt = s.getHead ∨
    ∃ ss₁ ss₂, t.vp = movedView s.vp ss₁ ss₂ s.getHead (s.nextHead m dt))
  · intro hzero
    exact .inl ⟨hvp, nextHead_of_still hzero⟩
  · intro _
    obtain ⟨ss₁, ss₂, hmove⟩ := vp_moveBody m
      ((((s.poised m dt).speed * s.framesTicks dt : ℕ) : F) / 1000) ss hplayer
    rw [poised_movedHead, hvp, show (s.poised m dt).getHead = s.getHead from
      s.getHead_steered m dt] at hmove
    refine (moveFrames_vp m _ _ ss).mono ?_ fun e he => .inl he
    exact fun r hr => .inr ⟨ss₁, ss₂, hr.2.trans hmove⟩
  · exact .inr rfl

private theorem MovedTo.covers_iff {s : Snake F} {v : ViewPort F} {newHead : Body F} (h : s.Viewed)
    (hmoved : MovedTo s.vp s.getHead newHead v) (hmap : OnMap newHead.pt) :
    (∀ p ∈ viewBlock newHead, p ∈ v.sectors) ↔
      ∀ p ∈ viewBlock newHead, Slither.touches p (viewCircle s.getHead) = true := by
  have hbox := h.circle
  constructor
  · intro hcovers p hp
    rcases ((hmoved.sectors p).mp (hcovers p hp)).1 with hin | ⟨-, -, htouch⟩
    · exact h.touches hin
    · rwa [hbox] at htouch
  · intro hseen p hp
    refine (hmoved.sectors p).mpr ⟨?_, viewBlock_touches hmap hp⟩
    by_cases hsame : sectorCoord newHead.x = sectorCoord s.getHead.x ∧
        sectorCoord newHead.y = sectorCoord s.getHead.y
    · -- the block is the old one
      refine .inl (h.covers p ?_)
      unfold viewBlock at hp ⊢
      rwa [hsame.1, hsame.2] at hp
    · exact .inr ⟨hsame, hp, by rw [hbox]; exact hseen p hp⟩

/-- A tick of a player keeps everything but possibly the block in view, and that as well exactly
when it is foreseen. -/
private theorem Viewed.tick_iff {m : Libm F} {dt : ℕ} {s : Snake F} {ss : SectorSeq} {r : Ticked F}
    (h : s.Viewed) (hmap : OnMap s.getHead.pt) (htick : s.tick m dt ss = .ok r)
    (hnext : OnMap r.snake.getHead.pt) : r.snake.Viewed ↔ s.Foreseen m dt := by
  unfold tick at htick
  unfold Foreseen
  split at htick
  · rename_i hgone
    cases htick
    exact iff_of_true h fun hlive => by rw [hgone] at hlive; cases hlive
  · rename_i hlive
    obtain ⟨a, hadv, hr⟩ := bind_eq_ok.mp htick
    cases hr
    have hkeep : (report a).snake.vp = a.snake.vp ∧ (report a).snake.getHead = a.snake.getHead ∧
        (report a).snake.bot = a.snake.bot := by
      unfold report
      split <;> exact ⟨rfl, rfl, rfl⟩
    obtain ⟨hvp, hhead, hplayer⟩ := hkeep
    have hnew := (advance_head m dt s ss).of_ok hadv
    obtain ⟨hkept, -⟩ := (advance_post m dt s ss).of_ok hadv
    have hbot : (report a).snake.bot = false :=
      hplayer.trans ((congrArg (fun k => k.2.1) hkept).trans h.player)
    rw [hhead, hnew] at hnext
    rw [imp_iff_right (by simpa using hlive)]
    rcases (advance_view m dt ss h.player).of_ok hadv with ⟨hsame, hstill⟩ | ⟨ss₁, ss₂, hmoved⟩
    · refine iff_of_true (h.of_same ⟨hbot.trans h.player.symm, ?_, ?_, ?_⟩) ?_
      · rw [hhead, hnew, hstill]
      · rw [hvp, hsame]
      · rw [hvp, hsame]
      · rw [hstill]
        exact fun p hp => viewBlock_touches hmap hp
    · have hto := movedView_movedTo h.sorted ss₁ ss₂ s.getHead (s.nextHead m dt)
      rw [← hmoved, ← hvp] at hto
      rw [← hto.covers_iff h hnext]
      constructor
      · intro hviewed p hp
        refine hviewed.covers p ?_
        rwa [hhead, hnew]
      · intro hcovers
        refine ⟨⟨?_, ?_⟩, hbot, hto.sorted, ?_⟩
        · rw [hhead, hnew]
          exact hcovers
        · intro p hp
          have hr : (report a).snake.vp.r = (viewCircle (s.nextHead m dt)).r :=
            congrArg BoundBoxPos.r hto.circle
          unfold getHeadX getHeadY
          rw [hhead, hnew, hr]
          exact ((hto.sectors p).mp hp).2
        · rw [hhead, hnew]
          exact hto.circle

/-- A tick of a player that ends with the head on the map, after whatever the server has written
to the player since the last one.  The condition is on the snake before the tick. -/
def ViewStep (m : Libm F) (cond : ℕ → Snake F → Prop) (s : Snake F) (dt : ℕ) (t : Snake F) : Prop :=
  ∃ u ss r, s.SameView u ∧ cond dt u ∧ u.tick m dt ss = .ok r ∧ OnMap r.snake.getHead.pt ∧
    t = r.snake

end Snake

namespace World

variable [IsStrictOrderedRing F]

private theorem createSnake_viewed {m : Libm F} (hm : m.Unit) (w : World F) :
    Post (w.createSnake m) (fun r => r.1.Viewed ∧ OnMap r.1.getHead.pt)
      (fun e => e = .divByZero) := by
  refine (createSnake_born m w).mono ?_ fun _ h => h
  rintro _ ⟨skin, turn, away, drawn, rng, haway, rfl⟩
  obtain ⟨hx, hy⟩ := getHead_born hm w skin turn haway drawn
  generalize hs : w.born m skin turn away drawn = s at hx hy
  have hcircle : s.vp.toBoundBoxPos = viewCircle s.getHead := by rw [← hs]; rfl
  have hnone : s.vp.sectors = [] := by rw [← hs]; rfl
  have hbot : s.bot = false := by rw [← hs]; rfl
  obtain ⟨hxlo, hxhi⟩ := abs_le.mp hx
  obtain ⟨hylo, hyhi⟩ := abs_le.mp hy
  have hmap : OnMap s.getHead.pt :=
    ⟨⟨show 0 ≤ s.getHeadX by linarith, show s.getHeadX < 43200 by linarith⟩,
      show 0 ≤ s.getHeadY by linarith, show s.getHeadY < 43200 by linarith⟩
  have hfar : ¬ (sectorCoord s.getHeadX = sectorCoord (0 : F) ∧
      sectorCoord s.getHeadY = sectorCoord (0 : F)) := by
    rintro ⟨hsame, -⟩
    have hzero : sectorCoord (0 : F) = 0 := by simp [sectorCoord, Math.trunc]
    have hbounds : s.getHeadX < 300 * (sectorCoord s.getHeadX : F) + 300 :=
      (sectorCoord_bounds hmap.x.1).2
    rw [hsame, hzero] at hbounds
    push_cast at hbounds
    linarith
  have hext := ViewPort.updateBoxNewSectors_extends
    (v := s.vp) (by rw [hnone]; exact .nil)
    (s.sbb.updateBoxNewSectors w.sectors Snake.partBoxRadius s.getHeadX s.getHeadY 0 0).2
    s.getHeadX s.getHeadY 0 0
  have hvp : (s.initBoxNewSectors w.sectors).1.vp = s.vp.updateBoxNewSectors
      (s.sbb.updateBoxNewSectors w.sectors Snake.partBoxRadius s.getHeadX s.getHeadY 0 0).2
      s.getHeadX s.getHeadY 0 0 := by
    show (if s.bot = true then s.vp else _) = _
    rw [hbot, if_neg Bool.false_ne_true]
    rfl
  rw [← hvp] at hext
  have hsectors : ∀ p, p ∈ (s.initBoxNewSectors w.sectors).1.vp.sectors ↔
      p ∈ viewBlock s.getHead := by
    intro p
    rw [hext.sectors, hnone, intersect_eq_touches, hcircle]
    constructor
    · rintro (hin | ⟨-, hp, -⟩)
      · exact absurd hin List.not_mem_nil
      · exact hp
    · exact fun hp => .inr ⟨hfar, hp, Snake.viewBlock_touches hmap hp⟩
  refine ⟨⟨⟨fun p hp => (hsectors p).mpr hp, fun p hp => ?_⟩, hbot, hext.sorted,
    hext.box.trans hcircle⟩, hmap⟩
  have hr : (s.initBoxNewSectors w.sectors).1.vp.r = (viewCircle s.getHead).r :=
    congrArg BoundBoxPos.r (hext.box.trans hcircle)
  show touches p ⟨s.getHeadX, s.getHeadY, _⟩ = true
  rw [hr]
  exact Snake.viewBlock_touches hmap ((hsectors p).mp hp)

/-- From its creation on, a player sees the whole block around its head after every tick, and
nothing out of reach, if every tick brings into view only what was foreseen. -/
theorem view_complete {m : Libm F} (hm : m.Unit) {w w' : World F} {s₀ s : Snake F} {dts : List ℕ}
    (hcreate : w.createSnake m = .ok (s₀, w'))
    (hrun : Run (Snake.ViewStep m fun dt u => u.Foreseen m dt) s₀ dts s) : s.ViewComplete := by
  have hinv : s.Viewed ∧ OnMap s.getHead.pt := by
    refine hrun.state_invariant (I := fun s => s.Viewed ∧ OnMap s.getHead.pt)
      ((createSnake_viewed hm w).of_ok hcreate) ?_
    rintro s dt _ ⟨hviewed, hmap⟩ ⟨u, ss, r, hsame, hseen, htick, hnext, rfl⟩
    have hmap' : OnMap u.getHead.pt := by rwa [hsame.head]
    exact ⟨((hviewed.of_same hsame).tick_iff hmap' htick hnext).mpr hseen, hnext⟩
  exact hinv.1.toViewComplete

end World

namespace Snake

/-- Ticks that meet a condition, as long as the head stays on the map. -/
def walk (m : Libm ℚ) (cond : ℕ → Snake ℚ → Prop) [∀ dt s, Decidable (cond dt s)] (dts : List ℕ)
    (st : Snake ℚ × SectorSeq) : Option (Snake ℚ × SectorSeq) :=
  dts.foldlM (fun st dt =>
    match st.1.tick m dt st.2 with
    | .ok r => if cond dt st.1 ∧ OnMap r.snake.getHead.pt then some (r.snake, r.ss) else none
    | .error _ => none) st

private theorem run_of_walk {m : Libm ℚ} {cond : ℕ → Snake ℚ → Prop} [∀ dt s, Decidable (cond dt s)]
    {dts : List ℕ} {st st' : Snake ℚ × SectorSeq} (h : walk m cond dts st = some st') :
    Run (ViewStep m cond) st.1 dts st'.1 := by
  refine Run.of_foldlM Prod.fst (fun st dt st' hstep => ?_) h
  cases htick : st.1.tick m dt st.2 with
  | error e =>
      rw [htick] at hstep
      cases hstep
  | ok r =>
      simp only [htick] at hstep
      split at hstep
      · rename_i hok
        cases hstep
        exact ⟨st.1, st.2, r, ⟨rfl, rfl, rfl, rfl⟩, hok.1, htick, hok.2, rfl⟩
      · cases hstep

/-- `Tick` gets ahead of no more than one movement frame. -/
abbrev OneFrame (dt : ℕ) (s : Snake ℚ) : Prop := s.framesTicks dt ≤ s.movFrameInterval

instance (m : Libm F) (dt : ℕ) (s : Snake F) : Decidable (s.Foreseen m dt) :=
  decidable_of_iff ((s.update.changeDying || s.update.changeDead ||
      (viewBlock (s.nextHead m dt)).all fun p => Slither.touches p (viewCircle s.getHead)) = true) <| by
    unfold Foreseen
    rw [Bool.or_eq_true, List.all_eq_true]
    cases s.update.changeDying || s.update.changeDead <;> simp

/-- The functions on a line of slope 3/4, to eight digits at the angles that occur there. -/
def slope : Libm ℚ where
  cosf a := if 355 / 113 ≤ a ∧ a < 710 / 113 then -4 / 5 else 4 / 5
  sinf a := if 355 / 113 ≤ a ∧ a < 710 / 113 then -3 / 5 else 3 / 5
  atan2f _ _ := 6435011 / 10000000
  fPi := 355 / 113

private theorem slope_unit : slope.Unit := by
  intro a
  simp only [slope]
  split <;> norm_num

/-- The draws that put a new player on that line. -/
def slopeRng : Rng := fun k => if k = 1 then ⟨219937488, by decide⟩ else Rng.zero k

/-- A new player three frames later, when its head has crossed a border in the middle of a row. -/
def threeFrames : Option (Snake ℚ × Snake ℚ) :=
  match (World.blank {} slopeRng : World ℚ).createSnake slope with
  | .ok r => (walk slope (fun dt s => s.Foreseen slope dt) [227, 227, 227] (r.1, r.2.sectors)).map
      fun st => (r.1, st.1)
  | .error _ => none

private theorem threeFrames_crossed :
    threeFrames.any (fun r => decide (sectorCoord r.1.getHead.x = 74 ∧
      sectorCoord r.2.getHead.x = 75)) = true := by
  decide +kernel

/-- A new player five frames later, when its head has crossed the first border. -/
def fiveFrames : Option (Snake ℚ) :=
  match (World.blank {} Rng.zero : World ℚ).createSnake Libm.axis with
  | .ok r => (walk Libm.axis OneFrame [227, 227, 227, 227, 227] (r.1, r.2.sectors)).map Prod.fst
  | .error _ => none

private theorem fiveFrames_incomplete :
    (match fiveFrames with
      | some s => (viewBlock s.getHead).all fun p => decide (p ∈ s.vp.sectors)
      | none => true) = false := by
  decide +kernel

end Snake

namespace World

/-- The third frame crosses a border, and the whole column ahead comes into view. -/
theorem view_complete_crossing :
    ∃ (s₀ s : Snake ℚ) (w : World ℚ),
      (blank {} Snake.slopeRng : World ℚ).createSnake Snake.slope = .ok (s₀, w) ∧
      Run (Snake.ViewStep Snake.slope fun dt u => u.Foreseen Snake.slope dt) s₀ [227, 227, 227] s ∧
      sectorCoord s₀.getHead.x = 74 ∧ sectorCoord s.getHead.x = 75 ∧ s.ViewComplete := by
  obtain ⟨r, hframes, hcrossed⟩ := (Option.any_eq_true _ _).mp Snake.threeFrames_crossed
  obtain ⟨hleft, hright⟩ := of_decide_eq_true hcrossed
  unfold Snake.threeFrames at hframes
  cases hcreate : (blank {} Snake.slopeRng : World ℚ).createSnake Snake.slope with
  | error e =>
      rw [hcreate] at hframes
      cases hframes
  | ok c =>
      rw [hcreate] at hframes
      obtain ⟨s₀, w⟩ := c
      obtain ⟨st, hwalk, rfl⟩ := Option.map_eq_some_iff.mp hframes
      have hrun := Snake.run_of_walk hwalk
      exact ⟨s₀, st.1, w, rfl, hrun, hleft, hright,
        view_complete Snake.slope_unit hcreate hrun⟩

/-- The fifth frame takes the head from 32 units before a border to 10 behind it, in a row of
sectors whose edge it follows: the corner ahead is then out of the reach of the old view port. -/
theorem view_incomplete :
    ¬ ∀ (m : Libm ℚ) (w w' : World ℚ) (s₀ s : Snake ℚ) (dts : List ℕ), m.Unit →
      w.createSnake m = .ok (s₀, w') → Run (Snake.ViewStep m Snake.OneFrame) s₀ dts s →
        s.ViewComplete := by
  intro h
  have hmiss := Snake.fiveFrames_incomplete
  cases hframes : Snake.fiveFrames with
  | none =>
      rw [hframes] at hmiss
      cases hmiss
  | some r =>
      rw [hframes] at hmiss
      unfold Snake.fiveFrames at hframes
      cases hcreate : (blank {} Rng.zero : World ℚ).createSnake Libm.axis with
      | error e =>
          rw [hcreate] at hframes
          cases hframes
      | ok c =>
          rw [hcreate] at hframes
          obtain ⟨st, hwalk, rfl⟩ := Option.map_eq_some_iff.mp hframes
          have hcomplete := h _ _ _ _ _ _ Libm.axis_unit hcreate (Snake.run_of_walk hwalk)
          have hall : ((viewBlock st.1.getHead).all fun p => decide (p ∈ st.1.vp.sectors)) = true :=
            List.all_eq_true.mpr fun p hp => decide_eq_true (hcomplete.covers p hp)
          cases hall.symm.trans hmiss

end World

end Slither
