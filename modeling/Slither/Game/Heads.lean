import Slither.Game.Clock
import Slither.Game.Grid
import Slither.Game.Spacing

/-!
# Where the head goes

The head of a snake after a tick, as a function of the snake before it: the bot steers, the snake
turns, and then the head steps along the new angle.  Eating and losing parts leave the head alone.
-/

set_option linter.unusedSectionVars false

namespace Slither

open Framework

variable {F : Type} [Field F] [LinearOrder F] [FloorRing F]

namespace Snake

theorem increaseSnake_parts (s : Snake F) (volume : ℕ) :
    (s.increaseSnake volume).parts = s.parts ∨
      (s.increaseSnake volume).parts = s.parts ++ [s.getBack] := by
  unfold increaseSnake
  dsimp only [updateSnakeConsts]
  split
  · exact .inr rfl
  · exact .inl rfl

private theorem getHead_onFoodEaten (s : Snake F) (f : Food) :
    (s.onFoodEaten f).getHead = s.getHead := by
  have hsize := s.size_parts
  unfold getHead
  rcases s.increaseSnake_parts f.size with h | h
  · exact congrArg (List.headD · _) h
  · refine (congrArg (List.headD · _) h).trans ?_
    cases hparts : s.parts with
    | nil => simp [hparts] at hsize
    | cons p ps => rfl

private theorem getHead_updateAcceleration (s : Snake F) (ss : SectorSeq) :
    (s.updateAcceleration ss).1.getHead = s.getHead := by
  apply updateAcceleration_keeps
  · intro s spawn h h3
    show s.parts.dropLast.headD _ = s.parts.headD _
    match s.parts, h3 with
    | p :: q :: ps, _ => rfl
  · exact fun _ _ => rfl
  · exact fun _ => rfl

private theorem getHead_updateSpeed (framesTicks : ℕ) (s : Snake F) :
    (s.updateSpeed framesTicks).1.getHead = s.getHead := by
  obtain ⟨speed, hspeed⟩ := s.updateSpeed_eq framesTicks
  rw [hspeed]
  rfl

private theorem moveFrames_head (m : Libm F) (framesTicks : ℕ) (s : Snake F) (ss : SectorSeq) :
    Post (s.moveFrames m framesTicks ss)
      (fun r => r.snake.getHead = s.movedHead m (((s.speed * framesTicks : ℕ) : F) / 1000))
      (fun e => e = .sectorIndex) := by
  apply Post.bind (updateEatenFood_keeps Snake.getHead getHead_onFoodEaten _ _)
  intro t ht
  exact (getHead_updateSpeed _ _).trans ((getHead_updateAcceleration _ _).trans ht)

/-- The snake when the bot has steered and it has turned. -/
def steered (m : Libm F) (dt : ℕ) (s : Snake F) : Snake F := ((s.tickBot m dt).tickRotation m dt).1

theorem body_steered (m : Libm F) (dt : ℕ) (s : Snake F) : (s.steered m dt).body = s.body :=
  (body_tickRotation m dt (s.tickBot m dt)).trans (body_tickBot m dt s)

theorem kept_steered (m : Libm F) (dt : ℕ) (s : Snake F) : (s.steered m dt).kept = s.kept :=
  (kept_tickRotation m dt (s.tickBot m dt)).trans (kept_tickBot m dt s)

theorem clock_steered (m : Libm F) (dt : ℕ) (s : Snake F) : (s.steered m dt).clock = s.clock :=
  (clock_tickRotation m dt (s.tickBot m dt)).trans (clock_tickBot m dt s)

theorem getHead_steered (m : Libm F) (dt : ℕ) (s : Snake F) :
    (s.steered m dt).getHead = s.getHead := by
  unfold getHead
  rw [show (s.steered m dt).parts = s.parts from congrArg Prod.fst (s.body_steered m dt)]

variable [IsStrictOrderedRing F]

/-- The way of the head in a tick. -/
def moveDist (dt : ℕ) (s : Snake F) : F := ((s.speed * s.framesTicks dt : ℕ) : F) / 1000

/-- The head after a tick. -/
def nextHead (m : Libm F) (dt : ℕ) (s : Snake F) : Body F :=
  (s.steered m dt).movedHead m (s.moveDist dt)

theorem nextHead_sub (m : Libm F) (dt : ℕ) (s : Snake F) :
    (s.nextHead m dt).pt - s.getHead.pt =
      s.moveDist dt • (m.cosf (s.steered m dt).angle, m.sinf (s.steered m dt).angle) := by
  unfold nextHead movedHead
  rw [getHead_steered]
  ext <;> simp [Body.pt, Body.offset, mul_comm]

theorem nextHead_of_still {m : Libm F} {dt : ℕ} {s : Snake F} (h : s.framesTicks dt = 0) :
    s.nextHead m dt = s.getHead := by
  unfold nextHead movedHead moveDist
  rw [getHead_steered, h]
  simp [Body.offset]

private theorem tickMovement_at {m : Libm F} {dt : ℕ} {s : Snake F} {ss : SectorSeq}
    {P : Moved F → Prop} {Q : Fault → Prop}
    (hstill : s.framesTicks dt = 0 → P ⟨{ s with movTicks := s.movTicks + dt }, ss, false, false⟩)
    (hmove : s.framesTicks dt ≠ 0 →
      Post ({ s with movTicks := s.movTicks + dt }.moveFrames m (s.framesTicks dt) ss) P Q)
    (hdiv : Q .divByZero) : Post (s.tickMovement m dt ss) P Q := by
  have hdivide : ∀ a b : ℕ, Post (divide a b) (fun q => q = a / b ∧ b ≠ 0) Q := by
    intro a b
    unfold divide
    split
    · exact hdiv
    · rename_i hb
      exact ⟨rfl, hb⟩
  unfold tickMovement
  apply Post.bind (hdivide _ _)
  rintro _ ⟨rfl, -⟩
  split
  · rename_i hcond
    have hticks : s.framesTicks dt =
        (s.movTicks + dt) / s.movFrameInterval * s.movFrameInterval := if_pos hcond
    apply Post.bind (hdivide _ _)
    rintro _ ⟨rfl, hinterval⟩
    have hpos : 0 < (s.movTicks + dt) / s.movFrameInterval :=
      Nat.div_pos hcond (Nat.pos_of_ne_zero hinterval)
    rw [hticks] at hmove
    exact hmove (Nat.mul_ne_zero hpos.ne' hinterval)
  · rename_i hcond
    exact hstill (if_neg hcond)

theorem framesTicks_steered (m : Libm F) (dt : ℕ) (s : Snake F) :
    (s.steered m dt).framesTicks dt = s.framesTicks dt := by
  have hclock := s.clock_steered m dt
  unfold framesTicks movFrameInterval
  rw [show (s.steered m dt).speed = s.speed from congrArg Prod.fst hclock,
    show (s.steered m dt).movTicks = s.movTicks from congrArg (fun c => c.2.1) hclock]

/-- The snake when it has been steered and may move. -/
def poised (m : Libm F) (dt : ℕ) (s : Snake F) : Snake F :=
  { s.steered m dt with movTicks := (s.steered m dt).movTicks + dt }

theorem poised_movedHead (m : Libm F) (dt : ℕ) (s : Snake F) :
    (s.poised m dt).movedHead m ((((s.poised m dt).speed * s.framesTicks dt : ℕ) : F) / 1000) =
      s.nextHead m dt := by
  have hspeed : (s.poised m dt).speed = s.speed := congrArg Prod.fst (s.clock_steered m dt)
  rw [hspeed]
  rfl

/-- The rule for a tick: the snake is steered, and then it stays or moves. -/
theorem advance_at {m : Libm F} {dt : ℕ} {s : Snake F} {ss : SectorSeq}
    {P : Snake F → Prop} {Q : Fault → Prop} (hstill : s.framesTicks dt = 0 → P (s.poised m dt))
    (hmove : s.framesTicks dt ≠ 0 →
      Post ((s.poised m dt).moveFrames m (s.framesTicks dt) ss) (fun r => P r.snake) Q)
    (hdiv : Q .divByZero) : Post (s.advance m dt ss) (fun a => P a.snake) Q := by
  apply advance_rule
  apply tickMovement_at
  · intro hzero
    exact hstill ((s.framesTicks_steered m dt).symm.trans hzero)
  · have hframes := s.framesTicks_steered m dt
    unfold steered at hframes
    rw [hframes]
    exact hmove
  · exact hdiv

/-- The rule for what depends on the body and its box alone and outlasts eating and acceleration: a
tick keeps it if the move does. -/
theorem tick_body {m : Libm F} {dt : ℕ} {s : Snake F} {ss : SectorSeq} {P : Snake F → Prop}
    (hsame : ∀ t u : Snake F, u.parts = t.parts → u.sbb = t.sbb → P t → P u)
    (heat : ∀ t f, P t → P (t.onFoodEaten f))
    (haccel : ∀ t ss, P t → P (t.updateAcceleration ss).1) (hs : P s)
    (hmove : s.update.changeDying = false ∧ s.update.changeDead = false → s.framesTicks dt ≠ 0 →
      P ((s.poised m dt).moveBody m
        ((((s.poised m dt).speed * s.framesTicks dt : ℕ) : F) / 1000) ss).1) :
    Post (s.tick m dt ss) (fun r => P r.snake) (fun _ => True) := by
  have hpoised : P (s.poised m dt) :=
    hsame s _ (congrArg Prod.fst (s.body_steered m dt))
      (congrArg (fun b => b.2.1) (s.body_steered m dt)) hs
  unfold Snake.tick
  split
  · exact hs
  · rename_i hlive
    simp only [Bool.or_eq_true, not_or, Bool.not_eq_true] at hlive
    refine Post.bind (R := fun a => P a.snake) ?_ fun a ha => ?_
    · apply advance_at
      · exact fun _ => hpoised
      · intro hframes
        apply Post.bind ((updateEatenFood_preserves heat _ (hmove hlive hframes)).mono
          (fun _ h => h) fun _ _ => trivial)
        rintro ⟨t, ss'⟩ ht
        obtain ⟨speed, hspeed⟩ := (t.updateAcceleration ss').1.updateSpeed_eq (s.framesTicks dt)
        refine hsame (t.updateAcceleration ss').1 _ ?_ ?_ (haccel t ss' ht)
        · show ((t.updateAcceleration ss').1.updateSpeed (s.framesTicks dt)).1.parts = _
          rw [hspeed]
        · show ((t.updateAcceleration ss').1.updateSpeed (s.framesTicks dt)).1.sbb = _
          rw [hspeed]
      · trivial
    · refine hsame a.snake _ ?_ ?_ ha
      · unfold report
        split <;> rfl
      · unfold report
        split <;> rfl

theorem advance_head (m : Libm F) (dt : ℕ) (s : Snake F) (ss : SectorSeq) :
    Post (s.advance m dt ss) (fun a => a.snake.getHead = s.nextHead m dt)
      (fun e => e = .sectorIndex ∨ e = .divByZero) := by
  apply advance_at (P := fun t => t.getHead = s.nextHead m dt)
  · intro hzero
    rw [nextHead_of_still hzero]
    exact s.getHead_steered m dt
  · intro _
    refine (moveFrames_head m _ _ ss).mono ?_ fun e he => .inl he
    exact fun r hr => hr.trans (s.poised_movedHead m dt)
  · exact .inr rfl

theorem toUint16_bounds {v : F} (h : 0 ≤ v ∧ v < 43200) :
    (Math.toUint16 v : F) ≤ v ∧ v < (Math.toUint16 v : F) + 1 ∧ Math.toUint16 v < 43200 := by
  have hfloor : ⌊v⌋ < 43200 := Int.floor_lt.mpr (by exact_mod_cast h.2)
  have hval := Math.toUint16_eq_floor h
  have hcast : (Math.toUint16 v : F) = (⌊v⌋ : F) := by
    rw [← hval, Int.cast_natCast]
  refine ⟨?_, ?_, by omega⟩
  · rw [hcast]
    exact Int.floor_le v
  · rw [hcast]
    exact Int.lt_floor_add_one v

private theorem getHead_newborn (m : Libm F) (id : SnakeId) (skin x y : ℕ) (angle : F) (body : ℕ) :
    (newborn m id skin x y angle body).getHead = ⟨x, y⟩ := by
  have hfirst : ∀ (ds : List F) (st : Placing F) (p : Body F), st.parts.head? = some p →
      (ds.foldl (Placing.step (m.cosf angle) (m.sinf angle)) st).parts.head? = some p := by
    intro ds
    induction ds with
    | nil => exact fun st p h => h
    | cons d ds ih =>
        intro st p h
        refine ih _ p ?_
        simp [Placing.step, List.head?_append, h]
  obtain ⟨d, ds, hsteps⟩ : ∃ d ds, (placingSteps (3 + body) : List F) = d :: ds :=
    List.exists_cons_of_length_pos (by simp [placingSteps])
  have hhead : (newborn m id skin x y angle body).parts.head? = some ⟨x, y⟩ := by
    show (placeParts (m.cosf angle) (m.sinf angle) x y (3 + body)).head? = _
    rw [placeParts, hsteps]
    exact hfirst ds _ _ rfl
  unfold getHead
  rw [List.headD_eq_head?_getD, hhead]
  rfl

end Snake

variable [IsStrictOrderedRing F]

theorem Libm.Unit.abs_cosf_le {m : Libm F} (hm : m.Unit) (a : F) : |m.cosf a| ≤ 1 := by
  have hsq := hm a
  rw [abs_le_one_iff_mul_self_le_one]
  nlinarith only [hsq, sq_nonneg (m.sinf a)]

theorem Libm.Unit.abs_sinf_le {m : Libm F} (hm : m.Unit) (a : F) : |m.sinf a| ≤ 1 := by
  have hsq := hm a
  rw [abs_le_one_iff_mul_self_le_one]
  nlinarith only [hsq, sq_nonneg (m.cosf a)]

namespace World

theorem startCoord_bounds {away : ℕ} (haway : away < 5000) {c : F} (hc : |c| ≤ 1) :
    15601 ≤ (WorldConfig.gameRadius : F) + (1000 + (away : F)) * c ∧
      (WorldConfig.gameRadius : F) + (1000 + (away : F)) * c ≤ 27599 := by
  have hfar : (away : F) ≤ 4999 := by exact_mod_cast (show away ≤ 4999 by omega)
  have hpos : (0 : F) ≤ (away : F) := Nat.cast_nonneg away
  have hreach : |(1000 + (away : F)) * c| ≤ 5999 := by
    rw [abs_mul, abs_of_nonneg (by linarith)]
    calc (1000 + (away : F)) * |c| ≤ (1000 + (away : F)) * 1 :=
          mul_le_mul_of_nonneg_left hc (by linarith)
      _ ≤ 5999 := by linarith
  have hradius : ((WorldConfig.gameRadius : ℕ) : F) = 21600 := by norm_num
  obtain ⟨hlo, hhi⟩ := abs_le.mp hreach
  rw [hradius]
  constructor <;> linarith

theorem getHead_born {m : Libm F} (hm : m.Unit) (w : World F) (skin : ℕ) (turn : F)
    {away : ℕ} (haway : away < 5000) (drawn : ℕ) :
    |(w.born m skin turn away drawn).getHeadX - 21600| ≤ 6000 ∧
      |(w.born m skin turn away drawn).getHeadY - 21600| ≤ 6000 := by
  have hcoord : ∀ c : F, |c| ≤ 1 →
      |(Math.toUint16 ((WorldConfig.gameRadius : F) + (1000 + (away : F)) * c) : F) - 21600|
        ≤ 6000 := by
    intro c hc
    obtain ⟨hlo, hhi⟩ := startCoord_bounds haway hc
    obtain ⟨hcut, hcut', -⟩ := Snake.toUint16_bounds
      (v := (WorldConfig.gameRadius : F) + (1000 + (away : F)) * c) ⟨by linarith, by linarith⟩
    rw [abs_le]
    constructor <;> linarith
  unfold Snake.getHeadX Snake.getHeadY born
  rw [Snake.getHead_newborn]
  exact ⟨hcoord _ (hm.abs_cosf_le _), hcoord _ (hm.abs_sinf_le _)⟩

end World

end Slither
