import Slither.Game.Frame

/-!
# Heading, speed and clocks

`Snake.drive` collects what steers a snake from tick to tick.  Eating and losing parts leave it
alone, so a movement step changes the speed and the movement clock only.
-/

set_option linter.unusedSectionVars false

namespace Slither

open Framework

variable {F : Type} [Field F] [LinearOrder F] [FloorRing F]

namespace Snake

/-- Angle, wanted angle and rotation clock, speed and movement clock, and who steers. -/
def drive (s : Snake F) : F × F × ℕ × ℕ × ℕ × Bool :=
  (s.angle, s.wangle, s.rotTicks, s.speed, s.movTicks, s.bot)

theorem drive_onFoodEaten (s : Snake F) (f : Food) : (s.onFoodEaten f).drive = s.drive := by
  simp only [onFoodEaten, increaseSnake, updateSnakeConsts]
  split <;> rfl

theorem drive_updateAcceleration (s : Snake F) (ss : SectorSeq) :
    (s.updateAcceleration ss).1.drive = s.drive :=
  updateAcceleration_keeps drive (fun _ _ _ _ => rfl) (fun _ _ => rfl) (fun _ => rfl) s ss

private theorem updateSpeed_keeps (framesTicks : ℕ) (s : Snake F) :
    (s.updateSpeed framesTicks).1.movTicks = s.movTicks ∧
      (s.updateSpeed framesTicks).1.acceleration = s.acceleration := by
  obtain ⟨speed, hspeed⟩ := s.updateSpeed_eq framesTicks
  rw [hspeed]
  exact ⟨rfl, rfl⟩

theorem moveFrames_drive (m : Libm F) (framesTicks : ℕ) (s : Snake F) (ss : SectorSeq) :
    Post (s.moveFrames m framesTicks ss)
      (fun r => ∃ t : Snake F, t.drive = s.drive ∧ r.snake.acceleration = t.acceleration ∧
        r.snake.drive =
          ({ (t.updateSpeed framesTicks).1 with movTicks := s.movTicks - framesTicks } :
            Snake F).drive)
      (fun e => e = .sectorIndex) := by
  apply Post.bind (updateEatenFood_keeps drive drive_onFoodEaten _ _)
  intro t ht
  have hacc : (t.1.updateAcceleration t.2).1.drive = s.drive :=
    (drive_updateAcceleration _ _).trans ht
  obtain ⟨hmov, haccel⟩ := (t.1.updateAcceleration t.2).1.updateSpeed_keeps framesTicks
  refine ⟨(t.1.updateAcceleration t.2).1, hacc, haccel, ?_⟩
  have hclock : ((t.1.updateAcceleration t.2).1.updateSpeed framesTicks).1.movTicks = s.movTicks :=
    hmov.trans (congrArg (fun d => d.2.2.2.2.1) hacc)
  show ({ ((t.1.updateAcceleration t.2).1.updateSpeed framesTicks).1 with
    movTicks := ((t.1.updateAcceleration t.2).1.updateSpeed framesTicks).1.movTicks -
      framesTicks } : Snake F).drive = _
  rw [hclock]

/-- What only a movement step changes: the speed, the movement clock and the acceleration. -/
def clock (s : Snake F) : ℕ × ℕ × Bool := (s.speed, s.movTicks, s.acceleration)

private theorem clock_aiStep (m : Libm F) (s : Snake F) : (s.aiStep m).clock = s.clock := by
  simp only [aiStep]
  split <;> rfl

theorem clock_tickBot (m : Libm F) (dt : ℕ) (s : Snake F) : (s.tickBot m dt).clock = s.clock := by
  have hai : ∀ (n : ℕ) (s : Snake F), (s.tickAI m n).clock = s.clock :=
    fun n s => foldl_keeps clock (fun s _ => clock_aiStep m s) _ s
  simp only [tickBot]
  split
  · split
    · exact hai _ _
    · rfl
  · rfl

theorem clock_tickRotation (m : Libm F) (dt : ℕ) (s : Snake F) :
    (s.tickRotation m dt).1.clock = s.clock := by
  simp only [tickRotation]
  split
  · split <;> rfl
  · rfl

theorem clock_report (a : Advanced F) : (report a).snake.clock = a.snake.clock := by
  unfold report
  split <;> rfl

end Snake

end Slither
