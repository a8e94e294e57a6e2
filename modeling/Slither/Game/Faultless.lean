import Slither.Game.Border
import Slither.Game.Collisions
import Slither.Game.Constants

/-!
# Ticks without faults

A tick divides by the speed and by the length of a movement frame, reads the sector under the head
and follows the pointers in the lists of the sectors.  None of this goes wrong as long as the speed
is in range, the head stays on the map and the sectors list only snakes that are there.
-/

set_option linter.unusedSectionVars false

namespace Slither

open Framework

variable {F : Type} [Field F] [LinearOrder F] [FloorRing F]

namespace Snake

/-- `sc` is one of the scales of `UpdateSnakeConsts`. -/
def Scaled (s : Snake F) : Prop := 1 ≤ s.sc ∧ s.sc ≤ 6

private theorem sc_steered (m : Libm F) (dt : ℕ) (s : Snake F) : (s.steered m dt).sc = s.sc := by
  have hstep : ∀ t : Snake F, (t.aiStep m).sc = t.sc := by
    intro t
    simp only [aiStep]
    split <;> rfl
  have hbot : (s.tickBot m dt).sc = s.sc := by
    simp only [tickBot]
    split
    · split
      · exact foldl_keeps Snake.sc (fun t _ => hstep t) _ _
      · rfl
    · rfl
  have hrotation : ∀ t : Snake F, (t.tickRotation m dt).1.sc = t.sc := by
    intro t
    simp only [tickRotation]
    split
    · split <;> rfl
    · rfl
  exact (hrotation _).trans hbot

section Order

variable [IsStrictOrderedRing F]

private theorem scaled_updateSnakeConsts (s : Snake F) :
    s.updateSnakeConsts.Scaled := partScale_bounds _

private theorem scaled_onFoodEaten (s : Snake F) (f : Food) : (s.onFoodEaten f).Scaled := by
  simp only [onFoodEaten, increaseSnake]
  split <;> exact scaled_updateSnakeConsts _

private theorem Scaled.updateAcceleration {s : Snake F} (h : s.Scaled) (ss : SectorSeq) :
    (s.updateAcceleration ss).1.Scaled := by
  simp only [Snake.updateAcceleration]
  split
  · split
    · exact h
    · exact scaled_updateSnakeConsts _
  · exact h

private theorem Scaled.moveFrames {m : Libm F} {framesTicks : ℕ} {s : Snake F} (h : s.Scaled)
    (ss : SectorSeq) :
    Post (s.moveFrames m framesTicks ss) (fun r => r.snake.Scaled) (fun _ => True) := by
  have hmoved : (s.moveBody m (((s.speed * framesTicks : ℕ) : F) / 1000) ss).1.Scaled := h
  apply Post.bind ((updateEatenFood_preserves (fun t f _ => scaled_onFoodEaten t f) _ hmoved).mono
    (fun _ h => h) fun _ _ => trivial)
  intro r hr
  obtain ⟨speed, hspeed⟩ := (r.1.updateAcceleration r.2).1.updateSpeed_eq framesTicks
  have hacc := hr.updateAcceleration r.2
  show ((r.1.updateAcceleration r.2).1.updateSpeed framesTicks).1.Scaled
  rw [hspeed]
  exact hacc

theorem Scaled.tick {m : Libm F} {dt : ℕ} {s : Snake F} (h : s.Scaled) (ss : SectorSeq) :
    Post (s.tick m dt ss) (fun r => r.snake.Scaled) (fun _ => True) := by
  have hsteered : (s.steered m dt).Scaled := by
    unfold Scaled
    rw [sc_steered]
    exact h
  unfold Snake.tick
  split
  · exact h
  · apply Post.bind (R := fun a => a.snake.Scaled)
    · apply advance_at (P := Scaled)
      · intro _
        exact hsteered
      · intro _
        exact Scaled.moveFrames (s := s.poised m dt) hsteered ss
      · trivial
    · intro a ha
      show (report a).snake.Scaled
      unfold report
      split <;> exact ha

private theorem updateEatenFood_returns {s : Snake F} (h : s.CellInRange) (ss : SectorSeq) :
    Post (s.updateEatenFood ss) (fun _ => True) (fun _ => False) := by
  obtain ⟨p, hp, -⟩ := h.sector
  simp only [headCell] at hp
  unfold updateEatenFood
  simp only [hp]
  trivial

private theorem tickMovement_returns {m : Libm F} {dt : ℕ} {s : Snake F} (ss : SectorSeq)
    (hrange : s.InRange)
    (hcell : s.framesTicks dt ≠ 0 →
      (({ s with movTicks := s.movTicks + dt } : Snake F).moveBody m
        (((s.speed * s.framesTicks dt : ℕ) : F) / 1000) ss).1.CellInRange) :
    Post (s.tickMovement m dt ss) (fun _ => True) (fun _ => False) := by
  have hspeed : 185 ≤ s.speed := hrange.base
  have hinterval := hrange.interval
  have hfirst : divide (1000 * WorldConfig.moveStepDistance) s.speed = .ok s.movFrameInterval :=
    divide_ok (by omega)
  by_cases hframes : s.framesTicks dt = 0
  · have hwait : ¬ s.movTicks + dt ≥ s.movFrameInterval := by
      intro hcond
      have hticks : s.framesTicks dt =
          (s.movTicks + dt) / s.movFrameInterval * s.movFrameInterval := if_pos hcond
      have hpos := Nat.div_pos hcond (by omega)
      have hprod := Nat.mul_pos hpos (show 0 < s.movFrameInterval by omega)
      omega
    unfold tickMovement
    simp only [hfirst]
    show Post (if s.movTicks + dt ≥ s.movFrameInterval then _ else _) _ _
    rw [if_neg hwait]
    trivial
  · rw [tickMovement_moves m ss hframes]
    exact Post.bind (updateEatenFood_returns (hcell hframes) _) fun _ _ => trivial

/-- A tick returns if the movement, should there be one, ends on the map. -/
private theorem tick_returns {m : Libm F} {dt : ℕ} {s : Snake F} (ss : SectorSeq)
    (hrange : s.InRange) (hmap : s.Alive → s.framesTicks dt ≠ 0 → OnMap (s.nextHead m dt).pt) :
    Post (s.tick m dt ss) (fun _ => True) (fun _ => False) := by
  unfold tick
  cases hend : s.update.changeDying || s.update.changeDead with
  | true => trivial
  | false =>
      have halive : s.Alive := by simpa [Alive] using hend
      have hspeed : (s.steered m dt).speed = s.speed := congrArg Prod.fst (s.clock_steered m dt)
      have hsteered : (s.steered m dt).InRange := ⟨hspeed ▸ hrange.base, hspeed ▸ hrange.boost⟩
      simp only [Bool.false_eq_true, if_false]
      apply Post.bind (R := fun _ => True)
      · apply advance_rule (P := fun _ => True)
        apply tickMovement_returns ss hsteered
        intro hframes
        rw [framesTicks_steered] at hframes ⊢
        rw [cellInRange_iff]
        have hnext := hmap halive hframes
        rw [← s.eater_getHead m dt ss] at hnext
        exact hnext
      · exact fun _ _ => trivial

end Order

end Snake

namespace World

variable [IsStrictOrderedRing F]

/-- A tick by `dt` can be made of every snake: its speed is in range, and it stays on the map. -/
def Tickable (m : Libm F) (dt : ℕ) (w : World F) : Prop :=
  ∀ s ∈ w.snakes, s.InRange ∧
    (s.Alive → s.framesTicks dt ≠ 0 → OnMap (s.nextHead m dt).pt)

private theorem tickAll_returns {m : Libm F} {dt : ℕ} {w : World F} (h : w.Tickable m dt) :
    Post (w.tickAll m dt) (fun _ => True) (fun _ => False) := by
  refine (tickAll_rule (fun rest _ => ∀ s ∈ rest, s ∈ w.snakes) (fun s hs => hs) ?_).mono
    (fun _ _ => trivial) fun _ h => h
  intro s rest w' _ _ hrest
  obtain ⟨hrange, hmap⟩ := h s (hrest s (List.mem_cons_self ..))
  exact (Snake.tick_returns w'.sectors hrange hmap).mono
    (fun _ _ t ht => hrest t (List.mem_cons_of_mem _ ht)) fun _ h => h

/-- A tick of the world returns: every pointer it follows leads to a snake. -/
theorem tick_returns {m : Libm F} {dt : ℕ} {w : World F} (hreg : w.Registered)
    (hchanges : w.changes = []) (h : w.Tickable m (w.vfrTime dt)) :
    ∃ w', w.tick m dt = .ok w' := by
  unfold tick
  dsimp only
  split
  swap
  · exact ⟨_, rfl⟩
  have hall := (tickAll_returns (w := { w with ticks := w.ticks + dt }) h).and
    (tickAll_live m (w.vfrTime dt) (w := { w with ticks := w.ticks + dt })
      (hreg.of_eq (fun _ => Iff.rfl) rfl) (by simp [hchanges]))
  unfold tickSnakes
  obtain ⟨w₁, hw₁, -, hlive⟩ := hall.exists_ok fun _ h => h.1
  obtain ⟨w₂, hw₂, -⟩ := checkAll_judges hlive
  unfold vfrTime at hw₁
  simp only [hw₁]
  show ∃ w', (w₁.checkAll >>= _) = Except.ok w'
  rw [hw₂]
  exact ⟨_, rfl⟩

/-- The scales of the snakes are in range. -/
def Scaled (w : World F) : Prop := ∀ s ∈ w.snakes, s.Scaled

theorem Scaled.tick {w : World F} (h : w.Scaled) (m : Libm F) (dt : ℕ) :
    Post (w.tick m dt) Scaled (fun _ => True) := by
  apply (tick_each m dt w).mono ?_ fun _ _ => trivial
  intro w' heach s' hs'
  rcases heach s' hs' with hs' | ⟨s, hs, time, ss, r, hr, -, hmark, -⟩
  · exact h s' hs'
  · have hticked := ((h s hs).tick ss).of_ok hr
    rcases hmark with rfl | rfl
    · exact hticked
    · exact hticked

end World

end Slither
