import Slither.Game.Border
import Slither.Game.Changes
import Slither.Game.Turning

/-!
# Pose and change bits

A client is told about a snake when a bit of `update` says so.  So each write to the head, the two
angles, the speed or the fullness has to come with its bit.
-/

set_option linter.unusedSectionVars false

namespace Slither

open Framework

variable {F : Type} [Field F] [LinearOrder F] [FloorRing F]

@[simp] theorem Changes.union_changeWangle (a b : Changes) :
    (a ∪ b).changeWangle = (a.changeWangle || b.changeWangle) := rfl

@[simp] theorem Changes.union_changeFullness (a b : Changes) :
    (a ∪ b).changeFullness = (a.changeFullness || b.changeFullness) := rfl

namespace Snake

/-- From `s` to `t` nothing has changed that the bits of `t` do not tell. -/
structure Marked (s t : Snake F) : Prop where
  pos : t.update.changePos = false → s.update.changePos = false ∧ t.getHead = s.getHead
  angle : t.update.changeAngle = false → s.update.changeAngle = false ∧ t.angle = s.angle
  speed : t.update.changeSpeed = false → s.update.changeSpeed = false ∧ t.speed = s.speed
  wangle : t.update.changeWangle = false → s.update.changeWangle = false ∧ t.wangle = s.wangle
  fullness : t.update.changeFullness = false →
    s.update.changeFullness = false ∧ t.fullness = s.fullness
  moved : t.update.changeFullness = true →
    t.update.changePos = true ∨ s.update.changeFullness = true

theorem Marked.refl (s : Snake F) : s.Marked s :=
  ⟨fun h => ⟨h, rfl⟩, fun h => ⟨h, rfl⟩, fun h => ⟨h, rfl⟩, fun h => ⟨h, rfl⟩, fun h => ⟨h, rfl⟩,
    fun h => .inr h⟩

/-- The wanted angle and the bit for it. -/
def aim (s : Snake F) : F × Bool := (s.wangle, s.update.changeWangle)

private theorem aim_updateSnakeConsts (s : Snake F) : s.updateSnakeConsts.aim = s.aim := rfl

@[simp] theorem update_updateSnakeConsts (s : Snake F) : s.updateSnakeConsts.update = s.update := rfl

private theorem aim_onFoodEaten (s : Snake F) (f : Food) : (s.onFoodEaten f).aim = s.aim := by
  show (s.increaseSnake f.size).aim = s.aim
  simp only [increaseSnake, aim_updateSnakeConsts]
  split <;> simp [aim]

private theorem aim_updateAcceleration (s : Snake F) (ss : SectorSeq) :
    (s.updateAcceleration ss).1.aim = s.aim := by
  apply updateAcceleration_keeps
  · exact fun _ _ _ _ => rfl
  · intro s k
    rw [aim_updateSnakeConsts]
    simp [aim]
  · exact fun _ => rfl

private theorem aim_tickRotation (m : Libm F) (dt : ℕ) (s : Snake F) :
    (s.tickRotation m dt).1.aim = s.aim := by
  simp only [tickRotation]
  split
  · split <;> rfl
  · rfl

private theorem tickBot_aim (m : Libm F) (dt : ℕ) (s : Snake F)
    (h : (s.tickBot m dt).update.changeWangle = false) :
    s.update.changeWangle = false ∧ (s.tickBot m dt).wangle = s.wangle := by
  let P : Snake F → Prop := fun t => t.update.changeWangle = false →
    s.update.changeWangle = false ∧ t.wangle = s.wangle
  have hstep : ∀ t : Snake F, P t → P (t.aiStep m) := by
    intro t ht hbit
    simp only [aiStep] at hbit ⊢
    split at hbit
    · simp at hbit
    · rename_i hclose
      rw [if_neg hclose]
      exact ht hbit
  have hloop : ∀ (n : ℕ) (t : Snake F), P t → P (t.tickAI m n) := fun n t ht =>
    foldl_inv (fun _ t => P t) (fun _ _ t ht => hstep t ht) _ t ht
  have hstart : P { s with aiTicks := s.aiTicks + dt } := fun hbit => ⟨hbit, rfl⟩
  simp only [tickBot] at h ⊢
  split
  · rename_i hbot
    rw [if_pos hbot] at h
    split
    · rename_i hticks
      rw [if_pos hticks] at h
      exact hloop _ _ hstart h
    · rename_i hticks
      rw [if_neg hticks] at h
      exact hstart h
  · rename_i hbot
    rw [if_neg hbot] at h
    exact ⟨h, rfl⟩

/-- Fullness and the bit for it. -/
def fill (s : Snake F) : ℕ × Bool := (s.fullness, s.update.changeFullness)

theorem tickBot_keeps {β : Type} (g : Snake F → β)
    (hclock : ∀ (t : Snake F) (k : ℕ), g { t with aiTicks := k } = g t)
    (haim : ∀ (t : Snake F) (a : F), g { t with
      wangle := a, update := t.update ∪ { changeWangle := true } } = g t)
    (m : Libm F) (dt : ℕ) (s : Snake F) : g (s.tickBot m dt) = g s := by
  have hstep : ∀ t : Snake F, g (t.aiStep m) = g t := by
    intro t
    simp only [aiStep]
    split
    · exact haim t _
    · rfl
  have hai : ∀ (n : ℕ) (t : Snake F), g (t.tickAI m n) = g t :=
    fun n t => foldl_keeps g (fun t _ => hstep t) _ t
  simp only [tickBot]
  split
  · split
    · rw [hclock, hai, hclock]
    · exact hclock s _
  · rfl

private theorem fill_tickBot (m : Libm F) (dt : ℕ) (s : Snake F) : (s.tickBot m dt).fill = s.fill :=
  tickBot_keeps fill (fun _ _ => rfl) (fun t a => by simp [fill]) m dt s

private theorem angle_tickBot (m : Libm F) (dt : ℕ) (s : Snake F) :
    (s.tickBot m dt).angle = s.angle :=
  tickBot_keeps angle (fun _ _ => rfl) (fun _ _ => rfl) m dt s

private theorem fill_tickRotation (m : Libm F) (dt : ℕ) (s : Snake F) :
    (s.tickRotation m dt).1.fill = s.fill := by
  simp only [tickRotation]
  split
  · split <;> rfl
  · rfl

private theorem updateSpeed_flag (framesTicks : ℕ) (s : Snake F)
    (h : (s.updateSpeed framesTicks).2 = false) : (s.updateSpeed framesTicks).1 = s := by
  unfold updateSpeed at h ⊢
  dsimp only at h ⊢
  by_cases hsame : s.speed ≠ if s.acceleration then boostSpeed else baseMoveSpeed
  · rw [if_pos hsame] at h
    cases h
  · rw [if_neg hsame]

private theorem tickMovement_marked (m : Libm F) (dt : ℕ) (s : Snake F) (ss : SectorSeq) :
    Post (s.tickMovement m dt ss)
      (fun r => r.snake.aim = s.aim ∧ (r.speed = false → r.snake.speed = s.speed) ∧
        (r.pos = false → r.snake.fill = s.fill) ∧
        (r.snake.update.changeFullness = false →
          s.update.changeFullness = false ∧ r.snake.fullness = s.fullness))
      (fun _ => True) := by
  refine tickMovement_rule ⟨rfl, fun _ => rfl, fun _ => rfl, fun h => ⟨h, rfl⟩⟩
    (fun framesTicks => ?_) trivial
  let P : Snake F → Prop := fun t => t.aim = s.aim ∧ t.speed = s.speed ∧
    (t.update.changeFullness = false → s.update.changeFullness = false ∧ t.fullness = s.fullness)
  have heat : ∀ (t : Snake F) (f : Food), P t → P (t.onFoodEaten f) := by
    intro t f ht
    obtain ⟨haim, hspeed, -⟩ := ht
    refine ⟨(aim_onFoodEaten t f).trans haim, ?_, ?_⟩
    · exact (congrArg (fun d => d.2.2.2.1) (drive_onFoodEaten t f)).trans hspeed
    · intro hbit
      replace hbit : (t.increaseSnake f.size).update.changeFullness = false := hbit
      simp [increaseSnake] at hbit
  have hmoved : P ({ s with movTicks := s.movTicks + dt }.moveBody m
      (((s.speed * framesTicks : ℕ) : F) / 1000) ss).1 := ⟨rfl, rfl, fun h => ⟨h, rfl⟩⟩
  apply Post.bind ((updateEatenFood_preserves heat _ hmoved).mono (fun _ h => h) fun _ _ => trivial)
  intro r hr
  obtain ⟨haim, hspeed, hfull⟩ := hr
  obtain ⟨speed, hwrite⟩ := (r.1.updateAcceleration r.2).1.updateSpeed_eq framesTicks
  have hacc : (r.1.updateAcceleration r.2).1.update.changeFullness = false →
      s.update.changeFullness = false ∧ (r.1.updateAcceleration r.2).1.fullness = s.fullness := by
    intro hbit
    unfold updateAcceleration at hbit ⊢
    split at hbit
    · rename_i hon
      rw [if_pos hon]
      split at hbit
      · rename_i hshort
        rw [if_pos hshort]
        exact hfull hbit
      · simp [decreaseSnake] at hbit
    · rename_i hoff
      rw [if_neg hoff]
      exact hfull hbit
  refine ⟨?_, ?_, fun hbit => (by cases hbit), ?_⟩
  · show ((r.1.updateAcceleration r.2).1.updateSpeed framesTicks).1.aim = s.aim
    rw [hwrite]
    exact (aim_updateAcceleration r.1 r.2).trans haim
  · intro hflag
    replace hflag : ((r.1.updateAcceleration r.2).1.updateSpeed framesTicks).2 = false := hflag
    show ((r.1.updateAcceleration r.2).1.updateSpeed framesTicks).1.speed = s.speed
    rw [updateSpeed_flag _ _ hflag]
    exact (congrArg (fun d => d.2.2.2.1) (drive_updateAcceleration r.1 r.2)).trans hspeed
  · show ((r.1.updateAcceleration r.2).1.updateSpeed framesTicks).1.update.changeFullness = false →
      _ ∧ ((r.1.updateAcceleration r.2).1.updateSpeed framesTicks).1.fullness = _
    rw [hwrite]
    exact hacc

theorem report_snake (a : Advanced F) :
    (report a).snake = { a.snake with update := a.snake.update ∪ a.changes } := by
  have hself : ∀ c : Changes, c ∪ ∅ = c ∧ c ∪ c = c := by
    intro c
    obtain ⟨pos, angle, wangle, speed, fullness, dying, dead⟩ := c
    cases pos <;> cases angle <;> cases wangle <;> cases speed <;> cases fullness <;>
      cases dying <;> cases dead <;> exact ⟨rfl, rfl⟩
  unfold report
  by_cases hnone : a.changes = ∅
  · rw [if_neg fun h => h.1 hnone, hnone, (hself _).1]
  by_cases hsame : a.changes = a.snake.update
  · rw [if_neg fun h => h.2 hsame, hsame, (hself _).2]
  · rw [if_pos ⟨hnone, hsame⟩]

section Order

variable [IsStrictOrderedRing F]

theorem tick_marked (m : Libm F) (dt : ℕ) (s : Snake F) (ss : SectorSeq) :
    Post (s.tick m dt ss) (fun r => s.Marked r.snake) (fun _ => True) := by
  unfold tick
  split
  · exact Marked.refl s
  apply Post.bind (R := fun a => s.Marked { a.snake with update := a.snake.update ∪ a.changes })
  swap
  · intro a ha
    show s.Marked (report a).snake
    rw [report_snake]
    exact ha
  apply advance_rule
  let t := ((s.tickBot m dt).tickRotation m dt).1
  refine (((tickMovement_post m dt t ss).mono (fun _ h => h) fun _ _ => trivial).and
    ((tickMovement_heading m dt t ss).and (tickMovement_marked m dt t ss))).mono ?_
    fun _ _ => trivial
  intro r hr
  obtain ⟨⟨hkept, hstill⟩, ⟨hangle, -⟩, haim, hspeed, hfill, hfull⟩ := hr
  -- the steering before the movement
  have hk : r.snake.kept = s.kept :=
    hkept.trans ((kept_tickRotation _ _ _).trans (kept_tickBot _ _ _))
  have hbody : t.body = s.body := (body_tickRotation _ _ _).trans (body_tickBot _ _ _)
  have hclock : t.clock = s.clock := (clock_tickRotation _ _ _).trans (clock_tickBot _ _ _)
  have hsfill : t.fill = s.fill := (fill_tickRotation _ _ _).trans (fill_tickBot _ _ _)
  have haim' : r.snake.aim = (s.tickBot m dt).aim := haim.trans (aim_tickRotation _ _ _)
  simp only [kept, Changes.announced, Prod.mk.injEq] at hk
  simp only [aim, Prod.mk.injEq] at haim'
  simp only [fill, Prod.mk.injEq] at hsfill hfill
  obtain ⟨-, -, -, hpos, hang, hspd, -⟩ := hk
  refine ⟨?_, ?_, ?_, ?_, ?_, ?_⟩
  · intro h
    simp only [Changes.union_changePos, Bool.or_eq_false_iff] at h
    refine ⟨hpos ▸ h.1, ?_⟩
    have hparts : r.snake.parts = s.parts :=
      congrArg Prod.fst ((hstill h.2).1.trans hbody)
    show r.snake.parts.headD ⟨0, 0⟩ = s.parts.headD ⟨0, 0⟩
    rw [hparts]
  · intro h
    simp only [Changes.union_changeAngle, Bool.or_eq_false_iff] at h
    refine ⟨hang ▸ h.1, ?_⟩
    have hturn : t.angle = (s.tickBot m dt).angle := angle_of_not_flag h.2
    exact hangle.trans (hturn.trans (angle_tickBot m dt s))
  · intro h
    simp only [Changes.union_changeSpeed, Bool.or_eq_false_iff] at h
    exact ⟨hspd ▸ h.1, (hspeed h.2).trans (congrArg Prod.fst hclock)⟩
  · intro h
    simp only [Changes.union_changeWangle, Bool.or_false] at h
    have hbot := tickBot_aim m dt s (haim'.2 ▸ h)
    exact ⟨hbot.1, haim'.1.trans hbot.2⟩
  · intro h
    simp only [Changes.union_changeFullness, Bool.or_false] at h
    have hr := hfull h
    exact ⟨hsfill.2 ▸ hr.1, hr.2.trans hsfill.1⟩
  · intro h
    simp only [Changes.union_changeFullness, Bool.or_false] at h
    cases hp : r.pos with
    | true => exact .inl (by simp)
    | false => exact .inr (hsfill.2 ▸ (hfill hp).2 ▸ h)

theorem tick_alive (m : Libm F) (dt : ℕ) (s : Snake F) (ss : SectorSeq) :
    Post (s.tick m dt ss) (fun r => r.snake.Alive → s.Alive) (fun _ => True) := by
  unfold tick
  split
  · exact fun h => h
  · rename_i hlive
    simp only [Bool.or_eq_true, not_or, Bool.not_eq_true] at hlive
    apply Post.bind (R := fun _ => True)
    · exact (advance_post m dt s ss).mono (fun _ _ => trivial) fun _ _ => trivial
    · exact fun _ _ _ => hlive

/-- The angles are taken from the first turn; only the wanted one may be a full turn. -/
structure Headed (m : Libm F) (s : Snake F) : Prop where
  angle : 0 ≤ s.angle ∧ s.angle < Math.f2pi m
  wangle : 0 ≤ s.wangle ∧ s.wangle ≤ Math.f2pi m

variable {m : Libm F} (hpi : 0 < m.fPi)

include hpi

private theorem Headed.tickBot {s : Snake F} (h : s.Headed m) (dt : ℕ) :
    (s.tickBot m dt).Headed m := by
  have hstep : ∀ t : Snake F, t.Headed m → (t.aiStep m).Headed m := by
    intro t ht
    simp only [aiStep]
    split
    · obtain ⟨hlo, hhi⟩ := Math.normalizeAngle_mem hpi (m.atan2f
        (t.getHeadY - (WorldConfig.gameRadius : F)) (t.getHeadX - (WorldConfig.gameRadius : F)) +
          m.fPi / 2)
      exact ⟨ht.angle, hlo, hhi.le⟩
    · exact ht
  have hloop : ∀ (n : ℕ) (t : Snake F), t.Headed m → (t.tickAI m n).Headed m := fun n t ht =>
    foldl_inv (fun _ (t : Snake F) => t.Headed m) (fun _ _ t ht => hstep t ht) _ t ht
  simp only [Snake.tickBot]
  split
  · split
    · obtain ⟨hangle, hwangle⟩ := hloop ((s.aiTicks + dt) / aiStepInterval)
        { s with aiTicks := s.aiTicks + dt } ⟨h.angle, h.wangle⟩
      exact ⟨hangle, hwangle⟩
    · exact ⟨h.angle, h.wangle⟩
  · exact h

private theorem Headed.tickRotation {s : Snake F} (h : s.Headed m) (dt : ℕ) :
    (s.tickRotation m dt).1.Headed m := by
  simp only [Snake.tickRotation]
  split
  · split
    · exact ⟨Math.normalizeAngle_mem hpi _, h.wangle⟩
    · exact ⟨h.angle, h.wangle⟩
  · exact h

theorem Headed.tick {s : Snake F} (h : s.Headed m) (dt : ℕ) (ss : SectorSeq) :
    Post (s.tick m dt ss) (fun r => r.snake.Headed m) (fun _ => True) := by
  have hsteered := (h.tickBot hpi dt).tickRotation hpi dt
  unfold Snake.tick
  split
  · exact h
  apply Post.bind (R := fun a => a.snake.Headed m)
  · apply advance_rule
    apply (tickMovement_heading m dt _ ss).mono ?_ fun _ _ => trivial
    intro r hr
    obtain ⟨hangle, hwangle, -⟩ := hr
    constructor
    · rw [hangle]
      exact hsteered.angle
    · rw [hwangle]
      exact hsteered.wangle
  · intro a ha
    show (report a).snake.Headed m
    rw [report_snake]
    exact ⟨ha.angle, ha.wangle⟩

end Order

end Snake

namespace World

variable [IsStrictOrderedRing F]

theorem create_headed {m : Libm F} (hpi : 0 < m.fPi) (bot : Bool) (w : World F) :
    Post (w.create m bot) (fun r => r.1.Headed m) (fun _ => True) := by
  have hplain : Post (w.createSnake m) (fun r => r.1.Headed m) (fun _ => True) := by
    apply (createSnake_post m w).mono ?_ fun _ _ => trivial
    intro r hr
    obtain ⟨skin, x, y, angle, body, rng, rfl⟩ := hr
    obtain ⟨hlo, hhi⟩ := Math.normalizeAngle_mem hpi (angle + m.fPi)
    exact ⟨⟨hlo, hhi⟩, hlo, hhi.le⟩
  unfold create
  split
  · exact Post.bind hplain fun r hr => ⟨hr.angle, hr.wangle⟩
  · exact hplain

end World

end Slither
