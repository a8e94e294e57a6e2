import Slither.Framework.Transition
import Slither.Game.Creation
import Slither.Game.Drive

/-!
# Clocks and speed

The world hands whole frames of eight milliseconds on to its snakes, and a snake moves in whole
intervals that depend on its speed.  Neither loses the rest.
-/

set_option linter.unusedSectionVars false

namespace Slither

open Framework

variable {F : Type} [Field F] [LinearOrder F] [IsStrictOrderedRing F] [FloorRing F]

private theorem Math.trunc_natCast (n : ℕ) : Math.trunc (n : F) = n := by
  rw [Math.trunc, if_pos (Nat.cast_nonneg n), Int.floor_natCast]

private theorem Math.toUint16_natCast (n : ℕ) : Math.toUint16 (n : F) = n % 65536 := by
  rw [Math.toUint16, Math.trunc_natCast]
  omega

theorem Math.toUint16_eq_floor {v : F} (h : 0 ≤ v ∧ v < 43200) : (Math.toUint16 v : ℤ) = ⌊v⌋ := by
  have hfloor : ⌊v⌋ < 43200 := Int.floor_lt.mpr (by exact_mod_cast h.2)
  have hnonneg : 0 ≤ ⌊v⌋ := Int.floor_nonneg.mpr h.1
  rw [Math.toUint16, Math.trunc, if_pos h.1, Int.emod_eq_of_lt hnonneg (by omega),
    Int.toNat_of_nonneg hnonneg]

namespace Snake

/-- `mov_frame_interval`. -/
def movFrameInterval (s : Snake F) : ℕ := 1000 * WorldConfig.moveStepDistance / s.speed

/-- The milliseconds the movement step of a tick makes up for; none when it is not time to move. -/
def framesTicks (dt : ℕ) (s : Snake F) : ℕ :=
  if s.movTicks + dt ≥ s.movFrameInterval then
    (s.movTicks + dt) / s.movFrameInterval * s.movFrameInterval
  else 0

/-- The wanted speed. -/
def wantedSpeed (s : Snake F) : ℕ := if s.acceleration then boostSpeed else baseMoveSpeed

/-- The speed after a step of `acc` towards the wanted speed. -/
def approach (speed wanted acc : ℕ) : ℕ :=
  if ((wanted : ℤ) - speed).natAbs ≤ acc then wanted
  else if wanted > speed then speed + acc else speed - acc

private theorem approach_between (speed wanted acc : ℕ) :
    speed ≤ approach speed wanted acc ∧ approach speed wanted acc ≤ wanted ∨
      wanted ≤ approach speed wanted acc ∧ approach speed wanted acc ≤ speed := by
  unfold approach
  split
  · omega
  · split <;> omega

private theorem approach_self (speed acc : ℕ) : approach speed speed acc = speed := by
  unfold approach
  rw [if_pos (by omega)]

/-- The speed is kept between the two wanted speeds. -/
structure InRange (s : Snake F) : Prop where
  base : baseMoveSpeed ≤ s.speed
  boost : s.speed ≤ boostSpeed

theorem InRange.interval {s : Snake F} (h : s.InRange) :
    93 ≤ s.movFrameInterval ∧ s.movFrameInterval ≤ 227 := by
  have hbase : 185 ≤ s.speed := h.base
  have hboost : s.speed ≤ 448 := h.boost
  constructor
  · have hle : 93 * s.speed ≤ 1000 * 42 := by omega
    exact (Nat.le_div_iff_mul_le (by omega)).mpr hle
  · have hlt : 1000 * 42 < (227 + 1) * s.speed := by omega
    exact Nat.le_of_lt_succ ((Nat.div_lt_iff_lt_mul (by omega)).mpr hlt)

private theorem updateSpeed_speed (k : ℕ) {s : Snake F} (h : s.InRange) :
    (s.updateSpeed k).1.speed = approach s.speed s.wantedSpeed (k % 65536) := by
  have hbase : 185 ≤ s.speed := h.base
  have hboost : s.speed ≤ 448 := h.boost
  have hwanted : s.wantedSpeed = 448 ∨ s.wantedSpeed = 185 := by
    unfold wantedSpeed
    split
    · exact .inl rfl
    · exact .inr rfl
  have hacc : Math.toUint16 (((speedAcceleration * k : ℕ) : F) / 1000) = k % 65536 := by
    rw [Nat.cast_mul, show ((speedAcceleration : ℕ) : F) = 1000 by norm_num,
      mul_div_cancel_left₀ _ (by norm_num), Math.toUint16_natCast]
  unfold updateSpeed
  dsimp only
  rw [hacc]
  change (if s.speed ≠ s.wantedSpeed then _ else _ : Snake F × Bool).1.speed = _
  by_cases hne : s.speed ≠ s.wantedSpeed
  · rw [if_pos hne]
    dsimp only
    change (if ((s.wantedSpeed : ℤ) - s.speed).natAbs ≤ k % 65536 then s.wantedSpeed
      else Math.toUint16 ((s.speed : F) + (if s.wantedSpeed > s.speed then 1 else -1) *
        ((k % 65536 : ℕ) : F))) = _
    unfold approach
    by_cases hnear : ((s.wantedSpeed : ℤ) - s.speed).natAbs ≤ k % 65536
    · rw [if_pos hnear, if_pos hnear]
    · rw [if_neg hnear, if_neg hnear]
      by_cases hup : s.wantedSpeed > s.speed
      · rw [if_pos hup, if_pos hup, one_mul, ← Nat.cast_add, Math.toUint16_natCast]
        exact Nat.mod_eq_of_lt (by omega)
      · rw [if_neg hup, if_neg hup, neg_one_mul, ← sub_eq_add_neg,
          ← Nat.cast_sub (by omega), Math.toUint16_natCast]
        exact Nat.mod_eq_of_lt (by omega)
  · rw [if_neg hne, ← not_not.mp hne, approach_self]

theorem divide_ok {a b : ℕ} (h : b ≠ 0) : divide a b = .ok (a / b) := if_neg h

private theorem tickMovement_clock (m : Libm F) (dt : ℕ) {s : Snake F} (ss : SectorSeq)
    (h : s.InRange) :
    Post (s.tickMovement m dt ss)
      (fun r => r.snake.movTicks + s.framesTicks dt = s.movTicks + dt ∧
        r.snake.movTicks < s.movFrameInterval ∧
        r.snake.speed = if s.framesTicks dt = 0 then s.speed
          else approach s.speed r.snake.wantedSpeed (s.framesTicks dt % 65536))
      (fun _ => True) := by
  obtain ⟨hlo, -⟩ := h.interval
  have hspeed : s.speed ≠ 0 := by
    have hbase : 185 ≤ s.speed := h.base
    omega
  have hinterval : divide (1000 * WorldConfig.moveStepDistance) s.speed =
      .ok s.movFrameInterval := divide_ok hspeed
  unfold tickMovement
  simp only [hinterval]
  show Post (if s.movTicks + dt ≥ s.movFrameInterval then _ else _) _ _
  by_cases hmove : s.movTicks + dt ≥ s.movFrameInterval
  · have hpos : 0 < (s.movTicks + dt) / s.movFrameInterval := Nat.div_pos hmove (by omega)
    have hframes : s.framesTicks dt =
        (s.movTicks + dt) / s.movFrameInterval * s.movFrameInterval := if_pos hmove
    have hne : s.framesTicks dt ≠ 0 := by
      rw [hframes]
      exact (Nat.mul_pos hpos (by omega)).ne'
    have hmod := Nat.div_add_mod (s.movTicks + dt) s.movFrameInterval
    have hlt := Nat.mod_lt (s.movTicks + dt) (show 0 < s.movFrameInterval by omega)
    rw [Nat.mul_comm, ← hframes] at hmod
    rw [if_pos hmove]
    have hdiv : divide (s.movTicks + dt) s.movFrameInterval =
        .ok ((s.movTicks + dt) / s.movFrameInterval) := divide_ok (by omega)
    simp only [hdiv]
    show Post (moveFrames m ((s.movTicks + dt) / s.movFrameInterval * s.movFrameInterval) _ ss) _ _
    rw [← hframes]
    refine (moveFrames_drive m _ _ ss).mono ?_ fun _ _ => trivial
    rintro r ⟨t, ht, hacc, hr⟩
    have htspeed : t.speed = s.speed := congrArg (fun d => d.2.2.2.1) ht
    have hmov : r.snake.movTicks = s.movTicks + dt - s.framesTicks dt :=
      congrArg (fun d => d.2.2.2.2.1) hr
    have hrange : t.InRange := ⟨htspeed ▸ h.base, htspeed ▸ h.boost⟩
    have hrspeed : r.snake.speed = (t.updateSpeed (s.framesTicks dt)).1.speed :=
      congrArg (fun d => d.2.2.2.1) hr
    refine ⟨by omega, by omega, ?_⟩
    rw [if_neg hne, hrspeed, updateSpeed_speed _ hrange, htspeed, wantedSpeed, wantedSpeed, hacc]
  · have hzero : s.framesTicks dt = 0 := if_neg hmove
    rw [if_neg hmove, hzero]
    exact ⟨rfl, not_le.mp hmove, rfl⟩

/-- A tick of a snake that is alive loses no time. -/
theorem tick_clock {m : Libm F} {dt : ℕ} {s : Snake F} {ss : SectorSeq} {r : Ticked F}
    (h : s.InRange) (halive : (s.update.changeDying || s.update.changeDead) = false)
    (htick : s.tick m dt ss = .ok r) :
    r.snake.movTicks + s.framesTicks dt = s.movTicks + dt ∧
      r.snake.movTicks < s.movFrameInterval ∧
      r.snake.speed = if s.framesTicks dt = 0 then s.speed
        else approach s.speed r.snake.wantedSpeed (s.framesTicks dt % 65536) := by
  unfold tick at htick
  rw [halive, if_neg Bool.false_ne_true] at htick
  obtain ⟨a, hadvance, hr⟩ := bind_eq_ok.mp htick
  cases hr
  have hclock : ((s.tickBot m dt).tickRotation m dt).1.clock = s.clock :=
    (clock_tickRotation _ _ _).trans (clock_tickBot _ _ _)
  have hspeed : ((s.tickBot m dt).tickRotation m dt).1.speed = s.speed :=
    congrArg (fun c => c.1) hclock
  have hmov : ((s.tickBot m dt).tickRotation m dt).1.movTicks = s.movTicks :=
    congrArg (fun c => c.2.1) hclock
  have hinterval : ((s.tickBot m dt).tickRotation m dt).1.movFrameInterval =
      s.movFrameInterval := by rw [movFrameInterval, hspeed, movFrameInterval]
  have hframes : ((s.tickBot m dt).tickRotation m dt).1.framesTicks dt = s.framesTicks dt := by
    rw [framesTicks, hmov, hinterval, framesTicks]
  have hrange : ((s.tickBot m dt).tickRotation m dt).1.InRange :=
    ⟨hspeed ▸ h.base, hspeed ▸ h.boost⟩
  have hpost : Post (s.advance m dt ss)
      (fun a => a.snake.movTicks + s.framesTicks dt = s.movTicks + dt ∧
        a.snake.movTicks < s.movFrameInterval ∧
        a.snake.speed = if s.framesTicks dt = 0 then s.speed
          else approach s.speed a.snake.wantedSpeed (s.framesTicks dt % 65536))
      (fun _ => True) := by
    refine advance_rule ((tickMovement_clock m dt ss hrange).mono ?_ fun _ h => h)
    intro r hr
    rwa [hframes, hmov, hinterval, hspeed] at hr
  have hlast := hpost.of_ok hadvance
  have hreport := clock_report a
  have h₁ : (report a).snake.movTicks = a.snake.movTicks := congrArg (fun c => c.2.1) hreport
  have h₂ : (report a).snake.speed = a.snake.speed := congrArg (fun c => c.1) hreport
  have h₃ : (report a).snake.acceleration = a.snake.acceleration :=
    congrArg (fun c => c.2.2) hreport
  rw [h₁, h₂, wantedSpeed, h₃]
  exact hlast

/-- A tick of a snake that is alive; between two ticks all but the speed and the movement clock may
change.  The event is the elapsed time and the time the movement step consumed. -/
def ClockStep (m : Libm F) (s : Snake F) (e : ℕ × ℕ) (s' : Snake F) : Prop :=
  (s.update.changeDying || s.update.changeDead) = false ∧
    ∃ ss r, s.tick m e.1 ss = .ok r ∧ e.2 = s.framesTicks e.1 ∧
      s'.speed = r.snake.speed ∧ s'.movTicks = r.snake.movTicks

/-- After the ticks `es` no time is lost and the speed is in range. -/
structure OnTime (es : List (ℕ × ℕ)) (s : Snake F) : Prop where
  speed : s.InRange
  rest : s.movTicks < 227
  balance : (es.map Prod.fst).sum = s.movTicks + (es.map Prod.snd).sum

theorem InRange.approach {s : Snake F} (h : s.InRange) (t : Snake F) (acc : ℕ) :
    baseMoveSpeed ≤ Snake.approach s.speed t.wantedSpeed acc ∧
      Snake.approach s.speed t.wantedSpeed acc ≤ boostSpeed := by
  have hbase : 185 ≤ s.speed := h.base
  have hboost : s.speed ≤ 448 := h.boost
  have hwanted : t.wantedSpeed = 448 ∨ t.wantedSpeed = 185 := by
    unfold wantedSpeed
    split
    · exact .inl rfl
    · exact .inr rfl
  have hbetween := approach_between s.speed t.wantedSpeed acc
  show 185 ≤ _ ∧ _ ≤ 448
  omega

private theorem OnTime.step {m : Libm F} {es : List (ℕ × ℕ)} {e : ℕ × ℕ} {s s' : Snake F}
    (h : s.OnTime es) (hstep : ClockStep m s e s') : s'.OnTime (es ++ [e]) := by
  obtain ⟨halive, ss, r, htick, hframes, hspeed, hmov⟩ := hstep
  obtain ⟨hbalance, hrest, hnew⟩ := tick_clock h.speed halive htick
  have hrange := h.speed.approach r.snake (s.framesTicks e.1 % 65536)
  have hinterval := h.speed.interval.2
  refine ⟨?_, by omega, ?_⟩
  · rw [← hspeed] at hnew
    split at hnew
    · exact ⟨hnew ▸ h.speed.base, hnew ▸ h.speed.boost⟩
    · exact ⟨hnew ▸ hrange.1, hnew ▸ hrange.2⟩
  · have hsum := h.balance
    rw [List.map_append, List.sum_append, List.map_append, List.sum_append]
    simp only [List.map_cons, List.map_nil, List.sum_singleton]
    omega

end Snake

namespace World

/-- The time a tick of the world passes on to the snakes. -/
def vfrTime (dt : ℕ) (w : World F) : ℕ :=
  (w.ticks + dt) / WorldConfig.frameTimeMs * WorldConfig.frameTimeMs

private theorem tickAll_ticks (m : Libm F) (dt : ℕ) (w : World F) :
    Post (w.tickAll m dt) (fun w' => w'.ticks = w.ticks) (fun _ => True) := by
  apply tickAll_rule fun _ w' => w'.ticks = w.ticks
  · rfl
  · exact fun s rest w' _ _ hw => Post.intro (fun r _ => hw) fun _ _ => trivial

private theorem checkAll_ticks (w : World F) :
    Post w.checkAll (fun w' => w'.ticks = w.ticks) (fun _ => True) := by
  apply Post.foldlM fun _ (w' : World F) => w'.ticks = w.ticks
  · intro id rest w' hw
    refine (checkChanged_post w' id).mono ?_ fun _ _ => trivial
    rintro w'' (rfl | ⟨s, -, -, rfl⟩)
    · exact hw
    · exact hw
  · rfl

theorem tick_ticks {m : Libm F} {dt : ℕ} {w w' : World F} (h : w.tick m dt = .ok w') :
    w'.ticks + w.vfrTime dt = w.ticks + dt ∧ w'.ticks < WorldConfig.frameTimeMs := by
  have hmod := Nat.div_add_mod (w.ticks + dt) WorldConfig.frameTimeMs
  have hlt := Nat.mod_lt (w.ticks + dt) (show 0 < WorldConfig.frameTimeMs by decide)
  rw [Nat.mul_comm] at hmod
  unfold vfrTime
  unfold tick at h
  dsimp only at h
  split at h
  · obtain ⟨w₁, htick, hw⟩ := bind_eq_ok.mp h
    obtain ⟨w₂, hall, hcheck⟩ := bind_eq_ok.mp htick
    have h₂ := (tickAll_ticks m _ _).of_ok hall
    have h₁ := (checkAll_ticks w₂).of_ok hcheck
    cases hw
    dsimp only at h₁ h₂ ⊢
    omega
  · rename_i hzero
    cases h
    dsimp only
    have hquot : (w.ticks + dt) / WorldConfig.frameTimeMs = 0 := Nat.eq_zero_of_not_pos hzero
    rw [hquot] at hmod ⊢
    omega

end World

/-- The time a call of the world takes note of. -/
def WorldOp.elapsed : WorldOp → ℕ
  | tick dt => dt
  | _ => 0

namespace World

/-- A call of the world, with the time it passes on to the snakes. -/
def ClockStep (m : Libm F) (w : World F) (e : WorldOp × ℕ) (w' : World F) : Prop :=
  Step m w e.1 w' ∧ e.2 = if e.1.isTick then w.vfrTime e.1.elapsed else 0

private theorem ticks_removeSnake (w : World F) (id : SnakeId) :
    (w.removeSnake id).ticks = w.ticks := by
  unfold removeSnake
  dsimp only
  split <;> rfl

private theorem create_ticks (m : Libm F) (bot : Bool) (w : World F) :
    Post (w.create m bot) (fun r => r.2.ticks = w.ticks) (fun _ => True) := by
  have hplain : Post (w.createSnake m) (fun r => r.2.ticks = w.ticks) (fun _ => True) :=
    (createSnake_post m w).mono
      (by rintro _ ⟨skin, x, y, angle, body, rng, rfl⟩; rfl) fun _ _ => trivial
  unfold create createSnakeBot
  cases bot with
  | true => exact Post.bind hplain fun r hr => hr
  | false => exact hplain

private theorem ClockStep.balance {m : Libm F} {w w' : World F} {e : WorldOp × ℕ}
    (h : ClockStep m w e w') (hw : w.ticks < WorldConfig.frameTimeMs) :
    w'.ticks + e.2 = w.ticks + e.1.elapsed ∧ w'.ticks < WorldConfig.frameTimeMs := by
  obtain ⟨⟨mid, ⟨snakes, -, rfl⟩, hop⟩, hpassed⟩ := h
  obtain ⟨op, passed⟩ := e
  dsimp only at hop hpassed ⊢
  rw [hpassed]
  cases op with
  | create bot =>
      obtain ⟨r, hr, hadd⟩ := bind_eq_ok.mp hop
      have hticks := (create_ticks m bot _).of_ok hr
      cases hadd
      exact ⟨hticks, hticks.trans_lt hw⟩
  | tick dt =>
      have hticks := tick_ticks (show World.tick m dt _ = .ok w' from hop)
      exact hticks
  | remove id =>
      cases hop
      rw [ticks_removeSnake]
      exact ⟨rfl, hw⟩

private theorem init_ticks (m : Libm F) (config : WorldConfig) (rng : Rng) :
    Post (World.init m config rng) (fun w => w.ticks = 0) (fun _ => True) := by
  apply init_rule
  · rfl
  · intro w hw
    unfold spawnBot
    apply Post.bind (create_ticks m true w)
    exact fun r hr => hr.trans hw

theorem create_onTime (m : Libm F) (bot : Bool) (w : World F) :
    Post (w.create m bot) (fun r => r.1.OnTime []) (fun _ => True) := by
  have hplain : Post (w.createSnake m) (fun r => r.1.OnTime []) (fun _ => True) := by
    refine (createSnake_post m w).mono ?_ fun _ _ => trivial
    rintro _ ⟨skin, x, y, angle, body, rng, rfl⟩
    exact ⟨⟨le_refl 185, show 185 ≤ 448 by decide⟩, show 0 < 227 by decide, rfl⟩
  unfold create createSnakeBot
  cases bot with
  | true => exact Post.bind hplain fun r hr => ⟨⟨hr.speed.base, hr.speed.boost⟩, hr.rest, hr.balance⟩
  | false => exact hplain

/-- No time is lost between the calls of the world and the movement of the snakes, and every snake
keeps a speed between the two it may want, which each movement step brings nearer. -/
theorem time_kept (m : Libm F) (config : WorldConfig) (rng : Rng) {w₀ : World F}
    (hinit : World.init m config rng = .ok w₀) :
    (∀ es w, Run (ClockStep m) w₀ es w → w.ticks < WorldConfig.frameTimeMs ∧
      (es.map fun e => e.1.elapsed).sum = w.ticks + (es.map Prod.snd).sum) ∧
    ∀ (w w' : World F) bot s, w.create m bot = .ok (s, w') →
      ∀ es t, Run (Snake.ClockStep m) s es t →
        (185 ≤ t.speed ∧ t.speed ≤ 448) ∧
        (93 ≤ t.movFrameInterval ∧ t.movFrameInterval ≤ 227) ∧
        t.movTicks < 227 ∧ (es.map Prod.fst).sum = t.movTicks + (es.map Prod.snd).sum ∧
        ∀ dt ss r, (t.update.changeDying || t.update.changeDead) = false →
          t.tick m dt ss = .ok r → t.framesTicks dt ≠ 0 →
          r.snake.speed =
              Snake.approach t.speed r.snake.wantedSpeed (t.framesTicks dt % 65536) ∧
            (t.speed ≤ r.snake.speed ∧ r.snake.speed ≤ r.snake.wantedSpeed ∨
              r.snake.wantedSpeed ≤ r.snake.speed ∧ r.snake.speed ≤ t.speed) := by
  refine ⟨fun es w hrun => ?_, fun w w' bot s hcreate es t hrun => ?_⟩
  · refine hrun.invariant (I := fun es w => w.ticks < WorldConfig.frameTimeMs ∧
      (es.map fun e => e.1.elapsed).sum = w.ticks + (es.map Prod.snd).sum) ?_ ?_
    · have hzero := (init_ticks m config rng).of_ok hinit
      rw [hzero]
      exact ⟨by decide, rfl⟩
    · rintro es t e u ⟨ht, hsum⟩ hstep
      obtain ⟨hbalance, hlt⟩ := hstep.balance ht
      refine ⟨hlt, ?_⟩
      rw [List.map_append, List.sum_append, List.map_append, List.sum_append]
      simp only [List.map_cons, List.map_nil, List.sum_singleton]
      omega
  · have h : t.OnTime es := by
      refine hrun.invariant (I := fun es t => t.OnTime es) ?_ fun es t e u ht hstep =>
        ht.step hstep
      exact (create_onTime m bot w).of_ok hcreate
    refine ⟨⟨h.speed.base, h.speed.boost⟩, h.speed.interval, h.rest, h.balance,
      fun dt ss r halive htick hne => ?_⟩
    obtain ⟨-, -, hspeed⟩ := Snake.tick_clock h.speed halive htick
    rw [if_neg hne] at hspeed
    refine ⟨hspeed, ?_⟩
    rw [hspeed]
    exact Snake.approach_between _ _ _

/-- Calls with the times they pass on, checked along the way. -/
def clockRun (m : Libm ℚ) (w : World ℚ) (es : List (WorldOp × ℕ)) : Option (World ℚ) :=
  es.foldlM (fun w e =>
    if e.2 = (if e.1.isTick then w.vfrTime e.1.elapsed else 0) then (w.perform m e.1).toOption
    else none) w

private theorem run_of_clockRun {m : Libm ℚ} {w w' : World ℚ} {es : List (WorldOp × ℕ)}
    (h : w.clockRun m es = some w') : Run (ClockStep m) w es w' := by
  refine Run.of_foldlM (fun w => w) (fun w e w' hstep => ?_) h
  by_cases htime : e.2 = if e.1.isTick then w.vfrTime e.1.elapsed else 0
  · rw [if_pos htime] at hstep
    refine ⟨⟨w, ⟨w.snakes, .refl _, rfl⟩, ?_⟩, htime⟩
    cases hop : w.perform m e.1 with
    | error err =>
        rw [hop] at hstep
        cases hstep
    | ok r =>
        rw [hop] at hstep
        cases hstep
        rfl
  · rw [if_neg htime] at hstep
    cases hstep

end World

namespace Snake

/-- Ticks with the times they consume, checked along the way; the player accelerates from the first
one on. -/
def clockRun (m : Libm ℚ) (s : Snake ℚ) (es : List (ℕ × ℕ)) : Option (Snake ℚ) :=
  es.foldlM (fun s e =>
    if (s.update.changeDying || s.update.changeDead) = false ∧ e.2 = s.framesTicks e.1 then
      (s.tick m e.1 SectorSeq.init).toOption.map fun r => { r.snake with acceleration := true }
    else none) s

private theorem run_of_clockRun {m : Libm ℚ} {s s' : Snake ℚ} {es : List (ℕ × ℕ)}
    (h : s.clockRun m es = some s') : Run (ClockStep m) s es s' := by
  refine Run.of_foldlM (fun s => s) (fun s e s' hstep => ?_) h
  split at hstep
  · rename_i hready
    refine ⟨hready.1, SectorSeq.init, ?_⟩
    cases htick : s.tick m e.1 SectorSeq.init with
    | error err =>
        rw [htick] at hstep
        cases hstep
    | ok r =>
        rw [htick] at hstep
        cases hstep
        exact ⟨r, rfl, hready.2, rfl, rfl⟩
  · cases hstep

end Snake

namespace World

/-- The world keeps 7 ms for itself.  The new snake accelerates to the boost speed in two steps, of
an interval at its first speed and one at the speed between. -/
theorem time_kept_accelerated :
    ∃ (w₀ w w₁ : World ℚ) (s t : Snake ℚ), World.init Libm.axis {} Rng.zero = .ok w₀ ∧
      Run (ClockStep Libm.axis) w₀ [(.create false, 0), (.tick 235, 232), (.tick 4, 0)] w ∧
      239 = w.ticks + 232 ∧ w₀.create Libm.axis false = .ok (s, w₁) ∧
      Run (Snake.ClockStep Libm.axis) s [(232, 227), (300, 227), (30, 101)] t ∧
      562 = t.movTicks + 555 ∧ t.speed = 448 := by
  have hworld : (({ (blank {} Rng.zero : World ℚ) with sectors := SectorSeq.stocked ℚ } :
      World ℚ).clockRun Libm.axis
        [(.create false, 0), (.tick 235, 232), (.tick 4, 0)]).isSome = true := by decide +kernel
  rw [← initFood_zero] at hworld
  obtain ⟨w, hw⟩ := Option.isSome_iff_exists.mp hworld
  have hsnake : (((blank {} Rng.zero : World ℚ).initFood.create Libm.axis false).toOption.bind
      fun r => r.1.clockRun Libm.axis [(232, 227), (300, 227), (30, 101)]).any
        (fun t => decide (t.speed = 448)) = true := by
    rw [initFood_zero]
    decide +kernel
  obtain ⟨t, ht, hspeed⟩ := (Option.any_eq_true _ _).mp hsnake
  obtain ⟨⟨s, w₁⟩, hcreate, hrun⟩ := Option.bind_eq_some_iff.mp ht
  have hcreate' : (blank {} Rng.zero : World ℚ).initFood.create Libm.axis false = .ok (s, w₁) := by
    cases hres : (blank {} Rng.zero : World ℚ).initFood.create Libm.axis false with
    | error e =>
        rw [hres] at hcreate
        cases hcreate
    | ok r =>
        rw [hres] at hcreate
        cases hcreate
        rfl
  have hclock := run_of_clockRun hw
  have hticks := Snake.run_of_clockRun hrun
  have hkept := time_kept Libm.axis {} Rng.zero rfl
  obtain ⟨-, -, -, hsum, -⟩ := hkept.2 _ _ _ _ hcreate' _ _ hticks
  exact ⟨_, w, w₁, s, t, rfl, hclock, (hkept.1 _ _ hclock).2, hcreate', hticks, hsum,
    of_decide_eq_true hspeed⟩

end World

end Slither
