import Slither.Framework.Transition
import Slither.Game.Drive
import Slither.Packet.Encoding

/-!
# Turning

Angles are taken modulo a full turn.  A rotation step shortens the way to the wanted angle, which is
measured along the shorter arc, by what the elapsed time allows and never passes it.
-/

set_option linter.unusedSectionVars false

namespace Slither

open Framework

variable {F : Type} [Field F] [LinearOrder F] [IsStrictOrderedRing F] [FloorRing F]

namespace Math

/-- The way from one angle to another along the shorter arc; positive when the angle grows. -/
def shortestTurn (m : Libm F) (ang wang : F) : F :=
  let d := normalizeAngle m (wang - ang)
  if d > m.fPi then d - f2pi m else d

section

variable {m : Libm F} (hpi : 0 < m.fPi)

include hpi

theorem f2pi_pos : 0 < f2pi m := by
  unfold f2pi
  linarith

theorem normalizeAngle_eq {a b : F} (hb : 0 ≤ b) (hlt : b < f2pi m) (k : ℤ)
    (h : a = b + k * f2pi m) : normalizeAngle m a = b := by
  have hturn := f2pi_pos hpi
  have hfloor : ⌊a / f2pi m⌋ = k := by
    have hdiv : a / f2pi m = b / f2pi m + k := by
      rw [h, add_div, mul_div_cancel_right₀ _ hturn.ne']
    have hzero : ⌊b / f2pi m⌋ = 0 :=
      Int.floor_eq_zero_iff.mpr ⟨div_nonneg hb hturn.le, (div_lt_one hturn).mpr hlt⟩
    rw [hdiv, Int.floor_add_intCast, hzero, zero_add]
  rw [normalizeAngle, hfloor, h]
  ring

theorem normalizeAngle_mem (a : F) :
    0 ≤ normalizeAngle m a ∧ normalizeAngle m a < f2pi m := by
  have hturn := f2pi_pos hpi
  have hfract : normalizeAngle m a = f2pi m * Int.fract (a / f2pi m) := by
    rw [normalizeAngle, Int.fract, mul_sub, mul_div_cancel₀ _ hturn.ne']
  rw [hfract]
  refine ⟨mul_nonneg hturn.le (Int.fract_nonneg _), ?_⟩
  exact mul_lt_of_lt_one_right hturn (Int.fract_lt_one _)

omit hpi in
theorem exists_normalizeAngle (a : F) : ∃ k : ℤ, a = normalizeAngle m a + k * f2pi m :=
  ⟨⌊a / f2pi m⌋, by rw [normalizeAngle]; ring⟩

private theorem shortestTurn_eq {ang wang d : F} (hlo : -m.fPi < d) (hhi : d ≤ m.fPi) (k : ℤ)
    (h : wang - ang = d + k * f2pi m) : shortestTurn m ang wang = d := by
  unfold shortestTurn
  by_cases hd : 0 ≤ d
  · have hnorm : normalizeAngle m (wang - ang) = d := by
      refine normalizeAngle_eq hpi hd ?_ k h
      unfold f2pi
      linarith
    rw [hnorm, if_neg (by linarith)]
  · push Not at hd
    have hnorm : normalizeAngle m (wang - ang) = d + f2pi m := by
      refine normalizeAngle_eq hpi ?_ (by linarith) (k - 1) ?_
      · unfold f2pi
        linarith
      · rw [h]
        push_cast
        ring
    rw [hnorm, if_pos, add_sub_cancel_right]
    unfold f2pi
    linarith

private theorem shortestTurn_mem (ang wang : F) :
    -m.fPi < shortestTurn m ang wang ∧ shortestTurn m ang wang ≤ m.fPi := by
  obtain ⟨hlo, hhi⟩ := normalizeAngle_mem hpi (wang - ang)
  unfold shortestTurn
  unfold f2pi at *
  dsimp only
  split
  · constructor <;> linarith
  · constructor <;> linarith

omit hpi in
private theorem exists_shortestTurn (ang wang : F) :
    ∃ k : ℤ, wang - ang = shortestTurn m ang wang + k * f2pi m := by
  obtain ⟨k, hk⟩ := exists_normalizeAngle (m := m) (wang - ang)
  unfold shortestTurn
  dsimp only
  split
  · refine ⟨k + 1, ?_⟩
    push_cast
    linear_combination hk
  · exact ⟨k, hk⟩

private theorem shortestTurn_of_part {ang wang ang' t : F} (k : ℤ) (h : ang' = ang + t + k * f2pi m)
    (hlo : -m.fPi < shortestTurn m ang wang - t) (hhi : shortestTurn m ang wang - t ≤ m.fPi) :
    shortestTurn m ang' wang = shortestTurn m ang wang - t := by
  obtain ⟨j, hj⟩ := exists_shortestTurn (m := m) ang wang
  refine shortestTurn_eq hpi hlo hhi (j - k) ?_
  rw [h]
  push_cast
  linear_combination hj

private theorem eq_of_shortestTurn_eq_zero {ang wang : F} (hang : 0 ≤ ang ∧ ang < f2pi m)
    (hwang : 0 ≤ wang ∧ wang < f2pi m) (h : shortestTurn m ang wang = 0) : ang = wang := by
  obtain ⟨k, hk⟩ := exists_shortestTurn (m := m) ang wang
  have hself := normalizeAngle_eq hpi hang.1 hang.2 (-k) (a := ang - k * f2pi m) (by push_cast; ring)
  have hother := normalizeAngle_eq hpi hwang.1 hwang.2 (-k) (a := ang) (by
    rw [h] at hk
    push_cast
    linear_combination -hk)
  have hfirst := normalizeAngle_eq hpi hang.1 hang.2 0 (a := ang) (by simp)
  exact hfirst.symm.trans hother

end

end Math

namespace Snake

/-- The milliseconds a rotation step makes up for. -/
def rotationTicks (dt : ℕ) (s : Snake F) : ℕ := (s.rotTicks + dt) / rotStepInterval * rotStepInterval

/-- The largest turn of a rotation step. -/
def rotation (dt : ℕ) (s : Snake F) : F := snakeAngularSpeed * (s.rotationTicks dt : F) / 1000

/-- The turn of a rotation step. -/
def turned (m : Libm F) (dt : ℕ) (s : Snake F) : F :=
  Math.shortestTurn m s.angle (s.tickRotation m dt).1.angle

/-- How far there still is to turn. -/
def toTurn (m : Libm F) (s : Snake F) : F := Math.shortestTurn m s.angle s.wangle

private theorem tickRotation_flag (m : Libm F) (dt : ℕ) (s : Snake F) :
    (s.tickRotation m dt).2 = true ↔
      s.angle ≠ s.wangle ∧ rotStepInterval ≤ s.rotTicks + dt := by
  unfold tickRotation
  by_cases h : s.angle ≠ s.wangle
  · by_cases ht : s.rotTicks + dt ≥ rotStepInterval
    · simp [h, ht]
    · simp [h, ht]
  · simp [h]

private theorem wangle_tickRotation (m : Libm F) (dt : ℕ) (s : Snake F) :
    (s.tickRotation m dt).1.wangle = s.wangle := by
  simp only [tickRotation]
  split
  · split <;> rfl
  · rfl

private theorem angle_tickRotation (m : Libm F) (dt : ℕ) (s : Snake F)
    (h : (s.tickRotation m dt).2 = true) :
    (s.tickRotation m dt).1.angle = Math.normalizeAngle m
      (if |s.toTurn m| < s.rotation dt then s.wangle
        else s.angle + s.rotation dt * (if s.toTurn m > 0 then 1 else -1)) := by
  obtain ⟨hne, hticks⟩ := (tickRotation_flag m dt s).mp h
  unfold tickRotation
  simp only [if_pos hne, if_pos (show s.rotTicks + dt ≥ rotStepInterval from hticks)]
  rfl

/-- The turn of one rotation frame. -/
def frameTurn : F := snakeAngularSpeed * (rotStepInterval : F) / 1000

private theorem frameTurn_pos : (0 : F) < frameTurn := by
  unfold frameTurn snakeAngularSpeed
  norm_num

private theorem frameTurn_le_rotation {dt : ℕ} {s : Snake F}
    (h : rotStepInterval ≤ s.rotTicks + dt) :
    (frameTurn : F) ≤ s.rotation dt := by
  have hticks : rotStepInterval ≤ s.rotationTicks dt :=
    Nat.le_mul_of_pos_left _ (Nat.div_pos h (by decide))
  have hcast : (rotStepInterval : F) ≤ (s.rotationTicks dt : F) := Nat.cast_le.mpr hticks
  have hspeed : (0 : F) ≤ snakeAngularSpeed := by
    unfold snakeAngularSpeed
    norm_num
  exact div_le_div_of_nonneg_right (mul_le_mul_of_nonneg_left hcast hspeed) (by norm_num)

/-- Towards the wanted angle: the way left before the step, less at most the step's rotation. -/
def wayLeft (d rotation : F) : F := d - SignType.sign d * min |d| rotation

private theorem wayLeft_of_lt {d rotation : F} (h : |d| < rotation) : wayLeft d rotation = 0 := by
  rw [wayLeft, min_eq_left h.le, sign_mul_abs, sub_self]

private theorem wayLeft_of_ge {d rotation : F} (hpos : 0 < rotation) (h : rotation ≤ |d|) :
    wayLeft d rotation = d - rotation * (if d > 0 then 1 else -1) := by
  rw [wayLeft, min_eq_right h]
  by_cases hd : d > 0
  · rw [if_pos hd, sign_pos hd, SignType.coe_one]
    ring
  · have hneg : d < 0 := by
      rcases lt_trichotomy d 0 with hlt | heq | hgt
      · exact hlt
      · rw [heq, abs_zero] at h
        linarith
      · exact absurd hgt hd
    rw [if_neg hd, sign_neg hneg, SignType.coe_neg_one]
    ring

private theorem abs_wayLeft {d rotation : F} (hpos : 0 < rotation) :
    |wayLeft d rotation| = max 0 (|d| - rotation) := by
  rcases lt_or_ge |d| rotation with h | h
  · rw [wayLeft_of_lt h, abs_zero, max_eq_left (by linarith)]
  · rw [wayLeft_of_ge hpos h, max_eq_right (by linarith)]
    by_cases hd : d > 0
    · rw [abs_of_pos hd] at h ⊢
      rw [if_pos hd, mul_one, abs_of_nonneg (by linarith)]
    · rw [abs_of_nonpos (not_lt.mp hd)] at h ⊢
      rw [if_neg hd, abs_of_nonpos (by linarith)]
      ring

section Step

variable {m : Libm F} (hpi : 0 < m.fPi) {dt : ℕ} {s : Snake F}
  (hflag : (s.tickRotation m dt).2 = true)

include hpi hflag

private theorem angle_tickRotation_mem :
    0 ≤ (s.tickRotation m dt).1.angle ∧ (s.tickRotation m dt).1.angle < Math.f2pi m := by
  rw [angle_tickRotation m dt s hflag]
  exact Math.normalizeAngle_mem hpi _

private theorem rotation_pos : 0 < s.rotation dt :=
  frameTurn_pos.trans_le (frameTurn_le_rotation ((tickRotation_flag m dt s).mp hflag).2)

/-- A rotation step goes towards the wanted angle along the shorter arc and does not pass it. -/
private theorem toTurn_tickRotation :
    (s.tickRotation m dt).1.toTurn m = wayLeft (s.toTurn m) (s.rotation dt) := by
  have hpos := rotation_pos hpi hflag
  obtain ⟨hlo, hhi⟩ := Math.shortestTurn_mem hpi s.angle s.wangle
  change -m.fPi < s.toTurn m at hlo
  change s.toTurn m ≤ m.fPi at hhi
  unfold toTurn
  rw [wangle_tickRotation, angle_tickRotation m dt s hflag]
  rcases lt_or_ge |s.toTurn m| (s.rotation dt) with hlt | hge
  · obtain ⟨k, hk⟩ := Math.exists_normalizeAngle (m := m) s.wangle
    rw [if_pos hlt]
    refine (Math.shortestTurn_eq hpi (by linarith) hpi.le k ?_).trans (wayLeft_of_lt hlt).symm
    linear_combination hk
  · rw [if_neg (not_lt.mpr hge)]
    have hleft := wayLeft_of_ge hpos hge
    have habs := abs_wayLeft (d := s.toTurn m) hpos
    rw [max_eq_right (by linarith)] at habs
    have hbound : |wayLeft (s.toTurn m) (s.rotation dt)| < m.fPi := by
      rw [habs]
      have hpart : |s.toTurn m| ≤ m.fPi := abs_le.mpr ⟨hlo.le, hhi⟩
      linarith
    obtain ⟨hl, hr⟩ := abs_lt.mp hbound
    rw [hleft] at hl hr
    obtain ⟨k, hk⟩ := Math.exists_normalizeAngle (m := m)
      (s.angle + s.rotation dt * (if s.toTurn m > 0 then 1 else -1))
    refine (Math.shortestTurn_of_part hpi (-k) ?_ hl hr.le).trans hleft.symm
    push_cast
    linear_combination -hk

private theorem turned_of_left (hleft : (s.tickRotation m dt).1.toTurn m ≠ 0) :
    s.turned m dt = s.rotation dt * (if s.toTurn m > 0 then 1 else -1) ∧
      (0 < (s.tickRotation m dt).1.toTurn m ↔ 0 < s.toTurn m) := by
  have hpos := rotation_pos hpi hflag
  have hturn := toTurn_tickRotation hpi hflag
  obtain ⟨hlo, hhi⟩ := Math.shortestTurn_mem hpi s.angle s.wangle
  change -m.fPi < s.toTurn m at hlo
  change s.toTurn m ≤ m.fPi at hhi
  rcases lt_or_ge |s.toTurn m| (s.rotation dt) with hlt | hge
  · rw [hturn, wayLeft_of_lt hlt] at hleft
    exact absurd rfl hleft
  rw [wayLeft_of_ge hpos hge] at hturn
  rw [hturn] at hleft ⊢
  unfold turned
  rw [angle_tickRotation m dt s hflag, if_neg (not_lt.mpr hge)]
  obtain ⟨k, hk⟩ := Math.exists_normalizeAngle (m := m)
    (s.angle + s.rotation dt * (if s.toTurn m > 0 then 1 else -1))
  by_cases hd : s.toTurn m > 0
  · rw [abs_of_pos hd] at hge
    simp only [if_pos hd, mul_one] at hleft hk ⊢
    have hlt : s.rotation dt < s.toTurn m := lt_of_le_of_ne hge fun h => hleft (by linarith)
    refine ⟨Math.shortestTurn_eq hpi (by linarith) (by linarith) (-k) ?_, ?_⟩
    · push_cast
      linear_combination -hk
    · exact iff_of_true (by linarith) hd
  · rw [abs_of_nonpos (not_lt.mp hd)] at hge
    simp only [if_neg hd] at hleft hk ⊢
    have hlt : s.rotation dt < -s.toTurn m := lt_of_le_of_ne hge fun h => hleft (by linarith)
    refine ⟨Math.shortestTurn_eq hpi (by linarith) (by linarith) (-k) ?_, ?_⟩
    · push_cast
      linear_combination -hk
    · exact iff_of_false (by linarith) hd

end Step

private theorem turned_of_arrived {m : Libm F} (hpi : 0 < m.fPi) {dt : ℕ} {s : Snake F}
    (h : (s.tickRotation m dt).1.toTurn m = 0) : s.turned m dt = s.toTurn m := by
  obtain ⟨hlo, hhi⟩ := Math.shortestTurn_mem hpi s.angle s.wangle
  obtain ⟨j, hj⟩ := Math.exists_shortestTurn (m := m) s.angle s.wangle
  obtain ⟨k, hk⟩ := Math.exists_shortestTurn (m := m) (s.tickRotation m dt).1.angle
    (s.tickRotation m dt).1.wangle
  unfold toTurn at h ⊢
  rw [h, wangle_tickRotation] at hk
  refine Math.shortestTurn_eq hpi hlo hhi (j - k) ?_
  push_cast
  linear_combination hj - hk

private theorem turned_pos_iff {m : Libm F} (hpi : 0 < m.fPi) {dt : ℕ} {s : Snake F}
    (hflag : (s.tickRotation m dt).2 = true) : 0 < s.turned m dt ↔ 0 < s.toTurn m := by
  by_cases hleft : (s.tickRotation m dt).1.toTurn m = 0
  · rw [turned_of_arrived hpi hleft]
  · have hpos := rotation_pos hpi hflag
    rw [(turned_of_left hpi hflag hleft).1]
    by_cases hd : s.toTurn m > 0
    · rw [if_pos hd, mul_one]
      exact iff_of_true hpos hd
    · rw [if_neg hd]
      exact iff_of_false (by linarith) hd

/-- A rotation step turns along the shorter arc without passing the wanted angle, and the direction
on the wire is the direction of this step and of the next one. -/
theorem turning_shortest (m : Libm F) (hpi : 0 < m.fPi) (s : Snake F) (dt : ℕ)
    (hflag : (s.tickRotation m dt).2 = true) :
    let s' := (s.tickRotation m dt).1
    (0 ≤ s'.angle ∧ s'.angle < Math.f2pi m) ∧
      s'.toTurn m =
        s.toTurn m - SignType.sign (s.toTurn m) * min |s.toTurn m| (s.rotation dt) ∧
      (s'.toTurn m ≠ 0 →
        let p : PacketRotation F := { snakeId := s.id, ang := s'.angle, wang := s'.wangle }
        (p.isClockwise m = true ↔ 0 < s.turned m dt) ∧
          ∀ dt', (s'.tickRotation m dt').2 = true →
            (p.isClockwise m = true ↔ 0 < s'.turned m dt')) := by
  refine ⟨angle_tickRotation_mem hpi hflag, toTurn_tickRotation hpi hflag, fun hleft => ?_⟩
  have hwire : ∀ id : SnakeId,
      ({ snakeId := id, ang := (s.tickRotation m dt).1.angle
         wang := (s.tickRotation m dt).1.wangle } : PacketRotation F).isClockwise m = true ↔
        0 < (s.tickRotation m dt).1.toTurn m := by
    intro id
    rw [PacketRotation.isClockwise, PacketRotation.normalizeAngle_eq_math]
    exact decide_eq_true_iff
  refine ⟨?_, fun dt' hnext => ?_⟩
  · rw [hwire, turned_pos_iff hpi hflag]
    exact (turned_of_left hpi hflag hleft).2
  · rw [hwire, turned_pos_iff hpi hnext]

/-- A snake that has to turn by a right angle, roughly. -/
def askew : Snake ℚ := { Snake.placed Libm.axis 1 9 21600 21600 0 0 with angle := 0, wangle := 3 / 2 }

theorem turning_shortest_askew :
    let s' := (askew.tickRotation Libm.axis 93).1
    (0 ≤ s'.angle ∧ s'.angle < Math.f2pi Libm.axis) ∧
      s'.toTurn Libm.axis = askew.toTurn Libm.axis -
        SignType.sign (askew.toTurn Libm.axis) *
          min |askew.toTurn Libm.axis| (askew.rotation 93) ∧
      (s'.toTurn Libm.axis ≠ 0 →
        let p : PacketRotation ℚ := { snakeId := askew.id, ang := s'.angle, wang := s'.wangle }
        (p.isClockwise Libm.axis = true ↔ 0 < askew.turned Libm.axis 93) ∧
          ∀ dt', (s'.tickRotation Libm.axis dt').2 = true →
            (p.isClockwise Libm.axis = true ↔ 0 < s'.turned Libm.axis dt')) :=
  turning_shortest Libm.axis (by decide +kernel) askew 93 (by decide +kernel)

/-- The tick sets `change_angle`. -/
def setsAngle (m : Libm F) (dt : ℕ) (s : Snake F) (ss : SectorSeq) : Bool :=
  if s.update.changeDying || s.update.changeDead then false
  else
    match s.advance m dt ss with
    | .ok a => a.changes.changeAngle
    | .error _ => false

private theorem drive_report (a : Advanced F) : (report a).snake.drive = a.snake.drive := by
  unfold report
  split <;> rfl

private theorem updateSpeed_heading (framesTicks : ℕ) (s : Snake F) :
    (s.updateSpeed framesTicks).1.angle = s.angle ∧
      (s.updateSpeed framesTicks).1.wangle = s.wangle ∧
      (s.updateSpeed framesTicks).1.bot = s.bot := by
  obtain ⟨speed, hspeed⟩ := s.updateSpeed_eq framesTicks
  rw [hspeed]
  exact ⟨rfl, rfl, rfl⟩

theorem tickMovement_heading (m : Libm F) (dt : ℕ) (s : Snake F) (ss : SectorSeq) :
    Post (s.tickMovement m dt ss)
      (fun r => r.snake.angle = s.angle ∧ r.snake.wangle = s.wangle ∧ r.snake.bot = s.bot)
      (fun _ => True) := by
  refine tickMovement_rule ⟨rfl, rfl, rfl⟩ (fun framesTicks => ?_) trivial
  refine (moveFrames_drive m framesTicks _ ss).mono ?_ fun _ _ => trivial
  rintro r ⟨t, ht, -, hr⟩
  obtain ⟨hangle, hwangle, hbot⟩ := t.updateSpeed_heading framesTicks
  refine ⟨?_, ?_, ?_⟩
  · exact ((congrArg (fun d => d.1) hr).trans hangle).trans (congrArg (fun d => d.1) ht)
  · exact ((congrArg (fun d => d.2.1) hr).trans hwangle).trans (congrArg (fun d => d.2.1) ht)
  · exact ((congrArg (fun d => d.2.2.2.2.2) hr).trans hbot).trans
      (congrArg (fun d => d.2.2.2.2.2) ht)

private theorem advance_heading (m : Libm F) (dt : ℕ) {s : Snake F} (ss : SectorSeq)
    (hbot : s.bot = false) :
    Post (s.advance m dt ss)
      (fun a => a.changes.changeAngle = (s.tickRotation m dt).2 ∧
        a.snake.angle = (s.tickRotation m dt).1.angle ∧ a.snake.wangle = s.wangle ∧
          a.snake.bot = s.bot)
      (fun _ => True) := by
  have hplayer : s.tickBot m dt = s := by
    unfold tickBot
    rw [hbot, if_neg Bool.false_ne_true]
  refine advance_rule ?_
  rw [hplayer]
  refine (tickMovement_heading m dt _ ss).mono ?_ fun _ _ => trivial
  rintro r ⟨hangle, hwangle, hsame⟩
  have hkept := kept_tickRotation m dt s
  exact ⟨rfl, hangle, hwangle.trans (wangle_tickRotation m dt s),
    hsame.trans (congrArg (fun k => k.2.1) hkept)⟩

theorem angle_of_not_flag {m : Libm F} {dt : ℕ} {s : Snake F}
    (h : (s.tickRotation m dt).2 = false) : (s.tickRotation m dt).1.angle = s.angle := by
  unfold tickRotation at h ⊢
  by_cases hne : s.angle ≠ s.wangle
  · by_cases hticks : s.rotTicks + dt ≥ rotStepInterval
    · simp [hne, hticks] at h
    · simp [hne, hticks]
  · simp [hne]

private theorem tick_angle {m : Libm F} {dt : ℕ} {s : Snake F} {ss : SectorSeq} {r : Ticked F}
    (hbot : s.bot = false) (htick : s.tick m dt ss = .ok r) :
    r.snake.wangle = s.wangle ∧ r.snake.bot = false ∧
      (s.setsAngle m dt ss = true →
        (s.tickRotation m dt).2 = true ∧ r.snake.angle = (s.tickRotation m dt).1.angle) ∧
      (s.setsAngle m dt ss = false → r.snake.angle = s.angle) := by
  unfold tick at htick
  unfold setsAngle
  by_cases hdying : (s.update.changeDying || s.update.changeDead) = true
  · rw [if_pos hdying] at htick ⊢
    cases htick
    exact ⟨rfl, hbot, nofun, fun _ => rfl⟩
  rw [if_neg hdying] at htick ⊢
  obtain ⟨a, hadvance, hr⟩ := bind_eq_ok.mp htick
  cases hr
  obtain ⟨hflag, hangle, hwangle, hsame⟩ := (s.advance_heading m dt ss hbot).of_ok hadvance
  have hdrive := drive_report a
  have hreport : (report a).snake.angle = a.snake.angle := congrArg (fun d => d.1) hdrive
  simp only [hadvance, hflag, hreport, hangle]
  refine ⟨(congrArg (fun d => d.2.1) hdrive).trans hwangle,
    (congrArg (fun d => d.2.2.2.2.2) hdrive).trans (hsame.trans hbot), fun h => ⟨h, trivial⟩,
    angle_of_not_flag⟩

/-- A tick of a player that is not given another angle meanwhile.  The event is the elapsed time and
whether the tick set `change_angle`; between two ticks all else may change. -/
def TurnStep (m : Libm F) (s : Snake F) (e : ℕ × Bool) (s' : Snake F) : Prop :=
  ∃ ss r, s.tick m e.1 ss = .ok r ∧ e.2 = s.setsAngle m e.1 ss ∧
    s'.angle = r.snake.angle ∧ s'.wangle = r.snake.wangle ∧ s'.bot = r.snake.bot

/-- As many rotation frames as half a turn takes. -/
def turnBound (m : Libm F) : ℕ := ⌈m.fPi / frameTurn⌉₊

/-- After `n` rotation steps at least as many frames are done, or the snake has arrived. -/
structure Turning (m : Libm F) (wangle : F) (n : ℕ) (s : Snake F) : Prop where
  player : s.bot = false
  wangle : s.wangle = wangle
  angle : 0 ≤ s.angle ∧ s.angle < Math.f2pi m
  left : s.toTurn m = 0 ∨ |s.toTurn m| + n * frameTurn ≤ m.fPi
  steps : n = 0 ∨ (n - 1 : F) * frameTurn < m.fPi

private theorem Turning.step {m : Libm F} (hpi : 0 < m.fPi) {wangle : F} {n : ℕ} {s s' : Snake F}
    {e : ℕ × Bool} (hwang : 0 ≤ wangle ∧ wangle < Math.f2pi m) (h : Turning m wangle n s)
    (hstep : TurnStep m s e s') : Turning m wangle (n + e.2.toNat) s' := by
  obtain ⟨ss, r, htick, hflag, hangle, hwangle, hbot⟩ := hstep
  obtain ⟨hw, hb, hturn, hidle⟩ := tick_angle h.player htick
  rw [← hflag] at hturn hidle
  have hwang' : s'.wangle = wangle := hwangle.trans (hw.trans h.wangle)
  have hto : s'.toTurn m = Math.shortestTurn m r.snake.angle s.wangle := by
    rw [toTurn, hangle, hwangle, hw]
  cases he : e.2 with
  | false =>
      have hsame := hidle he
      rw [hsame] at hto hangle
      exact ⟨hbot.trans hb, hwang', hangle ▸ h.angle, hto ▸ h.left, h.steps⟩
  | true =>
      obtain ⟨hrot, hnew⟩ := hturn he
      obtain ⟨hne, hticks⟩ := (tickRotation_flag m e.1 s).mp hrot
      have hmem := angle_tickRotation_mem hpi hrot
      have hleft := toTurn_tickRotation hpi hrot
      have hframe := frameTurn_le_rotation hticks
      rw [toTurn, wangle_tickRotation, ← hnew, ← hto] at hleft
      rw [← hnew, ← hangle] at hmem
      -- there was something left to turn
      have hsome : s.toTurn m ≠ 0 := fun hzero =>
        hne (Math.eq_of_shortestTurn_eq_zero hpi h.angle (h.wangle ▸ hwang) hzero)
      have hbudget := h.left.resolve_left hsome
      have habs := abs_pos.mpr hsome
      refine ⟨hbot.trans hb, hwang', hmem, ?_, .inr ?_⟩
      · rcases lt_or_ge |s.toTurn m| (s.rotation e.1) with hlt | hge
        · exact .inl (hleft.trans (wayLeft_of_lt hlt))
        · refine .inr ?_
          rw [hleft, abs_wayLeft (rotation_pos hpi hrot), max_eq_right (by linarith)]
          simp only [Bool.toNat_true, Nat.cast_add, Nat.cast_one]
          linarith
      · simp only [Bool.toNat_true, Nat.cast_add, Nat.cast_one, add_sub_cancel_right]
        linarith

private theorem run_turning {m : Libm F} (hpi : 0 < m.fPi) {s s' : Snake F} {es : List (ℕ × Bool)}
    (hbot : s.bot = false) (hang : 0 ≤ s.angle ∧ s.angle < Math.f2pi m)
    (hwang : 0 ≤ s.wangle ∧ s.wangle < Math.f2pi m) (hrun : Run (TurnStep m) s es s') :
    Turning m s.wangle (es.countP Prod.snd) s' := by
  refine hrun.invariant (I := fun es t => Turning m s.wangle (es.countP Prod.snd) t) ?_ ?_
  · obtain ⟨hlo, hhi⟩ := Math.shortestTurn_mem hpi s.angle s.wangle
    refine ⟨hbot, rfl, hang, .inr ?_, .inl rfl⟩
    rw [List.countP_nil, Nat.cast_zero, zero_mul, add_zero]
    exact abs_le.mpr ⟨hlo.le, hhi⟩
  · intro es t e u ht hstep
    have hnext := ht.step hpi hwang hstep
    have hcount : (es ++ [e]).countP Prod.snd = es.countP Prod.snd + e.2.toNat := by
      rw [List.countP_append, List.countP_singleton]
      cases e.2 <;> rfl
    rwa [hcount]

/-- A player who was sent any angle but the last one has turned after so many rotation steps. -/
theorem turning_settles (m : Libm F) (hpi : 0 < m.fPi) {s s' : Snake F} {es : List (ℕ × Bool)}
    (hbot : s.bot = false) (hang : 0 ≤ s.angle ∧ s.angle < Math.f2pi m) (b : UInt8)
    (hb : b ≤ 250) (hlast : b ≠ 250) (hwangle : s.wangle = m.fPi * (b.toNat : F) / 125)
    (hrun : Run (TurnStep m) s es s') :
    es.countP Prod.snd ≤ turnBound m ∧
      (es.countP Prod.snd = turnBound m → s'.angle = s'.wangle) := by
  have hlt : (b.toNat : F) < 250 := by
    have hnat : b.toNat < 250 := lt_of_le_of_ne (UInt8.le_iff_toNat_le.mp hb) fun h =>
      hlast (UInt8.toNat_inj.mp h)
    exact_mod_cast hnat
  have hwang : 0 ≤ s.wangle ∧ s.wangle < Math.f2pi m := by
    rw [hwangle]
    refine ⟨by positivity, ?_⟩
    rw [div_lt_iff₀ (by norm_num), Math.f2pi]
    have hmul := mul_lt_mul_of_pos_left hlt hpi
    linarith
  have h := run_turning hpi hbot hang hwang hrun
  have hframe : (0 : F) < frameTurn := frameTurn_pos
  have hbound : m.fPi ≤ turnBound m * frameTurn := by
    rw [← div_le_iff₀ hframe]
    exact Nat.le_ceil _
  constructor
  · rcases h.steps with hzero | hsteps
    · omega
    · have hcast : ((es.countP Prod.snd : ℕ) : F) - 1 < turnBound m :=
        lt_of_mul_lt_mul_right (hsteps.trans_le hbound) hframe.le
      have hnat : ((es.countP Prod.snd : ℕ) : F) < ((turnBound m + 1 : ℕ) : F) := by
        push_cast
        linarith
      exact Nat.lt_succ_iff.mp (Nat.cast_lt.mp hnat)
  · intro hcount
    refine Math.eq_of_shortestTurn_eq_zero hpi h.angle (h.wangle ▸ hwang) ?_
    rcases h.left with hzero | hleft
    · exact hzero
    · rw [hcount] at hleft
      have hnonneg := abs_nonneg (s'.toTurn m)
      have hzero : |s'.toTurn m| = 0 := le_antisymm (by linarith) hnonneg
      exact abs_eq_zero.mp hzero

/-- A player who looks to the right and was sent the angle `b`. -/
def sentAngle (b : UInt8) : Snake ℚ :=
  { Snake.placed Libm.axis 1 9 21600 21600 0 0 with
    angle := 0, wangle := Libm.axis.fPi * (b.toNat : ℚ) / 125 }

/-- One tick of a rotation frame on an empty map, if it sets `change_angle`. -/
def turnOnce (s : Snake ℚ) : Option (Snake ℚ) :=
  match s.tick Libm.axis rotStepInterval SectorSeq.init with
  | .ok r => if s.setsAngle Libm.axis rotStepInterval SectorSeq.init then some r.snake else none
  | .error _ => none

def turnOften : ℕ → Snake ℚ → Option (Snake ℚ)
  | 0, s => some s
  | n + 1, s => (turnOften n s).bind turnOnce

private theorem run_of_turnOften {n : ℕ} {s t : Snake ℚ} (h : turnOften n s = some t) :
    Run (TurnStep Libm.axis) s (List.replicate n (rotStepInterval, true)) t := by
  induction n generalizing t with
  | zero =>
      cases h
      exact .nil
  | succ n ih =>
      obtain ⟨u, hu, hlast⟩ := Option.bind_eq_some_iff.mp h
      rw [List.replicate_succ']
      refine .snoc (ih hu) ?_
      unfold turnOnce at hlast
      split at hlast
      · rename_i r hr
        split at hlast
        · rename_i hset
          cases hlast
          exact ⟨SectorSeq.init, r, hr, hset.symm, rfl, rfl, rfl⟩
        · cases hlast
      · cases hlast

private theorem exists_turnRun {n : ℕ} {b : UInt8} (h : (turnOften n (sentAngle b)).isSome = true) :
    ∃ s', Run (TurnStep Libm.axis) (sentAngle b) (List.replicate n (rotStepInterval, true)) s' := by
  obtain ⟨s', hs'⟩ := Option.isSome_iff_exists.mp h
  exact ⟨s', run_of_turnOften hs'⟩

theorem turning_settles_quarter :
    ∃ s', Run (TurnStep Libm.axis) (sentAngle 62)
        (List.replicate 2 (rotStepInterval, true)) s' ∧
      (List.replicate 2 (rotStepInterval, true)).countP Prod.snd ≤ turnBound Libm.axis ∧
      ((List.replicate 2 (rotStepInterval, true)).countP Prod.snd = turnBound Libm.axis →
        s'.angle = s'.wangle) := by
  obtain ⟨s', hrun⟩ := exists_turnRun (n := 2) (b := 62) (by decide +kernel)
  exact ⟨s', hrun, turning_settles Libm.axis (by decide +kernel) rfl (by decide +kernel) 62
    (by decide) (by decide) rfl hrun⟩

/-- The last angle a client can send is a full turn, which no angle of the first turn is equal to. -/
theorem turning_never_settles :
    ∃ s', Run (TurnStep Libm.axis) (sentAngle 250)
        (List.replicate 10 (rotStepInterval, true)) s' ∧
      turnBound Libm.axis <
        (List.replicate 10 (rotStepInterval, true)).countP Prod.snd := by
  obtain ⟨s', hrun⟩ := exists_turnRun (n := 10) (b := 250) (by decide +kernel)
  exact ⟨s', hrun, by decide +kernel⟩

end Snake

end Slither
