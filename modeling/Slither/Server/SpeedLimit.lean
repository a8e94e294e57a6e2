import Slither.Server.Census
import Slither.Server.Commands
import Slither.Server.EventLoop
import Slither.Server.SectorIndex

/-!
# The speed limit

No player outruns the boost speed, whatever it sends.  A snake keeps the milliseconds it has not
moved for on its clock, and the world those that do not make a frame, so the way of a head is
bounded by the time that was handed to the server, up to what the two clocks may have held at first.
-/

set_option linter.unusedSectionVars false

namespace Slither

open Framework Snake

variable {F : Type} [Field F] [LinearOrder F] [FloorRing F]

namespace Snake

/-- The way of a snake at boost speed. -/
def boostWay (F : Type) [Field F] (ms : ℕ) : F := ((boostSpeed * ms : ℕ) : F) / 1000

/-- In `time` milliseconds, those on its clock included, the head has come no further from `p` than
a snake at boost speed would have. -/
def InReach (p : F × F) (time : ℕ) (s : Snake F) : Prop :=
  ∃ moved, moved + s.movTicks ≤ time ∧ Within (boostWay F moved) (s.getHead.pt - p)

private theorem InReach.of_same {p : F × F} {time : ℕ} {s t : Snake F} (h : s.InReach p time)
    (hparts : t.parts = s.parts) (hmov : t.movTicks = s.movTicks) : t.InReach p time := by
  obtain ⟨moved, htime, hway⟩ := h
  refine ⟨moved, hmov.symm ▸ htime, ?_⟩
  have hhead : t.getHead = s.getHead := congrArg (List.headD · _) hparts
  rw [hhead]
  exact hway

private theorem parts_announced (s : Snake F) : s.announced.parts = s.parts := by
  unfold announced playerSent
  split
  · split
    · rfl
    · split <;> rfl
  · rfl

private theorem parts_onSnake (c : Command F) (ses : Session F) (s : Snake F) :
    (c.onSnake ses s).parts = s.parts ∧ (c.onSnake ses s).movTicks = s.movTicks := by
  cases c <;> exact ⟨rfl, rfl⟩

variable [IsStrictOrderedRing F]

private theorem inReach_self (s : Snake F) : s.InReach s.getHead.pt s.movTicks := by
  refine ⟨0, (Nat.zero_add _).le, ?_⟩
  rw [sub_self]
  apply Within.zero
  simp [boostWay]

private theorem boostWay_add (a b : ℕ) : boostWay F (a + b) = boostWay F a + boostWay F b := by
  unfold boostWay
  rw [Nat.mul_add, Nat.cast_add, add_div]

private theorem boostWay_mono {a b : ℕ} (h : a ≤ b) : boostWay F a ≤ boostWay F b := by
  have hcast : ((boostSpeed * a : ℕ) : F) ≤ ((boostSpeed * b : ℕ) : F) :=
    Nat.cast_le.mpr (Nat.mul_le_mul_left _ h)
  exact div_le_div_of_nonneg_right hcast (by norm_num)

private theorem within_nextHead {m : Libm F} (hm : m.Unit) {dt : ℕ} {s : Snake F} (h : s.InRange) :
    Within (boostWay F (s.framesTicks dt)) ((s.nextHead m dt).pt - s.getHead.pt) := by
  have hunit : Within 1 (m.cosf (s.steered m dt).angle, m.sinf (s.steered m dt).angle) := by
    refine ⟨zero_le_one, ?_⟩
    simpa [normSq, sq] using (hm (s.steered m dt).angle).le
  have hdist : 0 ≤ s.moveDist (F := F) dt := by
    unfold moveDist
    positivity
  have hle : s.moveDist (F := F) dt * 1 ≤ boostWay F (s.framesTicks dt) := by
    have hcast : ((s.speed * s.framesTicks dt : ℕ) : F) ≤
        ((boostSpeed * s.framesTicks dt : ℕ) : F) :=
      Nat.cast_le.mpr (Nat.mul_le_mul_right _ h.boost)
    rw [mul_one]
    exact div_le_div_of_nonneg_right hcast (by norm_num)
  rw [nextHead_sub]
  exact (hunit.smul hdist).mono hle

private theorem tick_head {m : Libm F} {dt : ℕ} {s : Snake F} {ss : SectorSeq} {r : Ticked F}
    (halive : (s.update.changeDying || s.update.changeDead) = false)
    (htick : s.tick m dt ss = .ok r) : r.snake.getHead = s.nextHead m dt := by
  unfold tick at htick
  rw [halive, if_neg Bool.false_ne_true] at htick
  obtain ⟨a, hadvance, hr⟩ := bind_eq_ok.mp htick
  cases hr
  have hreport : (report a).snake.getHead = a.snake.getHead := by
    unfold report
    split <;> rfl
  rw [hreport]
  exact (advance_head m dt s ss).of_ok hadvance

private theorem InReach.tick {m : Libm F} (hm : m.Unit) {p : F × F} {time dt : ℕ} {s : Snake F}
    {ss : SectorSeq} {r : Ticked F} (h : s.InReach p time) (hrange : s.InRange)
    (htick : s.tick m dt ss = .ok r) : r.snake.InReach p (time + dt) := by
  obtain ⟨moved, htime, hway⟩ := h
  cases halive : s.update.changeDying || s.update.changeDead with
  | true =>
      unfold Snake.tick at htick
      rw [halive, if_pos rfl] at htick
      cases htick
      exact ⟨moved, htime.trans (Nat.le_add_right _ _), hway⟩
  | false =>
      obtain ⟨hclock, -, -⟩ := tick_clock hrange halive htick
      refine ⟨moved + s.framesTicks dt, by omega, ?_⟩
      rw [tick_head halive htick, boostWay_add]
      have hsum : (s.nextHead m dt).pt - p =
          (s.getHead.pt - p) + ((s.nextHead m dt).pt - s.getHead.pt) := by abel
      rw [hsum]
      exact hway.add (within_nextHead hm hrange)

end Snake

namespace World

private theorem tick_turns {m : Libm F} {dt : ℕ} {w w' : World F} (h : w.tick m dt = .ok w')
    {s' : Snake F} (hs' : s' ∈ w'.snakes) :
    w.vfrTime dt = 0 ∧ s' ∈ w.snakes ∨
      ∃ s ∈ w.snakes, ∃ ss r, s.tick m (w.vfrTime dt) ss = .ok r ∧ r.snake.id = s.id ∧
        (s' = r.snake ∨ s' = r.snake.markDying) := by
  unfold tick at h
  dsimp only at h
  split at h
  · obtain ⟨w₁, hticks, hw⟩ := bind_eq_ok.mp h
    obtain ⟨w₂, hall, hcheck⟩ := bind_eq_ok.mp hticks
    cases hw
    obtain ⟨s₂, hget, hmark⟩ := (foldlM_checkChanged_each w₂.changes w₂).of_ok hcheck s'.id s'
      (Keyed.find?_key hs')
    obtain ⟨s, hs, hid, ss, r, hr, hsame, -⟩ := exists_ticked hall (Keyed.mem_of_find? hget)
    refine .inr ⟨s, hs, ss, r, hr, (congrArg Snake.id hsame).trans hid.symm, ?_⟩
    rw [hsame]
    exact hmark
  · rename_i hzero
    cases h
    refine .inl ⟨?_, hs'⟩
    rw [vfrTime, Nat.eq_zero_of_not_pos hzero, Nat.zero_mul]

end World

namespace GameServer

/-- The snake `id`, if this is it, is within reach of `p`. -/
def Near (id : SnakeId) (p : F × F) (time : ℕ) (s : Snake F) : Prop := s.id = id → s.InReach p time

variable {id : SnakeId} {p : F × F} {time : ℕ}

private theorem Near.of_same {s t : Snake F} (h : Near id p time s) (hid : t.id = s.id)
    (hparts : t.parts = s.parts) (hmov : t.movTicks = s.movTicks) : Near id p time t :=
  fun heq => (h (hid.symm.trans heq)).of_same hparts hmov

private theorem near_keptBySends : KeptBySends (Near id p time : Snake F → Prop) where
  announced s hs :=
    hs.of_same s.announced_frame.1 s.parts_announced (congrArg Prod.snd s.announced_gear)
  buried _ hs := hs.of_same rfl rfl rfl
  povSent _ hs := hs.of_same rfl rfl rfl

private theorem near_handle {m : Libm F} {srv : GameServer F} {e : Event} {n : ℕ}
    (htick : ∀ dt, e ≠ .timer false dt) (hcoh : srv.Coherent) (hcensus : srv.world.Census n)
    (hcap : n + e.opens ≤ 65535) (hid : id ≤ n) (h : srv.Each (Near id p time)) :
    Post (srv.handle m e) (Each (Near id p time)) (fun _ => True) := by
  have hcreate : ∀ hdl, e = .opened hdl →
      Post (srv.world.create m false) (fun r => Near id p time r.1) (fun _ => True) := by
    intro hdl hopened
    subst hopened
    apply (World.create_post m false srv.world).mono ?_ fun _ _ => trivial
    intro r hr heq
    obtain ⟨s₀, hid₀, -, -, hid', -⟩ := hr
    have hopen : r.1.id = n + 1 := (hid'.trans hid₀).trans (hcensus.2.nextId_eq hcap)
    rw [← heq, hopen] at hid
    exact absurd hid (Nat.not_succ_le_self n)
  apply h.handle_between near_keptBySends hcreate ?_ hcoh htick
  intro ses _ s binary payload hs
  obtain ⟨hparts, hmov⟩ := parts_onSnake (command m binary payload) ses s
  exact hs.of_same (Command.id_onSnake _ ses s) hparts hmov

variable [IsStrictOrderedRing F]

/-- A tick lets the heads go as far as the time that the world passes on allows. -/
private theorem near_onTimer {m : Libm F} (hm : m.Unit) {srv : GameServer F} {dt : ℕ}
    (htimely : srv.Timely) (h : srv.Each (Near id p time)) :
    Post (srv.onTimer m false dt) (Each (Near id p (time + srv.world.vfrTime dt)))
      (fun _ => True) := by
  have hlater : ∀ s, Near id p time s → Near id p (time + srv.world.vfrTime dt) s := by
    intro s hs heq
    obtain ⟨moved, htime, hway⟩ := hs heq
    exact ⟨moved, htime.trans (Nat.le_add_right _ _), hway⟩
  apply onTimer_rule fun _ (r : GameServer F) => r.Each (Near id p (time + srv.world.vfrTime dt))
  · exact fun s hs => hlater s (h s hs)
  · trivial
  · cases htick : srv.world.tick m dt with
    | error e => trivial
    | ok w =>
        intro ms _ s' hs'
        rw [world_deliverAll] at hs'
        rcases World.tick_turns htick hs' with ⟨-, hs'⟩ | ⟨s, hs, ss, r, hr, hid, hmark⟩
        · exact hlater s' (h s' hs')
        · have hticked : Near id p (time + srv.world.vfrTime dt) r.snake := fun heq =>
            (h s hs (hid.symm.trans heq)).tick hm (htimely s hs).1 hr
          rcases hmark with rfl | rfl
          · exact hticked
          · exact hticked.of_same rfl rfl rfl
  · exact fun s rest r hr hs => hr.broadcastUpdate near_keptBySends hs
  · intro r hr
    have hflush : (r.setWorld r.world.flushChanges).Each
        (Near id p (time + srv.world.vfrTime dt)) := hr
    exact foldl_inv (f := GameServer.removeSnake)
      (fun _ (r : GameServer F) => r.Each (Near id p (time + srv.world.vfrTime dt)))
      (fun id rest r hr => hr.removeSnake id) r.world.dead _ hflush

/-- What the world has been handed and not passed on is on its clock. -/
def Limited (id : SnakeId) (p : F × F) (total : ℕ) (srv : GameServer F) : Prop :=
  ∃ time, time + srv.world.ticks = total ∧ srv.Each (Near id p time)

private theorem Limited.handle {m : Libm F} (hm : m.Unit) {srv r : GameServer F} {e : Event}
    {n total : ℕ} (h : srv.Limited id p total) (hcoh : srv.Coherent) (htimely : srv.Timely)
    (hcensus : srv.world.Census n) (hcap : n + e.opens ≤ 65535) (hid : id ≤ n)
    (hhandle : srv.handle m e = .ok r) : r.Limited id p (total + EventLoop.elapsed e) := by
  obtain ⟨time, htotal, heach⟩ := h
  have hstill : (∀ dt, e ≠ .timer false dt) → EventLoop.elapsed e = 0 →
      r.Limited id p (total + EventLoop.elapsed e) := by
    intro htick hzero
    have hclock := congrArg Prod.fst (handle_clock htick hhandle)
    refine ⟨time, ?_, (near_handle htick hcoh hcensus hcap hid heach).of_ok hhandle⟩
    rw [hzero, ← htotal]
    exact congrArg (time + ·) hclock
  cases e with
  | opened hdl => exact hstill (fun dt h => by cases h) rfl
  | message hdl binary payload => exact hstill (fun dt h => by cases h) rfl
  | closed hdl => exact hstill (fun dt h => by cases h) rfl
  | timer ec dt =>
      cases ec with
      | true => exact hstill (fun dt h => by cases h) rfl
      | false =>
          obtain ⟨w, htick, hclock⟩ := onTimer_clock hhandle
          obtain ⟨hticks, -⟩ := World.tick_ticks htick
          have hsame : r.world.ticks = w.ticks := congrArg Prod.fst hclock
          refine ⟨time + srv.world.vfrTime dt, ?_, (near_onTimer hm htimely heach).of_ok hhandle⟩
          show time + srv.world.vfrTime dt + r.world.ticks = total + dt
          omega

private theorem run_ticks {m : Libm F} {debug : Bool} {config : WorldConfig} {rng : Rng}
    {srv₀ srv : GameServer F} {es : List Event} (hstart : run m debug config rng = .ok srv₀)
    (hrun : Run (Step m) srv₀ es srv) : srv.world.ticks < WorldConfig.frameTimeMs := by
  refine hrun.state_invariant (I := fun srv => srv.world.ticks < WorldConfig.frameTimeMs) ?_ ?_
  · obtain ⟨w, hinit, hsrv⟩ := bind_eq_ok.mp hstart
    cases hsrv
    have hzero : w.ticks = 0 := congrArg Prod.fst ((World.init_clock m config rng).of_ok hinit)
    show w.ticks < _
    rw [hzero]
    decide
  · intro t e u ht hstep
    obtain ⟨-, w', hreorder, hhandle⟩ := hstep
    obtain ⟨snakes, -, rfl⟩ := hreorder
    by_cases htick : ∀ dt, e ≠ .timer false dt
    · have hclock : u.world.ticks = t.world.ticks :=
        congrArg Prod.fst (handle_clock htick hhandle)
      rw [hclock]
      exact ht
    · push Not at htick
      obtain ⟨dt, rfl⟩ := htick
      obtain ⟨w, hw, hclock⟩ := onTimer_clock hhandle
      have hsame : u.world.ticks = w.ticks := congrArg Prod.fst hclock
      rw [hsame]
      exact (World.tick_ticks hw).2

private theorem run_limited {m : Libm F} (hm : m.Unit) {debug : Bool} {config : WorldConfig}
    {rng : Rng} {srv₀ srv srv' : GameServer F} {es es' : List Event}
    (hstart : run m debug config rng = .ok srv₀) (hrun : Run (Step m) srv₀ es srv)
    (hrest : Run (Step m) srv es' srv') (hcap : created config (es ++ es') ≤ 65535) {s : Snake F}
    (hs : s ∈ srv.world.snakes) :
    srv'.Limited s.id s.getHead.pt
      (s.movTicks + srv.world.ticks + (es'.map EventLoop.elapsed).sum) := by
  induction hrest with
  | nil =>
      refine ⟨s.movTicks, rfl, fun t ht heq => ?_⟩
      rw [Keyed.mem_unique srv.world.snakes ht hs heq]
      exact s.inReach_self
  | @snoc es' t u e hrest hlast ih =>
      obtain ⟨-, w', hreorder, hhandle⟩ := hlast
      rw [← List.append_assoc, created_snoc] at hcap
      have hall := hrun.append hrest
      have hprev := ih (by omega)
      have hcensus := run_census hstart hall (by omega)
      have htimely := run_timely hstart hall
      have hcoh := ((run_idle hstart hall).reorders hreorder).coherent
      have hid : s.id ≤ created config (es ++ es') := by
        have hcap' : created config es ≤ created config (es ++ es') := by
          simp [created, List.countP_append]
        exact ((run_census hstart hrun (by omega)).2.range s hs).2.trans hcap'
      obtain ⟨snakes, hperm, rfl⟩ := hreorder
      have hprev' : (t.setWorld { t.world with snakes := snakes }).Limited s.id s.getHead.pt
          (s.movTicks + srv.world.ticks + (es'.map EventLoop.elapsed).sum) := by
        obtain ⟨time, htotal, heach⟩ := hprev
        exact ⟨time, htotal, fun v hv => heach v (hperm.mem_iff.mp hv)⟩
      have hcensus' : World.Census { t.world with snakes := snakes } (created config (es ++ es')) :=
        hcensus.of_eq (fun v => hperm.mem_iff) rfl rfl
      have htimely' : (t.setWorld { t.world with snakes := snakes }).Timely :=
        fun v hv => htimely v (hperm.mem_iff.mp hv)
      have hnext := hprev'.handle hm hcoh htimely' hcensus' hcap hid hhandle
      rw [List.map_append, List.sum_append, ← Nat.add_assoc]
      simpa using hnext

/-- From one reachable state to a later one, the head of a snake goes no further than at boost speed
in the time between them, and 233 milliseconds. -/
theorem speed_limit {m : Libm F} (hm : m.Unit) (debug : Bool) (config : WorldConfig) (rng : Rng)
    {srv₀ srv srv' : GameServer F} {es es' : List Event}
    (hstart : run m debug config rng = .ok srv₀) (hrun : Run (Step m) srv₀ es srv)
    (hrest : Run (Step m) srv es' srv') (hcap : created config (es ++ es') ≤ 65535) :
    ∀ s ∈ srv.world.snakes, ∀ s' ∈ srv'.world.snakes, s'.id = s.id →
      Within (((448 * ((es'.map EventLoop.elapsed).sum + 233) : ℕ) : F) / 1000)
        (s'.getHead.pt - s.getHead.pt) := by
  intro s hs s' hs' hid
  obtain ⟨time, htotal, heach⟩ := run_limited hm hstart hrun hrest hcap hs
  obtain ⟨moved, hmoved, hway⟩ := heach s' hs' hid
  have hmov := (run_timely hstart hrun s hs).2
  have hticks : srv.world.ticks < 8 := run_ticks hstart hrun
  have htime : moved ≤ (es'.map EventLoop.elapsed).sum + 233 := by omega
  exact hway.mono (boostWay_mono htime)

/-- A player is ticked once, and its head moves. -/
theorem speed_limit_ticked :
    ∃ srv srv' : GameServer ℚ, Run (Step Libm.axis) (blank false {} Rng.zero) [.opened 1] srv ∧
      Run (Step Libm.axis) srv [.timer false 232] srv' ∧
      ∃ s ∈ srv.world.snakes, ∃ s' ∈ srv'.world.snakes, s'.id = s.id ∧
        s'.getHead.pt ≠ s.getHead.pt ∧
        Within (((448 * (([.timer false 232].map EventLoop.elapsed).sum + 233) : ℕ) : ℚ) / 1000)
          (s'.getHead.pt - s.getHead.pt) := by
  let moves : Snake ℚ → Snake ℚ → Bool := fun s s' =>
    decide (s'.id = s.id) && decide (s'.getHead.pt ≠ s.getHead.pt)
  let check : GameServer ℚ → Bool := fun srv =>
    (srv.replay Libm.axis [.timer false 232]).any fun srv' =>
      srv.world.snakes.entries.any fun s => srv'.world.snakes.entries.any (moves s)
  have heval : ((lobby {}).replay Libm.axis [.opened 1]).any check = true := by decide +kernel
  obtain ⟨srv, hrun, hcheck⟩ := exists_run heval
  obtain ⟨srv', hreplay, hany⟩ := (Option.any_eq_true _ _).mp hcheck
  obtain ⟨s, hs, hany⟩ := List.any_eq_true.mp hany
  obtain ⟨s', hs', hmoves⟩ := List.any_eq_true.mp hany
  simp only [moves, Bool.and_eq_true, decide_eq_true_eq] at hmoves
  have hrest := run_of_replay hreplay
  exact ⟨srv, srv', hrun, hrest, s, hs, s', hs', hmoves.1, hmoves.2,
    speed_limit Libm.axis_unit false {} Rng.zero (run_blank Libm.axis false Rng.zero rfl) hrun hrest
      (by decide) s hs s' hs' hmoves.1⟩

end GameServer

end Slither
