import Slither.Framework.Intervals
import Slither.Game.Clock
import Slither.Server.Handlers

/-!
# The event loop

The handlers under the wall clock.  Every call of `GetCurrentTime` reads a steady clock: for the
time since the last tick, for the time stamps of the packets, and to set the next timer.  The server
below is the one without a clock; the loop says which elapsed times it is given.
-/

set_option linter.unusedSectionVars false

namespace Slither

open Framework

variable {F : Type} [Field F] [LinearOrder F] [FloorRing F]

/-- The packets whose `client_time` is set by `send_binary` and `broadcast_binary`; the other two
are handed to the endpoint as they were built. -/
def Packet.isStamped : Packet F → Bool
  | .init _ | .debugDraw _ => false
  | _ => true

/-- The clock of a session.  `opened` is the time its constructor was given, and `stamps` holds the
`client_time` of every stamped packet sent to it with the time it was sent at, in order. -/
structure SessionClock where
  hdl : ConnectionHdl
  opened : ℕ
  lastPacketTime : ℕ
  stamps : List (ℕ × ℕ)
  deriving DecidableEq, Repr

namespace SessionClock

/-- `Session(id, now)`. -/
def start (hdl : ConnectionHdl) (now : ℕ) : SessionClock where
  hdl := hdl
  opened := now
  lastPacketTime := now
  stamps := []

/-- Stamp a packet at the time `now`, if the session gets it. -/
def stamp (r : Recipient) (now : ℕ) (c : SessionClock) : SessionClock :=
  if r.selects c.hdl then
    { c with
      lastPacketTime := now
      stamps := c.stamps ++ [((now - c.lastPacketTime) % 2 ^ 16, now)] }
  else c

@[simp] theorem hdl_stamp (r : Recipient) (now : ℕ) (c : SessionClock) :
    (c.stamp r now).hdl = c.hdl := by
  unfold stamp
  split <;> rfl

end SessionClock

/-- The clocks after some packets were stamped, each at its own reading. -/
def stampAll (cs : Keyed SessionClock.hdl) (ds : List (Recipient × ℕ)) : Keyed SessionClock.hdl :=
  ds.foldl (fun cs d => cs.mapEntries (SessionClock.stamp d.1 d.2)
    (SessionClock.hdl_stamp d.1 d.2)) cs

def timerIntervalMs : ℕ := 10

/-- The server under the clock.  `timer` is when the pending timer expires, and `now` is the last
reading. -/
structure EventLoop (F : Type) [Field F] where
  server : GameServer F
  clocks : Keyed SessionClock.hdl
  lastTimePoint : ℕ
  timer : Option ℕ
  now : ℕ

/-- What the endpoint dispatches, with the readings taken by its handler: `sends` are those for the
packets. -/
inductive Dispatch
  | opened (hdl : ConnectionHdl) (joined : ℕ) (sends : List ℕ)
  | message (hdl : ConnectionHdl) (binary : Bool) (payload : List UInt8) (sends : List ℕ)
  | closed (hdl : ConnectionHdl)
  | timer (fired : ℕ) (sends : List ℕ) (stepped armed : ℕ)
  | timerError (fired : ℕ)
  deriving DecidableEq, Repr

namespace Dispatch

def sends : Dispatch → List ℕ
  | opened _ _ sends => sends
  | message _ _ _ sends => sends
  | timer _ sends _ _ => sends
  | _ => []

/-- All readings, in the order they are taken. -/
def readings : Dispatch → List ℕ
  | opened _ joined sends => joined :: sends
  | message _ _ _ sends => sends
  | closed _ => []
  | timer fired sends stepped armed => fired :: (sends ++ [stepped, armed])
  | timerError fired => [fired]

def isTick : Dispatch → Bool
  | timer .. => true
  | _ => false

/-- When a tick fired. -/
def fired? : Dispatch → Option ℕ
  | timer fired .. => some fired
  | _ => none

end Dispatch

namespace EventLoop

/-- `NextTick`; `now` is the reading it takes. -/
def nextTick (l : EventLoop F) (last now : ℕ) : EventLoop F :=
  { l with lastTimePoint := last, timer := some (now + (timerIntervalMs - (now - last))) }

/-- The loop as `Run` enters it. -/
def start (srv : GameServer F) (last now : ℕ) : EventLoop F :=
  nextTick { server := srv, clocks := ∅, lastTimePoint := 0, timer := none, now := now } last now

/-- The event as the server sees it. -/
def event (l : EventLoop F) : Dispatch → Event
  | .opened hdl _ _ => .opened hdl
  | .message hdl binary payload _ => .message hdl binary payload
  | .closed hdl => .closed hdl
  | .timer fired .. => .timer false (fired - l.lastTimePoint)
  | .timerError fired => .timer true (fired - l.lastTimePoint)

/-- What the handler sent of the packets that get a time stamp. -/
def stamped (l : EventLoop F) (srv : GameServer F) : List (Message F) :=
  (srv.handed.drop l.server.handed.length).filter fun msg => msg.2.isStamped

/-- The sessions there are while the packets are sent. -/
def joined (l : EventLoop F) : Dispatch → Keyed SessionClock.hdl
  | .opened hdl joined _ => l.clocks.assign (.start hdl joined)
  | .closed hdl => l.clocks.erase hdl
  | _ => l.clocks

/-- The loop after the handler took the server to `srv`. -/
def after (l : EventLoop F) (d : Dispatch) (srv : GameServer F) : EventLoop F :=
  let l' : EventLoop F := { l with
    server := srv
    clocks := stampAll (l.joined d) (((l.stamped srv).map Prod.fst).zip d.sends)
    now := d.readings.getLastD l.now }
  match d with
  | .timer fired _ _ armed => l'.nextTick fired armed
  -- `on_timer` returns before `NextTick`
  | .timerError _ => { l' with timer := none }
  | _ => l'

/-- A timer does not fire before it expires. -/
def due (l : EventLoop F) : Dispatch → Bool
  | .timer fired .. => l.timer.any fun expiry => decide (expiry ≤ fired)
  | .timerError _ => l.timer.isSome
  | _ => true

/-- One handler runs to its end.  The clock does not go back, and it is read once for every stamped
packet. -/
structure Dispatches (m : Libm F) (l : EventLoop F) (d : Dispatch) (l' : EventLoop F) : Prop where
  due : l.due d = true
  steady : (l.now :: d.readings).Pairwise (· ≤ ·)
  step : GameServer.Step m l.server (l.event d) l'.server
  sends : d.sends.length = (l.stamped l'.server).length
  after : l' = l.after d l'.server

end EventLoop

namespace World

/-- What the world knows of the time. -/
def clock (w : World F) : ℕ × ℕ := (w.ticks, w.frames)

private theorem clock_removeSnake (w : World F) (id : SnakeId) :
    (w.removeSnake id).clock = w.clock := by
  unfold removeSnake
  dsimp only
  split <;> rfl

private theorem tickAll_clock (m : Libm F) (dt : ℕ) (w : World F) :
    Post (w.tickAll m dt) (fun w' => w'.clock = w.clock) (fun _ => True) := by
  apply tickAll_rule fun _ w' => w'.clock = w.clock
  · rfl
  · exact fun s rest w' _ _ hw => Post.intro (fun r _ => hw) fun _ _ => trivial

private theorem checkAll_clock (w : World F) :
    Post w.checkAll (fun w' => w'.clock = w.clock) (fun _ => True) := by
  apply Post.foldlM fun _ (w' : World F) => w'.clock = w.clock
  · intro id rest w' hw
    apply (checkChanged_post w' id).mono ?_ fun _ _ => trivial
    intro w'' hw''
    rcases hw'' with rfl | ⟨s, -, -, rfl⟩
    · exact hw
    · exact hw
  · rfl

private theorem tick_counts {m : Libm F} {dt n : ℕ} {w w' : World F} (h : w.tick m dt = .ok w')
    (hframes : w.frames = n % 2 ^ 32) :
    w'.ticks = (w.ticks + dt) % WorldConfig.frameTimeMs ∧
      w'.frames = (n + (w.ticks + dt) / WorldConfig.frameTimeMs) % 2 ^ 32 := by
  have hmod := Nat.mod_eq_sub_div_mul (x := w.ticks + dt) (k := WorldConfig.frameTimeMs)
  unfold tick at h
  dsimp only at h
  split at h
  · obtain ⟨w₁, htick, hw⟩ := bind_eq_ok.mp h
    obtain ⟨w₂, hall, hcheck⟩ := bind_eq_ok.mp htick
    obtain ⟨ht₂, hf₂⟩ := Prod.mk.inj ((tickAll_clock m _ _).of_ok hall)
    obtain ⟨ht₁, hf₁⟩ := Prod.mk.inj ((checkAll_clock w₂).of_ok hcheck)
    cases hw
    refine ⟨?_, ?_⟩
    · rw [ht₁, ht₂, hmod]
    · rw [hf₁, hf₂, hframes, Nat.mod_add_mod]
  · rename_i hzero
    cases h
    rw [Nat.eq_zero_of_not_pos hzero] at hmod ⊢
    exact ⟨by rw [hmod, Nat.zero_mul, Nat.sub_zero], hframes⟩

private theorem create_clock (m : Libm F) (bot : Bool) (w : World F) :
    Post (w.create m bot) (fun r => r.2.clock = w.clock) (fun _ => True) := by
  have hplain : Post (w.createSnake m) (fun r => r.2.clock = w.clock) (fun _ => True) := by
    apply (createSnake_post m w).mono ?_ fun _ _ => trivial
    intro r hr
    obtain ⟨skin, x, y, angle, body, rng, rfl⟩ := hr
    rfl
  unfold create createSnakeBot
  cases bot with
  | true => exact Post.bind hplain fun r hr => hr
  | false => exact hplain

theorem init_clock (m : Libm F) (config : WorldConfig) (rng : Rng) :
    Post (World.init m config rng) (fun w => w.clock = (0, 0)) (fun _ => True) := by
  apply init_rule
  · rfl
  · intro w hw
    unfold spawnBot
    apply Post.bind (create_clock m true w)
    intro r hr
    exact hr.trans hw

end World

namespace GameServer

private theorem broadcastUpdate_clock {srv : GameServer F} {s : Snake F}
    (hs : srv.world.getSnake s.id = some s) :
    Post (srv.broadcastUpdate s.id) (fun r => r.world.clock = srv.world.clock)
      (fun _ => True) := by
  apply (broadcastUpdate_post hs).mono ?_ fun _ _ => trivial
  intro r hr
  obtain ⟨hdead, hdying, halive⟩ := hr
  cases hd : s.update.changeDead with
  | true => rw [hdead hd]
  | false =>
      cases hy : s.update.changeDying with
      | true =>
          obtain ⟨spawn, ss, rng, -, rfl⟩ := hdying hd hy
          rfl
      | false =>
          rw [halive hd hy]
          rfl

theorem onTimer_clock {m : Libm F} {srv r : GameServer F} {dt : ℕ}
    (h : srv.onTimer m false dt = .ok r) :
    ∃ w, srv.world.tick m dt = .ok w ∧ r.world.clock = w.clock := by
  obtain ⟨w, htick, h⟩ := bind_eq_ok.mp h
  refine ⟨w, htick, ?_⟩
  obtain ⟨u, hdebug, h⟩ := bind_eq_ok.mp h
  obtain ⟨v, hupdates, hr⟩ := bind_eq_ok.mp h
  obtain ⟨v', hfold, hflush⟩ := bind_eq_ok.mp hupdates
  have hu : u.world.clock = w.clock := by
    obtain ⟨ms, -, hu⟩ := (broadcastDebug_post (srv.setWorld w)).of_ok hdebug
    rw [hu, world_deliverAll]
    rfl
  have hv' : v'.world.clock = w.clock := by
    have hloop : Post (u.world.changes.foldlM broadcastUpdate u)
        (fun v => v.world.clock = w.clock) (fun _ => True) := by
      refine Post.foldlM (fun _ (v : GameServer F) => v.world.clock = w.clock) ?_ _ _ hu
      intro id rest v hv
      cases hget : v.world.getSnake id with
      | none =>
          have hnone : v.broadcastUpdate id = .error .danglingPtr := by
            simp only [broadcastUpdate, World.deref, hget]
            rfl
          rw [hnone]
          trivial
      | some s =>
          have hid : s.id = id := Keyed.key_of_find? hget
          subst hid
          exact (broadcastUpdate_clock hget).mono (fun _ h' => h'.trans hv) fun _ h' => h'
    exact hloop.of_ok hfold
  cases hflush
  cases hr
  exact foldl_inv (f := GameServer.removeSnake)
    (fun _ (v : GameServer F) => v.world.clock = w.clock)
    (fun id rest v hv => (World.clock_removeSnake v.world id).trans hv) v'.world.dead
    (v'.setWorld v'.world.flushChanges) hv'

theorem handle_clock {m : Libm F} {srv r : GameServer F} {e : Event}
    (htick : ∀ dt, e ≠ .timer false dt) (h : srv.handle m e = .ok r) :
    r.world.clock = srv.world.clock := by
  cases e with
  | opened hdl =>
      obtain ⟨s, w, hcreate, -, hsend⟩ := (onOpen_post m srv hdl).of_ok h
      rw [hsend]
      exact (World.create_clock m false srv.world).of_ok hcreate
  | message hdl binary payload =>
      rcases ((onMessage_post m srv hdl binary payload).of_ok h).world with hw | ⟨s, s', -, -, -, hw⟩
      · rw [hw]
      · rw [hw]
        rfl
  | closed hdl =>
      cases h
      show (srv.onClose hdl).world.clock = srv.world.clock
      unfold onClose
      split
      · exact World.clock_removeSnake srv.world _
      · rfl
  | timer ec dt =>
      cases ec with
      | true =>
          cases h
          rfl
      | false => exact absurd rfl (htick dt)

end GameServer

namespace EventLoop

/-- The time an event hands to the world. -/
def elapsed : Event → ℕ
  | .timer false dt => dt
  | _ => 0

/-- Between two dispatches the clock of the world and the wall clock agree.  `t₀` is when the loop
was started. -/
structure OnTime (t₀ : ℕ) (ds : List Dispatch) (l : EventLoop F) : Prop where
  past : l.lastTimePoint ≤ l.now
  ahead : ∀ expiry ∈ l.timer, l.lastTimePoint + timerIntervalMs ≤ expiry
  last : l.lastTimePoint = (ds.filterMap Dispatch.fired?).getLastD t₀
  spaced : (t₀ :: ds.filterMap Dispatch.fired?).IsChain fun a b => a + timerIntervalMs ≤ b
  pace : t₀ + timerIntervalMs * ds.countP Dispatch.isTick ≤ l.lastTimePoint
  ticks : l.server.world.ticks < WorldConfig.frameTimeMs
  frames : ∃ n, l.lastTimePoint = t₀ + n * WorldConfig.frameTimeMs + l.server.world.ticks ∧
    l.server.world.frames = n % 2 ^ 32
  stopped : ∀ t, .timerError t ∈ ds → l.timer = none

theorem now_after (l : EventLoop F) (d : Dispatch) (srv : GameServer F) :
    (l.after d srv).now = d.readings.getLastD l.now := by
  cases d <;> rfl

namespace Dispatches

variable {m : Libm F} {l l' : EventLoop F} {d : Dispatch}

private theorem now_le (hd : Dispatches m l d l') : l.now ≤ l'.now := by
  rw [hd.after, now_after]
  exact le_getLastD hd.steady (List.mem_cons_self ..)

private theorem clock_eq (hd : Dispatches m l d l') (htick : d.isTick = false) :
    l'.server.world.clock = l.server.world.clock := by
  obtain ⟨-, w, ⟨snakes, -, rfl⟩, hhandle⟩ := hd.step
  apply (GameServer.handle_clock ?_ hhandle).trans rfl
  intro dt heq
  cases d with
  | timer fired sends stepped armed => cases htick
  | opened hdl joined sends => cases heq
  | message hdl binary payload sends => cases heq
  | closed hdl => cases heq
  | timerError fired => cases heq

private theorem ticked {fired stepped armed : ℕ} {sends : List ℕ}
    (hd : Dispatches m l (.timer fired sends stepped armed) l') :
    ∃ w w' : World F, w.clock = l.server.world.clock ∧
      w.tick m (fired - l.lastTimePoint) = .ok w' ∧ l'.server.world.clock = w'.clock := by
  obtain ⟨-, w, ⟨snakes, -, rfl⟩, hhandle⟩ := hd.step
  obtain ⟨w', htick, hclock⟩ := GameServer.onTimer_clock hhandle
  exact ⟨{ l.server.world with snakes }, w', rfl, htick, hclock⟩

private theorem tick_times {fired stepped armed : ℕ} {sends : List ℕ}
    (hd : Dispatches m l (.timer fired sends stepped armed) l') :
    (∃ expiry, l.timer = some expiry ∧ expiry ≤ fired) ∧ fired ≤ armed ∧ l'.now = armed := by
  have hsteady := (List.pairwise_cons.mp hd.steady).2
  have hlast : (fired :: (sends ++ [stepped, armed])).getLastD l.now = armed := by
    rw [← List.cons_append, show [stepped, armed] = [stepped] ++ [armed] from rfl,
      ← List.append_assoc]
    exact List.getLastD_concat
  refine ⟨?_, ?_, ?_⟩
  · obtain ⟨expiry, htimer, hdue⟩ := (Option.any_eq_true _ _).mp hd.due
    exact ⟨expiry, htimer, of_decide_eq_true hdue⟩
  · apply (List.pairwise_cons.mp hsteady).1 armed
    simp
  · rw [hd.after, now_after]
    exact hlast

end Dispatches

private theorem filterMap_fired_eq_nil {d : Dispatch} (htick : d.isTick = false) :
    [d].filterMap Dispatch.fired? = [] := by
  cases d with
  | timer fired sends stepped armed => cases htick
  | opened hdl joined sends => rfl
  | message hdl binary payload sends => rfl
  | closed hdl => rfl
  | timerError fired => rfl

private theorem OnTime.other {m : Libm F} {t₀ : ℕ} {ds : List Dispatch} {l l' : EventLoop F}
    {d : Dispatch} (h : OnTime t₀ ds l) (hd : Dispatches m l d l') (htick : d.isTick = false)
    (htimer : l'.timer = l.timer ∨ l'.timer = none)
    (herror : ∀ t, d = .timerError t → l'.timer = none)
    (hlast : l'.lastTimePoint = l.lastTimePoint) : OnTime t₀ (ds ++ [d]) l' := by
  have hclock := hd.clock_eq htick
  obtain ⟨hticks, hframes⟩ := Prod.mk.inj hclock
  have hfired : (ds ++ [d]).filterMap Dispatch.fired? = ds.filterMap Dispatch.fired? := by
    rw [List.filterMap_append, filterMap_fired_eq_nil htick, List.append_nil]
  refine ⟨?_, ?_, ?_, ?_, ?_, ?_, ?_, ?_⟩
  · rw [hlast]
    exact h.past.trans hd.now_le
  · intro expiry hexpiry
    rw [hlast]
    rcases htimer with htimer | htimer
    · exact h.ahead expiry (htimer ▸ hexpiry)
    · rw [htimer] at hexpiry
      cases hexpiry
  · rw [hlast, hfired]
    exact h.last
  · rw [hfired]
    exact h.spaced
  · rw [hlast, List.countP_append, List.countP_singleton, htick]
    exact h.pace
  · rw [hticks]
    exact h.ticks
  · rw [hlast, hticks, hframes]
    exact h.frames
  · intro t ht
    rcases List.mem_append.mp ht with ht | ht
    · rcases htimer with htimer | htimer
      · exact htimer.trans (h.stopped t ht)
      · exact htimer
    · exact herror t (List.mem_singleton.mp ht).symm

private theorem OnTime.tick {m : Libm F} {t₀ : ℕ} {ds : List Dispatch} {l l' : EventLoop F}
    {fired stepped armed : ℕ} {sends : List ℕ} (h : OnTime t₀ ds l)
    (hd : Dispatches m l (.timer fired sends stepped armed) l') :
    OnTime t₀ (ds ++ [.timer fired sends stepped armed]) l' := by
  obtain ⟨⟨expiry, htimer, hexpiry⟩, harmed, hnow⟩ := hd.tick_times
  have hahead := h.ahead expiry htimer
  have hpace := h.pace
  have hlast : l'.lastTimePoint = fired := by
    rw [hd.after]
    rfl
  have hnext : l'.timer = some (armed + (timerIntervalMs - (armed - fired))) := by
    rw [hd.after]
    rfl
  obtain ⟨w, w', hw, htick, hw'⟩ := hd.ticked
  obtain ⟨hticks, hframes⟩ := Prod.mk.inj hw
  obtain ⟨hticks', hframes'⟩ := Prod.mk.inj hw'
  obtain ⟨n, hn, hcount⟩ := h.frames
  obtain ⟨hrest, hcounted⟩ := World.tick_counts htick (hframes.trans hcount)
  have hfired : (ds ++ [Dispatch.timer fired sends stepped armed]).filterMap Dispatch.fired? =
      ds.filterMap Dispatch.fired? ++ [fired] := List.filterMap_append
  -- the timer was set for an interval after the last tick
  have hgap : (ds.filterMap Dispatch.fired?).getLastD t₀ + timerIntervalMs ≤ fired := by
    rw [← h.last]
    exact hahead.trans hexpiry
  simp only [timerIntervalMs] at hahead hpace hnext
  refine ⟨?_, ?_, ?_, ?_, ?_, ?_, ?_, ?_⟩
  · omega
  · intro expiry' hexpiry'
    rw [hnext, Option.mem_some] at hexpiry'
    simp only [timerIntervalMs]
    omega
  · rw [hlast, hfired, List.getLastD_concat]
  · rw [hfired]
    exact isChain_concat h.spaced hgap
  · rw [List.countP_append, List.countP_singleton]
    simp only [timerIntervalMs, Dispatch.isTick, if_true]
    omega
  · rw [hticks', hrest]
    exact Nat.mod_lt _ (by decide)
  · refine ⟨n + (w.ticks + (fired - l.lastTimePoint)) / WorldConfig.frameTimeMs, ?_,
      hframes'.trans hcounted⟩
    have hdiv := Nat.div_add_mod (w.ticks + (fired - l.lastTimePoint)) WorldConfig.frameTimeMs
    rw [Nat.mul_comm] at hdiv
    rw [hlast, hticks', hrest, Nat.add_mul]
    omega
  · intro t ht
    rcases List.mem_append.mp ht with ht | ht
    · rw [h.stopped t ht] at htimer
      cases htimer
    · cases List.mem_singleton.mp ht

private theorem OnTime.dispatches {m : Libm F} {t₀ : ℕ} {ds : List Dispatch} {l l' : EventLoop F}
    {d : Dispatch} (h : OnTime t₀ ds l) (hd : Dispatches m l d l') : OnTime t₀ (ds ++ [d]) l' := by
  cases d with
  | timer fired sends stepped armed => exact h.tick hd
  | timerError fired =>
      apply h.other hd rfl
      · rw [hd.after]
        exact .inr rfl
      · intro t _
        rw [hd.after]
        rfl
      · rw [hd.after]
        rfl
  | opened hdl joined sends =>
      apply h.other hd rfl
      · rw [hd.after]
        exact .inl rfl
      · exact nofun
      · rw [hd.after]
        rfl
  | message hdl binary payload sends =>
      apply h.other hd rfl
      · rw [hd.after]
        exact .inl rfl
      · exact nofun
      · rw [hd.after]
        rfl
  | closed hdl =>
      apply h.other hd rfl
      · rw [hd.after]
        exact .inl rfl
      · exact nofun
      · rw [hd.after]
        rfl

private theorem start_onTime {m : Libm F} {debug : Bool} {config : WorldConfig} {rng : Rng}
    {srv : GameServer F} {t₀ t₁ : ℕ} (hstart : GameServer.run m debug config rng = .ok srv)
    (hclock : t₀ ≤ t₁) : OnTime t₀ [] (start srv t₀ t₁) := by
  obtain ⟨w, hinit, hsrv⟩ := bind_eq_ok.mp hstart
  cases hsrv
  obtain ⟨hticks, hframes⟩ := Prod.mk.inj ((World.init_clock m config rng).of_ok hinit)
  refine ⟨hclock, ?_, rfl, List.isChain_singleton t₀, Nat.le_refl t₀, ?_, ⟨0, ?_, hframes⟩, ?_⟩
  · intro expiry hexpiry
    obtain rfl : t₁ + (timerIntervalMs - (t₁ - t₀)) = expiry := Option.some.inj hexpiry
    show t₀ + timerIntervalMs ≤ _
    omega
  · show w.ticks < _
    rw [hticks]
    decide
  · show t₀ = t₀ + 0 * _ + w.ticks
    rw [hticks]
    omega
  · intro t ht
    cases ht

private theorem Dispatches.elapsed_eq {m : Libm F} {l l' : EventLoop F} {d : Dispatch}
    (hd : Dispatches m l d l') (hpast : l.lastTimePoint ≤ l.now) :
    l.lastTimePoint + elapsed (l.event d) = l'.lastTimePoint := by
  cases d with
  | timer fired sends stepped armed =>
      have hle : l.now ≤ fired := (List.pairwise_cons.mp hd.steady).1 fired (List.mem_cons_self ..)
      rw [hd.after]
      exact Nat.add_sub_cancel' (hpast.trans hle)
  | opened hdl joined sends =>
      rw [hd.after]
      rfl
  | message hdl binary payload sends =>
      rw [hd.after]
      rfl
  | closed hdl =>
      rw [hd.after]
      rfl
  | timerError fired =>
      rw [hd.after]
      rfl

private theorem run_onTime {m : Libm F} {l₀ l : EventLoop F} {ds : List Dispatch} {t₀ : ℕ}
    (h : OnTime t₀ [] l₀) (hrun : Run (Dispatches m) l₀ ds l) : OnTime t₀ ds l :=
  hrun.invariant (I := OnTime t₀) h fun _ _ _ _ ht hd => ht.dispatches hd

private theorem run_server {m : Libm F} {l₀ l : EventLoop F} {ds : List Dispatch} {t₀ : ℕ}
    (h : OnTime t₀ [] l₀) (hlast : l₀.lastTimePoint = t₀) (hrun : Run (Dispatches m) l₀ ds l) :
    ∃ es, ds.Forall₂ (fun d e => ∃ u : EventLoop F, u.event d = e) es ∧
      Run (GameServer.Step m) l₀.server es l.server ∧
      t₀ + (es.map elapsed).sum = l.lastTimePoint := by
  induction hrun with
  | nil => exact ⟨[], .nil, .nil, hlast.symm⟩
  | @snoc ds u u' d hrun hd ih =>
      obtain ⟨es, hevents, hserver, hsum⟩ := ih
      have hpast := (run_onTime h hrun).past
      refine ⟨es ++ [u.event d], ?_, hserver.snoc hd.step, ?_⟩
      · exact List.rel_append hevents (.cons ⟨u, rfl⟩ .nil)
      · rw [← hd.elapsed_eq hpast, ← hsum, List.map_append, List.sum_append, Nat.add_assoc]
        simp

/-- The clock of the world is the wall clock.  Whatever is dispatched, the server runs as it does
without a clock and is handed exactly the time between the first call of `NextTick` and the last: the
world counts it in frames and a rest of less than a frame.  From each tick to the next, and from the
start to the first, there is at least an interval, and a timer error ends them. -/
theorem world_keeps_time (m : Libm F) (debug : Bool) (config : WorldConfig) (rng : Rng)
    {srv₀ : GameServer F} {t₀ t₁ : ℕ} {ds : List Dispatch} {l : EventLoop F}
    (hstart : GameServer.run m debug config rng = .ok srv₀) (hclock : t₀ ≤ t₁)
    (hrun : Run (Dispatches m) (start srv₀ t₀ t₁) ds l) :
    (∃ es, ds.Forall₂ (fun d e => ∃ u : EventLoop F, u.event d = e) es ∧
      Run (GameServer.Step m) srv₀ es l.server ∧ t₀ + (es.map elapsed).sum = l.lastTimePoint) ∧
    (∃ n, l.lastTimePoint = t₀ + n * WorldConfig.frameTimeMs + l.server.world.ticks ∧
      l.server.world.ticks < WorldConfig.frameTimeMs ∧
      l.server.world.frames = n % 2 ^ 32) ∧
    ((t₀ :: ds.filterMap Dispatch.fired?).IsChain (fun a b => a + timerIntervalMs ≤ b) ∧
      l.lastTimePoint = (ds.filterMap Dispatch.fired?).getLastD t₀) ∧
    (t₀ + timerIntervalMs * ds.countP Dispatch.isTick ≤ l.lastTimePoint ∧
      l.lastTimePoint ≤ l.now) ∧
    ∀ t, .timerError t ∈ ds → l.timer = none := by
  have h₀ := start_onTime hstart hclock
  have h := run_onTime h₀ hrun
  obtain ⟨n, hn, hframes⟩ := h.frames
  exact ⟨run_server h₀ rfl hrun, ⟨n, hn, h.ticks, hframes⟩, ⟨h.spaced, h.last⟩,
    ⟨h.pace, h.past⟩, h.stopped⟩

/-- Dispatch in the iteration order there is. -/
def dispatch (m : Libm F) (l : EventLoop F) (d : Dispatch) : Option (EventLoop F) :=
  if l.server.Enabled (l.event d) ∧ l.due d = true ∧ (l.now :: d.readings).Pairwise (· ≤ ·) then
    match l.server.handle m (l.event d) with
    | .ok srv => if d.sends.length = (l.stamped srv).length then some (l.after d srv) else none
    | .error _ => none
  else none

private theorem dispatches_of_dispatch {m : Libm F} {l l' : EventLoop F} {d : Dispatch}
    (h : l.dispatch m d = some l') : Dispatches m l d l' := by
  unfold dispatch at h
  split at h
  · rename_i hready
    obtain ⟨hen, hdue, hsteady⟩ := hready
    cases hhandle : l.server.handle m (l.event d) with
    | error e =>
        rw [hhandle] at h
        cases h
    | ok srv =>
        rw [hhandle] at h
        dsimp only at h
        split at h
        · rename_i hsends
          have hserver : (l.after d srv).server = srv := by cases d <;> rfl
          cases h
          refine ⟨hdue, hsteady, ?_, ?_, ?_⟩
          · rw [hserver]
            exact GameServer.Step.of_handle hen hhandle
          · rw [hserver]
            exact hsends
          · rw [hserver]
        · cases h
  · cases h

private theorem run_of_dispatch {m : Libm F} {l l' : EventLoop F} {ds : List Dispatch}
    (h : ds.foldlM (dispatch m) l = some l') : Run (Dispatches m) l ds l' := by
  refine Run.of_foldlM (fun l => l) (fun l d l' hstep => ?_) h
  exact dispatches_of_dispatch hstep

theorem exists_run {m : Libm F} {config : WorldConfig} {t₀ t₁ : ℕ} {ds : List Dispatch}
    {check : EventLoop F → Bool}
    (h : (ds.foldlM (dispatch m) (start (GameServer.lobby config) t₀ t₁)).any check = true) :
    ∃ l, Run (Dispatches m) (start (GameServer.blank false config Rng.zero) t₀ t₁) ds l ∧
      check l = true := by
  rw [GameServer.blank_zero]
  obtain ⟨l, hl, hcheck⟩ := (Option.any_eq_true _ _).mp h
  exact ⟨l, run_of_dispatch hl, hcheck⟩

/-- Two ticks, 12 ms after one another and with a ping in between, until the timer fails. -/
theorem world_keeps_time_stopped :
    ∃ (ds : List Dispatch) (l : EventLoop ℚ),
      Run (Dispatches Libm.axis) (start (GameServer.blank false {} Rng.zero) 100 102) ds l ∧
      ds.filterMap Dispatch.fired? = [112, 124] ∧
      (100 :: ds.filterMap Dispatch.fired?).IsChain (fun a b => a + timerIntervalMs ≤ b) ∧
      l.lastTimePoint = 124 ∧
      (∃ n, l.lastTimePoint = 100 + n * WorldConfig.frameTimeMs + l.server.world.ticks ∧
        l.server.world.frames = n % 2 ^ 32) ∧ l.server.world.frames = 3 ∧ l.timer = none := by
  let ds : List Dispatch := [.opened 1 103 (List.replicate 100 104), .timer 112 [] 113 114,
    .message 1 true [251] [120], .timer 124 [] 125 125, .timerError 134]
  let check : EventLoop ℚ → Bool := fun l =>
    decide (l.lastTimePoint = 124) && decide (l.server.world.frames = 3)
  have heval : (ds.foldlM (dispatch Libm.axis) (start (GameServer.lobby {}) 100 102)).any check =
      true := by decide +kernel
  obtain ⟨l, hrun, hcheck⟩ := exists_run heval
  obtain ⟨hlast, hthree⟩ := Bool.and_eq_true_iff.mp hcheck
  obtain ⟨-, ⟨n, htime, -, hframes⟩, ⟨hspaced, -⟩, -, hstopped⟩ := world_keeps_time Libm.axis false
    {} Rng.zero (GameServer.run_blank Libm.axis false Rng.zero rfl) (by decide) hrun
  exact ⟨ds, l, hrun, rfl, hspaced, of_decide_eq_true hlast, ⟨n, htime, hframes⟩,
    of_decide_eq_true hthree, hstopped 134 (by decide)⟩

end EventLoop

end Slither
