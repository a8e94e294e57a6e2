import Slither.Server.Commands
import Slither.Server.EventLoop

/-!
# The time a client can tell

A packet carries the time since the last one, in 16 bits.  A client that adds these up has the time
at which each packet was sent, counted from when its session was opened.
-/

set_option linter.unusedSectionVars false

namespace Slither

open Framework

variable {F : Type} [Field F] [LinearOrder F] [FloorRing F]

namespace GameServer

/-- What has been sent to a session, if there is one. -/
def log (srv : GameServer F) (hdl : ConnectionHdl) : Option (List (Packet F)) :=
  (srv.sessions.find? hdl).map Session.sent

/-- What has been sent to a session when the handler starts to send. -/
def logBefore (srv : GameServer F) : Event → ConnectionHdl → Option (List (Packet F))
  | .opened h, hdl => if h = hdl then some [] else srv.log hdl
  | .closed h, hdl => if h = hdl then none else srv.log hdl
  | _, hdl => srv.log hdl

@[simp] theorem logBefore_opened (srv : GameServer F) (h hdl : ConnectionHdl) :
    srv.logBefore (.opened h) hdl = if h = hdl then some [] else srv.log hdl := rfl

@[simp] theorem logBefore_closed (srv : GameServer F) (h hdl : ConnectionHdl) :
    srv.logBefore (.closed h) hdl = if h = hdl then none else srv.log hdl := rfl

private theorem log_onClose (srv : GameServer F) (h hdl : ConnectionHdl) :
    (srv.onClose h).log hdl = if h = hdl then none else srv.log hdl := by
  cases hfind : srv.sessions.find? h with
  | none =>
      have hsame : srv.onClose h = srv := by rw [onClose, hfind]
      rw [hsame]
      split
      · rename_i heq
        rw [← heq, log, hfind]
        rfl
      · rfl
  | some ses =>
      have hgone : (srv.onClose h).sessions = srv.sessions.erase h := by
        rw [onClose, hfind]
        rfl
      rw [log, hgone, Keyed.find?_erase]
      by_cases heq : h = hdl
      · simp [heq]
      · simp [heq, Ne.symm heq, log]

private theorem handed_onClose (srv : GameServer F) (h : ConnectionHdl) :
    (srv.onClose h).handed = srv.handed := by
  unfold onClose
  split <;> rfl

private theorem log_deliverAll (srv : GameServer F) (ms : List (Message F)) (hdl : ConnectionHdl) :
    (srv.deliverAll ms).log hdl = (srv.log hdl).map (· ++ received hdl ms) := by
  unfold log
  rw [find?_deliverAll]
  cases hf : srv.sessions.find? hdl with
  | none => rfl
  | some ses =>
      have hkey : ses.hdl = hdl := Keyed.key_of_find? hf
      simp [Session.receiveAll, hkey]

/-- The messages are handed over, and sent to the sessions there are. -/
def Hands (srv : GameServer F) (ms : List (Message F)) (r : GameServer F) : Prop :=
  r.handed = srv.handed ++ ms ∧ ∀ hdl, r.log hdl = (srv.log hdl).map (· ++ received hdl ms)

namespace Hands

variable {srv srv' r : GameServer F} {ms ms' : List (Message F)}

private theorem refl (srv : GameServer F) : Hands srv [] srv := by
  refine ⟨(List.append_nil _).symm, fun hdl => ?_⟩
  cases srv.log hdl <;> simp

private theorem trans (h : Hands srv ms srv') (h' : Hands srv' ms' r) : Hands srv
    (ms ++ ms') r := by
  refine ⟨by rw [h'.1, h.1, List.append_assoc], fun hdl => ?_⟩
  rw [h'.2, h.2]
  cases srv.log hdl <;> simp

private theorem deliverAll (srv : GameServer F) (ms : List (Message F)) :
    Hands srv ms (srv.deliverAll ms) :=
  ⟨handed_deliverAll srv ms, log_deliverAll srv ms⟩

private theorem broadcastUpdate {s : Snake F} (hs : srv.world.getSnake s.id = some s) :
    Post (srv.broadcastUpdate s.id) (fun r => ∃ ms, Hands srv ms r) (fun _ => True) := by
  apply (broadcastUpdate_post hs).mono ?_ fun _ _ => trivial
  intro r hr
  obtain ⟨hdead, hdying, halive⟩ := hr
  cases hd : s.update.changeDead with
  | true =>
      rw [hdead hd]
      exact ⟨[], refl srv⟩
  | false =>
      cases hy : s.update.changeDying with
      | true =>
          obtain ⟨spawn, ss, rng, -, rfl⟩ := hdying hd hy
          exact ⟨_, deliverAll srv _⟩
      | false =>
          rw [halive hd hy]
          exact ⟨_, deliverAll srv _⟩

private theorem removeSnake (h : Hands srv ms r) (id : SnakeId) : Hands srv ms
    (r.removeSnake id) := h

private theorem obey {ses : Session F} (hses : ses ∈ srv.sessions) (c : Command F) :
    Post (srv.obey ses c) (fun r => ∃ ms, Hands srv ms r) (fun _ => True) := by
  have hplain : ∀ (u : GameServer F) (f : Snake F → Snake F), Hands srv [] u →
      Post (u.doSnake ses.snakeId f) (fun r => ∃ ms, Hands srv ms r) (fun _ => True) := by
    intro u f hu
    apply (doSnake_post u ses.snakeId f).mono ?_ fun _ _ => trivial
    intro r hr
    rcases hr with rfl | ⟨s, -, rfl⟩
    · exact ⟨[], hu⟩
    · exact ⟨[], hu⟩
  cases c with
  | ignore => exact ⟨[], refl srv⟩
  | turn angle => exact hplain srv _ (refl srv)
  | accelerate on => exact hplain srv _ (refl srv)
  | ping =>
      show Post (srv.sendBinary (srv.findSession ses.hdl) .pong) _ _
      unfold sendBinary
      cases srv.findSession ses.hdl with
      | none => trivial
      | some hdl => exact ⟨[(.only hdl, .pong)], deliverAll srv _⟩
  | introduce buf =>
      apply hplain (srv.setSession (readSkin ses buf))
      obtain ⟨hhdl, -, hsent⟩ := readSkin_frame ses buf
      refine ⟨(List.append_nil _).symm, fun hdl => ?_⟩
      unfold log setSession
      rw [Keyed.find?_replace]
      split
      · rename_i heq
        rw [← heq, hhdl, srv.sessions.find?_key hses]
        simp [hsent]
      · cases srv.sessions.find? hdl <;> simp

end Hands

private theorem handle_hands (m : Libm F) (srv : GameServer F) (e : Event) :
    Post (srv.handle m e)
      (fun r => ∃ ms, r.handed = srv.handed ++ ms ∧
        ∀ hdl, r.log hdl = (srv.logBefore e hdl).map (· ++ received hdl ms))
      (fun _ => True) := by
  cases e with
  | opened h =>
      apply (onOpen_post m srv h).mono ?_ fun _ _ => trivial
      intro r hr
      obtain ⟨s, w, -, -, hsend⟩ := hr
      have hjoin : ∀ hdl, (srv.join w h s).log hdl = srv.logBefore (.opened h) hdl := by
        intro hdl
        rw [log, join, Keyed.find?_assign, logBefore_opened]
        split <;> rfl
      rw [hsend]
      refine ⟨_, (Hands.deliverAll (srv.join w h s) _).1, fun hdl => ?_⟩
      rw [← hjoin]
      exact (Hands.deliverAll (srv.join w h s) _).2 hdl
  | message h binary payload =>
      show Post (srv.onMessage m h binary payload) _ _
      rw [onMessage_eq_obey]
      cases hfind : srv.sessions.find? h with
      | none => exact ⟨[], Hands.refl srv⟩
      | some ses => exact Hands.obey (Keyed.mem_of_find? hfind) _
  | closed h =>
      refine ⟨[], (handed_onClose srv h).trans (List.append_nil _).symm, fun hdl => ?_⟩
      rw [log_onClose, logBefore_closed]
      split
      · rfl
      · cases srv.log hdl <;> simp
  | timer ec dt =>
      apply onTimer_rule fun _ (r : GameServer F) => ∃ ms, Hands srv ms r
      · exact ⟨[], Hands.refl srv⟩
      · trivial
      · apply Post.intro ?_ fun _ _ => trivial
        intro w _ ms _
        exact ⟨ms, Hands.deliverAll (srv.setWorld w) ms⟩
      · intro s rest r hr hs
        obtain ⟨ms, hms⟩ := hr
        apply (Hands.broadcastUpdate hs).mono ?_ fun _ _ => trivial
        intro r' hr'
        obtain ⟨ms', hms'⟩ := hr'
        exact ⟨ms ++ ms', hms.trans hms'⟩
      · intro r hr
        exact foldl_inv (f := GameServer.removeSnake)
          (fun _ (r : GameServer F) => ∃ ms, Hands srv ms r)
          (fun id rest r hr => hr.imp fun _ h => h.removeSnake id) r.world.dead
          (r.setWorld r.world.flushChanges) hr

end GameServer

namespace SessionClock

/-- The times at which packets were sent to the session. -/
def times (c : SessionClock) : List ℕ := c.stamps.map Prod.snd

/-- The `client_time` of the packets. -/
def clientTimes (c : SessionClock) : List ℕ := c.stamps.map Prod.fst

/-- The clock of a session that has been sent `n` stamped packets, at a reading `now` or later. -/
structure Tells (c : SessionClock) (n now : ℕ) : Prop where
  count : c.stamps.length = n
  intervals : c.clientTimes = intervals (2 ^ 16) c.opened c.times
  last : c.lastPacketTime = c.times.getLastD c.opened
  steady : (c.opened :: c.times).Pairwise (· ≤ ·)
  past : c.lastPacketTime ≤ now

namespace Tells

variable {c : SessionClock} {n now now' : ℕ}

private theorem start (hdl : ConnectionHdl) (now : ℕ) : (SessionClock.start hdl now).Tells 0 now :=
  ⟨rfl, rfl, rfl, List.pairwise_singleton .., Nat.le_refl now⟩

private theorem mono (h : c.Tells n now) (hle : now ≤ now') : c.Tells n now' :=
  { h with past := h.past.trans hle }

private theorem stamp (h : c.Tells n now) (r : Recipient) (hle : now ≤ now') :
    (c.stamp r now').Tells (n + if r.selects c.hdl then 1 else 0) now' := by
  unfold SessionClock.stamp
  split
  swap
  · exact h.mono hle
  have htimes : ({ c with
      lastPacketTime := now'
      stamps := c.stamps ++ [((now' - c.lastPacketTime) % 2 ^ 16, now')] } : SessionClock).times =
        c.times ++ [now'] := List.map_append ..
  refine ⟨?_, ?_, ?_, ?_, Nat.le_refl now'⟩
  · rw [List.length_append, h.count]
    rfl
  · rw [htimes, intervals_concat, ← h.last, ← h.intervals]
    exact List.map_append ..
  · rw [htimes, List.getLastD_concat]
  · rw [htimes, ← List.cons_append, List.pairwise_append]
    refine ⟨h.steady, List.pairwise_singleton .., ?_⟩
    intro t ht u hu
    rw [List.mem_singleton.mp hu]
    exact (le_getLastD h.steady ht).trans (h.last ▸ h.past.trans hle)

private theorem stampAll (h : c.Tells n now) (ds : List (Recipient × ℕ))
    (hsteady : (now :: ds.map Prod.snd).Pairwise (· ≤ ·)) :
    (ds.foldl (fun c d => c.stamp d.1 d.2) c).Tells
      (n + ds.countP fun d => d.1.selects c.hdl) ((ds.map Prod.snd).getLastD now) := by
  induction ds generalizing c n now with
  | nil => exact h
  | cons d ds ih =>
      obtain ⟨hfirst, hrest⟩ := List.pairwise_cons.mp hsteady
      have hle : now ≤ d.2 := hfirst d.2 (List.mem_cons_self ..)
      have hstep := ih (h.stamp d.1 hle) hrest
      rw [hdl_stamp] at hstep
      rw [List.foldl_cons, List.map_cons, List.getLastD_cons, List.countP_cons,
        Nat.add_comm (ds.countP _), ← Nat.add_assoc]
      exact hstep

end Tells

end SessionClock

private theorem find?_stampAll (cs : Keyed SessionClock.hdl) (ds : List (Recipient × ℕ))
    (hdl : ConnectionHdl) :
    (Slither.stampAll cs ds).find? hdl =
      (cs.find? hdl).map fun c => ds.foldl (fun c d => c.stamp d.1 d.2) c := by
  induction ds generalizing cs with
  | nil => simp [Slither.stampAll]
  | cons d ds ih =>
      show (Slither.stampAll (cs.mapEntries _ _) ds).find? hdl = _
      rw [ih, Keyed.find?_mapEntries, Option.map_map]
      rfl

namespace Dispatch

/-- The last reading before the packets are sent. -/
def base (now : ℕ) : Dispatch → ℕ
  | opened _ joined _ => joined
  | timer fired .. => fired
  | _ => now

private theorem base_steady {d : Dispatch} {now : ℕ} (h : (now :: d.readings).Pairwise (· ≤ ·)) :
    now ≤ d.base now ∧ (d.base now :: d.sends).Pairwise (· ≤ ·) ∧
      d.sends.getLastD (d.base now) ≤ d.readings.getLastD now := by
  obtain ⟨hfirst, hrest⟩ := List.pairwise_cons.mp h
  cases d with
  | opened hdl joined sends =>
      refine ⟨hfirst joined (List.mem_cons_self ..), hrest, Nat.le_of_eq ?_⟩
      exact (List.getLastD_cons ..).symm
  | message hdl binary payload sends => exact ⟨Nat.le_refl now, h, Nat.le_refl _⟩
  | closed hdl => exact ⟨Nat.le_refl now, h, Nat.le_refl now⟩
  | timer fired sends stepped armed =>
      have hsub : (fired :: sends).Sublist (fired :: (sends ++ [stepped, armed])) :=
        (List.sublist_append_left ..).cons_cons fired
      refine ⟨hfirst fired (List.mem_cons_self ..), hrest.sublist hsub, ?_⟩
      show sends.getLastD fired ≤ (fired :: (sends ++ [stepped, armed])).getLastD now
      rw [List.getLastD_cons]
      exact le_getLastD hrest (hsub.subset List.getLastD_mem_cons)
  | timerError fired =>
      exact ⟨Nat.le_refl now, List.pairwise_singleton .., hfirst fired (List.mem_cons_self ..)⟩

end Dispatch

namespace EventLoop

/-- Every session has a clock that tells the time its packets were sent. -/
def Synchronous (l : EventLoop F) : Prop :=
  ∀ hdl sent, l.server.log hdl = some sent →
    ∃ c, l.clocks.find? hdl = some c ∧ c.Tells (sent.countP Packet.isStamped) l.now

private theorem countP_received (hdl : ConnectionHdl) (ms : List (Message F)) :
    (received hdl ms).countP Packet.isStamped =
      (ms.filter fun msg => msg.2.isStamped).countP fun msg => msg.1.selects hdl := by
  rw [received, List.countP_filterMap, List.countP_filter]
  congr 1
  funext msg
  cases msg.1.selects hdl <;> simp

private theorem Synchronous.joined {l : EventLoop F} (h : l.Synchronous) {d : Dispatch}
    (hbase : l.now ≤ d.base l.now) {hdl : ConnectionHdl} {sent : List (Packet F)}
    (hlog : l.server.logBefore (l.event d) hdl = some sent) :
    ∃ c, (l.joined d).find? hdl = some c ∧
      c.Tells (sent.countP Packet.isStamped) (d.base l.now) := by
  have hold : l.server.log hdl = some sent → ∃ c, l.clocks.find? hdl = some c ∧
      c.Tells (sent.countP Packet.isStamped) (d.base l.now) := by
    intro hlog
    obtain ⟨c, hc, htells⟩ := h hdl sent hlog
    exact ⟨c, hc, htells.mono hbase⟩
  cases d with
  | opened h joined sends =>
      show ∃ c, (l.clocks.assign (.start h joined)).find? hdl = some c ∧ _
      rw [event, GameServer.logBefore_opened] at hlog
      rw [Keyed.find?_assign]
      by_cases heq : h = hdl
      · rw [if_pos heq] at hlog
        cases hlog
        exact ⟨_, if_pos heq, .start h joined⟩
      · rw [if_neg heq] at hlog
        rw [if_neg (show (SessionClock.start h joined).hdl ≠ hdl from heq)]
        exact hold hlog
  | closed h =>
      show ∃ c, (l.clocks.erase h).find? hdl = some c ∧ _
      rw [event, GameServer.logBefore_closed] at hlog
      rw [Keyed.find?_erase]
      by_cases heq : h = hdl
      · rw [if_pos heq] at hlog
        cases hlog
      · rw [if_neg heq] at hlog
        rw [if_neg (Ne.symm heq)]
        exact hold hlog
  | message h binary payload sends => exact hold hlog
  | timer fired sends stepped armed => exact hold hlog
  | timerError fired => exact hold hlog

private theorem clocks_after (l : EventLoop F) (d : Dispatch) (srv : GameServer F) :
    (l.after d srv).clocks =
      stampAll (l.joined d) (((l.stamped srv).map Prod.fst).zip d.sends) := by
  cases d <;> rfl

private theorem Synchronous.dispatches {m : Libm F} {l l' : EventLoop F} {d : Dispatch}
    (h : l.Synchronous) (hd : Dispatches m l d l') : l'.Synchronous := by
  intro hdl sent hsent
  obtain ⟨hle, hsteady, hlast⟩ := Dispatch.base_steady hd.steady
  obtain ⟨-, w, -, hhandle⟩ := hd.step
  obtain ⟨ms, hhanded, hlog⟩ := (GameServer.handle_hands m _ _).of_ok hhandle
  replace hhanded : l'.server.handed = l.server.handed ++ ms := hhanded
  rw [hlog, Option.map_eq_some_iff] at hsent
  obtain ⟨before, hbefore, rfl⟩ := hsent
  obtain ⟨c, hc, htells⟩ := h.joined hle hbefore
  have hstamped : l.stamped l'.server = ms.filter fun msg => msg.2.isStamped := by
    rw [stamped, hhanded, List.drop_left]
  have hlen : ((l.stamped l'.server).map Prod.fst).length = d.sends.length := by
    rw [List.length_map, hd.sends]
  have hreadings := List.map_snd_zip (Nat.le_of_eq hlen.symm)
  have hrecipients := List.map_fst_zip (Nat.le_of_eq hlen)
  have hcount : ((((l.stamped l'.server).map Prod.fst).zip d.sends).countP
      fun a => a.1.selects c.hdl) = (received hdl ms).countP Packet.isStamped := by
    have hkey : c.hdl = hdl := Keyed.key_of_find? hc
    rw [countP_received, ← hstamped, hkey]
    calc _ = ((((l.stamped l'.server).map Prod.fst).zip d.sends).map Prod.fst).countP
            fun r => r.selects hdl := List.countP_map.symm
      _ = (l.stamped l'.server).countP fun msg => msg.1.selects hdl := by
          rw [hrecipients, List.countP_map]
          rfl
  have hall := htells.stampAll (((l.stamped l'.server).map Prod.fst).zip d.sends)
    (by rw [hreadings]; exact hsteady)
  rw [hcount, hreadings, ← List.countP_append] at hall
  have hclocks := (congrArg EventLoop.clocks hd.after).trans (clocks_after l d l'.server)
  have hnow := (congrArg EventLoop.now hd.after).trans (now_after l d l'.server)
  refine ⟨_, ?_, hall.mono (hlast.trans (Nat.le_of_eq hnow.symm))⟩
  rw [hclocks, find?_stampAll, hc]
  rfl

private theorem run_synchronous {m : Libm F} {debug : Bool} {config : WorldConfig} {rng : Rng}
    {srv₀ : GameServer F} {t₀ t₁ : ℕ} {ds : List Dispatch} {l : EventLoop F}
    (hstart : GameServer.run m debug config rng = .ok srv₀)
    (hrun : Run (Dispatches m) (start srv₀ t₀ t₁) ds l) : l.Synchronous := by
  apply hrun.state_invariant (I := Synchronous)
  · intro hdl sent hsent
    obtain ⟨w, hinit, hsrv⟩ := bind_eq_ok.mp hstart
    cases hsrv
    cases hsent
  · exact fun _ _ _ h hd => h.dispatches hd

/-- The clients can tell the time.  In every run of the loop, adding up the `client_time` of the packets
sent to a session gives the time at which each of them was sent, counted from the opening of the
session: exactly if the session was never silent for `2 ^ 16` ms, and up to multiples of that
otherwise. -/
theorem client_times_add_up (m : Libm F) (debug : Bool) (config : WorldConfig) (rng : Rng)
    {srv₀ : GameServer F} {t₀ t₁ : ℕ} {ds : List Dispatch} {l : EventLoop F}
    (hstart : GameServer.run m debug config rng = .ok srv₀)
    (hrun : Run (Dispatches m) (start srv₀ t₀ t₁) ds l) :
    ∀ ses ∈ l.server.sessions, ∃ c ∈ l.clocks, c.hdl = ses.hdl ∧
      c.stamps.length = ses.sent.countP Packet.isStamped ∧
      (c.opened :: c.times).Pairwise (· ≤ ·) ∧ c.times.getLastD c.opened ≤ l.now ∧
      ∀ k t, c.times[k]? = some t →
        c.opened + (c.clientTimes.take (k + 1)).sum ≡ t [MOD 2 ^ 16] ∧
        ((c.opened :: c.times.take (k + 1)).IsChain (fun a b => b < a + 2 ^ 16) →
          c.opened + (c.clientTimes.take (k + 1)).sum = t) := by
  intro ses hses
  have hlog : l.server.log ses.hdl = some ses.sent := by
    rw [GameServer.log, l.server.sessions.find?_key hses]
    rfl
  obtain ⟨c, hc, h⟩ := run_synchronous hstart hrun ses.hdl ses.sent hlog
  refine ⟨c, Keyed.mem_of_find? hc, Keyed.key_of_find? hc, h.count, h.steady,
    h.last ▸ h.past, ?_⟩
  intro k t ht
  have htake : c.times.take (k + 1) = c.times.take k ++ [t] := by
    rw [List.take_add_one, ht]
    rfl
  have hsteady : (c.opened :: c.times.take (k + 1)).Pairwise (· ≤ ·) :=
    h.steady.sublist ((List.take_sublist ..).cons_cons c.opened)
  have hlast : (c.times.take (k + 1)).getLastD c.opened = t := by
    rw [htake, List.getLastD_concat]
  rw [h.intervals, take_intervals, ← hlast]
  exact ⟨add_sum_intervals hsteady, add_sum_intervals_eq hsteady⟩

/-- A session was opened at 103 and is sent a pong at 120, its 101st packet with a time stamp. -/
theorem client_times_add_up_opened :
    ∃ (l : EventLoop ℚ), ∃ c ∈ l.clocks, c.opened = 103 ∧ c.times[100]? = some 120 ∧
      c.opened + (c.clientTimes.take 101).sum = 120 := by
  let ds : List Dispatch := [.opened 1 103 (List.replicate 100 104), .timer 112 [] 113 114,
    .message 1 true [251] [120]]
  let check : EventLoop ℚ → Bool := fun l =>
    l.server.sessions.entries.any (fun ses => decide (ses.hdl = 1)) &&
      (l.clocks.find? 1).any fun c => decide (c.opened = 103 ∧ c.times[100]? = some 120 ∧
        (c.opened :: c.times.take 101).IsChain fun a b => b < a + 2 ^ 16)
  have heval : (ds.foldlM (dispatch Libm.axis) (start (GameServer.lobby {}) 100 102)).any check =
      true := by decide +kernel
  obtain ⟨l, hrun, hcheck⟩ := exists_run heval
  obtain ⟨hopen, hclock⟩ := Bool.and_eq_true_iff.mp hcheck
  obtain ⟨ses, hses, hone⟩ := List.any_eq_true.mp hopen
  obtain ⟨c, hc, hkey, -, -, -, hsum⟩ := client_times_add_up Libm.axis false {} Rng.zero
    (GameServer.run_blank Libm.axis false Rng.zero rfl) hrun ses hses
  obtain ⟨c', hc', hdecide⟩ := (Option.any_eq_true _ _).mp hclock
  have hsame : c = c' := by
    have hfind := l.clocks.find?_key hc
    rw [hkey, of_decide_eq_true hone, hc'] at hfind
    exact (Option.some.inj hfind).symm
  subst hsame
  obtain ⟨hopened, htime, hchain⟩ := of_decide_eq_true hdecide
  exact ⟨l, c, hc, hopened, htime, (hsum 100 120 htime).2 hchain⟩

end EventLoop

end Slither
