import Slither.Server.Census
import Slither.Server.ChangeNotification
import Slither.Server.SessionCoherence

/-!
# Deaths

A snake that the bounds check marks is announced dead by the update of the same timer event, once;
after that it does not change, and if it is a bot it leaves the world with the event.
-/

set_option linter.unusedSectionVars false

namespace Slither

open Framework Snake

variable {F : Type} [Field F] [LinearOrder F] [FloorRing F]

/-- The snake whose removal a broadcast announces under a status. -/
def Message.removed? (status : ℕ) : Message F → Option SnakeId
  | (.everyone, .removeSnake j st) => if st = status then some j else none
  | _ => none

namespace Packet

/-- The packet that ends a player's game. -/
def isEnd : Packet F → Bool
  | .theEnd _ => true
  | _ => false

/-- The packets a death is announced with. -/
def isDeath : Packet F → Bool
  | .theEnd _ => true
  | .removeSnake _ _ => true
  | _ => false

end Packet

namespace Message

private theorem removed?_none {m : Message F} (h : m.2.isDeath = false) (status : ℕ) :
    m.removed? status = none := by
  obtain ⟨r, p⟩ := m
  cases r <;> cases p <;> first | rfl | cases h

private theorem filterMap_removed? {ms : List (Message F)} (h : ∀ m ∈ ms, m.2.isDeath = false)
    (status : ℕ) : ms.filterMap (removed? status) = [] :=
  List.filterMap_eq_nil_iff.mpr fun m hm => removed?_none (h m hm) status

private theorem countP_isEnd_received {ms : List (Message F)} (h : ∀ m ∈ ms, m.2.isDeath = false)
    (hdl : ConnectionHdl) : (received hdl ms).countP Packet.isEnd = 0 := by
  refine List.countP_eq_zero.mpr fun p hp => ?_
  obtain ⟨m, hm, hsel⟩ := List.mem_filterMap.mp hp
  have hend : ∀ q : Packet F, q.isDeath = false → q.isEnd = false := by
    intro q hq
    cases q <;> first | rfl | cases hq
  split at hsel
  · cases hsel
    simp [hend _ (h m hm)]
  · cases hsel

end Message

private theorem announcement_isDeath (ss : SectorSeq) (sesI : SessionIter) (s : Snake F) :
    ∀ m ∈ announcement ss sesI s, m.2.isDeath = false := by
  have hlength : ∀ t : Snake F, ∀ m ∈ lengthMessages t, m.2.isDeath = false := by
    intro t m hm
    unfold lengthMessages at hm
    split at hm
    · rw [List.mem_singleton.mp hm]
      rfl
    · rcases List.mem_append.mp hm with hm | hm
      · split at hm
        · rw [List.mem_singleton.mp hm]
          rfl
        · cases hm
      · rw [List.mem_singleton.mp hm]
        rfl
  have hfood : ∀ t : Snake F, ∀ m ∈ foodMessages t, m.2.isDeath = false := by
    intro t m hm
    rcases List.mem_append.mp hm with hm | hm
    · obtain ⟨f, -, rfl⟩ := List.mem_map.mp hm
      rfl
    · obtain ⟨f, -, rfl⟩ := List.mem_map.mp hm
      rfl
  have hplayer : ∀ t : Snake F, ∀ m ∈ playerMessages ss sesI t, m.2.isDeath = false := by
    intro t m hm
    cases sesI with
    | none => cases hm
    | some hdl =>
        rcases List.mem_append.mp hm with hm | hm
        · rcases List.mem_append.mp hm with hm | hm
          · obtain ⟨p, -, hp⟩ := List.mem_flatMap.mp hm
            rcases List.mem_pair.mp hp with rfl | rfl <;> rfl
          · obtain ⟨p, -, rfl⟩ := List.mem_map.mp hm
            rfl
        · split at hm
          · rw [List.mem_singleton.mp hm]
            rfl
          · cases hm
  intro m hm
  rcases List.mem_append.mp hm with hm | hm
  · unfold rotationMessages at hm
    split at hm
    · rw [List.mem_singleton.mp hm]
      rfl
    · cases hm
  · split at hm
    · rcases List.mem_append.mp hm with hm | hm
      · rcases List.mem_append.mp hm with hm | hm
        · exact hlength _ m hm
        · exact hfood _ m hm
      · split at hm
        · cases hm
        · exact hplayer _ m hm
    · cases hm

private theorem welcomeMessages_isDeath (init : PacketInit F) (ss : SectorSeq) (hdl : ConnectionHdl)
    (s : Snake F) (others : List (Snake F)) :
    ∀ m ∈ GameServer.welcomeMessages init ss hdl s others, m.2.isDeath = false := by
  intro m hm
  rcases List.mem_append.mp hm with hm | hm
  · rcases List.mem_append.mp hm with hm | hm
    · simp only [List.mem_cons, List.not_mem_nil, or_false] at hm
      rcases hm with rfl | rfl | rfl <;> rfl
    · rcases List.mem_append.mp hm with hm | hm
      · obtain ⟨p, -, hp⟩ := List.mem_flatMap.mp hm
        rcases List.mem_pair.mp hp with rfl | rfl <;> rfl
      · obtain ⟨p, -, rfl⟩ := List.mem_map.mp hm
        rfl
  · obtain ⟨t, -, ht⟩ := List.mem_flatMap.mp hm
    rcases List.mem_pair.mp ht with rfl | rfl <;> rfl

private theorem filterMap_removal (sesI : SessionIter) (s t : Snake F) {status : ℕ}
    (hstatus : status = Packet.statusSnakeDied ∨ status = Packet.statusSnakeLeft) :
    (endMessages sesI s ++ removalMessages t).filterMap (Message.removed? status) = [t.id] := by
  have hend : (endMessages sesI s).filterMap (Message.removed? status) = [] := by
    unfold endMessages
    split
    · rfl
    · cases sesI <;> rfl
  have hfood : (foodMessages t).filterMap (Message.removed? status) = [] := by
    apply List.filterMap_eq_nil_iff.mpr
    intro m hm
    rcases List.mem_append.mp hm with hm | hm
    · obtain ⟨f, -, rfl⟩ := List.mem_map.mp hm
      rfl
    · obtain ⟨f, -, rfl⟩ := List.mem_map.mp hm
      rfl
  unfold removalMessages
  rw [List.filterMap_append, List.filterMap_append, hend, hfood]
  rcases hstatus with rfl | rfl <;> rfl

private theorem countP_isEnd_removal (sesI : SessionIter) (s t : Snake F) (hdl : ConnectionHdl) :
    (received hdl (endMessages sesI s ++ removalMessages t)).countP Packet.isEnd =
      if s.bot = false ∧ sesI = some hdl then 1 else 0 := by
  have hremoval : (received hdl (removalMessages t)).countP Packet.isEnd = 0 := by
    refine List.countP_eq_zero.mpr fun p hp => ?_
    obtain ⟨m, hm, hsel⟩ := List.mem_filterMap.mp hp
    have hnot : m.2.isEnd = false := by
      rcases List.mem_append.mp hm with hm | hm
      · rcases List.mem_append.mp hm with hm | hm
        · obtain ⟨f, -, rfl⟩ := List.mem_map.mp hm
          rfl
        · obtain ⟨f, -, rfl⟩ := List.mem_map.mp hm
          rfl
      · rcases List.mem_pair.mp hm with rfl | rfl <;> rfl
    split at hsel
    · cases hsel
      simp [hnot]
    · cases hsel
  rw [received_append, List.countP_append, hremoval, Nat.add_zero]
  unfold endMessages
  cases hbot : s.bot with
  | true => simp
  | false =>
      cases sesI with
      | none => simp
      | some hdl' =>
          by_cases hh : hdl = hdl'
          · subst hh
            simp [Packet.isEnd]
          · simp only [Bool.false_eq_true, if_false, Option.elim_some, true_and, Option.some.injEq]
            rw [received_only_ne hh, if_neg (Ne.symm hh)]
            rfl

namespace GameServer

/-- The snakes announced as removed under a status, in order. -/
def removals (srv : GameServer F) (status : ℕ) : List SnakeId :=
  srv.handed.filterMap (Message.removed? status)

/-- The snakes announced dead, in order. -/
def deaths (srv : GameServer F) : List SnakeId := srv.removals Packet.statusSnakeDied

private theorem removals_of_handed {srv srv' : GameServer F} {ms : List (Message F)}
    (h : srv'.handed = srv.handed ++ ms) (status : ℕ) :
    srv'.removals status = srv.removals status ++ ms.filterMap (Message.removed? status) := by
  rw [removals, h, List.filterMap_append]
  rfl

private theorem removals_buries {srv r : GameServer F} {s : Snake F} (h : Buries srv s r)
    {status : ℕ} (hstatus : status = Packet.statusSnakeDied ∨ status = Packet.statusSnakeLeft) :
    r.removals status = srv.removals status ++ [s.id] := by
  obtain ⟨spawn, ss, rng, -, rfl⟩ := h
  refine (removals_of_handed (handed_deliverAll srv _) status).trans ?_
  rw [filterMap_removal _ _ _ hstatus]

/-- The dead bots are about to be cleaned up. -/
def BotsListed (srv : GameServer F) : Prop :=
  ∀ s ∈ srv.world.snakes, s.update.changeDead = true → s.bot = true → s.id ∈ srv.world.dead

namespace BotsListed

variable {srv srv' : GameServer F}

private theorem of_ident (h : srv.BotsListed) (hdead : srv'.world.dead = srv.world.dead)
    (hsnakes : ∀ s' ∈ srv'.world.snakes, s'.update.changeDead = false ∨
      ∃ s ∈ srv.world.snakes, s.ident = s'.ident) : srv'.BotsListed := by
  intro s' hs' hd hbot
  rcases hsnakes s' hs' with hlive | ⟨s, hs, hident⟩
  · rw [hd] at hlive
    cases hlive
  · simp only [ident, Prod.mk.injEq] at hident
    rw [hdead, ← hident.1]
    exact h s hs (hident.2.2.2.trans hd) (hident.2.1.trans hbot)

private theorem broadcastUpdate {s : Snake F} (h : srv.BotsListed)
    (hs : srv.world.getSnake s.id = some s) :
    Post (srv.broadcastUpdate s.id) BotsListed (fun _ => True) := by
  refine (broadcastUpdate_post hs).mono ?_ fun _ _ => trivial
  rintro r ⟨hdead, hdying, halive⟩
  cases hd : s.update.changeDead with
  | true =>
      rw [hdead hd]
      exact h
  | false =>
      cases hy : s.update.changeDying with
      | true =>
          obtain ⟨spawn, ss, rng, -, rfl⟩ := hdying hd hy
          intro t ht htd hbot
          show t.id ∈ if s.bot then srv.world.dead ++ [s.id] else srv.world.dead
          rcases Keyed.mem_replace.mp ht with ⟨ht, -⟩ | ⟨rfl, -⟩
          · have hin := h t ht htd hbot
            split
            · exact List.mem_append_left _ hin
            · exact hin
          · replace hbot : s.bot = true := hbot
            rw [if_pos hbot]
            exact List.mem_append_right _ (List.mem_singleton_self _)
      | false =>
          rw [halive hd hy]
          refine h.of_ident rfl fun t ht => ?_
          rcases Keyed.mem_replace.mp ht with ⟨ht, -⟩ | ⟨rfl, -⟩
          · exact .inr ⟨t, ht, rfl⟩
          · exact .inl ((announced_frame s).2.2.2.2.trans hd)

private theorem removeSnake (h : srv.BotsListed) (id : SnakeId) :
    (srv.removeSnake id).BotsListed := by
  refine h.of_ident ?_ fun s hs =>
    .inr ⟨s, ((World.Registered.mem_removeSnake srv.world id s).mp hs).1, rfl⟩
  show (srv.world.removeSnake id).dead = srv.world.dead
  unfold World.removeSnake
  dsimp only
  split <;> rfl

end BotsListed

private theorem getSnake_removeDeadSnakes (srv : GameServer F) {id : SnakeId}
    (hid : id ∈ srv.world.dead) :
    srv.removeDeadSnakes.world.getSnake id = none := by
  have hgone : ∀ (ids : List SnakeId) (r : GameServer F),
      id ∈ ids ∨ r.world.getSnake id = none →
      (ids.foldl GameServer.removeSnake r).world.getSnake id = none := by
    intro ids
    induction ids with
    | nil => exact fun r h => h.resolve_left List.not_mem_nil
    | cons j ids ih =>
        intro r h
        have hget : (r.removeSnake j).world.getSnake id =
            if id = j then none else r.world.getSnake id := World.getSnake_removeSnake r.world j id
        refine ih _ ?_
        rw [hget]
        rcases h with h | h
        · rcases List.mem_cons.mp h with rfl | h
          · exact .inr (if_pos rfl)
          · exact .inl h
        · rw [h]
          exact .inr (ite_self _)
  exact hgone srv.world.dead srv (.inl hid)

private theorem BotsListed.removeDeadSnakes {srv : GameServer F} (h : srv.BotsListed) :
    srv.removeDeadSnakes.BotsListed := by
  have hfold := foldl_inv (f := GameServer.removeSnake)
    (fun _ (r : GameServer F) => r.BotsListed ∧ r.world.dead = srv.world.dead)
    (fun id rest r hr => ⟨hr.1.removeSnake id, ?_⟩) srv.world.dead srv ⟨h, rfl⟩
  · intro s hs hd hbot
    have hin := hfold.1 s hs hd hbot
    rw [hfold.2] at hin
    have hsome : srv.removeDeadSnakes.world.getSnake s.id = some s := Keyed.find?_key hs
    rw [getSnake_removeDeadSnakes srv hin] at hsome
    cases hsome
  · refine Eq.trans ?_ hr.2
    show (r.world.removeSnake id).dead = r.world.dead
    unfold World.removeSnake
    dsimp only
    split <;> rfl

private theorem BotsListed.handle {m : Libm F} {srv : GameServer F} {e : Event}
    (h : srv.BotsListed) :
    Post (srv.handle m e) BotsListed (fun _ => True) := by
  cases e with
  | opened hdl =>
      refine (onOpen_post m srv hdl).mono ?_ fun _ _ => trivial
      rintro r ⟨s, w, hcreate, hfree, hsend⟩
      obtain ⟨hfresh, -, hsnakes, hdead, -⟩ := (World.create_fresh m false srv.world).of_ok hcreate
      have hlive : s.update.changeDead = false := by
        rw [hfresh.update]
        rfl
      rw [hsend]
      refine h.of_ident hdead fun t ht => ?_
      rcases Keyed.mem_replace.mp ht with ⟨ht, -⟩ | ⟨rfl, -⟩
      · rcases Keyed.mem_of_mem_insert ht with ht | rfl
        · exact .inr ⟨t, hsnakes ▸ ht, rfl⟩
        · exact .inl hlive
      · exact .inl hlive
  | message hdl binary payload =>
      refine (onMessage_post m srv hdl binary payload).mono (fun r hr => ?_) fun _ _ => trivial
      rcases hr.world with hw | ⟨s, s', hs, hkept, -, hw⟩
      · exact h.of_ident (by rw [hw]) fun t ht => .inr ⟨t, by rwa [hw] at ht, rfl⟩
      · refine h.of_ident (by rw [hw]; rfl) fun t ht => ?_
        rw [hw] at ht
        rcases Keyed.mem_replace.mp ht with ⟨ht, -⟩ | ⟨rfl, -⟩
        · exact .inr ⟨t, ht, rfl⟩
        · exact .inr ⟨s, Keyed.mem_of_find? hs, (ident_of_kept hkept).symm⟩
  | closed hdl =>
      show (srv.onClose hdl).BotsListed
      unfold onClose
      split
      · exact (show BotsListed { srv with sessions := srv.sessions.erase hdl } from h).removeSnake _
      · exact h
  | timer ec dt =>
      apply onTimer_rule fun _ (r : GameServer F) => r.BotsListed
      · exact h
      · trivial
      · refine (World.tick_kept m dt srv.world).mono (fun w hw ms _ => ?_) fun _ _ => trivial
        have hworld := world_deliverAll (srv.setWorld w) ms
        refine h.of_ident ?_ fun t ht => ?_
        · rw [hworld]
          exact congrArg (fun k => k.2.1) hw
        · rw [hworld] at ht
          exact .inr (World.ids_of_kept hw ht)
      · exact fun s rest r hr hs => hr.broadcastUpdate hs
      · exact fun r hr => (show BotsListed (r.setWorld r.world.flushChanges) from hr).removeDeadSnakes

/-- Between two events every dead snake is a player. -/
theorem run_botsListed {m : Libm F} {debug : Bool} {config : WorldConfig} {rng : Rng}
    {srv₀ srv : GameServer F} {es : List Event} (hstart : run m debug config rng = .ok srv₀)
    (hrun : Run (Step m) srv₀ es srv) : srv.BotsListed := by
  obtain ⟨w, hinit, hsrv⟩ := bind_eq_ok.mp hstart
  have hw := (World.init_initial m config rng).of_ok hinit
  refine hrun.state_invariant (I := BotsListed) ?_ ?_
  · cases hsrv
    intro s hs hd
    rw [(hw.fresh s hs).1.update] at hd
    cases hd
  · rintro t e u ht ⟨-, w', ⟨snakes, hperm, rfl⟩, hhandle⟩
    have ht' : (t.setWorld { t.world with snakes := snakes }).BotsListed :=
      fun s hs => ht s (hperm.mem_iff.mp hs)
    exact ht'.handle.of_ok hhandle

/-- The log of deaths against the snakes there are: every death is announced once, under both
statuses and to the player, and the dead are the announced. -/
structure Mourned (srv : GameServer F) : Prop where
  once : srv.deaths.Nodup
  left : srv.removals Packet.statusSnakeLeft = srv.deaths
  dead : ∀ s ∈ srv.world.snakes, s.update.changeDead = true ↔ s.id ∈ srv.deaths
  past : ∀ id ∈ srv.deaths, id ≤ srv.world.lastSnakeId
  ends : ∀ hdl v s, srv.view hdl = some v → srv.world.getSnake v.1 = some s →
    v.2.countP Packet.isEnd = if s.update.changeDead then 1 else 0

namespace Mourned

variable {srv srv' : GameServer F}

private theorem silent {ms ms' : List (Message F)} (h : srv.Mourned)
    (hms : ∀ m ∈ ms, m.2.isDeath = false)
    (hms' : ∀ m ∈ ms', m.2.isDeath = false) (hhanded : srv'.handed = srv.handed ++ ms)
    (hview : ∀ hdl, srv'.view hdl = (srv.deliverAll ms').view hdl)
    (hlast : srv.world.lastSnakeId ≤ srv'.world.lastSnakeId)
    (hsnakes : ∀ s' ∈ srv'.world.snakes, ∃ s ∈ srv.world.snakes, s.id = s'.id ∧
      s.update.changeDead = s'.update.changeDead) : srv'.Mourned := by
  have hlog : ∀ status, srv'.removals status = srv.removals status := by
    intro status
    rw [removals_of_handed hhanded, Message.filterMap_removed? hms, List.append_nil]
  have hdeaths : srv'.deaths = srv.deaths := hlog _
  refine ⟨?_, ?_, fun s' hs' => ?_, fun id hid => ?_, fun hdl v s' hv hs' => ?_⟩
  · rw [hdeaths]
    exact h.once
  · rw [hlog, hdeaths]
    exact h.left
  · obtain ⟨s, hs, hid, hd⟩ := hsnakes s' hs'
    rw [hdeaths, ← hid, ← hd]
    exact h.dead s hs
  · exact (h.past id (hdeaths ▸ hid)).trans hlast
  · rw [hview, view_deliverAll] at hv
    obtain ⟨v₀, hv₀, rfl⟩ := Option.map_eq_some_iff.mp hv
    obtain ⟨hmem, hid'⟩ := Keyed.find?_eq_some.mp hs'
    obtain ⟨s, hs, hid, hd⟩ := hsnakes s' hmem
    have hget : srv.world.getSnake v₀.1 = some s := by
      rw [show v₀.1 = s.id from hid'.symm.trans hid.symm]
      exact Keyed.find?_key hs
    show (v₀.2 ++ received hdl ms').countP Packet.isEnd = _
    rw [List.countP_append, Message.countP_isEnd_received hms', Nat.add_zero,
      h.ends hdl v₀ s hv₀ hget, hd]

private theorem buries {s : Snake F} {n : ℕ} (h : srv.Mourned) (hcoh : srv.Coherent)
    (hnum : srv.world.Numbered n) (hs : srv.world.getSnake s.id = some s)
    (hlive : s.update.changeDead = false) (hb : Buries srv s srv') : srv'.Mourned := by
  have hdeaths := removals_buries hb (.inl rfl)
  have hleft := removals_buries hb (.inr rfl)
  obtain ⟨spawn, ss, rng, -, rfl⟩ := hb
  have hmem : s ∈ srv.world.snakes := Keyed.mem_of_find? hs
  have hnew : s.id ∉ srv.deaths := by
    rw [← h.dead s hmem, hlive]
    simp
  have hburied : s.buried.update.changeDead = true := by simp [buried, markDead]
  have hsnakes : ∀ t, t ∈ srv.world.snakes.replace s.buried ↔
      t ∈ srv.world.snakes ∧ t.id ≠ s.id ∨ t = s.buried := by
    intro t
    rw [Keyed.mem_replace]
    exact or_congr_right (and_iff_left ⟨s, hmem, rfl⟩)
  refine ⟨?_, ?_, fun t ht => ?_, fun id hid => ?_, fun hdl v t hv ht => ?_⟩
  · show List.Nodup (GameServer.removals _ _)
    rw [hdeaths]
    exact List.Nodup.append h.once (List.nodup_singleton _) (List.disjoint_singleton.mpr hnew)
  · show GameServer.removals _ _ = GameServer.removals _ _
    rw [hdeaths, hleft, h.left]
    rfl
  · show _ ↔ t.id ∈ GameServer.removals _ _
    rw [hdeaths, List.mem_append, List.mem_singleton]
    rcases (hsnakes t).mp ht with ⟨ht, hne⟩ | rfl
    · rw [h.dead t ht]
      exact ⟨.inl, fun hin => hin.resolve_right hne⟩
    · rw [hburied]
      exact ⟨fun _ => .inr rfl, fun _ => rfl⟩
  · replace hid : id ∈ GameServer.removals _ _ := hid
    rw [hdeaths, List.mem_append, List.mem_singleton] at hid
    rcases hid with hid | rfl
    · exact h.past id hid
    · show s.id ≤ srv.world.lastSnakeId
      rw [hnum.last]
      exact (hnum.range s hmem).2
  · replace hv : (srv.deliverAll _).view hdl = some v := hv
    rw [view_deliverAll] at hv
    obtain ⟨v₀, hv₀, rfl⟩ := Option.map_eq_some_iff.mp hv
    replace ht : (srv.world.snakes.replace s.buried).find? v₀.1 = some t := ht
    have howner : srv.owner hdl = some v₀.1 := by
      rw [owner, hv₀]
      rfl
    obtain ⟨hplayer, hconn⟩ := hcoh.session hdl v₀.1 howner
    show (v₀.2 ++ received hdl _).countP Packet.isEnd = _
    rw [List.countP_append, countP_isEnd_removal]
    rw [Keyed.find?_replace] at ht
    split at ht
    · rename_i heq
      replace heq : s.id = v₀.1 := heq
      obtain ⟨-, -, rfl⟩ := Option.map_eq_some_iff.mp ht
      rw [← heq] at hplayer hconn
      have hbot : s.bot = false := by
        rw [World.player?, hs] at hplayer
        exact Option.some.inj hplayer
      have hses : srv.loadSessionIter s.id = some hdl := by
        unfold loadSessionIter
        rw [hconn]
        exact findSession_eq_some.mpr ⟨rfl, by rw [hv₀]; rfl⟩
      rw [if_pos ⟨hbot, hses⟩, h.ends hdl v₀ s hv₀ (heq ▸ hs), hlive, hburied]
      rfl
    · rename_i hne
      rw [if_neg, Nat.add_zero]
      · exact h.ends hdl v₀ t hv₀ ht
      rintro ⟨hbot, hses⟩
      obtain ⟨hdl', hses', howner'⟩ := hcoh.loadSessionIter
        (show srv.world.player? s.id = some false by
          rw [World.player?, hs]
          exact congrArg some hbot)
      rw [hses] at hses'
      cases hses'
      rw [howner'] at howner
      exact hne (Option.some.inj howner)

private theorem broadcastUpdate {s : Snake F} {n : ℕ} (h : srv.Mourned) (hcoh : srv.Coherent)
    (hnum : srv.world.Numbered n) (hs : srv.world.getSnake s.id = some s) :
    Post (srv.broadcastUpdate s.id) Mourned (fun _ => True) := by
  have hmem : s ∈ srv.world.snakes := Keyed.mem_of_find? hs
  refine (broadcastUpdate_post hs).mono ?_ fun _ _ => trivial
  rintro r ⟨hdead, hdying, halive⟩
  cases hd : s.update.changeDead with
  | true =>
      rw [hdead hd]
      exact h
  | false =>
      cases hy : s.update.changeDying with
      | true => exact h.buries hcoh hnum hs hd (hdying hd hy)
      | false =>
          rw [halive hd hy]
          obtain ⟨hid, -, -, -, hdead'⟩ := announced_frame s
          have hms := announcement_isDeath srv.world.sectors (srv.loadSessionIter s.id) s
          refine h.silent hms hms (handed_deliverAll srv _) (fun _ => rfl) le_rfl fun t ht => ?_
          rcases Keyed.mem_replace.mp ht with ⟨ht, -⟩ | ⟨rfl, -⟩
          · exact ⟨t, ht, rfl, rfl⟩
          · exact ⟨s, hmem, hid.symm, hdead'.symm⟩

private theorem removeSnake (h : srv.Mourned) (id : SnakeId) : (srv.removeSnake id).Mourned := by
  have hlast : (srv.world.removeSnake id).lastSnakeId = srv.world.lastSnakeId := by
    unfold World.removeSnake
    dsimp only
    split <;> rfl
  have hnone : ∀ m ∈ ([] : List (Message F)), m.2.isDeath = false := by simp
  exact h.silent hnone hnone (List.append_nil _).symm (fun _ => rfl)
    (le_of_eq hlast.symm) fun s hs =>
      ⟨s, ((World.Registered.mem_removeSnake srv.world id s).mp hs).1, rfl, rfl⟩

private theorem removeDeadSnakes (h : srv.Mourned) : srv.removeDeadSnakes.Mourned := by
  have hfold := foldl_inv (f := GameServer.removeSnake)
    (fun _ (r : GameServer F) => r.Mourned) (fun id rest r hr => hr.removeSnake id)
    srv.world.dead srv h
  exact ⟨hfold.once, hfold.left, hfold.dead, hfold.past, hfold.ends⟩

private theorem join {m : Libm F} (hdl : ConnectionHdl) {s : Snake F} {w : World F} {n : ℕ}
    (h : srv.Mourned) (hcoh : srv.Coherent) (hnum : srv.world.Numbered n) (hn : n + 1 ≤ 65535)
    (hcreate : srv.world.createSnake m = .ok (s, w)) (hfree : w.getSnake s.id = none) :
    (srv.join w hdl s).Mourned := by
  obtain ⟨hfresh, -, hsnakes, -⟩ := (World.create_fresh m false srv.world).of_ok hcreate
  obtain ⟨s₀, hid₀, -, -, hid, -, -, hlast, -⟩ := (World.create_post m false srv.world).of_ok hcreate
  have hsid : s.id = n + 1 := (hid.trans hid₀).trans (hnum.nextId_eq hn)
  have hlast' : w.lastSnakeId = n + 1 := hlast.trans (hnum.nextId_eq hn)
  have hlive : s.update.changeDead = false := by
    rw [hfresh.update]
    rfl
  have hmem : ∀ t, t ∈ (w.addSnake s).snakes → t ∈ srv.world.snakes ∨ t = s := fun t ht =>
    (Keyed.mem_of_mem_insert ht).imp (fun ht => hsnakes ▸ ht) id
  refine ⟨h.once, h.left, fun t ht => ?_, fun id hid => ?_, fun h' v t hv ht => ?_⟩
  · rcases hmem t ht with ht | rfl
    · exact h.dead t ht
    · rw [hlive]
      refine ⟨nofun, fun hin => ?_⟩
      have hle : t.id ≤ srv.world.lastSnakeId := h.past _ hin
      rw [hsid, hnum.last] at hle
      exact absurd hle (Nat.not_succ_le_self n)
  · show id ≤ w.lastSnakeId
    have hle : id ≤ srv.world.lastSnakeId := h.past id hid
    rw [hnum.last] at hle
    rw [hlast']
    exact Nat.le_succ_of_le hle
  · rw [view_join] at hv
    have hget := getSnake_opened hcreate hfree v.1
    replace ht : (w.addSnake s).getSnake v.1 = some t := ht
    rw [hget] at ht
    by_cases hh : hdl = h'
    · rw [if_pos hh] at hv
      cases hv
      rw [if_pos rfl] at ht
      cases ht
      rw [hlive]
      rfl
    · rw [if_neg hh] at hv
      split at ht
      · rename_i heq
        have howner : srv.owner h' = some v.1 := by
          rw [owner, hv]
          rfl
        have hplayer := (hcoh.session h' v.1 howner).1
        have hfree' : w.snakes.find? s.id = none := hfree
        rw [World.player?, World.getSnake, ← hsnakes, ← heq, hfree'] at hplayer
        cases hplayer
      · exact h.ends h' v t hv ht

private theorem ticked {w : World F} {ms : List (Message F)} (h : srv.Mourned)
    (hw : w.kept = srv.world.kept) (hms : ∀ m ∈ ms, ∃ c, m.2 = .debugDraw c) :
    ((srv.setWorld w).deliverAll ms).Mourned := by
  have hsilent : ∀ m ∈ ms, m.2.isDeath = false := by
    intro m hm
    obtain ⟨c, hc⟩ := hms m hm
    rw [hc]
    rfl
  have hworld := world_deliverAll (srv.setWorld w) ms
  have hlast : w.lastSnakeId = srv.world.lastSnakeId := congrArg (fun k => k.2.2.1) hw
  refine h.silent hsilent hsilent (handed_deliverAll _ ms) (fun hdl => ?_) ?_ fun s' hs' => ?_
  · rw [view_deliverAll, view_deliverAll]
    rfl
  · rw [hworld]
    exact le_of_eq hlast.symm
  · rw [hworld] at hs'
    obtain ⟨s, hs, hident⟩ := World.ids_of_kept hw hs'
    simp only [ident, Prod.mk.injEq] at hident
    exact ⟨s, hs, hident.1, hident.2.2.2⟩

private theorem handle {m : Libm F} {e : Event} {n : ℕ} (h : srv.Mourned) (hidle : srv.Idle)
    (hcen : srv.world.Census n) (hcap : n + e.opens ≤ 65535) :
    Post (srv.handle m e) Mourned (fun _ => True) := by
  cases e with
  | opened hdl =>
      refine (onOpen_post m srv hdl).mono ?_ fun _ _ => trivial
      rintro r ⟨s, w, hcreate, hfree, hsend⟩
      have hjoin := h.join hdl hidle.coherent hcen.2 hcap hcreate hfree
      have hms := welcomeMessages_isDeath srv.init w.sectors hdl s w.snakes.entries
      rw [hsend]
      refine hjoin.silent hms hms (handed_deliverAll _ _) (fun _ => rfl) le_rfl fun t ht => ?_
      rcases Keyed.mem_replace.mp ht with ⟨ht, -⟩ | ⟨rfl, -⟩
      · exact ⟨t, ht, rfl, rfl⟩
      · exact ⟨s, (Keyed.mem_insert hfree).mpr (.inr rfl), rfl, rfl⟩
  | message hdl binary payload =>
      refine (onMessage_post m srv hdl binary payload).mono (fun r hr => ?_) fun _ _ => trivial
      have hpong : ∀ ms : List (Message F), (∀ m ∈ ms, m.2 = .pong) → ∀ m ∈ ms, m.2.isDeath = false := by
        intro ms hms msg hmsg
        rw [hms msg hmsg]
        rfl
      obtain ⟨ms, hms, hhanded⟩ := hr.handed
      obtain ⟨ms', hms', hview⟩ := hr.view
      rcases hr.world with hw | ⟨s, s', hs, hkept, -, hw⟩
      · exact h.silent (hpong ms hms) (hpong ms' hms') hhanded hview (by rw [hw])
          fun t ht => ⟨t, by rwa [hw] at ht, rfl, rfl⟩
      · have hident := ident_of_kept hkept
        simp only [ident, Prod.mk.injEq] at hident
        refine h.silent (hpong ms hms) (hpong ms' hms') hhanded hview (by rw [hw]; exact le_rfl)
          fun t ht => ?_
        rw [hw] at ht
        rcases Keyed.mem_replace.mp ht with ⟨ht, -⟩ | ⟨rfl, -⟩
        · exact ⟨t, ht, rfl, rfl⟩
        · exact ⟨s, Keyed.mem_of_find? hs, hident.1.symm, hident.2.2.2.symm⟩
  | closed hdl =>
      show (srv.onClose hdl).Mourned
      unfold onClose
      cases hfind : srv.sessions.find? hdl with
      | none => exact h
      | some ses =>
          suffices hclosed : Mourned { srv with sessions := srv.sessions.erase hdl } from
            hclosed.removeSnake _
          refine ⟨h.once, h.left, h.dead, h.past, fun h' v s hv hs => ?_⟩
          replace hv : ((srv.sessions.erase hdl).find? h').map (fun ses => (ses.snakeId, ses.sent)) =
              some v := hv
          rw [Keyed.find?_erase] at hv
          split at hv
          · cases hv
          · exact h.ends h' v s hv hs
  | timer ec dt =>
      apply onTimer_rule fun _ (r : GameServer F) => r.Updating ∧ r.Mourned ∧ r.world.Census n
      · exact h
      · trivial
      · refine ((hcen.tick m dt).and (World.tick_kept m dt srv.world)).mono
          (fun w hw ms hms => ⟨hidle.ticked hw.2 ms, h.ticked hw.2 hms, ?_⟩) fun _ _ => trivial
        rw [world_deliverAll]
        exact hw.1
      · rintro s rest r ⟨hup, hr, hc⟩ hs
        exact (((hup.broadcastUpdate hs).and (hr.broadcastUpdate hup.coherent hc.2 hs)).and
          (broadcastUpdate_census hc hs)).mono (fun _ h => ⟨h.1.1, h.1.2, h.2⟩) fun _ _ => trivial
      · rintro r ⟨-, hr, -⟩
        have hflush : (r.setWorld r.world.flushChanges).Mourned :=
          ⟨hr.once, hr.left, hr.dead, hr.past, hr.ends⟩
        exact hflush.removeDeadSnakes

end Mourned

/-- The snake under `id`, if it is still there, is dead and lies as it lay at its death. -/
def Resting (id : SnakeId) (pose : List (Body F) × F × ℕ × ℕ) (srv : GameServer F) : Prop :=
  ∀ s, srv.world.getSnake id = some s → s.update.changeDead = true ∧ s.pose = pose

namespace Resting

variable {id : SnakeId} {pose : List (Body F) × F × ℕ × ℕ} {srv : GameServer F}

private theorem removeSnake (h : srv.Resting id pose) (j : SnakeId) :
    (srv.removeSnake j).Resting id pose := by
  intro s hs
  replace hs : (srv.world.removeSnake j).getSnake id = some s := hs
  rw [World.getSnake_removeSnake] at hs
  split at hs
  · cases hs
  · exact h s hs

private theorem ticked {m : Libm F} (dt : ℕ) (h : srv.Resting id pose) :
    Post (srv.world.tick m dt) (fun w => (srv.setWorld w).Resting id pose) (fun _ => True) := by
  refine (World.tick_each m dt srv.world).mono (fun w heach s' hs' => ?_) fun _ _ => trivial
  obtain ⟨hmem, hid⟩ := Keyed.find?_eq_some.mp hs'
  rcases heach s' hmem with hs | ⟨s, hs, vfrTime, ss, r, hr, hrid, hs'', -⟩
  · exact h s' (hid ▸ Keyed.find?_key hs)
  · have hsid : s.id = id := by
      rw [← hid, ← hrid]
      rcases hs'' with rfl | rfl <;> rfl
    obtain ⟨hdead, hpose⟩ := h s (hsid ▸ Keyed.find?_key hs)
    have hstill : r.snake = s := by
      unfold Snake.tick at hr
      rw [hdead, Bool.or_true, if_pos rfl] at hr
      cases hr
      rfl
    rw [hstill] at hs''
    rcases hs'' with rfl | rfl
    · exact ⟨hdead, hpose⟩
    · exact ⟨by simpa [markDying] using hdead, hpose⟩

private theorem broadcastUpdate {s : Snake F} (h : srv.Resting id pose)
    (hs : srv.world.getSnake s.id = some s) :
    Post (srv.broadcastUpdate s.id) (Resting id pose) (fun _ => True) := by
  have hother : ∀ s' : Snake F, s.update.changeDead = false → s'.id = s.id →
      ∀ t, (srv.world.snakes.replace s').find? id = some t →
        t.update.changeDead = true ∧ t.pose = pose := by
    intro s' hlive hid t ht
    rw [Keyed.find?_replace] at ht
    split at ht
    · rename_i heq
      have hdead := (h s (by rw [← heq, hid]; exact hs)).1
      rw [hlive] at hdead
      cases hdead
    · exact h t ht
  refine (broadcastUpdate_post hs).mono ?_ fun _ _ => trivial
  rintro r ⟨hdead, hdying, halive⟩
  cases hd : s.update.changeDead with
  | true =>
      rw [hdead hd]
      exact h
  | false =>
      cases hy : s.update.changeDying with
      | true =>
          obtain ⟨spawn, ss, rng, -, rfl⟩ := hdying hd hy
          exact hother s.buried hd rfl
      | false =>
          rw [halive hd hy]
          exact hother s.announced hd (announced_frame s).1

private theorem handle {m : Libm F} {e : Event} {n : ℕ} (h : srv.Resting id pose)
    (hcen : srv.world.Census n) (hcap : n + e.opens ≤ 65535) (hid : id ≤ n) :
    Post (srv.handle m e) (Resting id pose) (fun _ => True) := by
  cases e with
  | opened hdl =>
      refine (onOpen_post m srv hdl).mono ?_ fun _ _ => trivial
      rintro r ⟨s, w, hcreate, hfree, hsend⟩
      obtain ⟨s₀, hid₀, -, -, hid', -⟩ := (World.create_post m false srv.world).of_ok hcreate
      have hsid : s.id = n + 1 := (hid'.trans hid₀).trans (hcen.2.nextId_eq hcap)
      have hne : s.id ≠ id := by
        intro heq
        rw [← heq, hsid] at hid
        exact absurd hid (Nat.not_succ_le_self n)
      intro t ht
      rw [hsend] at ht
      replace ht : ((w.addSnake s).snakes.replace s.povSent).find? id = some t := ht
      rw [Keyed.find?_replace_ne _ (show s.povSent.id ≠ id from hne)] at ht
      replace ht : (w.addSnake s).getSnake id = some t := ht
      rw [getSnake_opened hcreate hfree, if_neg hne] at ht
      exact h t ht
  | message hdl binary payload =>
      refine (onMessage_post m srv hdl binary payload).mono (fun r hr => ?_) fun _ _ => trivial
      intro t ht
      have hpose := hr.pose id
      rw [ht] at hpose
      obtain ⟨s, hs, hsame⟩ := Option.map_eq_some_iff.mp hpose.symm
      obtain ⟨hdead, hspose⟩ := h s hs
      refine ⟨?_, hsame.symm.trans hspose⟩
      rcases hr.world with hw | ⟨u, u', hu, hkept, -, hw⟩
      · rw [hw, hs] at ht
        cases ht
        exact hdead
      · rw [hw] at ht
        replace ht : (srv.world.snakes.replace u').find? id = some t := ht
        have hident := ident_of_kept hkept
        simp only [ident, Prod.mk.injEq] at hident
        rw [Keyed.find?_replace] at ht
        split at ht
        · rename_i heq
          obtain ⟨-, -, rfl⟩ := Option.map_eq_some_iff.mp ht
          rw [← heq, hident.1, hu] at hs
          cases hs
          exact hident.2.2.2.trans hdead
        · exact (h t ht).1
  | closed hdl =>
      show (srv.onClose hdl).Resting id pose
      unfold onClose
      split
      · exact (show Resting id pose { srv with sessions := srv.sessions.erase hdl } from h).removeSnake _
      · exact h
  | timer ec dt =>
      apply onTimer_rule fun _ (r : GameServer F) => r.Resting id pose
      · exact h
      · trivial
      · refine (h.ticked (m := m) dt).mono (fun w hw ms _ s hs => ?_) fun _ _ => trivial
        rw [world_deliverAll] at hs
        exact hw s hs
      · exact fun s rest r hr hs => hr.broadcastUpdate hs
      · exact fun r hr => foldl_inv (f := GameServer.removeSnake)
          (fun _ (r : GameServer F) => r.Resting id pose) (fun id rest r hr => hr.removeSnake id)
          r.world.dead _ hr

end Resting

end GameServer

end Slither
