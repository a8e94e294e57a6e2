import Slither.Game.ViewPort
import Slither.Server.ChangeNotification
import Slither.Server.SessionCoherence

/-!
# Which sectors a client has

A player's client is sent the changes of its view port once per movement, additions first.  The
changes lead from what the client has to what the view port lists, so that after every event the
two are the same.
-/

set_option linter.unusedSectionVars false

namespace Slither

open Framework Snake

variable {F : Type} [Field F] [LinearOrder F] [FloorRing F]

/-- A client that got `ps` has the sectors `held`. -/
def Shows (ps : List (Packet F)) (held : SectorPtr → Prop) : Prop :=
  ∀ x y, holdsSector ps x y = true ↔ ∃ p, held p ∧
    (p : ℕ) % WorldConfig.sectorCountAlongEdge = x ∧ (p : ℕ) / WorldConfig.sectorCountAlongEdge = y

private theorem Shows.congr {ps : List (Packet F)} {held held' : SectorPtr → Prop}
    (h : Shows ps held) (heq : ∀ p, held' p ↔ held p) : Shows ps held' := by
  intro x y
  rw [h x y]
  simp only [heq]

private theorem coords_injective {p q : SectorPtr}
    (hx : (p : ℕ) % WorldConfig.sectorCountAlongEdge = (q : ℕ) % WorldConfig.sectorCountAlongEdge)
    (hy : (p : ℕ) / WorldConfig.sectorCountAlongEdge = (q : ℕ) / WorldConfig.sectorCountAlongEdge) :
    p = q := by
  apply Fin.ext
  rw [← Nat.mod_add_div (p : ℕ) WorldConfig.sectorCountAlongEdge, hx, hy, Nat.mod_add_div]

private theorem Shows.addSector {ps : List (Packet F)} {held : SectorPtr → Prop} (h : Shows ps held)
    (ss : SectorSeq) (p : SectorPtr) :
    Shows (ps ++ [.addSector (ss.cell p).x (ss.cell p).y]) fun q => held q ∨ q = p := by
  intro x y
  have hstep : holdsSector (ps ++ [.addSector (ss.cell p).x (ss.cell p).y]) x y =
      if (ss.cell p).x = x ∧ (ss.cell p).y = y then true else holdsSector ps x y := by
    unfold holdsSector
    rw [List.foldl_append]
    rfl
  rw [hstep, (ss.coords p).1, (ss.coords p).2]
  split
  · rename_i hp
    exact ⟨fun _ => ⟨p, .inr rfl, hp⟩, fun _ => rfl⟩
  · rename_i hp
    rw [h x y]
    constructor
    · rintro ⟨q, hq, hc⟩
      exact ⟨q, .inl hq, hc⟩
    · rintro ⟨q, hq | rfl, hc⟩
      · exact ⟨q, hq, hc⟩
      · exact absurd hc hp

private theorem Shows.removeSector {ps : List (Packet F)} {held : SectorPtr → Prop}
    (h : Shows ps held) (ss : SectorSeq) (p : SectorPtr) :
    Shows (ps ++ [.removeSector (ss.cell p).x (ss.cell p).y]) fun q => held q ∧ q ≠ p := by
  intro x y
  have hstep : holdsSector (ps ++ [.removeSector (ss.cell p).x (ss.cell p).y]) x y =
      if (ss.cell p).x = x ∧ (ss.cell p).y = y then false else holdsSector ps x y := by
    unfold holdsSector
    rw [List.foldl_append]
    rfl
  rw [hstep, (ss.coords p).1, (ss.coords p).2]
  split
  · rename_i hp
    simp only [Bool.false_eq_true, false_iff, not_exists, not_and]
    rintro q ⟨-, hne⟩ hx hy
    exact hne (coords_injective (hx.trans hp.1.symm) (hy.trans hp.2.symm))
  · rename_i hp
    rw [h x y]
    constructor
    · rintro ⟨q, hq, hc⟩
      refine ⟨q, ⟨hq, ?_⟩, hc⟩
      rintro rfl
      exact hp hc
    · rintro ⟨q, ⟨hq, -⟩, hc⟩
      exact ⟨q, hq, hc⟩

private theorem Shows.of_kind {ps : List (Packet F)} {held : SectorPtr → Prop}
    (ms : List (Message F))
    {ms' : List (Message F)} {hdl : ConnectionHdl} (h : Shows (ps ++ received hdl ms) held)
    (hms : received hdl (Message.ofKind Packet.isSector ms') =
      received hdl (Message.ofKind Packet.isSector ms)) :
    Shows (ps ++ received hdl ms') held := by
  intro x y
  have hrec := (Replica.sector x y).held_received ps ms hdl
  have hrec' := (Replica.sector x y).held_received ps ms' hdl
  have heq : received hdl (Message.ofKind (Replica.sector (F := F) x y).kind ms') =
      received hdl (Message.ofKind (Replica.sector (F := F) x y).kind ms) := hms
  rw [heq, ← hrec] at hrec'
  exact (congrArg (· = true) hrec') ▸ h x y

private theorem Shows.silent {ps : List (Packet F)} {held : SectorPtr → Prop} (h : Shows ps held)
    {ms : List (Message F)} (hdl : ConnectionHdl)
    (hms : received hdl (Message.ofKind Packet.isSector ms) = []) :
    Shows (ps ++ received hdl ms) held :=
  Shows.of_kind [] (by simpa using h) hms

private theorem Shows.pov {ps : List (Packet F)} {held : SectorPtr → Prop} (h : Shows ps held)
    (ss : SectorSeq) (hdl : ConnectionHdl) (s : Snake F) :
    Shows (ps ++ received hdl (povMessages ss hdl s)) fun p =>
      (held p ∨ p ∈ s.vp.newSectors) ∧ p ∉ s.vp.oldSectors := by
  have hadd : ∀ (qs : List SectorPtr) (ps : List (Packet F)) (held : SectorPtr → Prop),
      Shows ps held → Shows (ps ++ received hdl (qs.flatMap (addSectorMessages ss hdl))) fun p =>
        held p ∨ p ∈ qs := by
    intro qs
    induction qs with
    | nil =>
        intro ps held h
        simpa using h
    | cons q qs ih =>
        intro ps held h
        have hone : Shows (ps ++ received hdl (addSectorMessages ss hdl q)) fun p =>
            held p ∨ p = q := by
          have hsplit : ps ++ received hdl (addSectorMessages ss hdl q) =
              (ps ++ [.addSector (ss.cell q).x (ss.cell q).y]) ++
                received hdl [(.only hdl, .setFood (ss.cell q).food)] := by
            simp [addSectorMessages]
          rw [hsplit]
          exact (h.addSector ss q).silent hdl rfl
        rw [List.flatMap_cons, received_append, ← List.append_assoc]
        refine (ih _ _ hone).congr fun p => ?_
        rw [List.mem_cons, or_assoc]
  have hremove : ∀ (qs : List SectorPtr) (ps : List (Packet F)) (held : SectorPtr → Prop),
      Shows ps held → Shows (ps ++ received hdl (qs.map (removeSectorMessage ss hdl))) fun p =>
        held p ∧ p ∉ qs := by
    intro qs
    induction qs with
    | nil =>
        intro ps held h
        simpa using h
    | cons q qs ih =>
        intro ps held h
        rw [List.map_cons, removeSectorMessage, received_only_self,
          ← List.singleton_append, ← List.append_assoc]
        refine (ih _ _ (h.removeSector ss q)).congr fun p => ?_
        rw [List.mem_cons, not_or, and_assoc]
  unfold povMessages
  rw [received_append, ← List.append_assoc]
  exact hremove _ _ _ (hadd _ _ _ h)

private theorem Shows.flush {ps : List (Packet F)} {held : SectorPtr → Prop} {s : Snake F}
    (h : Shows ps held) (hv : s.vp.Replays held) (ss : SectorSeq) (hdl : ConnectionHdl) :
    Shows (ps ++ received hdl (povMessages ss hdl s)) (· ∈ s.vp.sectors) ∧
      s.povSent.vp.Replays (· ∈ s.vp.sectors) ∧ s.povSent.vp.Flushed := by
  refine ⟨(h.pov ss hdl s).congr fun p => hv.replay p, ⟨hv.sorted, fun p => ?_⟩, ⟨rfl, rfl⟩⟩
  show p ∈ s.vp.sectors ↔ (p ∈ s.vp.sectors ∨ p ∈ ([] : List SectorPtr)) ∧ p ∉ ([] : List SectorPtr)
  simp

private theorem received_povMessages_ne {hdl hdl' : ConnectionHdl} (hne : hdl ≠ hdl')
    (ss : SectorSeq) (s : Snake F) :
    received hdl (Message.ofKind Packet.isSector (povMessages ss hdl' s)) = [] := by
  apply List.filterMap_eq_nil_iff.mpr
  intro m hm
  have hm' := List.mem_of_mem_filter hm
  have honly : m.1 = .only hdl' := by
    rcases List.mem_append.mp hm' with hm' | hm'
    · obtain ⟨p, -, hp⟩ := List.mem_flatMap.mp hm'
      rcases List.mem_pair.mp hp with rfl | rfl <;> rfl
    · obtain ⟨p, -, rfl⟩ := List.mem_map.mp hm'
      rfl
  rw [honly]
  simp [Recipient.selects]
  exact hne

/-- The client that got `ps` has the view of the snake `s`, as far as it has been sent.  The changes
of the snakes in `ids` may still be pending. -/
def Follows (ids : List SnakeId) (ps : List (Packet F)) (s : Snake F) : Prop :=
  ∃ held, Shows ps held ∧ s.vp.Replays held ∧
    (s.vp.Flushed ∨ s.id ∈ ids ∧ s.update.changePos = true)

namespace Follows

variable {ids ids' : List SnakeId} {ps : List (Packet F)} {s : Snake F}

private theorem weaken (h : Follows ids ps s) (hids : s.id ∈ ids → s.id ∈ ids') :
    Follows ids' ps s := by
  obtain ⟨held, hshows, hv, hf⟩ := h
  exact ⟨held, hshows, hv, hf.imp id fun hf => ⟨hids hf.1, hf.2⟩⟩

private theorem silent (h : Follows ids ps s) {ms : List (Message F)} {hdl : ConnectionHdl}
    (hms : received hdl (Message.ofKind Packet.isSector ms) = []) :
    Follows ids (ps ++ received hdl ms) s := by
  obtain ⟨held, hshows, hv, hf⟩ := h
  exact ⟨held, hshows.silent hdl hms, hv, hf⟩

private theorem sectors (h : Follows [] ps s) : s.vp.Flushed ∧ Shows ps (· ∈ s.vp.sectors) := by
  obtain ⟨held, hshows, hv, hf⟩ := h
  have hflushed : s.vp.Flushed := hf.resolve_right fun hin => List.not_mem_nil hin.1
  refine ⟨hflushed, hshows.congr fun p => ?_⟩
  rw [hv.replay, hflushed.new, hflushed.old]
  simp

end Follows

private theorem ofKind_isSector_lengthMessages (s : Snake F) :
    Message.ofKind Packet.isSector s.lengthMessages = [] := by
  unfold lengthMessages
  split
  · rfl
  · split <;> rfl

private theorem ofKind_isSector_announcement (ss : SectorSeq) (sesI : SessionIter) (s : Snake F) :
    Message.ofKind Packet.isSector (announcement ss sesI s) =
      if s.update.changePos ∧ s.bot = false then sesI.elim [] fun hdl =>
        Message.ofKind Packet.isSector (povMessages ss hdl s)
      else [] := by
  rw [Message.ofKind_announcement silent_isSector, ofKind_isSector_lengthMessages, List.nil_append]
  cases s.update.changePos <;> cases s.bot <;> rfl

private theorem announced_vp (s : Snake F) :
    s.announced.vp = if s.update.changePos ∧ s.bot = false then s.povSent.vp else s.vp := by
  have hplayer : ∀ t : Snake F, t.playerSent.vp = t.povSent.vp := by
    intro t
    unfold playerSent
    split <;> rfl
  unfold announced
  cases s.update.changePos with
  | false => simp [rotationSent]
  | true =>
      cases s.bot with
      | true => rfl
      | false =>
          simp only [Bool.false_eq_true, if_false, if_true, and_self]
          rw [hplayer]
          rfl

private theorem Follows.announced {rest : List SnakeId} {ps : List (Packet F)} {s : Snake F}
    (h : Follows (s.id :: rest) ps s) (hbot : s.bot = false) (ss : SectorSeq)
    (hdl : ConnectionHdl) :
    Follows rest (ps ++ received hdl (announcement ss (some hdl) s)) s.announced := by
  obtain ⟨held, hshows, hv, hf⟩ := h
  have hkind := ofKind_isSector_announcement ss (some hdl) s
  have hvp := announced_vp s
  cases hpos : s.update.changePos with
  | false =>
      rw [hpos, if_neg (by simp)] at hkind hvp
      refine ⟨held, hshows.silent hdl (by rw [hkind]; rfl), hvp ▸ hv, .inl (hvp ▸ ?_)⟩
      exact hf.resolve_right fun hin => by rw [hin.2] at hpos; cases hpos
  | true =>
      rw [if_pos ⟨hpos, hbot⟩] at hkind hvp
      obtain ⟨hshows', hv', hf'⟩ := hshows.flush hv ss hdl
      refine ⟨_, hshows'.of_kind _ ?_, hvp ▸ hv', .inl (hvp ▸ hf')⟩
      rw [hkind]
      rfl

namespace GameServer

/-- Every open session has the view of its snake, as far as it has been sent. -/
def SectorView (ids : List SnakeId) (srv : GameServer F) : Prop :=
  ∀ hdl v s, srv.view hdl = some v → srv.world.getSnake v.1 = some s →
    s.update.changeDead = false → Follows ids v.2 s

private theorem SectorView.silent {ids : List SnakeId} {srv srv' : GameServer F}
    {ms : List (Message F)}
    (h : srv.SectorView ids) (hview : ∀ hdl, srv'.view hdl = (srv.deliverAll ms).view hdl)
    (hms : Message.ofKind Packet.isSector ms = [])
    (hsnakes : ∀ id s', srv'.world.getSnake id = some s' → s'.update.changeDead = false →
      ∃ s, srv.world.getSnake id = some s ∧ s.update.changeDead = false ∧ s'.vp = s.vp ∧
        s'.id = s.id ∧ s'.update.changePos = s.update.changePos) : srv'.SectorView ids := by
  intro hdl v s' hv hs' hlive
  rw [hview, view_deliverAll] at hv
  obtain ⟨v₀, hv₀, rfl⟩ := Option.map_eq_some_iff.mp hv
  obtain ⟨s, hs, hslive, hvp, hid, hpos⟩ := hsnakes _ s' hs' hlive
  obtain ⟨held, hshows, hreplay, hf⟩ := h hdl v₀ s hv₀ hs hslive
  refine ⟨held, hshows.silent hdl (by rw [hms]; rfl), hvp ▸ hreplay, ?_⟩
  rw [hvp, hid, hpos]
  exact hf

/-- A round of `BroadcastUpdates` leaves nothing of the snake pending. -/
private theorem SectorView.broadcastUpdate {srv : GameServer F} {s : Snake F} {rest : List SnakeId}
    (h : srv.SectorView (s.id :: rest)) (hcoh : srv.Coherent)
    (hs : srv.world.getSnake s.id = some s) :
    Post (srv.broadcastUpdate s.id) (SectorView rest) (fun _ => True) := by
  have hother : ∀ hdl v t, srv.view hdl = some v → srv.world.getSnake v.1 = some t →
      t.update.changeDead = false → v.1 ≠ s.id → Follows rest v.2 t := by
    intro hdl v t hv ht hlive hne
    refine (h hdl v t hv ht hlive).weaken fun hin => (List.mem_cons.mp hin).resolve_left ?_
    rw [Keyed.key_of_find? ht]
    exact hne
  refine (broadcastUpdate_post hs).mono ?_ fun _ _ => trivial
  rintro r ⟨hdead, hdying, halive⟩
  cases hd : s.update.changeDead with
  | true =>
      rw [hdead hd]
      intro hdl v t hv ht hlive
      refine hother hdl v t hv ht hlive fun heq => ?_
      rw [heq, hs] at ht
      cases ht
      rw [hd] at hlive
      cases hlive
  | false =>
      cases hy : s.update.changeDying with
      | true =>
          obtain ⟨spawn, ss, rng, -, rfl⟩ := hdying hd hy
          intro hdl v t hv ht hlive
          have hview : (srv.deliverAll (endMessages (srv.loadSessionIter s.id) s ++
              removalMessages { s with spawn := spawn })).view hdl = some v := hv
          rw [view_deliverAll] at hview
          obtain ⟨v₀, hv₀, rfl⟩ := Option.map_eq_some_iff.mp hview
          replace ht : (srv.world.snakes.replace s.buried).find? v₀.1 = some t := ht
          rw [Keyed.find?_replace] at ht
          split at ht
          · obtain ⟨-, -, rfl⟩ := Option.map_eq_some_iff.mp ht
            simp [buried, markDead] at hlive
          · rename_i hne
            refine (hother hdl v₀ t hv₀ ht hlive fun heq => hne heq.symm).silent ?_
            rw [Message.ofKind_removal silent_isSector]
            rfl
      | false =>
          have hsend := halive hd hy
          obtain ⟨hid, -⟩ := announced_frame s
          intro hdl v t hv ht hlive
          rw [hsend] at hv ht
          replace hv : (srv.deliverAll _).view hdl = some v := hv
          rw [view_deliverAll] at hv
          obtain ⟨v₀, hv₀, rfl⟩ := Option.map_eq_some_iff.mp hv
          replace ht : (srv.world.snakes.replace s.announced).find? v₀.1 = some t := ht
          rw [Keyed.find?_replace, hid] at ht
          have howner : srv.owner hdl = some v₀.1 := by
            rw [owner, hv₀]
            rfl
          obtain ⟨hplayer, hconn⟩ := hcoh.session hdl v₀.1 howner
          split at ht
          · -- the session of `s` itself
            rename_i heq
            obtain ⟨-, -, rfl⟩ := Option.map_eq_some_iff.mp ht
            rw [← heq] at hplayer hconn
            have hbot : s.bot = false := by
              rw [World.player?, hs] at hplayer
              exact Option.some.inj hplayer
            have hses : srv.loadSessionIter s.id = some hdl := by
              unfold loadSessionIter
              rw [hconn]
              exact findSession_eq_some.mpr ⟨rfl, by rw [hv₀]; rfl⟩
            rw [hses]
            exact (h hdl v₀ s hv₀ (heq ▸ hs) hd).announced hbot _ hdl
          · -- the changes of `s` go to another session
            rename_i hne
            refine (hother hdl v₀ t hv₀ ht hlive fun heq => hne heq.symm).silent ?_
            rw [ofKind_isSector_announcement]
            split
            · rename_i hp
              obtain ⟨hdl', hses, howner'⟩ := hcoh.loadSessionIter
                (show srv.world.player? s.id = some false by
                  rw [World.player?, hs]
                  exact congrArg some hp.2)
              have hhdl : hdl ≠ hdl' := by
                rintro rfl
                rw [howner'] at howner
                exact hne (Option.some.inj howner)
              rw [hses]
              exact received_povMessages_ne hhdl _ _
            · rfl

private theorem SectorView.ticked {m : Libm F} {dt : ℕ} {srv : GameServer F} (h : srv.SectorView [])
    (hcoh : srv.Coherent) (hquiet : srv.world.Quiet) :
    Post (srv.world.tick m dt)
      (fun w => ∀ ms : List (Message F), (∀ m ∈ ms, ∃ c, m.2 = .debugDraw c) →
        ((srv.setWorld w).deliverAll ms).SectorView w.changes) (fun _ => True) := by
  refine (World.tick_each m dt srv.world).mono (fun w heach ms hms => ?_) fun _ _ => trivial
  intro hdl v s' hv hs' hlive
  rw [view_deliverAll] at hv
  obtain ⟨v₀, hv₀, rfl⟩ := Option.map_eq_some_iff.mp hv
  replace hv₀ : srv.view hdl = some v₀ := hv₀
  rw [world_deliverAll] at hs'
  replace hs' : w.getSnake v₀.1 = some s' := hs'
  have hsilent : received hdl (Message.ofKind Packet.isSector ms) = [] := by
    rw [Message.ofKind_eq_nil]
    · rfl
    · intro msg hmsg
      obtain ⟨c, hc⟩ := hms msg hmsg
      rw [hc]
      rfl
  apply Follows.silent _ hsilent
  obtain ⟨hmem, hid⟩ := Keyed.find?_eq_some.mp hs'
  rcases heach s' hmem with hs | ⟨s, hs, vfrTime, ss, r, hr, hrid, hs'', hlisted⟩
  · refine (h hdl v₀ s' hv₀ ?_ hlive).weaken fun hin => absurd hin List.not_mem_nil
    rw [← hid]
    exact Keyed.find?_key hs
  have hget : srv.world.getSnake v₀.1 = some s := by
    have hsid : s.id = v₀.1 := by
      rw [← hid, ← hrid]
      rcases hs'' with rfl | rfl <;> rfl
    rw [← hsid]
    exact Keyed.find?_key hs
  have hbot : s.bot = false := by
    have howner : srv.owner hdl = some v₀.1 := by
      rw [owner, hv₀]
      rfl
    have hplayer := (hcoh.session hdl v₀.1 howner).1
    rw [World.player?, hget] at hplayer
    exact Option.some.inj hplayer
  obtain ⟨c, -, hrep⟩ := (Snake.tick_reports m vfrTime ss (hquiet.snakes s hs)).of_ok hr
  have hdead : s.update.changeDead = false := by
    rw [← hrep.dead]
    rcases hs'' with rfl | rfl
    · exact hlive
    · simpa [Snake.markDying] using hlive
  have hq : s.Quiet := by
    rcases hquiet.snakes s hs with hd | hq
    · rw [hdead] at hd
      cases hd
    · exact hq
  obtain ⟨held, hshows, hv, hf⟩ := h hdl v₀ s hv₀ hget hdead
  have hflushed := hf.resolve_right fun hin => List.not_mem_nil hin.1
  obtain ⟨hv', hf'⟩ := (Snake.tick_replays hq hbot hv hflushed).of_ok hr
  refine ⟨held, hshows, ?_⟩
  have hin : r.snake.vp.Flushed ∨ r.snake.id ∈ w.changes ∧ r.snake.update.changePos = true :=
    hf'.imp id fun hc => ⟨by rw [hrid]; exact hlisted hc.1, hc.2⟩
  rcases hs'' with rfl | rfl
  · exact ⟨hv', hin⟩
  · exact ⟨hv', by simpa [Snake.markDying] using hin⟩

private theorem SectorView.removeSnake {ids : List SnakeId} {srv : GameServer F}
    (h : srv.SectorView ids) (id : SnakeId) : (srv.removeSnake id).SectorView ids := by
  intro hdl v s hv hs hlive
  replace hs : (srv.world.removeSnake id).getSnake v.1 = some s := hs
  rw [World.getSnake_removeSnake] at hs
  split at hs
  · cases hs
  · exact h hdl v s hv hs hlive

private theorem SectorView.closed {srv : GameServer F} (h : srv.SectorView [])
    (hdl : ConnectionHdl) :
    (srv.onClose hdl).SectorView [] := by
  unfold onClose
  cases hfind : srv.sessions.find? hdl with
  | none => exact h
  | some ses =>
      suffices hclosed : SectorView [] { srv with sessions := srv.sessions.erase hdl } from
        hclosed.removeSnake _
      intro h' v s hv hs hlive
      replace hv : ((srv.sessions.erase hdl).find? h').map (fun ses => (ses.snakeId, ses.sent)) =
          some v := hv
      rw [Keyed.find?_erase] at hv
      split at hv
      · cases hv
      · exact h h' v s hv hs hlive

private theorem SectorView.opened {srv r : GameServer F} {m : Libm F} {hdl : ConnectionHdl}
    {s : Snake F} {w : World F} (h : srv.SectorView []) (hcoh : srv.Coherent)
    (hcreate : srv.world.createSnake m = .ok (s, w)) (hfree : w.getSnake s.id = none)
    (hsend : Sends (srv.join w hdl s) (welcomeMessages srv.init w.sectors hdl s w.snakes.entries)
      s.povSent r) : r.SectorView [] := by
  have hreplays := (World.createSnake_replays m srv.world).of_ok hcreate
  have hsnakes := ((World.create_fresh m false srv.world).of_ok hcreate).2.2.1
  have hget := getSnake_opened hcreate hfree
  have hkind : Message.ofKind Packet.isSector
      (welcomeMessages srv.init w.sectors hdl s w.snakes.entries) =
      Message.ofKind Packet.isSector (povMessages w.sectors hdl s) := by
    have hothers : Message.ofKind Packet.isSector
        (w.snakes.entries.map fun t => (Recipient.only hdl, Packet.addSnake t)) = [] := by
      apply Message.ofKind_eq_nil
      intro msg hmsg
      obtain ⟨t, -, rfl⟩ := List.mem_map.mp hmsg
      rfl
    rw [ofKind_welcomeMessages silent_isSector, hothers, List.append_nil]
    rfl
  intro h' v t hv ht hlive
  rw [view_opened hsend] at hv
  obtain ⟨v₀, hv₀, rfl⟩ := Option.map_eq_some_iff.mp hv
  rw [hsend] at ht
  replace ht : ((w.addSnake s).snakes.replace s.povSent).find? v₀.1 = some t := ht
  rw [Keyed.find?_replace] at ht
  by_cases hh : hdl = h'
  · subst hh
    rw [if_pos rfl] at hv₀
    cases hv₀
    rw [if_pos (show s.povSent.id = s.id from rfl)] at ht
    obtain ⟨-, -, rfl⟩ := Option.map_eq_some_iff.mp ht
    have hnone : Shows ([] : List (Packet F)) fun _ => False := by
      intro x y
      simp [holdsSector]
    obtain ⟨hshows, hv', hf'⟩ := hnone.flush hreplays w.sectors hdl
    refine ⟨_, hshows.of_kind _ ?_, hv', .inl hf'⟩
    rw [hkind]
  · rw [if_neg hh] at hv₀
    have hne : s.id ≠ v₀.1 := by
      intro heq
      have howner : srv.owner h' = some v₀.1 := by
        rw [owner, hv₀]
        rfl
      have hplayer := (hcoh.session h' v₀.1 howner).1
      rw [World.player?, World.getSnake, ← hsnakes, ← heq] at hplayer
      have hfree' : w.snakes.find? s.id = none := hfree
      rw [hfree'] at hplayer
      cases hplayer
    rw [if_neg (show s.povSent.id ≠ v₀.1 from hne)] at ht
    replace ht : (w.addSnake s).getSnake v₀.1 = some t := ht
    rw [hget, if_neg hne] at ht
    apply Follows.silent (h h' v₀ t hv₀ ht hlive)
    rw [hkind]
    exact received_povMessages_ne (Ne.symm hh) _ _

private theorem SectorView.touches {srv srv' : GameServer F} (h : srv.SectorView [])
    (ht : Touches srv srv') : srv'.SectorView [] := by
  obtain ⟨ms, hpong, hview⟩ := ht.view
  have hms : Message.ofKind Packet.isSector ms = [] := by
    apply Message.ofKind_eq_nil
    intro msg hmsg
    rw [hpong msg hmsg]
    rfl
  refine h.silent hview hms fun id s' hs' hlive => ?_
  rcases ht.world with hw | ⟨s, s₁, hs, hkept, hbody, hw⟩
  · rw [hw] at hs'
    exact ⟨s', hs', hlive, rfl, rfl, rfl⟩
  · rw [hw] at hs'
    replace hs' : (srv.world.snakes.replace s₁).find? id = some s' := hs'
    rw [Keyed.find?_replace] at hs'
    split at hs'
    · rename_i hid
      obtain ⟨-, -, rfl⟩ := Option.map_eq_some_iff.mp hs'
      simp only [kept, Changes.announced, body, Prod.mk.injEq] at hkept hbody
      obtain ⟨hsid, -, -, hpos, -, -, -, hdead⟩ := hkept
      refine ⟨s, ?_, by rw [← hdead]; exact hlive, hbody.2.2.1, hsid, hpos⟩
      rw [← hid, hsid]
      exact hs
    · exact ⟨s', hs', hlive, rfl, rfl, rfl⟩

private theorem SectorView.handle {m : Libm F} {srv : GameServer F} {e : Event}
    (h : srv.SectorView []) (hidle : srv.Idle) (hquiet : srv.world.Quiet) :
    Post (srv.handle m e) (SectorView []) (fun _ => True) := by
  cases e with
  | opened hdl =>
      refine (onOpen_post m srv hdl).mono ?_ fun _ _ => trivial
      rintro r ⟨s, w, hcreate, hfree, hsend⟩
      exact h.opened hidle.coherent hcreate hfree hsend
  | message hdl binary payload =>
      exact (onMessage_post m srv hdl binary payload).mono (fun r hr => h.touches hr) fun _ _ => trivial
  | closed hdl => exact h.closed hdl
  | timer ec dt =>
      apply onTimer_rule fun ids (r : GameServer F) => r.Updating ∧ r.SectorView ids
      · exact h
      · trivial
      · exact ((World.tick_kept m dt srv.world).and (h.ticked hidle.coherent hquiet)).mono
          (fun w hw ms hms => ⟨hidle.ticked hw.1 ms, hw.2 ms hms⟩) fun _ _ => trivial
      · intro s rest r hr hs
        exact ((hr.1.broadcastUpdate hs).and (hr.2.broadcastUpdate hr.1.coherent hs)).mono
          (fun _ h => h) fun _ _ => trivial
      · intro r hr
        exact foldl_inv (f := GameServer.removeSnake)
          (fun _ (r : GameServer F) => r.SectorView []) (fun id rest r hr => hr.removeSnake id)
          r.world.dead _ hr.2

private theorem run_sectorView {m : Libm F} {debug : Bool} {config : WorldConfig} {rng : Rng}
    {srv₀ srv : GameServer F} {es : List Event} (hstart : run m debug config rng = .ok srv₀)
    (hrun : Run (Step m) srv₀ es srv) : srv.SectorView [] := by
  induction hrun with
  | nil =>
      intro hdl v s hv
      rw [view_start hstart] at hv
      cases hv
  | snoc hrun hlast ih =>
      obtain ⟨-, w', hreorder, hhandle⟩ := hlast
      have hidle := (run_idle hstart hrun).reorders hreorder
      have hquiet := run_quiet hstart hrun
      obtain ⟨snakes, hperm, rfl⟩ := hreorder
      refine (SectorView.handle (fun hdl v s hv hs hlive => ?_) hidle
        (hquiet.of_mem hquiet.changes fun s hs => hperm.mem_iff.mp hs)).of_ok hhandle
      exact ih hdl v s hv ((Keyed.find?_perm hperm v.1).symm.trans hs) hlive

/-- After every event a client whose snake is alive has the sectors its snake sees, and no change is
pending. -/
theorem sectors_agree (m : Libm F) (debug : Bool) (config : WorldConfig) (rng : Rng)
    {srv₀ srv : GameServer F} {es : List Event} (hstart : run m debug config rng = .ok srv₀)
    (hrun : Run (Step m) srv₀ es srv) :
    ∀ ses ∈ srv.sessions, ∀ s, srv.world.getSnake ses.snakeId = some s →
      s.update.changeDying = false → s.update.changeDead = false →
      s.vp.newSectors = [] ∧ s.vp.oldSectors = [] ∧
      ∀ x y, holdsSector ses.sent x y = true ↔
        ∃ p ∈ s.vp.sectors, (srv.world.sectors.cell p).x = x ∧ (srv.world.sectors.cell p).y = y := by
  intro ses hses s hs _ hlive
  obtain ⟨hflushed, hshows⟩ := (run_sectorView hstart hrun ses.hdl _ s (view_of_mem hses) hs hlive).sectors
  refine ⟨hflushed.new, hflushed.old, fun x y => ?_⟩
  rw [hshows x y]
  simp only [(srv.world.sectors.coords _).1, (srv.world.sectors.coords _).2]

/-- The head goes from one sector to the next: a sector comes into view and one leaves it. -/
theorem sectors_agree_crossing :
    ∃ srv : GameServer ℚ,
      Run (Step Libm.axis) (blank false {} Rng.zero) [.opened 1, .timer false 2000] srv ∧
      ∃ ses ∈ srv.sessions, ∃ s, srv.world.getSnake ses.snakeId = some s ∧
        s.vp.newSectors = [] ∧ s.vp.oldSectors = [] ∧
        holdsSector (ses.sent.take 100) 72 75 = true ∧
        ¬ (∃ p ∈ s.vp.sectors,
          (srv.world.sectors.cell p).x = 72 ∧ (srv.world.sectors.cell p).y = 75) ∧
        ∃ p ∈ s.vp.sectors,
          (srv.world.sectors.cell p).x = 79 ∧ (srv.world.sectors.cell p).y = 72 := by
  let check : GameServer ℚ → Bool := fun srv =>
    (srv.sessions.find? 1).any fun ses => (srv.world.getSnake ses.snakeId).any fun s =>
      !s.update.changeDying && !s.update.changeDead && holdsSector ses.sent 79 72 &&
        !holdsSector ses.sent 72 75 && holdsSector (ses.sent.take 100) 72 75
  have heval : ((lobby {}).replay Libm.axis [.opened 1, .timer false 2000]).any check = true := by
    decide +kernel
  obtain ⟨srv, hrun, hcheck⟩ := exists_run heval
  obtain ⟨ses, hses, hany⟩ := (Option.any_eq_true _ _).mp hcheck
  obtain ⟨s, hs, hlive⟩ := (Option.any_eq_true _ _).mp hany
  simp only [Bool.and_eq_true, Bool.not_eq_true'] at hlive
  obtain ⟨⟨⟨⟨hdying, hdead⟩, hholds⟩, hleft⟩, hadded⟩ := hlive
  have hmem := Keyed.mem_of_find? hses
  obtain ⟨hnew, hold, hsectors⟩ := sectors_agree Libm.axis false {} Rng.zero (run_blank _ _ _ rfl) hrun
    ses hmem s hs hdying hdead
  refine ⟨srv, hrun, ses, hmem, s, hs, hnew, hold, hadded, ?_, (hsectors 79 72).mp hholds⟩
  rw [← hsectors 72 75, hleft]
  exact Bool.false_ne_true

end GameServer

end Slither
