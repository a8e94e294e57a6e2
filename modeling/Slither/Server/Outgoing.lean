import Slither.Game.Creation
import Slither.Game.Registry
import Slither.Server.GameServer

/-!
# What the handlers send

Every handler is brought to one form: some messages are delivered, in order, and the world is
replaced.  The messages are then read by what they tell a client about the snakes there are, the
sectors in view and the lengths of the snakes.
-/

set_option linter.unusedSectionVars false

namespace Slither

open Framework

variable {F : Type} [Field F] [LinearOrder F] [FloorRing F]

/-- A packet and who it is sent to. -/
abbrev Message (F : Type) [Field F] := Recipient × Packet F

/-- What the session under `h` gets of the messages. -/
def received (h : ConnectionHdl) (ms : List (Message F)) : List (Packet F) :=
  ms.filterMap fun m => if m.1.selects h then some m.2 else none

@[simp] theorem received_nil (h : ConnectionHdl) : received h ([] : List (Message F)) = [] := rfl

@[simp] theorem received_append (h : ConnectionHdl) (ms ms' : List (Message F)) :
    received h (ms ++ ms') = received h ms ++ received h ms' := List.filterMap_append ..

@[simp] theorem received_everyone (h : ConnectionHdl) (p : Packet F) (ms : List (Message F)) :
    received h ((.everyone, p) :: ms) = p :: received h ms := by
  simp [received, Recipient.selects]

@[simp] theorem received_only_self (h : ConnectionHdl) (p : Packet F) (ms : List (Message F)) :
    received h ((.only h, p) :: ms) = p :: received h ms := by
  simp [received, Recipient.selects]

theorem received_only_ne {h h' : ConnectionHdl} (hne : h ≠ h') (p : Packet F)
    (ms : List (Message F)) : received h ((.only h', p) :: ms) = received h ms := by
  simp [received, Recipient.selects, hne]

theorem received_map_only_self (h : ConnectionHdl) (ps : List (Packet F)) :
    received h (ps.map fun p => (Recipient.only h, p)) = ps := by
  induction ps with
  | nil => rfl
  | cons p ps ih => rw [List.map_cons, received_only_self, ih]

theorem received_map_only_ne {h h' : ConnectionHdl} (hne : h ≠ h') (ps : List (Packet F)) :
    received h (ps.map fun p => (Recipient.only h', p)) = [] := by
  induction ps with
  | nil => rfl
  | cons p ps ih => rw [List.map_cons, received_only_ne hne, ih]

def Session.receiveAll (ms : List (Message F)) (ses : Session F) : Session F :=
  { ses with sent := ses.sent ++ received ses.hdl ms }

@[simp] theorem Session.hdl_receiveAll (ms : List (Message F)) (ses : Session F) :
    (ses.receiveAll ms).hdl = ses.hdl := rfl

namespace GameServer

def deliverAll (srv : GameServer F) (ms : List (Message F)) : GameServer F :=
  ms.foldl (fun srv m => srv.deliver m.1 m.2) srv

theorem deliverAll_append (srv : GameServer F) (ms ms' : List (Message F)) :
    srv.deliverAll (ms ++ ms') = (srv.deliverAll ms).deliverAll ms' := List.foldl_append ..

private theorem deliverAll_eq (srv : GameServer F) (ms : List (Message F)) :
    srv.deliverAll ms =
      { srv with
        sessions := srv.sessions.mapEntries (Session.receiveAll ms) (Session.hdl_receiveAll ms)
        handed := srv.handed ++ ms } := by
  induction ms generalizing srv with
  | nil =>
      have hid : srv.sessions.mapEntries (Session.receiveAll []) (Session.hdl_receiveAll []) =
          srv.sessions := by
        ext1
        exact List.map_id'' (fun ses => by simp [Session.receiveAll]) _
      rw [hid, List.append_nil]
      rfl
  | cons m ms ih =>
      have hsessions : (srv.deliver m.1 m.2).sessions.mapEntries (Session.receiveAll ms)
          (Session.hdl_receiveAll ms) =
          srv.sessions.mapEntries (Session.receiveAll (m :: ms))
            (Session.hdl_receiveAll (m :: ms)) := by
        rw [deliver, Keyed.mapEntries_mapEntries]
        congr 1
        funext ses
        obtain ⟨r, p⟩ := m
        unfold Session.receive Session.receiveAll received
        by_cases hsel : r.selects ses.hdl = true <;> simp [hsel]
      rw [deliverAll, List.foldl_cons]
      show (srv.deliver m.1 m.2).deliverAll ms = _
      rw [ih, hsessions, deliver, List.append_assoc]
      rfl

@[simp] theorem world_deliverAll (srv : GameServer F) (ms : List (Message F)) :
    (srv.deliverAll ms).world = srv.world := by rw [deliverAll_eq]

@[simp] theorem connections_deliverAll (srv : GameServer F) (ms : List (Message F)) :
    (srv.deliverAll ms).connections = srv.connections := by rw [deliverAll_eq]

@[simp] theorem handed_deliverAll (srv : GameServer F) (ms : List (Message F)) :
    (srv.deliverAll ms).handed = srv.handed ++ ms := by rw [deliverAll_eq]

theorem setWorld_deliverAll (srv : GameServer F) (w : World F) (ms : List (Message F)) :
    (srv.setWorld w).deliverAll ms = (srv.deliverAll ms).setWorld w := by
  rw [deliverAll_eq, deliverAll_eq]
  rfl

theorem find?_deliverAll (srv : GameServer F) (ms : List (Message F)) (h : ConnectionHdl) :
    (srv.deliverAll ms).sessions.find? h =
      (srv.sessions.find? h).map (Session.receiveAll ms) := by
  rw [deliverAll_eq, Keyed.find?_mapEntries]

/-- Some messages are sent and one snake is written. -/
def Sends (srv : GameServer F) (ms : List (Message F)) (s : Snake F) (srv' : GameServer F) : Prop :=
  srv' = (srv.deliverAll ms).setWorld (srv.world.store s)

namespace Sends

variable {srv srv' srv'' : GameServer F} {ms ms' : List (Message F)} {s s' : Snake F}

private theorem of_store (srv : GameServer F) (s : Snake F) : Sends srv [] s (srv.store s) := rfl

private theorem trans (h : Sends srv ms s srv') (h' : Sends srv' ms' s' srv'')
    (hid : s'.id = s.id) :
    Sends srv (ms ++ ms') s' srv'' := by
  have hstore : (srv.world.store s).store s' = srv.world.store s' := by
    simp only [World.store, Keyed.replace_replace _ hid]
  unfold Sends at h h' ⊢
  rw [h', h, setWorld_deliverAll, deliverAll_append]
  exact congrArg _ hstore

private theorem broadcast (h : Sends srv ms s srv') (p : Packet F) :
    Sends srv (ms ++ [(.everyone, p)]) s (srv'.broadcastBinary p) := by
  unfold Sends at h ⊢
  rw [h, deliverAll_append]
  rfl

private theorem sendOnly (h : Sends srv ms s srv') (hdl : ConnectionHdl) (p : Packet F) :
    Sends srv (ms ++ [(.only hdl, p)]) s (srv'.endpointSend hdl p) := by
  unfold Sends at h ⊢
  rw [h, deliverAll_append]
  rfl

private theorem store (h : Sends srv ms s srv') (s' : Snake F) (hid : s'.id = s.id) :
    Sends srv ms s' (srv'.store s') := by
  simpa using h.trans (.of_store srv' s') hid

private theorem getSnake (h : Sends srv ms s srv') (hs : srv.world.getSnake s.id = some s') :
    srv'.world.getSnake s.id = some s := by
  rw [h]
  exact Keyed.find?_replace_self hs

private theorem refl (hs : srv.world.getSnake s.id = some s) : Sends srv [] s srv := by
  have hmem : s ∈ srv.world.snakes := Keyed.mem_of_find? hs
  unfold Sends
  show srv = srv.setWorld { srv.world with snakes := srv.world.snakes.replace s }
  rw [Keyed.replace_self hmem]
  rfl

end Sends

private theorem loadSessionIter_sends {srv srv' : GameServer F} {ms : List (Message F)}
    {s : Snake F} (h : Sends srv ms s srv') (id : SnakeId) :
    srv'.loadSessionIter id = srv.loadSessionIter id := by
  have hconn : srv'.connections = srv.connections := by
    rw [h]
    exact connections_deliverAll srv ms
  have hses : ∀ hdl, srv'.findSession hdl = srv.findSession hdl := by
    intro hdl
    unfold findSession
    rw [h]
    show ((srv.deliverAll ms).sessions.find? hdl).map Session.hdl = _
    rw [find?_deliverAll, Option.map_map]
    rfl
  unfold loadSessionIter
  simp only [hconn, hses]

end GameServer

namespace Snake

/-- After `takeRotation`. -/
def rotationSent (s : Snake F) : Snake F :=
  { s with update := { s.update with
      changeAngle := false
      changeWangle := s.update.changeWangle && !s.update.changeAngle
      changeSpeed := false } }

/-- After `broadcastLength`. -/
def lengthSent (s : Snake F) : Snake F :=
  { s with clientPartsIndex :=
      if s.clientPartsIndex < s.parts.length then s.clientPartsIndex + 1
      else if s.clientPartsIndex > s.parts.length then s.clientPartsIndex - 1
      else s.clientPartsIndex }

/-- After `sendFoodUpdate`. -/
def foodSent (s : Snake F) : Snake F := { s with eaten := [], spawn := [] }

/-- After `sendPOVUpdateTo`. -/
def povSent (s : Snake F) : Snake F :=
  { s with vp := { s.vp with newSectors := [], oldSectors := [] } }

/-- After a movement has been announced to everyone. -/
def moveSent (s : Snake F) : Snake F := s.xorPos.lengthSent.foodSent

/-- After the personal part of an update. -/
def playerSent (s : Snake F) : Snake F :=
  if s.update.changeFullness then s.povSent.xorFullness else s.povSent

/-- A living snake after `BroadcastUpdates`. -/
def announced (s : Snake F) : Snake F :=
  if s.update.changePos then
    if s.bot then s.rotationSent.moveSent else s.rotationSent.moveSent.playerSent
  else s.rotationSent

def rotationMessages (s : Snake F) : List (Message F) :=
  if s.update.changeAngle || s.update.changeSpeed then
    [(.everyone, .rotation (GameServer.takeRotation s.update s).2)]
  else []

def lengthMessages (s : Snake F) : List (Message F) :=
  if s.clientPartsIndex < s.parts.length then [(.everyone, Packet.incOf s)]
  else
    (if s.clientPartsIndex > s.parts.length then [(.everyone, Packet.removePartOf s)] else []) ++
      [(.everyone, Packet.moveOf s)]

def foodMessages (s : Snake F) : List (Message F) :=
  s.eaten.map (fun f => (.everyone, .eatFood s.id f)) ++
    s.spawn.map fun f => (.everyone, .spawnFood f)

def addSectorMessages (ss : SectorSeq) (hdl : ConnectionHdl) (p : SectorPtr) : List (Message F) :=
  [(.only hdl, .addSector (ss.cell p).x (ss.cell p).y), (.only hdl, .setFood (ss.cell p).food)]

def removeSectorMessage (ss : SectorSeq) (hdl : ConnectionHdl) (p : SectorPtr) : Message F :=
  (.only hdl, .removeSector (ss.cell p).x (ss.cell p).y)

def povMessages (ss : SectorSeq) (hdl : ConnectionHdl) (s : Snake F) : List (Message F) :=
  s.vp.newSectors.flatMap (addSectorMessages ss hdl) ++
    s.vp.oldSectors.map (removeSectorMessage ss hdl)

/-- The personal part of an update; without a session there is none. -/
def playerMessages (ss : SectorSeq) (sesI : SessionIter) (s : Snake F) : List (Message F) :=
  match sesI with
  | none => []
  | some hdl =>
      povMessages ss hdl s ++
        if s.update.changeFullness then [(.only hdl, Packet.fullnessOf s)] else []

/-- What everyone gets about a movement. -/
def moveMessages (s : Snake F) : List (Message F) :=
  lengthMessages s.xorPos ++ foodMessages s.xorPos.lengthSent

/-- What `BroadcastUpdates` sends about a living snake. -/
def announcement (ss : SectorSeq) (sesI : SessionIter) (s : Snake F) : List (Message F) :=
  rotationMessages s ++
    if s.update.changePos then
      moveMessages s.rotationSent ++
        if s.bot then [] else playerMessages ss sesI s.rotationSent.moveSent
    else []

theorem mem_lengthMessages {s : Snake F} {m : Message F} (h : m ∈ lengthMessages s) :
    m = (.everyone, Packet.incOf s) ∨ m = (.everyone, Packet.removePartOf s) ∨
      m = (.everyone, Packet.moveOf s) := by
  unfold lengthMessages at h
  split at h
  · exact .inl (List.mem_singleton.mp h)
  · rcases List.mem_append.mp h with h | h
    · split at h
      · exact .inr (.inl (List.mem_singleton.mp h))
      · cases h
    · exact .inr (.inr (List.mem_singleton.mp h))

theorem mem_povMessages {ss : SectorSeq} {hdl : ConnectionHdl} {s : Snake F} {m : Message F}
    (h : m ∈ povMessages ss hdl s) : ∃ p, m = (.only hdl, .addSector (ss.cell p).x (ss.cell p).y) ∨
      m = (.only hdl, .setFood (ss.cell p).food) ∨ m = removeSectorMessage ss hdl p := by
  rcases List.mem_append.mp h with h | h
  · obtain ⟨p, -, hp⟩ := List.mem_flatMap.mp h
    exact ⟨p, (List.mem_pair.mp hp).imp_right .inl⟩
  · obtain ⟨p, -, rfl⟩ := List.mem_map.mp h
    exact ⟨p, .inr (.inr rfl)⟩

theorem mem_playerMessages {ss : SectorSeq} {sesI : SessionIter} {s : Snake F} {m : Message F}
    (h : m ∈ playerMessages ss sesI s) :
    ∃ hdl, m ∈ povMessages ss hdl s ∨ m = (.only hdl, Packet.fullnessOf s) := by
  cases sesI with
  | none => cases h
  | some hdl =>
      refine ⟨hdl, (List.mem_append.mp h).imp_right fun h => ?_⟩
      split at h
      · exact List.mem_singleton.mp h
      · cases h

theorem announced_frame (s : Snake F) :
    s.announced.id = s.id ∧ s.announced.bot = s.bot ∧ s.announced.parts = s.parts ∧
      s.announced.sbb = s.sbb ∧ s.announced.update.changeDead = s.update.changeDead := by
  have hplayer : ∀ t : Snake F, t.playerSent.id = t.id ∧ t.playerSent.bot = t.bot ∧
      t.playerSent.parts = t.parts ∧ t.playerSent.sbb = t.sbb ∧
      t.playerSent.update.changeDead = t.update.changeDead := by
    intro t
    unfold playerSent
    split <;> exact ⟨rfl, rfl, rfl, rfl, rfl⟩
  unfold announced
  split
  · split
    · exact ⟨rfl, rfl, rfl, rfl, rfl⟩
    · exact hplayer _
  · exact ⟨rfl, rfl, rfl, rfl, rfl⟩

end Snake

namespace GameServer

open Snake

private theorem takeRotation_fst (s : Snake F) : (takeRotation s.update s).1 = s.rotationSent := by
  obtain ⟨_, _, ⟨_, angle, wangle, speed, _, _, _⟩⟩ := s
  cases angle <;> cases wangle <;> cases speed <;> rfl

theorem rotationSent_eq_self {s : Snake F} (h : (s.update.changeAngle || s.update.changeSpeed) = false) :
    s.rotationSent = s := by
  obtain ⟨_, _, ⟨_, angle, wangle, speed, _, _, _⟩⟩ := s
  cases angle <;> cases wangle <;> cases speed <;> first | rfl | cases h

private theorem broadcastRotation_sends {srv : GameServer F} {s : Snake F}
    (hs : srv.world.getSnake s.id = some s) :
    (srv.broadcastRotation s.update s).2 = s.rotationSent ∧
      Sends srv (rotationMessages s) s.rotationSent (srv.broadcastRotation s.update s).1 := by
  unfold broadcastRotation rotationMessages
  cases h : s.update.changeAngle || s.update.changeSpeed with
  | false =>
      rw [rotationSent_eq_self h]
      exact ⟨rfl, .refl hs⟩
  | true =>
      have hsend := (Sends.of_store srv (takeRotation s.update s).1).broadcast
        (.rotation (takeRotation s.update s).2)
      rw [takeRotation_fst] at hsend
      refine ⟨takeRotation_fst s, ?_⟩
      simp only [if_true, takeRotation_fst]
      exact hsend

private theorem broadcastLength_sends {srv : GameServer F} {s : Snake F}
    (hs : srv.world.getSnake s.id = some s) :
    (srv.broadcastLength s).2 = s.lengthSent ∧
      Sends srv (lengthMessages s) s.lengthSent (srv.broadcastLength s).1 := by
  unfold broadcastLength lengthMessages lengthSent
  by_cases hlt : s.clientPartsIndex < s.parts.length
  · simp only [if_pos hlt]
    exact ⟨trivial, ((Sends.refl hs).broadcast (Packet.incOf s)).trans (.of_store _ _) rfl⟩
  · simp only [if_neg hlt]
    by_cases hgt : s.clientPartsIndex > s.parts.length
    · simp only [if_pos hgt]
      refine ⟨trivial, ?_⟩
      have hstore := ((Sends.refl hs).broadcast (Packet.removePartOf s)).trans
        (.of_store _ { s with clientPartsIndex := s.clientPartsIndex - 1 }) rfl
      exact hstore.broadcast _
    · simp only [if_neg hgt]
      exact ⟨trivial, (Sends.refl hs).broadcast (Packet.moveOf s)⟩

private theorem foldl_broadcast {α : Type} (g : α → Packet F) (xs : List α) (srv : GameServer F) :
    xs.foldl (fun srv a => srv.broadcastBinary (g a)) srv =
      srv.deliverAll (xs.map fun a => (.everyone, g a)) := by
  rw [deliverAll, List.foldl_map]
  rfl

private theorem sendFoodUpdate_sends (srv : GameServer F) (s : Snake F) :
    (srv.sendFoodUpdate s).2 = s.foodSent ∧
      Sends srv (foodMessages s) s.foodSent (srv.sendFoodUpdate s).1 := by
  refine ⟨rfl, ?_⟩
  unfold sendFoodUpdate Sends foodMessages
  simp only [foldl_broadcast, deliverAll_append]
  rw [store, world_deliverAll, world_deliverAll]
  rfl

private theorem foldlM_sendNewSector (hdl : ConnectionHdl) (ps : List SectorPtr)
    (srv : GameServer F) :
    ps.foldlM (sendNewSector (some hdl)) srv =
      .ok (srv.deliverAll (ps.flatMap (addSectorMessages srv.world.sectors hdl))) := by
  induction ps generalizing srv with
  | nil => rfl
  | cons p ps ih =>
      have hstep : sendNewSector (some hdl) srv p =
          .ok (srv.deliverAll (addSectorMessages srv.world.sectors hdl p)) := rfl
      rw [List.foldlM_cons, hstep, List.flatMap_cons, deliverAll_append]
      show ps.foldlM (sendNewSector (some hdl)) _ = _
      rw [ih, world_deliverAll]

private theorem foldlM_sendOldSector (hdl : ConnectionHdl) (ps : List SectorPtr)
    (srv : GameServer F) :
    ps.foldlM (sendOldSector (some hdl)) srv =
      .ok (srv.deliverAll (ps.map (removeSectorMessage srv.world.sectors hdl))) := by
  induction ps generalizing srv with
  | nil => rfl
  | cons p ps ih =>
      have hstep : sendOldSector (some hdl) srv p =
          .ok (srv.deliverAll [removeSectorMessage srv.world.sectors hdl p]) := rfl
      rw [List.foldlM_cons, hstep]
      show ps.foldlM (sendOldSector (some hdl)) _ = _
      rw [ih, world_deliverAll, ← deliverAll_append]
      rfl

theorem sendPOVUpdateTo_post (srv : GameServer F) (sesI : SessionIter) (s : Snake F) :
    Post (srv.sendPOVUpdateTo sesI s)
      (fun r => r.2 = s.povSent ∧
        Sends srv (sesI.elim [] fun hdl => povMessages srv.world.sectors hdl s) s.povSent r.1)
      (fun e => e = .endIterator ∧ sesI = none) := by
  unfold sendPOVUpdateTo
  cases sesI with
  | some hdl =>
      rw [foldlM_sendNewSector]
      show Post (s.vp.oldSectors.foldlM (sendOldSector (some hdl)) _ >>= _) _ _
      rw [foldlM_sendOldSector, world_deliverAll, ← deliverAll_append]
      refine ⟨rfl, ?_⟩
      show GameServer.store _ _ = _
      rw [store, world_deliverAll]
      rfl
  | none =>
      have hnone : ∀ (f : SessionIter → GameServer F → SectorPtr → Exec (GameServer F)),
          (∀ srv p, f none srv p = .error .endIterator) →
          ∀ (ps : List SectorPtr) (srv : GameServer F),
          Post (ps.foldlM (f none) srv) (fun srv' => srv' = srv)
            (fun e => e = Fault.endIterator ∧ (none : SessionIter) = none) := by
        intro f hf ps srv
        cases ps with
        | nil => rfl
        | cons p ps =>
            rw [List.foldlM_cons, hf]
            exact ⟨rfl, rfl⟩
      apply Post.bind (hnone sendNewSector (fun _ _ => rfl) _ _)
      rintro _ rfl
      apply Post.bind (hnone sendOldSector (fun _ _ => rfl) _ _)
      rintro _ rfl
      exact ⟨rfl, .of_store _ _⟩

private theorem sendPlayerUpdate_post (srv : GameServer F) (flags : Changes) (s : Snake F)
    (hflags : flags.changeFullness = s.update.changeFullness) :
    Post (srv.sendPlayerUpdate flags s)
      (fun r => Sends srv (playerMessages srv.world.sectors (srv.loadSessionIter s.id) s)
        s.playerSent r)
      (fun e => e = .endIterator ∧ srv.loadSessionIter s.id = none) := by
  unfold sendPlayerUpdate playerSent playerMessages
  apply Post.bind (sendPOVUpdateTo_post srv _ s)
  rintro ⟨srv', _⟩ ⟨rfl, hsend⟩
  dsimp only at hsend ⊢
  rw [hflags]
  cases hses : srv.loadSessionIter s.id with
  | some hdl =>
      rw [hses] at hsend
      cases s.update.changeFullness with
      | true =>
          exact (hsend.sendOnly hdl _).store _ rfl
      | false =>
          simp only [Bool.false_eq_true, if_false, List.append_nil]
          exact hsend
  | none =>
      rw [hses] at hsend
      cases s.update.changeFullness with
      | true => exact ⟨rfl, rfl⟩
      | false => exact hsend

theorem broadcastAlive_post {srv : GameServer F} {s : Snake F}
    (hs : srv.world.getSnake s.id = some s) :
    Post ((srv.broadcastRotation s.update s).1.broadcastMoved s.update
        (srv.broadcastRotation s.update s).2)
      (fun r => Sends srv (announcement srv.world.sectors (srv.loadSessionIter s.id) s)
        s.announced r)
      (fun e => e = .endIterator ∧ s.bot = false ∧ srv.loadSessionIter s.id = none) := by
  obtain ⟨hsnd, hrot⟩ := broadcastRotation_sends hs
  rw [hsnd]
  generalize (srv.broadcastRotation s.update s).1 = srv₁ at hrot ⊢
  unfold broadcastMoved announcement announced
  cases s.update.changePos with
  | true =>
      have hstore := hrot.store s.rotationSent.xorPos rfl
      obtain ⟨hlen₂, hlen⟩ := broadcastLength_sends (hstore.getSnake hs)
      obtain ⟨hfood₂, hfood⟩ := sendFoodUpdate_sends
        ((srv₁.store s.rotationSent.xorPos).broadcastLength s.rotationSent.xorPos).1
        s.rotationSent.xorPos.lengthSent
      have hmove := (hstore.trans hlen rfl).trans hfood rfl
      simp only [if_true, hlen₂, hfood₂]
      clear hfood hfood₂ hlen hlen₂
      generalize (((srv₁.store s.rotationSent.xorPos).broadcastLength
        s.rotationSent.xorPos).1.sendFoodUpdate s.rotationSent.xorPos.lengthSent).1 = srv₃ at hmove ⊢
      rw [List.append_assoc] at hmove
      have hsectors : srv₃.world.sectors = srv.world.sectors := by
        rw [hmove]
        rfl
      have hses : srv₃.loadSessionIter s.id = srv.loadSessionIter s.id :=
        loadSessionIter_sends hmove s.id
      show Post (if s.bot = true then _ else _) _ _
      cases hbot : s.bot with
      | true =>
          simp only [if_true, List.append_nil]
          exact hmove
      | false =>
          have hplayer := sendPlayerUpdate_post srv₃ s.update s.rotationSent.moveSent rfl
          simp only [Bool.false_eq_true, if_false]
          refine hplayer.mono (fun r hr => ?_) fun e he => ⟨he.1, trivial, hses ▸ he.2⟩
          have hid : s.rotationSent.moveSent.id = s.id := rfl
          rw [hid, hsectors, hses] at hr
          rw [← List.append_assoc]
          refine hmove.trans hr ?_
          unfold playerSent
          split <;> rfl
  | false =>
      simp only [Bool.false_eq_true, if_false, List.append_nil]
      exact hrot

private theorem onDeadFoodSpawn_post (s : Snake F) (ss : SectorSeq) (rng : Rng) :
    Post (s.onDeadFoodSpawn ss rng)
      (fun r => (∃ spawn, r.1 = { s with spawn := spawn }) ∧
        ∀ p, (r.2.1.cell p).snakes = (ss.cell p).snakes)
      (fun e => e ≠ .endIterator) := by
  let I : Snake F × SectorSeq × Rng → Prop := fun st =>
    (∃ spawn, st.1 = { s with spawn := spawn }) ∧ ∀ p, (st.2.1.cell p).snakes = (ss.cell p).snakes
  have hget : ∀ x y, Post (SectorSeq.getSector x y) (fun _ => True) (fun e => e ≠ .endIterator) := by
    intro x y
    unfold SectorSeq.getSector
    split
    · trivial
    · exact nofun
  unfold onDeadFoodSpawn
  apply Post.bind (R := fun _ => True)
  · unfold divide
    split
    · exact nofun
    · trivial
  intro foodSize _
  refine Post.foldlM (fun _ st => I st) ?_ _ _ ⟨⟨s.spawn, rfl⟩, fun _ => rfl⟩
  intro pt rest st hst
  dsimp only
  split
  · refine Post.foldlM (fun _ st => I st) ?_ _ _ hst
    rintro _ _ st ⟨⟨spawn, hspawn⟩, hsnakes⟩
    apply Post.bind (hget _ _)
    intro p _
    refine ⟨⟨_, by rw [hspawn]⟩, fun q => ?_⟩
    exact (snakes_insertFood _ _ _ q).trans (hsnakes q)
  · exact hst

end GameServer

namespace Snake

/-- A dying snake after `BroadcastUpdates`. -/
def buried (s : Snake F) : Snake F := s.foodSent.markDead

def endMessages (sesI : SessionIter) (s : Snake F) : List (Message F) :=
  if s.bot then [] else sesI.elim [] fun hdl => [(.only hdl, .theEnd Packet.statusDeath)]

def removalMessages (s : Snake F) : List (Message F) :=
  foodMessages s ++ [(.everyone, .removeSnake s.id Packet.statusSnakeDied),
    (.everyone, .removeSnake s.id Packet.statusSnakeLeft)]

end Snake

namespace GameServer

open Snake

theorem sendEnd_eq (srv : GameServer F) (s : Snake F) :
    srv.sendEnd s = .ok (srv.deliverAll (endMessages (srv.loadSessionIter s.id) s)) := by
  unfold sendEnd endMessages
  cases s.bot <;> cases srv.loadSessionIter s.id <;> rfl

private theorem announceRemoval_eq (srv : GameServer F) (s : Snake F) :
    srv.announceRemoval s = (srv.deliverAll (removalMessages s)).setWorld
      { srv.world with
        snakes := srv.world.snakes.replace s.buried
        dead := if s.bot then srv.world.dead ++ [s.id] else srv.world.dead } := by
  obtain ⟨hsnd, hfood⟩ := sendFoodUpdate_sends srv s
  have hmsg := ((hfood.broadcast (.removeSnake s.id Packet.statusSnakeDied)).broadcast
    (.removeSnake s.id Packet.statusSnakeLeft)).store s.buried rfl
  rw [List.append_assoc] at hmsg
  unfold Sends at hmsg
  unfold announceRemoval
  simp only [hsnd]
  show (if s.bot = true then _ else _) = _
  cases s.bot with
  | true =>
      simp only [if_true]
      exact congrArg (fun r : GameServer F =>
        r.setWorld { r.world with dead := r.world.dead ++ [s.id] }) hmsg
  | false =>
      simp only [Bool.false_eq_true, if_false]
      exact hmsg

/-- The death of `s` has been announced and its body has turned into food. -/
def Buries (srv : GameServer F) (s : Snake F) (srv' : GameServer F) : Prop :=
  ∃ spawn ss rng, (∀ p, (ss.cell p).snakes = (srv.world.sectors.cell p).snakes) ∧
    srv' = (srv.deliverAll (endMessages (srv.loadSessionIter s.id) s ++
        removalMessages { s with spawn := spawn })).setWorld
      { srv.world with
        snakes := srv.world.snakes.replace s.buried, sectors := ss, rng := rng
        dead := if s.bot then srv.world.dead ++ [s.id] else srv.world.dead }

/-- The body of `s` has turned into the food `spawn`, and the death has been announced. -/
def Scatters (srv : GameServer F) (s : Snake F) (srv' : GameServer F) : Prop :=
  ∃ spawn ss rng,
    s.onDeadFoodSpawn srv.world.sectors srv.world.rng = .ok ({ s with spawn := spawn }, ss, rng) ∧
    srv' = (srv.deliverAll (endMessages (srv.loadSessionIter s.id) s ++
        removalMessages { s with spawn := spawn })).setWorld
      { srv.world with
        snakes := srv.world.snakes.replace s.buried, sectors := ss, rng := rng
        dead := if s.bot then srv.world.dead ++ [s.id] else srv.world.dead }

theorem Scatters.buries {srv r : GameServer F} {s : Snake F} (h : Scatters srv s r) :
    Buries srv s r := by
  obtain ⟨spawn, ss, rng, hspawn, rfl⟩ := h
  exact ⟨spawn, ss, rng, ((onDeadFoodSpawn_post s _ _).of_ok hspawn).2, rfl⟩

theorem broadcastDying_post (srv : GameServer F) (s : Snake F) :
    Post (srv.broadcastDying s) (Scatters srv s) (fun e => e ≠ .endIterator) := by
  unfold broadcastDying
  rw [sendEnd_eq]
  show Post (s.onDeadFoodSpawn (srv.deliverAll _).world.sectors (srv.deliverAll _).world.rng >>= _)
    _ _
  rw [world_deliverAll]
  have hpost := onDeadFoodSpawn_post s srv.world.sectors srv.world.rng
  cases hspawn : s.onDeadFoodSpawn srv.world.sectors srv.world.rng with
  | error e => exact hpost.of_error hspawn
  | ok r =>
      obtain ⟨_, ss, rng⟩ := r
      obtain ⟨⟨spawn, rfl⟩, -⟩ := hpost.of_ok hspawn
      refine ⟨spawn, ss, rng, hspawn, ?_⟩
      have hreplace : (srv.world.snakes.replace { s with spawn := spawn }).replace s.buried =
          srv.world.snakes.replace s.buried := Keyed.replace_replace _ rfl
      dsimp only
      rw [announceRemoval_eq, deliverAll_append, store, setWorld_deliverAll, setWorld_deliverAll,
        ← hreplace]
      rfl

/-- One round of `BroadcastUpdates`, by the state of the snake. -/
theorem broadcastUpdate_scatters {srv : GameServer F} {s : Snake F}
    (hs : srv.world.getSnake s.id = some s) :
    Post (srv.broadcastUpdate s.id)
      (fun r =>
        (s.update.changeDead = true → r = srv) ∧
        (s.update.changeDead = false → s.update.changeDying = true → Scatters srv s r) ∧
        (s.update.changeDead = false → s.update.changeDying = false →
          Sends srv (announcement srv.world.sectors (srv.loadSessionIter s.id) s) s.announced r))
      (fun e => e = .endIterator → s.bot = false ∧ srv.loadSessionIter s.id = none) := by
  have hderef : srv.world.deref s.id = .ok s := by
    unfold World.deref
    rw [hs]
  unfold broadcastUpdate
  rw [hderef]
  show Post (if s.update.changeDead = true then _ else _) _ _
  cases hdead : s.update.changeDead with
  | true => exact ⟨fun _ => rfl, nofun, nofun⟩
  | false =>
      simp only [Bool.false_eq_true, if_false]
      cases hdying : s.update.changeDying with
      | true =>
          exact (broadcastDying_post srv s).mono (fun r hr => ⟨nofun, fun _ _ => hr, nofun⟩)
            fun e he h => absurd h he
      | false =>
          exact (broadcastAlive_post hs).mono (fun r hr => ⟨nofun, nofun, fun _ _ => hr⟩)
            fun e he _ => he.2

theorem broadcastUpdate_post {srv : GameServer F} {s : Snake F}
    (hs : srv.world.getSnake s.id = some s) :
    Post (srv.broadcastUpdate s.id)
      (fun r =>
        (s.update.changeDead = true → r = srv) ∧
        (s.update.changeDead = false → s.update.changeDying = true → Buries srv s r) ∧
        (s.update.changeDead = false → s.update.changeDying = false →
          Sends srv (announcement srv.world.sectors (srv.loadSessionIter s.id) s) s.announced r))
      (fun e => e = .endIterator → s.bot = false ∧ srv.loadSessionIter s.id = none) :=
  (broadcastUpdate_scatters hs).mono
    (fun _ h => ⟨h.1, fun hd hy => (h.2.1 hd hy).buries, h.2.2⟩) fun _ h => h

end GameServer

end Slither
