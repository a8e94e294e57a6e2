import Slither.Framework.Erasure
import Slither.Server.Progress

/-!
# The debug mode

With the debug flag set every tick also draws the changed snakes.  The drawing is read off the state
and sent to the sessions; nothing else looks at the flag or at what has been sent.  So a server in
debug mode plays the same game.
-/

set_option linter.unusedSectionVars false

namespace Slither

open Framework Snake

variable {F : Type} [Field F] [LinearOrder F] [FloorRing F]

/-- Everything but a drawing. -/
def Packet.isPlain : Packet F → Bool
  | .debugDraw _ => false
  | _ => true

/-- The session without the drawings. -/
def Session.plain (ses : Session F) : Session F :=
  { ses with sent := ses.sent.filter Packet.isPlain }

@[simp] theorem Session.hdl_plain (ses : Session F) : ses.plain.hdl = ses.hdl := rfl

namespace GameServer

/-- The server without the debug mode and all that it sent. -/
def plain (srv : GameServer F) : GameServer F :=
  { srv with
    debug := false
    sessions := srv.sessions.mapEntries Session.plain Session.hdl_plain
    handed := srv.handed.filter fun msg => msg.2.isPlain }

@[simp] theorem world_plain (srv : GameServer F) : srv.plain.world = srv.world := rfl

@[simp] theorem plain_store (srv : GameServer F) (s : Snake F) :
    srv.plain.store s = (srv.store s).plain := rfl

@[simp] theorem plain_removeSnake (srv : GameServer F) (id : SnakeId) :
    srv.plain.removeSnake id = (srv.removeSnake id).plain := rfl

private theorem find?_plain (srv : GameServer F) (hdl : ConnectionHdl) :
    srv.plain.sessions.find? hdl = (srv.sessions.find? hdl).map Session.plain :=
  Keyed.find?_mapEntries srv.sessions Session.plain Session.hdl_plain hdl

@[simp] theorem findSession_plain (srv : GameServer F) (hdl : ConnectionHdl) :
    srv.plain.findSession hdl = srv.findSession hdl := by
  unfold findSession
  rw [find?_plain, Option.map_map]
  rfl

@[simp] theorem loadSessionIter_plain (srv : GameServer F) (id : SnakeId) :
    srv.plain.loadSessionIter id = srv.loadSessionIter id := by
  unfold loadSessionIter
  simp only [findSession_plain]
  rfl

private theorem plain_deliver (srv : GameServer F) (r : Recipient) {p : Packet F}
    (hp : p.isPlain = true) :
    srv.plain.deliver r p = (srv.deliver r p).plain := by
  have hsessions : (srv.sessions.mapEntries Session.plain Session.hdl_plain).mapEntries
      (Session.receive r p) (Session.hdl_receive r p) =
      (srv.sessions.mapEntries (Session.receive r p) (Session.hdl_receive r p)).mapEntries
        Session.plain Session.hdl_plain := by
    rw [Keyed.mapEntries_mapEntries, Keyed.mapEntries_mapEntries]
    congr 1
    funext ses
    unfold Session.receive Session.plain
    by_cases hsel : r.selects ses.hdl = true <;> simp [hsel, hp]
  have hhanded : (srv.handed ++ [(r, p)]).filter (fun msg => msg.2.isPlain) =
      srv.handed.filter (fun msg => msg.2.isPlain) ++ [(r, p)] := by simp [hp]
  unfold deliver plain
  rw [hhanded, hsessions]

private theorem plain_deliver_draw (srv : GameServer F) (r : Recipient)
    (circles : List DrawCircle) :
    (srv.deliver r (.debugDraw circles)).plain = srv.plain := by
  have hsessions : (srv.sessions.mapEntries (Session.receive r (.debugDraw circles))
      (Session.hdl_receive r _)).mapEntries Session.plain Session.hdl_plain =
      srv.sessions.mapEntries Session.plain Session.hdl_plain := by
    rw [Keyed.mapEntries_mapEntries]
    congr 1
    funext ses
    unfold Session.receive Session.plain
    by_cases hsel : r.selects ses.hdl = true <;> simp [hsel, Packet.isPlain]
  unfold deliver plain
  rw [hsessions]
  simp [Packet.isPlain]

/-- A server and a snake that was read from it. -/
def plainPair (r : GameServer F × Snake F) : GameServer F × Snake F := (r.1.plain, r.2)

private theorem plain_broadcastBinary (srv : GameServer F) {p : Packet F} (hp : p.isPlain = true) :
    srv.plain.broadcastBinary p = (srv.broadcastBinary p).plain := plain_deliver srv .everyone hp

private theorem sendBinary_plain (srv : GameServer F) (sesI : SessionIter) {p : Packet F}
    (hp : p.isPlain = true) :
    Erases plain (srv.sendBinary sesI p) (srv.plain.sendBinary sesI p) := by
  cases sesI with
  | none => rfl
  | some hdl => exact congrArg Except.ok (plain_deliver srv (.only hdl) hp)

private theorem doSnake_plain (srv : GameServer F) (id : SnakeId) (f : Snake F → Snake F) :
    Erases plain (srv.doSnake id f) (srv.plain.doSnake id f) := by
  unfold doSnake
  rw [world_plain]
  split
  · cases srv.world.getSnake id <;> rfl
  · rfl

private theorem foldl_plain {P : Food → Packet F} (hP : ∀ f, (P f).isPlain = true) (fs : List Food)
    (srv : GameServer F) :
    fs.foldl (fun srv f => srv.broadcastBinary (P f)) srv.plain =
      (fs.foldl (fun srv f => srv.broadcastBinary (P f)) srv).plain := by
  induction fs generalizing srv with
  | nil => rfl
  | cons f fs ih => rw [List.foldl_cons, plain_broadcastBinary srv (hP f), ih, List.foldl_cons]

private theorem sendFoodUpdate_plain (srv : GameServer F) (s : Snake F) :
    srv.plain.sendFoodUpdate s = plainPair (srv.sendFoodUpdate s) := by
  unfold sendFoodUpdate
  rw [foldl_plain fun _ => rfl]
  dsimp only
  rw [foldl_plain fun _ => rfl]
  rfl

private theorem sendNewSector_plain (sesI : SessionIter) (srv : GameServer F) (p : SectorPtr) :
    Erases plain (sendNewSector sesI srv p) (sendNewSector sesI srv.plain p) := by
  apply Erases.bind (sendBinary_plain srv sesI rfl)
  exact fun r => sendBinary_plain r sesI rfl

private theorem sendPOVUpdateTo_plain (srv : GameServer F) (sesI : SessionIter) (s : Snake F) :
    Erases plainPair (srv.sendPOVUpdateTo sesI s) (srv.plain.sendPOVUpdateTo sesI s) := by
  apply Erases.bind (Erases.foldlM (sendNewSector_plain sesI) s.vp.newSectors srv)
  intro srv₁
  apply Erases.bind (Erases.foldlM (fun r p => sendBinary_plain r sesI rfl) s.vp.oldSectors srv₁)
  exact fun srv₂ => rfl

private theorem sendEnd_plain (srv : GameServer F) (s : Snake F) :
    Erases plain (srv.sendEnd s) (srv.plain.sendEnd s) := by
  unfold sendEnd
  rw [loadSessionIter_plain]
  dsimp only
  split
  · exact sendBinary_plain srv _ rfl
  · rfl

private theorem announceRemoval_plain (srv : GameServer F) (s : Snake F) :
    srv.plain.announceRemoval s = (srv.announceRemoval s).plain := by
  unfold announceRemoval
  rw [sendFoodUpdate_plain]
  simp only [plainPair]
  rw [plain_broadcastBinary _ rfl, plain_broadcastBinary _ rfl, apply_ite plain]
  rfl

private theorem broadcastDying_plain (srv : GameServer F) (s : Snake F) :
    Erases plain (srv.broadcastDying s) (srv.plain.broadcastDying s) := by
  apply Erases.bind (sendEnd_plain srv s)
  intro r
  rw [world_plain]
  cases s.onDeadFoodSpawn r.world.sectors r.world.rng with
  | error e => rfl
  | ok t =>
      obtain ⟨s', ss, rng⟩ := t
      have hremoval := announceRemoval_plain
        ((r.setWorld { r.world with sectors := ss, rng := rng }).store s') s'
      exact congrArg Except.ok hremoval

private theorem broadcastRotation_plain (srv : GameServer F) (flags : Changes) (s : Snake F) :
    srv.plain.broadcastRotation flags s = plainPair (srv.broadcastRotation flags s) := by
  unfold broadcastRotation
  split
  · obtain ⟨t, rot⟩ := takeRotation flags s
    exact congrArg (·, t) (plain_broadcastBinary (srv.store t) rfl)
  · rfl

private theorem broadcastLength_plain (srv : GameServer F) (s : Snake F) :
    srv.plain.broadcastLength s = plainPair (srv.broadcastLength s) := by
  unfold broadcastLength
  split
  · rw [plain_broadcastBinary _ rfl]
    rfl
  by_cases hlong : s.clientPartsIndex > s.parts.length
  · simp only [if_pos hlong]
    rw [plain_broadcastBinary _ rfl, plain_store, plain_broadcastBinary _ rfl]
    rfl
  · simp only [if_neg hlong]
    rw [plain_broadcastBinary _ rfl]
    rfl

private theorem sendPlayerUpdate_plain (srv : GameServer F) (flags : Changes) (s : Snake F) :
    Erases plain (srv.sendPlayerUpdate flags s) (srv.plain.sendPlayerUpdate flags s) := by
  unfold sendPlayerUpdate
  rw [loadSessionIter_plain]
  apply Erases.bind (sendPOVUpdateTo_plain srv _ s)
  intro r
  obtain ⟨srv', s'⟩ := r
  simp only [plainPair]
  split
  · apply Erases.bind (sendBinary_plain srv' _ rfl)
    exact fun srv'' => rfl
  · rfl

private theorem broadcastMoved_plain (srv : GameServer F) (flags : Changes) (s : Snake F) :
    Erases plain (srv.broadcastMoved flags s) (srv.plain.broadcastMoved flags s) := by
  unfold broadcastMoved
  split
  · simp only [plain_store, broadcastLength_plain, plainPair, sendFoodUpdate_plain]
    split
    · rfl
    · exact sendPlayerUpdate_plain _ flags _
  · rfl

private theorem broadcastUpdate_plain (srv : GameServer F) (id : SnakeId) :
    Erases plain (srv.broadcastUpdate id) (srv.plain.broadcastUpdate id) := by
  unfold broadcastUpdate
  rw [world_plain]
  cases srv.world.deref id with
  | error e => rfl
  | ok s =>
      show Erases plain (if s.update.changeDead = true then _ else _)
        (if s.update.changeDead = true then _ else _)
      split
      · rfl
      · split
        · exact broadcastDying_plain srv s
        · rw [broadcastRotation_plain]
          exact broadcastMoved_plain _ _ _

private theorem broadcastUpdates_plain (srv : GameServer F) :
    Erases plain srv.broadcastUpdates srv.plain.broadcastUpdates := by
  apply Erases.bind (Erases.foldlM broadcastUpdate_plain srv.world.changes srv)
  exact fun r => rfl

private theorem removeDeadSnakes_plain (srv : GameServer F) :
    srv.plain.removeDeadSnakes = srv.removeDeadSnakes.plain := by
  have hfold : ∀ (ids : List SnakeId) (srv : GameServer F),
      ids.foldl removeSnake srv.plain = (ids.foldl removeSnake srv).plain := by
    intro ids
    induction ids with
    | nil => exact fun _ => rfl
    | cons id ids ih =>
        intro srv
        rw [List.foldl_cons, plain_removeSnake, ih, List.foldl_cons]
  unfold removeDeadSnakes
  rw [world_plain, hfold]
  rfl

private theorem join_plain (srv : GameServer F) (w : World F) (hdl : ConnectionHdl) (s : Snake F) :
    srv.plain.join w hdl s = (srv.join w hdl s).plain := by
  have hassign := Keyed.mapEntries_assign Session.hdl_plain srv.sessions
    ({ hdl := hdl, snakeId := s.id } : Session F)
  unfold join plain
  dsimp only
  rw [hassign]
  rfl

private theorem introduce_plain (sesI : SessionIter) (srv : GameServer F) (s : Snake F) :
    Erases plain (introduce sesI srv s) (introduce sesI srv.plain s) := by
  apply Erases.bind (sendBinary_plain srv sesI rfl)
  exact fun r => sendBinary_plain r sesI rfl

private theorem welcome_plain (srv : GameServer F) (hdl : ConnectionHdl) (s : Snake F) :
    Erases plain (srv.welcome hdl s) (srv.plain.welcome hdl s) := by
  have hinit : srv.plain.endpointSend hdl (.init srv.plain.init) =
      (srv.endpointSend hdl (.init srv.init)).plain := plain_deliver srv (.only hdl) rfl
  unfold welcome
  simp only [hinit, findSession_plain, plain_broadcastBinary _ (p := .addSnake s) rfl,
    plain_broadcastBinary _ (p := Packet.moveOf s) rfl]
  apply Erases.bind (sendPOVUpdateTo_plain _ _ s)
  intro r
  exact Erases.foldlM (introduce_plain _) _ _

private theorem onOpen_plain (m : Libm F) (srv : GameServer F) (hdl : ConnectionHdl) :
    Erases plain (srv.onOpen m hdl) (srv.plain.onOpen m hdl) := by
  unfold onOpen
  rw [world_plain]
  cases srv.world.createSnake m with
  | error e => rfl
  | ok r =>
      obtain ⟨s, w⟩ := r
      show Erases plain (if (w.getSnake s.id).isSome = true then _ else _)
        (if (w.getSnake s.id).isSome = true then _ else _)
      split
      · rfl
      · rw [join_plain]
        exact welcome_plain _ hdl s

private theorem readSkin_plain (ses : Session F) (buf : List UInt8) :
    readSkin ses.plain buf = (readSkin ses buf).plain := by
  unfold readSkin
  cases extract buf with
  | none => rfl
  | some r =>
      dsimp only
      cases extract r.2 <;> rfl

private theorem setSession_plain (srv : GameServer F) (ses : Session F) :
    srv.plain.setSession ses.plain = (srv.setSession ses).plain := by
  unfold setSession plain
  dsimp only
  rw [Keyed.mapEntries_replace]

private theorem obey_plain (srv : GameServer F) (ses : Session F) (c : Command F) :
    Erases plain (srv.obey ses c) (srv.plain.obey ses.plain c) := by
  cases c with
  | ignore => rfl
  | ping =>
      show Erases plain (srv.sendBinary (srv.findSession ses.hdl) .pong)
        (srv.plain.sendBinary (srv.plain.findSession ses.hdl) .pong)
      rw [findSession_plain]
      exact sendBinary_plain srv _ rfl
  | introduce buf =>
      show Erases plain ((srv.setSession (readSkin ses buf)).doSnake ses.snakeId
          fun s => { s with name := (readSkin ses buf).name, skin := (readSkin ses buf).skin })
        ((srv.plain.setSession (readSkin ses.plain buf)).doSnake ses.snakeId
          fun s => { s with
            name := (readSkin ses.plain buf).name, skin := (readSkin ses.plain buf).skin })
      rw [readSkin_plain, setSession_plain]
      exact doSnake_plain _ _ _
  | turn angle => exact doSnake_plain srv ses.snakeId ((Command.turn angle).onSnake ses)
  | accelerate on => exact doSnake_plain srv ses.snakeId ((Command.accelerate on).onSnake ses)

private theorem onMessage_plain (m : Libm F) (srv : GameServer F) (hdl : ConnectionHdl)
    (binary : Bool) (payload : List UInt8) :
    Erases plain (srv.onMessage m hdl binary payload)
      (srv.plain.onMessage m hdl binary payload) := by
  rw [onMessage_eq_obey, onMessage_eq_obey, find?_plain]
  cases srv.sessions.find? hdl with
  | none => rfl
  | some ses => exact obey_plain srv ses _

private theorem onClose_plain (srv : GameServer F) (hdl : ConnectionHdl) :
    srv.plain.onClose hdl = (srv.onClose hdl).plain := by
  unfold onClose
  rw [find?_plain]
  cases srv.sessions.find? hdl with
  | none => rfl
  | some ses =>
      have herase := Keyed.mapEntries_erase Session.hdl_plain srv.sessions hdl
      show GameServer.removeSnake _ _ = _
      unfold plain
      dsimp only [Option.map]
      rw [← herase]
      rfl

private theorem plain_plain_deliverAll {srv : GameServer F} {ms : List (Message F)}
    (hms : ∀ msg ∈ ms, ∃ c, msg.2 = .debugDraw c) : (srv.deliverAll ms).plain = srv.plain := by
  induction ms generalizing srv with
  | nil => rfl
  | cons msg ms ih =>
      obtain ⟨circles, hc⟩ := hms msg (List.mem_cons_self ..)
      show ((srv.deliver msg.1 msg.2).deliverAll ms).plain = srv.plain
      rw [ih fun msg' h => hms msg' (List.mem_cons_of_mem _ h), hc, plain_deliver_draw]

private theorem broadcastDebug_plain {srv : GameServer F}
    (hlisted : ∀ id ∈ srv.world.changes, (srv.world.getSnake id).isSome) :
    Erases plain srv.broadcastDebug srv.plain.broadcastDebug := by
  obtain ⟨r, hr, -, ms, hms, rfl⟩ := ((broadcastDebug_returns hlisted).and
    (broadcastDebug_post srv)).exists_ok fun _ he => he.1
  rw [hr]
  exact congrArg Except.ok (plain_plain_deliverAll hms).symm

private theorem onTimer_plain (m : Libm F) {srv : GameServer F} (h : srv.world.Quiet) (ec : Bool)
    (dt : ℕ) :
    Erases plain (srv.onTimer m ec dt) (srv.plain.onTimer m ec dt) := by
  cases ec with
  | true => rfl
  | false =>
      apply Erases.same_bind
      intro w htick
      have hlisted : ∀ id ∈ (srv.setWorld w).world.changes,
          ((srv.setWorld w).world.getSnake id).isSome := (tick_listed h).of_ok htick
      apply Erases.bind (broadcastDebug_plain hlisted)
      intro r
      apply Erases.bind (broadcastUpdates_plain r)
      intro r
      exact congrArg Except.ok (removeDeadSnakes_plain r)

private theorem handle_plain (m : Libm F) {srv : GameServer F} (h : srv.world.Quiet) (e : Event) :
    Erases plain (srv.handle m e) (srv.plain.handle m e) := by
  cases e with
  | opened hdl => exact onOpen_plain m srv hdl
  | message hdl binary payload => exact onMessage_plain m srv hdl binary payload
  | closed hdl => exact congrArg Except.ok (onClose_plain srv hdl)
  | timer ec dt => exact onTimer_plain m h ec dt

private theorem enabled_plain (srv : GameServer F) (e : Event) :
    srv.plain.Enabled e ↔ srv.Enabled e := by
  cases e with
  | opened hdl =>
      show srv.plain.sessions.find? hdl = none ↔ srv.sessions.find? hdl = none
      rw [find?_plain, Option.map_eq_none_iff]
  | message hdl binary payload => rfl
  | closed hdl => rfl
  | timer ec dt => rfl

private theorem step_plain (m : Libm F) {srv : GameServer F} (h : srv.world.Quiet) (e : Event)
    (r' : GameServer F) : Step m srv.plain e r' ↔ ∃ r, Step m srv e r ∧ r.plain = r' := by
  have hhandle : ∀ w, World.Reorders srv.world w → (((srv.setWorld w).plain.handle m e = .ok r') ↔
      ∃ r, (srv.setWorld w).handle m e = .ok r ∧ r.plain = r') := by
    intro w hw
    obtain ⟨snakes, hperm, rfl⟩ := hw
    have hquiet : ({ srv.world with snakes := snakes } : World F).Quiet :=
      h.of_mem h.changes fun s hs => hperm.mem_iff.mp hs
    have hplain := handle_plain m (show (srv.setWorld { srv.world with snakes }).world.Quiet from hquiet) e
    exact hplain.eq_ok_iff
  unfold Step
  rw [enabled_plain]
  constructor
  · intro hstep
    obtain ⟨hen, w, hw, hok⟩ := hstep
    obtain ⟨r, hr, rfl⟩ := (hhandle w hw).mp hok
    exact ⟨r, ⟨hen, w, hw, hr⟩, rfl⟩
  · intro hstep
    obtain ⟨r, ⟨hen, w, hw, hok⟩, hr⟩ := hstep
    exact ⟨hen, w, hw, (hhandle w hw).mpr ⟨r, hok, hr⟩⟩

/-- The debug mode changes nothing but the drawings.  What a server can come to without it, on any
events, is what one in debug mode can come to on the same events, less the drawings that were sent. -/
theorem debug_only_draws (m : Libm F) (config : WorldConfig) (rng : Rng) (es : List Event)
    (srv' : GameServer F) :
    (∃ srv₀, run m false config rng = .ok srv₀ ∧ Run (Step m) srv₀ es srv') ↔
      ∃ srv₀ srv, run m true config rng = .ok srv₀ ∧ Run (Step m) srv₀ es srv ∧
        srv.plain = srv' := by
  have hrun : Erases plain (run m true config rng) (run m false config rng) := by
    unfold run
    cases World.init m config rng <;> rfl
  have hsteps : ∀ srv₀, run m true config rng = .ok srv₀ →
      (Run (Step m) srv₀.plain es srv' ↔ ∃ srv, Run (Step m) srv₀ es srv ∧ srv.plain = srv') :=
    fun srv₀ hstart => Run.erased fun es t ht e r' => step_plain m (run_quiet hstart ht) e r'
  constructor
  · intro h
    obtain ⟨srv₁, hstart, hes⟩ := h
    obtain ⟨srv₀, hstart₀, rfl⟩ := hrun.eq_ok_iff.mp hstart
    obtain ⟨srv, hsrv, rfl⟩ := (hsteps srv₀ hstart₀).mp hes
    exact ⟨srv₀, srv, hstart₀, hsrv, rfl⟩
  · intro h
    obtain ⟨srv₀, srv, hstart, hes, hplain⟩ := h
    exact ⟨srv₀.plain, hrun.eq_ok_iff.mpr ⟨srv₀, hstart, rfl⟩,
      (hsteps srv₀ hstart).mpr ⟨srv, hes, hplain⟩⟩

end GameServer

end Slither
