import Slither.Server.ClientView

/-!
# The handlers, one specification each

Each event is reduced to the messages it delivers and the writes it makes, so that an invariant
over runs is checked against these specifications and not against the code of the handlers.
-/

set_option linter.unusedSectionVars false

namespace Slither

open Framework Snake

variable {F : Type} [Field F] [LinearOrder F] [FloorRing F]

namespace GameServer

/-- The session under a handle, as far as the clients' views depend on it. -/
def view (srv : GameServer F) (hdl : ConnectionHdl) : Option (SnakeId × List (Packet F)) :=
  (srv.sessions.find? hdl).map fun ses => (ses.snakeId, ses.sent)

theorem exists_session {srv : GameServer F} {hdl : ConnectionHdl} {v : SnakeId × List (Packet F)}
    (h : srv.view hdl = some v) : ∃ ses ∈ srv.sessions, ses.hdl = hdl ∧ (ses.snakeId, ses.sent) = v := by
  obtain ⟨ses, hses, hv⟩ := Option.map_eq_some_iff.mp h
  obtain ⟨hmem, hhdl⟩ := Keyed.find?_eq_some.mp hses
  exact ⟨ses, hmem, hhdl, hv⟩

theorem view_of_mem {srv : GameServer F} {ses : Session F} (h : ses ∈ srv.sessions) :
    srv.view ses.hdl = some (ses.snakeId, ses.sent) := by
  rw [view, Keyed.find?_key h]
  rfl

theorem view_start {m : Libm F} {debug : Bool} {config : WorldConfig} {rng : Rng}
    {srv : GameServer F} (hstart : run m debug config rng = .ok srv) (hdl : ConnectionHdl) :
    srv.view hdl = none := by
  obtain ⟨w, -, hsrv⟩ := bind_eq_ok.mp hstart
  cases hsrv
  rfl

theorem view_deliverAll (srv : GameServer F) (ms : List (Message F)) (hdl : ConnectionHdl) :
    (srv.deliverAll ms).view hdl =
      (srv.view hdl).map fun v => (v.1, v.2 ++ received hdl ms) := by
  unfold view
  rw [find?_deliverAll]
  cases h : srv.sessions.find? hdl with
  | none => rfl
  | some ses =>
      have hkey : ses.hdl = hdl := Keyed.key_of_find? h
      simp [Session.receiveAll, hkey]

theorem findSession_eq_some {srv : GameServer F} {hdl h : ConnectionHdl} :
    srv.findSession hdl = some h ↔ h = hdl ∧ (srv.view hdl).isSome := by
  unfold findSession view
  cases hf : srv.sessions.find? hdl with
  | none => simp
  | some ses =>
      have hkey : ses.hdl = hdl := Keyed.key_of_find? hf
      simp [hkey, eq_comm]

private theorem findSession_deliverAll (srv : GameServer F) (ms : List (Message F))
    (hdl : ConnectionHdl) :
    (srv.deliverAll ms).findSession hdl = srv.findSession hdl := by
  unfold findSession
  rw [find?_deliverAll, Option.map_map]
  rfl

theorem view_join (srv : GameServer F) (w : World F) (hdl h : ConnectionHdl) (s : Snake F) :
    (srv.join w hdl s).view h = if hdl = h then some (s.id, []) else srv.view h := by
  unfold view join
  rw [Keyed.find?_assign]
  by_cases hh : hdl = h <;> simp [hh]

def introduction (hdl : ConnectionHdl) (t : Snake F) : List (Message F) :=
  [(.only hdl, .addSnake t), (.only hdl, Packet.moveOf t)]

/-- What is sent when `s` joins a world where the snakes `others` are. -/
def welcomeMessages (init : PacketInit F) (ss : SectorSeq) (hdl : ConnectionHdl) (s : Snake F)
    (others : List (Snake F)) : List (Message F) :=
  [(.only hdl, .init init), (.everyone, .addSnake s), (.everyone, Packet.moveOf s)] ++
    povMessages ss hdl s ++ others.flatMap (introduction hdl)

theorem ofKind_welcomeMessages {k : Packet F → Bool} (hk : SilentKind k) (init : PacketInit F)
    (ss : SectorSeq) (hdl : ConnectionHdl) (s : Snake F) (others : List (Snake F)) :
    Message.ofKind k (welcomeMessages init ss hdl s others) =
      Message.ofKind k [(.everyone, .addSnake s)] ++ Message.ofKind k (povMessages ss hdl s) ++
        Message.ofKind k (others.map fun t => (.only hdl, .addSnake t)) := by
  have hothers : Message.ofKind k (others.flatMap (introduction hdl)) =
      Message.ofKind k (others.map fun t => (.only hdl, .addSnake t)) := by
    induction others with
    | nil => rfl
    | cons t others ih =>
        have hmove : k (Packet.moveOf t) = false := hk.move _ _ _
        rw [List.flatMap_cons, Message.ofKind_append, ih, List.map_cons]
        cases h : k (.addSnake t) <;> simp [Message.ofKind, introduction, h, hmove]
  have hinit := hk.init init
  have hmove : k (Packet.moveOf s) = false := hk.move _ _ _
  unfold welcomeMessages
  rw [Message.ofKind_append, Message.ofKind_append, hothers]
  congr 2
  simp [Message.ofKind, List.filter_cons, hinit, hmove]

theorem received_welcome {k : Packet F → Bool} (hk : SilentKind k)
    (hadd : ∀ t, k (.addSnake t) = true) (hpov : ∀ x y, k (.addSector x y) = false ∧
      k (.removeSector x y) = false) (init : PacketInit F) (ss : SectorSeq)
    (hdl h : ConnectionHdl) (s : Snake F) (others : List (Snake F)) :
    received h (Message.ofKind k (welcomeMessages init ss hdl s others)) =
      .addSnake s :: if hdl = h then others.map .addSnake else [] := by
  have hnone : Message.ofKind k (povMessages ss hdl s) = [] := by
    apply Message.ofKind_eq_nil
    intro msg hmsg
    rcases List.mem_append.mp hmsg with hmsg | hmsg
    · obtain ⟨p, -, hp⟩ := List.mem_flatMap.mp hmsg
      rcases List.mem_pair.mp hp with rfl | rfl
      · exact (hpov _ _).1
      · exact hk.setFood _
    · obtain ⟨p, -, rfl⟩ := List.mem_map.mp hmsg
      exact (hpov _ _).2
  have hall : Message.ofKind k (others.map fun t => (Recipient.only hdl, Packet.addSnake t)) =
      (others.map Packet.addSnake).map fun p => (.only hdl, p) := by
    rw [List.map_map, Message.ofKind, List.filter_eq_self.mpr]
    · rfl
    · intro msg hmsg
      obtain ⟨t, -, rfl⟩ := List.mem_map.mp hmsg
      exact hadd t
  have hself : Message.ofKind k [(.everyone, .addSnake s)] = [(.everyone, .addSnake s)] := by
    simp [Message.ofKind, hadd]
  rw [ofKind_welcomeMessages hk, hnone, hall, hself, List.append_nil, received_append,
    received_everyone]
  split
  · rename_i heq
    subst heq
    rw [received_map_only_self]
    rfl
  · rename_i hne
    rw [received_map_only_ne (Ne.symm hne)]
    rfl

private theorem foldlM_introduce (hdl : ConnectionHdl) (ts : List (Snake F)) (srv : GameServer F) :
    ts.foldlM (introduce (some hdl)) srv =
      .ok (srv.deliverAll (ts.flatMap (introduction hdl))) := by
  induction ts generalizing srv with
  | nil => rfl
  | cons t ts ih =>
      have hstep : introduce (some hdl) srv t = .ok (srv.deliverAll (introduction hdl t)) := rfl
      rw [List.foldlM_cons, hstep, List.flatMap_cons, deliverAll_append]
      exact ih _

private theorem welcome_post {srv : GameServer F} {hdl : ConnectionHdl} {s : Snake F}
    (hses : srv.findSession hdl = some hdl) :
    Post (srv.welcome hdl s)
      (Sends srv (welcomeMessages srv.init srv.world.sectors hdl s
        ((srv.world.store s.povSent).snakes.entries.filter fun t => t.id ≠ s.id)) s.povSent)
      (fun _ => False) := by
  have hses₁ : (srv.endpointSend hdl (.init srv.init)).findSession hdl = some hdl :=
    (findSession_deliverAll srv [(.only hdl, .init srv.init)] hdl).trans hses
  let srv₁ := srv.deliverAll
    [(.only hdl, .init srv.init), (.everyone, .addSnake s), (.everyone, Packet.moveOf s)]
  have hpov := sendPOVUpdateTo_post srv₁ (some hdl) s
  unfold welcome
  simp only [hses₁]
  apply Post.bind (hpov.mono (fun _ h => h) fun e he => nomatch he.2)
  rintro ⟨srv₂, _⟩ ⟨rfl, hsend⟩
  replace hsend : srv₂ = (srv₁.deliverAll (povMessages srv₁.world.sectors hdl s)).setWorld
      (srv₁.world.store s.povSent) := hsend
  have hworld : srv₁.world = srv.world := world_deliverAll srv _
  have hworld₂ : srv₂.world = srv.world.store s.povSent := by
    rw [hsend, hworld]
    rfl
  simp only [hworld₂]
  rw [foldlM_introduce]
  show srv₂.deliverAll _ = _
  rw [hsend, hworld, setWorld_deliverAll]
  unfold welcomeMessages
  rw [deliverAll_append, deliverAll_append]

/-- Opening a connection creates a snake under a free id and welcomes it. -/
theorem onOpen_post (m : Libm F) (srv : GameServer F) (hdl : ConnectionHdl) :
    Post (srv.onOpen m hdl)
      (fun r => ∃ s w, srv.world.createSnake m = .ok (s, w) ∧ w.getSnake s.id = none ∧
        Sends (srv.join w hdl s) (welcomeMessages srv.init w.sectors hdl s w.snakes.entries)
          s.povSent r)
      (fun e => srv.world.createSnake m = .error e ∨
        (e = .danglingPtr ∧ ∃ s w, srv.world.createSnake m = .ok (s, w) ∧
          w.getSnake s.id ≠ none)) := by
  unfold onOpen
  cases hcreate : srv.world.createSnake m with
  | error e => exact .inl rfl
  | ok r =>
      obtain ⟨s, w⟩ := r
      show Post (if (w.getSnake s.id).isSome = true then _ else _) _ _
      cases hget : w.getSnake s.id with
      | some t => exact .inr ⟨rfl, s, w, rfl, by simp [hget]⟩
      | none =>
          have hses : (srv.join w hdl s).findSession hdl = some hdl := by
            rw [findSession_eq_some, view_join, if_pos rfl]
            exact ⟨rfl, rfl⟩
          have hnone : ∀ t ∈ w.snakes.entries, t.id ≠ s.id := Keyed.find?_eq_none.mp hget
          have hothers : (((srv.join w hdl s).world.store s.povSent).snakes.entries.filter
              fun t => t.id ≠ s.id) = w.snakes.entries := by
            have hsplit : ((srv.join w hdl s).world.store s.povSent).snakes.entries =
                w.snakes.entries ++ [s.povSent] := by
              show ((w.snakes.insert s).entries.map _) = _
              rw [Keyed.entries_insert hget, List.map_append]
              congr 1
              · conv_rhs => rw [← List.map_id w.snakes.entries]
                apply List.map_congr_left
                intro t ht
                exact if_neg (hnone t ht)
              · exact congrArg (fun t => [t]) (if_pos rfl)
            rw [hsplit, List.filter_append]
            have hself : [s.povSent].filter (fun t => t.id ≠ s.id) = [] := by
              simp [povSent]
            rw [hself, List.append_nil, List.filter_eq_self]
            intro t ht
            simpa using hnone t ht
          simp only [Option.isSome_none, Bool.false_eq_true, if_false]
          refine (welcome_post hses).mono (fun r hr => ⟨s, w, rfl, hget, ?_⟩) fun _ h => h.elim
          rw [hothers] at hr
          exact hr

theorem onOpen_ok (m : Libm F) (srv : GameServer F) (hdl : ConnectionHdl)
    (hlen : srv.world.config.snakeAverageLength ≠ 0)
    (hfree : srv.world.getSnake srv.world.nextId = none) :
    ∃ s w r, srv.world.createSnake m = .ok (s, w) ∧ s.id = srv.world.nextId ∧
      w.getSnake s.id = none ∧ srv.onOpen m hdl = .ok r ∧
      Sends (srv.join w hdl s) (welcomeMessages srv.init w.sectors hdl s w.snakes.entries)
        s.povSent r := by
  obtain ⟨⟨s, w⟩, hcreate⟩ := World.create_ok m false srv.world hlen
  replace hcreate : srv.world.createSnake m = .ok (s, w) := hcreate
  have hpost := onOpen_post m srv hdl
  obtain ⟨s₀, hid₀, -, -, hid', -, hsnakes, -⟩ := (World.create_post m false srv.world).of_ok hcreate
  have hid : s.id = srv.world.nextId := hid'.trans hid₀
  have hnone : w.getSnake s.id = none := by
    rw [World.getSnake, hsnakes, hid]
    exact hfree
  cases hopen : srv.onOpen m hdl with
  | error e =>
      rcases hpost.of_error hopen with he | ⟨-, s', w', hcreate', htaken⟩
      · rw [hcreate] at he
        cases he
      · rw [hcreate] at hcreate'
        cases hcreate'
        exact absurd hnone htaken
  | ok r =>
      obtain ⟨s', w', hcreate', -, hsend⟩ := hpost.of_ok hopen
      rw [hcreate] at hcreate'
      cases hcreate'
      exact ⟨s, w, r, hcreate, hid, hnone, rfl, hsend⟩

theorem view_opened {srv r : GameServer F} {w : World F} {hdl : ConnectionHdl} {s s' : Snake F}
    {ms : List (Message F)} (hsend : Sends (srv.join w hdl s) ms s' r) (h : ConnectionHdl) :
    r.view h = (if hdl = h then some (s.id, []) else srv.view h).map fun v =>
      (v.1, v.2 ++ received h ms) := by
  have hview : r.view h = ((srv.join w hdl s).deliverAll ms).view h := by
    rw [hsend]
    rfl
  rw [hview, view_deliverAll, view_join]

theorem getSnake_opened {m : Libm F} {srv : GameServer F} {w : World F} {s : Snake F}
    (hcreate : srv.world.createSnake m = .ok (s, w)) (hfree : w.getSnake s.id = none)
    (id : SnakeId) :
    (w.addSnake s).getSnake id = if s.id = id then some s else srv.world.getSnake id := by
  obtain ⟨-, -, hsnakes, -⟩ := (World.create_fresh m false srv.world).of_ok hcreate
  show (w.snakes.insert s).find? id = _
  rw [Keyed.find?_insert hfree, hsnakes]
  rfl

theorem doSnake_post (srv : GameServer F) (id : SnakeId) (f : Snake F → Snake F) :
    Post (srv.doSnake id f)
      (fun r => r = srv ∨ ∃ s, srv.world.getSnake id = some s ∧ r = srv.store (f s))
      (fun e => e = .endIterator ∧ srv.world.getSnake id = none) := by
  unfold doSnake
  split
  · cases hget : srv.world.getSnake id with
    | none => exact ⟨rfl, rfl⟩
    | some s => exact .inr ⟨s, rfl, rfl⟩
  · exact .inl rfl

/-- A message from a client: at most a pong is sent, and at most one snake is written, in fields
that neither a tick nor an update depends on between events. -/
structure Touches (srv srv' : GameServer F) : Prop where
  view : ∃ ms : List (Message F), (∀ m ∈ ms, m.2 = .pong) ∧
    ∀ hdl, srv'.view hdl = (srv.deliverAll ms).view hdl
  connections : srv'.connections = srv.connections
  world : srv'.world = srv.world ∨ ∃ s s', srv.world.getSnake s.id = some s ∧
    s'.kept = s.kept ∧ s'.body = s.body ∧ srv'.world = srv.world.store s'
  handed : ∃ ms : List (Message F), (∀ m ∈ ms, m.2 = .pong) ∧ srv'.handed = srv.handed ++ ms
  pose : ∀ id, (srv'.world.getSnake id).map Snake.pose = (srv.world.getSnake id).map Snake.pose

private theorem Touches.refl (srv : GameServer F) : Touches srv srv where
  view := ⟨[], by simp, fun _ => rfl⟩
  connections := rfl
  world := .inl rfl
  handed := ⟨[], by simp, (List.append_nil _).symm⟩
  pose _ := rfl

private theorem Touches.of_doSnake {srv : GameServer F} {ses ses' : Session F}
    {f : Snake F → Snake F}
    (hses : srv.sessions.find? ses.hdl = some ses) (hhdl : ses'.hdl = ses.hdl)
    (hid : ses'.snakeId = ses.snakeId) (hsent : ses'.sent = ses.sent)
    (hkept : ∀ s, (f s).kept = s.kept) (hbody : ∀ s, (f s).body = s.body)
    (hpose : ∀ s, (f s).pose = s.pose) :
    Post ((srv.setSession ses').doSnake ses.snakeId f) (Touches srv)
      (fun e => e = .endIterator ∧ srv.world.getSnake ses.snakeId = none) := by
  have hview : ∀ hdl, (srv.setSession ses').view hdl = srv.view hdl := by
    intro hdl
    unfold GameServer.view setSession
    rw [Keyed.find?_replace]
    split
    · rename_i h
      rw [← h, hhdl, hses]
      simp [hid, hsent]
    · rfl
  have hhanded : ∃ ms : List (Message F), (∀ m ∈ ms, m.2 = .pong) ∧
      srv.handed = srv.handed ++ ms := ⟨[], by simp, (List.append_nil _).symm⟩
  have hset : Touches srv (srv.setSession ses') :=
    ⟨⟨[], by simp, hview⟩, rfl, .inl rfl, hhanded, fun _ => rfl⟩
  refine (doSnake_post _ _ f).mono ?_ fun _ h => h
  rintro r (rfl | ⟨s, hs, rfl⟩)
  · exact hset
  · have hsid : s.id = ses.snakeId := Keyed.key_of_find? hs
    have hid : (f s).id = s.id := congrArg (fun k => k.1) (hkept s)
    have hget : srv.world.getSnake s.id = some s := by
      rw [hsid]
      exact hs
    refine ⟨⟨[], by simp, hview⟩, rfl, .inr ⟨s, f s, hget, hkept s, hbody s, rfl⟩, hhanded,
      fun id => ?_⟩
    show ((srv.world.snakes.replace (f s)).find? id).map Snake.pose = _
    rw [Keyed.find?_replace]
    split
    · rename_i heq
      rw [← heq, hid, hget]
      have hfind : srv.world.snakes.find? s.id = some s := hget
      rw [hfind]
      exact congrArg some (hpose s)
    · rfl

private theorem setSession_self {srv : GameServer F} {ses : Session F}
    (hses : srv.sessions.find? ses.hdl = some ses) : srv.setSession ses = srv := by
  unfold setSession
  rw [Keyed.replace_self (Keyed.mem_of_find? hses)]

theorem readSkin_frame (ses : Session F) (buf : List UInt8) :
    (readSkin ses buf).hdl = ses.hdl ∧ (readSkin ses buf).snakeId = ses.snakeId ∧
      (readSkin ses buf).sent = ses.sent := by
  unfold readSkin
  cases extract buf with
  | none => exact ⟨rfl, rfl, rfl⟩
  | some r =>
      obtain ⟨version, buf⟩ := r
      dsimp only
      cases extract buf with
      | none => exact ⟨rfl, rfl, rfl⟩
      | some r => exact ⟨rfl, rfl, rfl⟩

theorem onMessage_post (m : Libm F) (srv : GameServer F) (hdl : ConnectionHdl) (binary : Bool)
    (payload : List UInt8) :
    Post (srv.onMessage m hdl binary payload) (Touches srv)
      (fun e => e = .endIterator ∧ ∃ ses ∈ srv.sessions, srv.world.getSnake ses.snakeId = none) := by
  unfold onMessage
  split
  swap
  · exact .refl srv
  dsimp only
  split
  · exact .refl srv
  cases hfind : srv.sessions.find? hdl with
  | none => exact .refl srv
  | some ses =>
      have hmem : ses ∈ srv.sessions := Keyed.mem_of_find? hfind
      have hhdl : ses.hdl = hdl := Keyed.key_of_find? hfind
      have hses : srv.sessions.find? ses.hdl = some ses := hhdl ▸ hfind
      have hplain : ∀ f : Snake F → Snake F, (∀ s, (f s).kept = s.kept) →
          (∀ s, (f s).body = s.body) → (∀ s, (f s).pose = s.pose) →
          Post (srv.doSnake ses.snakeId f) (Touches srv)
            (fun e => e = .endIterator ∧ ∃ ses ∈ srv.sessions,
              srv.world.getSnake ses.snakeId = none) := by
        intro f hkept hbody hpose
        have h := Touches.of_doSnake hses (rfl : ses.hdl = ses.hdl) rfl rfl hkept hbody hpose
        rw [setSession_self hses] at h
        exact h.mono (fun _ h => h) fun _ h => ⟨h.1, ses, hmem, h.2⟩
      dsimp only
      unfold onPacket
      split
      · apply hplain
        · intro s
          simp [kept]
        · intro s
          rfl
        · intro s
          rfl
      split
      · have hsession : srv.findSession ses.hdl = some ses.hdl := by
          rw [findSession, hses]
          rfl
        rw [hsession]
        exact ⟨⟨[(.only ses.hdl, .pong)], by simp, fun _ => rfl⟩, rfl, .inl rfl,
          ⟨[(.only ses.hdl, .pong)], by simp, rfl⟩, fun _ => rfl⟩
      split
      · obtain ⟨hh, hi, hs⟩ := readSkin_frame ses payload.tail
        have h := Touches.of_doSnake (f := fun s => { s with
          name := (readSkin ses payload.tail).name, skin := (readSkin ses payload.tail).skin })
          hses hh hi hs (fun _ => rfl) (fun _ => rfl) fun _ => rfl
        rw [← hi] at h
        exact h.mono (fun _ h => h) fun _ h => ⟨h.1, ses, hmem, hi ▸ h.2⟩
      split
      · exact hplain _ (fun _ => rfl) (fun _ => rfl) fun _ => rfl
      split
      · exact hplain _ (fun _ => rfl) (fun _ => rfl) fun _ => rfl
      split
      · exact .refl srv
      split <;> exact .refl srv

theorem broadcastDebug_post (srv : GameServer F) :
    Post srv.broadcastDebug
      (fun r => ∃ ms : List (Message F), (∀ m ∈ ms, ∃ c, m.2 = .debugDraw c) ∧
        r = srv.deliverAll ms)
      (fun e => e = .danglingPtr) := by
  unfold broadcastDebug
  split
  · apply Post.bind (R := fun _ => True)
    · refine Post.foldlM (fun _ _ => True) ?_ _ _ trivial
      intro id rest circles _
      apply Post.bind (R := fun _ => True)
      · unfold World.deref
        split
        · trivial
        · rfl
      · exact fun _ _ => trivial
    · intro circles _
      rw [post_pure]
      split
      · exact ⟨[], by simp, rfl⟩
      · exact ⟨[(.everyone, .debugDraw circles)], by simp, rfl⟩
  · exact ⟨[], by simp, rfl⟩

/-- The rule for the timer.  The invariant of the update loop is indexed by the snakes still to be
visited. -/
theorem onTimer_rule {m : Libm F} {srv : GameServer F} {ec : Bool} {dt : ℕ}
    {P : GameServer F → Prop} {Q : Fault → Prop} (K : List SnakeId → GameServer F → Prop)
    (hidle : P srv) (hdangling : Q .danglingPtr)
    (htick : Post (srv.world.tick m dt)
      (fun w => ∀ ms : List (Message F), (∀ m ∈ ms, ∃ c, m.2 = .debugDraw c) →
        K w.changes ((srv.setWorld w).deliverAll ms)) Q)
    (hupdate : ∀ s rest r, K (s.id :: rest) r → r.world.getSnake s.id = some s →
      Post (r.broadcastUpdate s.id) (K rest) Q)
    (hclean : ∀ r, K [] r → P (r.setWorld r.world.flushChanges).removeDeadSnakes) :
    Post (srv.onTimer m ec dt) P Q := by
  unfold onTimer
  split
  · exact hidle
  apply Post.bind htick
  intro w hw
  apply Post.bind ((broadcastDebug_post (srv.setWorld w)).mono (fun _ h => h) fun e he => he ▸ hdangling)
  rintro _ ⟨ms, hms, rfl⟩
  unfold broadcastUpdates
  rw [bind_assoc, world_deliverAll]
  refine Post.bind (Post.foldlM K ?_ w.changes _ (hw ms hms)) fun r hr => hclean r hr
  intro id rest r hr
  cases hget : r.world.getSnake id with
  | some s =>
      have hid : s.id = id := Keyed.key_of_find? hget
      subst hid
      exact hupdate s rest r hr hget
  | none =>
      unfold broadcastUpdate World.deref
      rw [hget]
      exact hdangling

/-- The server before the first event when there are no bots. -/
def blank (debug : Bool) (config : WorldConfig) (rng : Rng) : GameServer F where
  world := (World.blank config rng).initFood
  init := buildInitPacket
  debug := debug
  sessions := ∅
  connections := ∅

theorem run_blank (m : Libm F) (debug : Bool) {config : WorldConfig} (rng : Rng)
    (hbots : config.bots = 0) : run m debug config rng = .ok (blank debug config rng) := by
  unfold run World.init
  rw [hbots]
  rfl

theorem Step.of_handle {m : Libm F} {srv srv' : GameServer F} {e : Event} (hen : srv.Enabled e)
    (h : srv.handle m e = .ok srv') : Step m srv e srv' :=
  ⟨hen, srv.world, ⟨srv.world.snakes, .refl _, rfl⟩, h⟩

instance (srv : GameServer F) (e : Event) : Decidable (srv.Enabled e) :=
  match e with
  | .opened hdl => inferInstanceAs (Decidable (srv.sessions.find? hdl = none))
  | .message _ _ _ => .isTrue trivial
  | .closed _ => .isTrue trivial
  | .timer _ _ => .isTrue trivial

/-- Handle some events in the iteration order there is. -/
def replay (m : Libm F) (srv : GameServer F) : List Event → Option (GameServer F)
  | [] => some srv
  | e :: es =>
      if srv.Enabled e then
        match srv.handle m e with
        | .ok srv => srv.replay m es
        | .error _ => none
      else none

theorem run_of_replay {m : Libm F} {srv srv' : GameServer F} {es : List Event}
    (h : srv.replay m es = some srv') : Run (Step m) srv es srv' := by
  induction es generalizing srv with
  | nil =>
      cases h
      exact .nil
  | cons e es ih =>
      rw [replay] at h
      split at h
      · rename_i hen
        cases hhandle : srv.handle m e with
        | ok r =>
            rw [hhandle] at h
            exact (Run.single (Step.of_handle hen hhandle)).append (ih h)
        | error err =>
            rw [hhandle] at h
            cases h
      · cases h

/-- `blank` when every draw is zero, with the initial food written out. -/
def lobby (config : WorldConfig) : GameServer F where
  world := { World.blank config Rng.zero with sectors := SectorSeq.stocked F }
  init := buildInitPacket
  debug := false
  sessions := ∅
  connections := ∅

theorem blank_zero (config : WorldConfig) :
    (blank false config Rng.zero : GameServer F) = lobby config := by
  unfold blank lobby
  rw [World.initFood_zero]

/-- A run on fixed inputs, by evaluation. -/
theorem exists_run {m : Libm F} {config : WorldConfig} {es : List Event}
    {check : GameServer F → Bool} (h : ((lobby config).replay m es).any check = true) :
    ∃ srv, Run (Step m) (blank false config Rng.zero) es srv ∧ check srv = true := by
  rw [blank_zero]
  cases hreplay : (lobby config : GameServer F).replay m es with
  | none =>
      rw [hreplay] at h
      cases h
  | some srv =>
      rw [hreplay] at h
      exact ⟨srv, run_of_replay hreplay, h⟩

/-- Handle some events as long as each one passes a check. -/
def replayWhere (m : Libm F) (ok : GameServer F → Event → Bool) (srv : GameServer F)
    (es : List Event) : Option (GameServer F) :=
  es.foldlM (fun srv e =>
    if ok srv e = true ∧ srv.Enabled e then (srv.handle m e).toOption else none) srv

private theorem run_of_replayWhere {m : Libm F} {ok : GameServer F → Event → Bool}
    {srv srv' : GameServer F} {es : List Event} (h : srv.replayWhere m ok es = some srv') :
    Run (fun s e t => ok s e = true ∧ s.Enabled e ∧ s.handle m e = .ok t) srv es srv' := by
  refine Run.of_foldlM (fun s => s) (fun s e t hstep => ?_) h
  split at hstep
  · rename_i hready
    cases hhandle : s.handle m e with
    | error err =>
        rw [hhandle] at hstep
        cases hstep
    | ok r =>
        rw [hhandle] at hstep
        cases hstep
        exact ⟨hready.1, hready.2, rfl⟩
  · cases hstep

/-- A run on fixed inputs whose steps all pass a check, by evaluation. -/
theorem exists_run_where {m : Libm F} {config : WorldConfig} {es : List Event}
    {ok : GameServer F → Event → Bool} {check : GameServer F → Bool}
    (h : ((lobby config).replayWhere m ok es).any check = true) :
    ∃ srv, Run (fun s e t => ok s e = true ∧ s.Enabled e ∧ s.handle m e = .ok t)
      (blank false config Rng.zero) es srv ∧ check srv = true := by
  rw [blank_zero]
  obtain ⟨srv, hreplay, hcheck⟩ := (Option.any_eq_true _ _).mp h
  exact ⟨srv, run_of_replayWhere hreplay, hcheck⟩

end GameServer

end Slither
