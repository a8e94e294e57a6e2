import Slither.Server.Handlers

/-!
# Sessions, connections and players

Sessions lead to snakes, snakes to connections, and connections back to sessions.  The three maps
are written in different orders by the handlers; between any two writes of a handler they may
disagree, after it they do not, and no lookup through them comes out at `end()`.
-/

set_option linter.unusedSectionVars false

namespace Slither

open Framework Snake

variable {F : Type} [Field F] [LinearOrder F] [FloorRing F]

namespace World

/-- Whether there is a snake under an id, and whether it is a bot. -/
def player? (w : World F) (id : SnakeId) : Option Bool := (w.getSnake id).map Snake.bot

private theorem player?_of_kept {w w' : World F} (h : w'.kept = w.kept) :
    w'.player? = w.player? := by
  funext id
  have hget := congrFun (congrArg Prod.fst h) id
  simp only [kept] at hget
  unfold player?
  have hbot : Snake.bot = (fun i : SnakeId × Bool × ℕ × Bool => i.2.1) ∘ Snake.ident (F := F) := rfl
  rw [hbot, ← Option.map_map, ← Option.map_map, hget]

theorem player?_store {w : World F} {s s' : Snake F} (hs : w.getSnake s'.id = some s)
    (hbot : s'.bot = s.bot) : (w.store s').player? = w.player? := by
  funext id
  unfold player? getSnake store
  rw [Keyed.find?_replace]
  split
  · rename_i h
    subst h
    have hs' : w.snakes.find? s'.id = some s := hs
    rw [hs']
    exact congrArg some hbot
  · rfl

private theorem player?_reorders {w w' : World F} (h : Reorders w w') : w'.player? = w.player? := by
  obtain ⟨snakes, hperm, rfl⟩ := h
  funext id
  unfold player? getSnake
  rw [Keyed.find?_perm hperm]

end World

namespace GameServer

/-- The snake a session controls. -/
def owner (srv : GameServer F) (hdl : ConnectionHdl) : Option SnakeId :=
  (srv.view hdl).map Prod.fst

theorem owner_deliverAll (srv : GameServer F) (ms : List (Message F)) :
    (srv.deliverAll ms).owner = srv.owner := by
  funext hdl
  unfold owner
  rw [view_deliverAll, Option.map_map]
  rfl

/-- Sessions, connections and players are in bijection. -/
structure Coherent (srv : GameServer F) : Prop where
  session : ∀ hdl id, srv.owner hdl = some id →
    srv.world.player? id = some false ∧ srv.connections.find? id = some ⟨id, hdl⟩
  player : ∀ id, srv.world.player? id = some false → ∃ hdl, srv.owner hdl = some id
  connection : ∀ id c, srv.connections.find? id = some c → srv.owner c.hdl = some id

namespace Coherent

variable {srv srv' : GameServer F}

theorem of_eq (h : srv.Coherent) (howner : srv'.owner = srv.owner)
    (hconn : srv'.connections = srv.connections)
    (hplayer : srv'.world.player? = srv.world.player?) : srv'.Coherent where
  session hdl id := by
    rw [howner, hconn, hplayer]
    exact h.session hdl id
  player id := by
    rw [howner, hplayer]
    exact h.player id
  connection id c := by
    rw [howner, hconn]
    exact h.connection id c

private theorem sends {ms : List (Message F)} {s s' : Snake F} (h : srv.Coherent)
    (hsend : Sends srv ms s' srv') (hs : srv.world.getSnake s'.id = some s)
    (hbot : s'.bot = s.bot) : srv'.Coherent := by
  apply h.of_eq
  · rw [hsend]
    exact owner_deliverAll srv ms
  · rw [hsend]
    exact connections_deliverAll srv ms
  · rw [hsend]
    exact World.player?_store hs hbot

theorem loadSessionIter (h : srv.Coherent) {id : SnakeId}
    (hid : srv.world.player? id = some false) :
    ∃ hdl, srv.loadSessionIter id = some hdl ∧ srv.owner hdl = some id := by
  obtain ⟨hdl, howner⟩ := h.player id hid
  refine ⟨hdl, ?_, howner⟩
  unfold GameServer.loadSessionIter
  rw [(h.session hdl id howner).2]
  obtain ⟨v, hv, -⟩ := Option.map_eq_some_iff.mp howner
  exact findSession_eq_some.mpr ⟨rfl, by simp [hv]⟩

private theorem removeOther (h : srv.Coherent) {id : SnakeId}
    (hid : srv.world.player? id ≠ some false) :
    (srv.removeSnake id).Coherent := by
  have hplayer : ∀ j, (srv.removeSnake id).world.player? j =
      if j = id then none else srv.world.player? j := by
    intro j
    unfold World.player? GameServer.removeSnake
    rw [World.getSnake_removeSnake]
    split <;> rfl
  have hne : ∀ hdl j, srv.owner hdl = some j → j ≠ id := by
    rintro hdl j howner rfl
    exact hid (h.session hdl j howner).1
  refine ⟨fun hdl j howner => ?_, fun j hj => ?_, fun j c hc => ?_⟩
  · have hj := hne hdl j howner
    obtain ⟨hp, hc⟩ := h.session hdl j howner
    refine ⟨by rw [hplayer, if_neg hj, hp], ?_⟩
    show (srv.connections.erase id).find? j = _
    rw [Keyed.find?_erase, if_neg hj, hc]
  · rw [hplayer] at hj
    split at hj
    · cases hj
    · exact h.player j hj
  · replace hc : (srv.connections.erase id).find? j = some c := hc
    rw [Keyed.find?_erase] at hc
    split at hc
    · cases hc
    · exact h.connection j c hc

private theorem close (h : srv.Coherent) (hdl : ConnectionHdl) : (srv.onClose hdl).Coherent := by
  unfold onClose
  cases hfind : srv.sessions.find? hdl with
  | none => exact h
  | some ses =>
      have howner : srv.owner hdl = some ses.snakeId := by simp [owner, view, hfind]
      have herase : ∀ h', ({ srv with sessions := srv.sessions.erase hdl } : GameServer F).owner h' =
          if h' = hdl then none else srv.owner h' := by
        intro h'
        unfold owner view
        rw [Keyed.find?_erase]
        split <;> rfl
      have hplayer : ∀ j, (srv.world.removeSnake ses.snakeId).player? j =
          if j = ses.snakeId then none else srv.world.player? j := by
        intro j
        unfold World.player?
        rw [World.getSnake_removeSnake]
        split <;> rfl
      have hsame : ∀ h', srv.owner h' = some ses.snakeId → h' = hdl := by
        intro h' hh'
        have hc := (h.session hdl _ howner).2
        have hc' := (h.session h' _ hh').2
        rw [hc] at hc'
        exact (congrArg Connection.hdl (Option.some.inj hc')).symm
      refine ⟨fun h' j hj => ?_, fun j hj => ?_, fun j c hc => ?_⟩
      · replace hj : (if h' = hdl then none else srv.owner h') = some j := (herase h') ▸ hj
        split at hj
        · cases hj
        · rename_i hne
          have hjne : j ≠ ses.snakeId := by
            rintro rfl
            exact hne (hsame h' hj)
          obtain ⟨hp, hc⟩ := h.session h' j hj
          refine ⟨(hplayer j).trans (by rw [if_neg hjne, hp]), ?_⟩
          show (srv.connections.erase ses.snakeId).find? j = _
          rw [Keyed.find?_erase, if_neg hjne, hc]
      · replace hj : (srv.world.removeSnake ses.snakeId).player? j = some false := hj
        rw [hplayer] at hj
        split at hj
        · cases hj
        · rename_i hjne
          obtain ⟨h', hh'⟩ := h.player j hj
          refine ⟨h', (herase h').trans ?_⟩
          rw [if_neg, hh']
          rintro rfl
          exact hjne (Option.some.inj (hh'.symm.trans howner))
      · replace hc : (srv.connections.erase ses.snakeId).find? j = some c := hc
        rw [Keyed.find?_erase] at hc
        split at hc
        · cases hc
        · rename_i hjne
          have hcown := h.connection j c hc
          refine (herase c.hdl).trans ?_
          rw [if_neg, hcown]
          intro heq
          rw [heq] at hcown
          exact hjne (Option.some.inj (hcown.symm.trans howner))

private theorem join (h : srv.Coherent) {w : World F} {hdl : ConnectionHdl} {s : Snake F}
    (hw : w.snakes = srv.world.snakes) (hbot : s.bot = false) (hfresh : w.getSnake s.id = none)
    (hfree : srv.owner hdl = none) : (srv.join w hdl s).Coherent := by
  have howner : ∀ h', (srv.join w hdl s).owner h' = if hdl = h' then some s.id else srv.owner h' := by
    intro h'
    unfold owner
    rw [view_join]
    split <;> rfl
  have hconn : ∀ j, (srv.join w hdl s).connections.find? j =
      if s.id = j then some ⟨s.id, hdl⟩ else srv.connections.find? j :=
    fun j => Keyed.find?_assign _ _ _
  have hplayer : ∀ j, (srv.join w hdl s).world.player? j =
      if s.id = j then some false else srv.world.player? j := by
    intro j
    show ((w.snakes.insert s).find? j).map Snake.bot = _
    rw [Keyed.find?_insert hfresh, hw]
    split
    · exact congrArg some hbot
    · rfl
  have hnone : srv.world.player? s.id = none := by
    unfold World.player? World.getSnake
    rw [← hw]
    exact congrArg (Option.map Snake.bot) hfresh
  refine ⟨fun h' j hj => ?_, fun j hj => ?_, fun j c hc => ?_⟩
  · rw [howner] at hj
    split at hj
    · rename_i heq
      cases hj
      rw [hplayer, hconn, if_pos rfl, if_pos rfl, heq]
      exact ⟨rfl, rfl⟩
    · obtain ⟨hp, hc⟩ := h.session h' j hj
      have hjne : s.id ≠ j := by
        rintro rfl
        rw [hnone] at hp
        cases hp
      rw [hplayer, hconn, if_neg hjne, if_neg hjne]
      exact ⟨hp, hc⟩
  · rw [hplayer] at hj
    split at hj
    · rename_i heq
      exact ⟨hdl, by rw [howner, if_pos rfl, heq]⟩
    · obtain ⟨h', hh'⟩ := h.player j hj
      refine ⟨h', ?_⟩
      rw [howner, if_neg, hh']
      rintro rfl
      rw [hfree] at hh'
      cases hh'
  · rw [hconn] at hc
    split at hc
    · rename_i heq
      cases hc
      rw [howner, if_pos rfl, heq]
    · have hcown := h.connection j c hc
      rw [howner, if_neg, hcown]
      intro heq
      rw [← heq, hfree] at hcown
      cases hcown

end Coherent

/-- While an update is under way the snakes to be cleaned up are still there; none is a player. -/
structure Updating (srv : GameServer F) : Prop where
  coherent : srv.Coherent
  dead : ∀ id ∈ srv.world.dead, srv.world.player? id ≠ some false

private theorem Updating.buries {srv srv' : GameServer F} {s : Snake F} (h : srv.Updating)
    (hs : srv.world.getSnake s.id = some s) (hb : Buries srv s srv') : srv'.Updating := by
  obtain ⟨spawn, ss, rng, -, rfl⟩ := hb
  have hplayer : (srv.world.store s.buried).player? = srv.world.player? :=
    World.player?_store hs rfl
  refine ⟨h.coherent.of_eq (owner_deliverAll srv _) (connections_deliverAll srv _) hplayer,
    fun id hid => ?_⟩
  show (srv.world.store s.buried).player? id ≠ some false
  rw [hplayer]
  cases hbot : s.bot with
  | false =>
      replace hid : id ∈ if s.bot = true then srv.world.dead ++ [s.id] else srv.world.dead := hid
      rw [hbot] at hid
      exact h.dead id hid
  | true =>
      replace hid : id ∈ if s.bot = true then srv.world.dead ++ [s.id] else srv.world.dead := hid
      rw [if_pos hbot] at hid
      rcases List.mem_append.mp hid with hid | hid
      · exact h.dead id hid
      · rw [List.mem_singleton.mp hid, World.player?, hs]
        simp [hbot]

/-- A round of `BroadcastUpdates`: a living player has a session to send to. -/
theorem Updating.broadcastUpdate {srv : GameServer F} {s : Snake F} (h : srv.Updating)
    (hs : srv.world.getSnake s.id = some s) :
    Post (srv.broadcastUpdate s.id) Updating (fun e => e ≠ .endIterator) := by
  refine (broadcastUpdate_post hs).mono ?_ ?_
  · rintro r ⟨hdead, hdying, halive⟩
    cases hd : s.update.changeDead with
    | true =>
        rw [hdead hd]
        exact h
    | false =>
        cases hy : s.update.changeDying with
        | true => exact h.buries hs (hdying hd hy)
        | false =>
            have hsend := halive hd hy
            obtain ⟨hid, hbot, -⟩ := announced_frame s
            have hget : srv.world.getSnake s.announced.id = some s := hid.symm ▸ hs
            refine ⟨h.coherent.sends hsend hget hbot, fun j hj => ?_⟩
            rw [hsend] at hj ⊢
            show (srv.world.store s.announced).player? j ≠ some false
            rw [World.player?_store hget hbot]
            exact h.dead j hj
  · rintro e he rfl
    obtain ⟨hbot, hnone⟩ := he rfl
    have hplayer : srv.world.player? s.id = some false := by
      rw [World.player?, hs]
      exact congrArg some hbot
    obtain ⟨hdl, hses, -⟩ := h.coherent.loadSessionIter hplayer
    rw [hnone] at hses
    cases hses

private theorem Updating.removeDeadSnakes {srv : GameServer F} (h : srv.Updating) :
    srv.removeDeadSnakes.Coherent := by
  have hfold := foldl_inv (f := GameServer.removeSnake)
    (fun ids (r : GameServer F) => r.Coherent ∧ ∀ id ∈ ids, r.world.player? id ≠ some false)
    (fun id rest r hr => ?_) srv.world.dead srv ⟨h.coherent, h.dead⟩
  · exact hfold.1.of_eq rfl rfl rfl
  · refine ⟨hr.1.removeOther (hr.2 id (List.mem_cons_self ..)), fun j hj => ?_⟩
    have hj' := hr.2 j (List.mem_cons_of_mem _ hj)
    show (r.world.removeSnake id).player? j ≠ some false
    unfold World.player?
    rw [World.getSnake_removeSnake]
    split
    · exact nofun
    · exact hj'

/-- Between two events no snake waits to be cleaned up. -/
structure Idle (srv : GameServer F) : Prop where
  coherent : srv.Coherent
  dead : srv.world.dead = []

private theorem Idle.touches {srv srv' : GameServer F} (h : srv.Idle) (ht : Touches srv srv') :
    srv'.Idle := by
  obtain ⟨ms, -, hview⟩ := ht.view
  have howner : srv'.owner = srv.owner := by
    funext hdl
    rw [← owner_deliverAll srv ms, owner, owner, hview]
  rcases ht.world with hw | ⟨s, s', hs, hkept, -, hw⟩
  · exact ⟨h.coherent.of_eq howner ht.connections (by rw [hw]), by rw [hw]; exact h.dead⟩
  · have hid : s'.id = s.id := congrArg (fun k => k.1) hkept
    have hbot : s'.bot = s.bot := congrArg (fun k => k.2.1) hkept
    refine ⟨h.coherent.of_eq howner ht.connections ?_, by rw [hw]; exact h.dead⟩
    rw [hw, World.player?_store (hid.symm ▸ hs) hbot]

theorem Idle.ticked {srv : GameServer F} {w : World F} (h : srv.Idle)
    (hw : w.kept = srv.world.kept) (ms : List (Message F)) :
    ((srv.setWorld w).deliverAll ms).Updating := by
  have hplayer := World.player?_of_kept hw
  have hdead : w.dead = srv.world.dead := congrArg (fun k => k.2.1) hw
  refine ⟨h.coherent.of_eq (owner_deliverAll _ ms) (connections_deliverAll _ ms) ?_, ?_⟩
  · rw [world_deliverAll]
    exact hplayer
  · rw [world_deliverAll]
    intro id hid
    replace hid : id ∈ w.dead := hid
    rw [hdead, h.dead] at hid
    cases hid

theorem Coherent.getSnake {srv : GameServer F} {ses : Session F} (h : srv.Coherent)
    (hses : ses ∈ srv.sessions) : srv.world.getSnake ses.snakeId ≠ none := by
  intro hnone
  have howner : srv.owner ses.hdl = some ses.snakeId := by
    simp [owner, view, Keyed.find?_key hses]
  have hplayer := (h.session ses.hdl _ howner).1
  rw [World.player?, hnone] at hplayer
  cases hplayer

/-- Every event keeps the bijection, and no event dereferences an `end()` iterator. -/
theorem Idle.handle {m : Libm F} {srv : GameServer F} {e : Event} (h : srv.Idle)
    (hen : srv.Enabled e) :
    Post (srv.handle m e) Idle (fun e => e ≠ .endIterator) := by
  cases e with
  | opened hdl =>
      refine (onOpen_post m srv hdl).mono ?_ ?_
      swap
      · rintro e (he | ⟨rfl, -⟩)
        · rw [(World.createSnake_post m srv.world).of_error he]
          exact nofun
        · exact nofun
      rintro r ⟨s, w, hcreate, hfresh, hsend⟩
      obtain ⟨-, hbot, hsnakes, hdead, -⟩ := (World.create_fresh m false srv.world).of_ok hcreate
      have hfree : srv.owner hdl = none := by
        have hnone : srv.sessions.find? hdl = none := hen
        simp [owner, view, hnone]
      have hjoin := h.coherent.join hsnakes hbot hfresh hfree
      have hget : (srv.join w hdl s).world.getSnake s.povSent.id = some s := by
        show (w.snakes.insert s).find? s.id = some s
        rw [Keyed.find?_insert hfresh, if_pos rfl]
      refine ⟨hjoin.sends hsend hget rfl, ?_⟩
      rw [hsend]
      exact hdead.trans h.dead
  | message hdl binary payload =>
      refine (onMessage_post m srv hdl binary payload).mono (fun r hr => h.touches hr) ?_
      rintro e ⟨-, ses, hses, hnone⟩
      exact absurd hnone (h.coherent.getSnake hses)
  | closed hdl =>
      refine ⟨h.coherent.close hdl, ?_⟩
      have hdead : ∀ id, (srv.world.removeSnake id).dead = srv.world.dead := by
        intro id
        unfold World.removeSnake
        dsimp only
        split <;> rfl
      show (srv.onClose hdl).world.dead = []
      unfold onClose
      split
      · exact (hdead _).trans h.dead
      · exact h.dead
  | timer ec dt =>
      apply onTimer_rule fun _ => Updating
      · exact h
      · exact nofun
      · exact (World.tick_kept m dt srv.world).mono (fun w hw ms _ => h.ticked hw ms) fun _ he => he
      · exact fun s rest r hr hs => hr.broadcastUpdate hs
      · intro r hr
        have hflush : (r.setWorld r.world.flushChanges).Updating :=
          ⟨hr.coherent.of_eq rfl rfl rfl, hr.dead⟩
        exact ⟨hflush.removeDeadSnakes, rfl⟩

theorem Idle.reorders {srv : GameServer F} {w : World F} (h : srv.Idle)
    (hw : World.Reorders srv.world w) : (srv.setWorld w).Idle := by
  refine ⟨h.coherent.of_eq rfl rfl (World.player?_reorders hw), ?_⟩
  obtain ⟨snakes, -, rfl⟩ := hw
  exact h.dead

theorem run_idle {m : Libm F} {debug : Bool} {config : WorldConfig} {rng : Rng}
    {srv₀ srv : GameServer F} {es : List Event} (hstart : run m debug config rng = .ok srv₀)
    (hrun : Run (Step m) srv₀ es srv) : srv.Idle := by
  obtain ⟨w, hinit, hsrv⟩ := bind_eq_ok.mp hstart
  have hw := (World.init_initial m config rng).of_ok hinit
  refine hrun.state_invariant ?_ ?_
  · have howner : ∀ hdl, srv₀.owner hdl = none := by
      intro hdl
      rw [owner, view_start hstart]
      rfl
    cases hsrv
    refine ⟨⟨fun hdl id hid => ?_, fun id hid => ?_, nofun⟩, hw.dead⟩
    · rw [howner] at hid
      cases hid
    obtain ⟨s, hs, hbot⟩ := Option.map_eq_some_iff.mp hid
    rw [(hw.fresh s (Keyed.mem_of_find? hs)).2] at hbot
    cases hbot
  · rintro t e u ht ⟨hen, w', hreorder, hhandle⟩
    exact ((ht.reorders hreorder).handle hen).of_ok hhandle

/-- Sessions, connections and players are in bijection in every reachable state, and no event leads
to a dereference of an `end()` iterator.  The number of snakes is not bounded: a run ends at the
first id that is given out twice. -/
theorem sessions_coherent (m : Libm F) (debug : Bool) (config : WorldConfig) (rng : Rng)
    {srv₀ srv : GameServer F} {es : List Event} (hstart : run m debug config rng = .ok srv₀)
    (hrun : Run (Step m) srv₀ es srv) :
    (∀ ses ∈ srv.sessions,
      (∃ s, srv.world.getSnake ses.snakeId = some s ∧ s.bot = false) ∧
      srv.connections.find? ses.snakeId = some ⟨ses.snakeId, ses.hdl⟩) ∧
    (∀ c ∈ srv.connections, ∃ ses, srv.sessions.find? c.hdl = some ses ∧
      ses.snakeId = c.snakeId) ∧
    (∀ s ∈ srv.world.snakes, s.bot = false → ∃! ses, ses ∈ srv.sessions ∧ ses.snakeId = s.id) ∧
    ∀ w e, World.Reorders srv.world w → srv.Enabled e →
      (srv.setWorld w).handle m e ≠ .error .endIterator := by
  have hidle := run_idle hstart hrun
  have hcoh := hidle.coherent
  have howner : ∀ ses ∈ srv.sessions, srv.owner ses.hdl = some ses.snakeId := by
    intro ses hses
    simp [owner, view, Keyed.find?_key hses]
  have hsession : ∀ hdl id, srv.owner hdl = some id →
      ∃ ses, srv.sessions.find? hdl = some ses ∧ ses.snakeId = id := by
    intro hdl id h
    obtain ⟨v, hv, rfl⟩ := Option.map_eq_some_iff.mp h
    obtain ⟨ses, hses, rfl⟩ := Option.map_eq_some_iff.mp hv
    exact ⟨ses, hses, rfl⟩
  refine ⟨fun ses hses => ?_, fun c hc => ?_, fun s hs hbot => ?_, fun w e hw hen hend => ?_⟩
  · obtain ⟨hplayer, hconn⟩ := hcoh.session ses.hdl ses.snakeId (howner ses hses)
    exact ⟨Option.map_eq_some_iff.mp hplayer, hconn⟩
  · exact hsession c.hdl c.snakeId (hcoh.connection c.snakeId c (Keyed.find?_key hc))
  · have hplayer : srv.world.player? s.id = some false := by
      rw [World.player?, World.getSnake, Keyed.find?_key hs]
      exact congrArg some hbot
    obtain ⟨hdl, hown⟩ := hcoh.player s.id hplayer
    obtain ⟨ses, hses, hid⟩ := hsession hdl s.id hown
    have hmem := Keyed.mem_of_find? hses
    refine ⟨ses, ⟨hmem, hid⟩, ?_⟩
    rintro ses' ⟨hses', hid'⟩
    -- both sessions are the one the connection of the snake leads to
    have hconn := (hcoh.session ses.hdl _ (howner ses hmem)).2
    have hconn' := (hcoh.session ses'.hdl _ (howner ses' hses')).2
    rw [hid, ← hid', hconn'] at hconn
    have hhdl : ses'.hdl = ses.hdl := congrArg Connection.hdl (Option.some.inj hconn)
    exact Keyed.mem_unique srv.sessions hses' hmem hhdl
  · exact ((hidle.reorders hw).handle (e := e) hen).of_error hend rfl

/-- A dead player who is still connected and one who has joined. -/
theorem sessions_coherent_rejoined :
    ∃ srv : GameServer ℚ,
      Run (Step Libm.axis) (blank false {} Rng.zero)
        [.opened 1, .opened 2, .timer false 232, .closed 1, .opened 3] srv ∧
      (srv.connections.entries.map fun c => (c.snakeId, c.hdl)) = [(2, 2), (3, 3)] ∧
      (∀ c ∈ srv.connections, ∃ ses, srv.sessions.find? c.hdl = some ses ∧
        ses.snakeId = c.snakeId) ∧
      (srv.setWorld srv.world).handle Libm.axis (.message 2 true [253]) ≠ .error .endIterator := by
  let check : GameServer ℚ → Bool := fun srv =>
    decide ((srv.connections.entries.map fun c => (c.snakeId, c.hdl)) = [(2, 2), (3, 3)])
  have heval : ((lobby {}).replay Libm.axis
      [.opened 1, .opened 2, .timer false 232, .closed 1, .opened 3]).any check = true := by
    decide +kernel
  obtain ⟨srv, hrun, hcheck⟩ := exists_run heval
  have h := sessions_coherent Libm.axis false {} Rng.zero (run_blank _ _ _ rfl) hrun
  exact ⟨srv, hrun, of_decide_eq_true hcheck, h.2.1,
    h.2.2.2 srv.world _ ⟨srv.world.snakes, .refl _, rfl⟩ trivial⟩

end GameServer

end Slither
