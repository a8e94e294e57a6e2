import Slither.Server.Handlers

/-!
# Which snakes a client has

A client that follows its packets has the snakes that are alive, as long as no player leaves alive
while others watch and nobody joins while a dead player is still connected.
-/

set_option linter.unusedSectionVars false

namespace Slither

open Framework Snake

variable {F : Type} [Field F] [LinearOrder F] [FloorRing F]

namespace World

/-- There is a snake under this id, and its removal has not been announced. -/
def alive (w : World F) (id : SnakeId) : Bool :=
  (w.getSnake id).any fun s => !s.update.changeDead

private theorem alive_iff (w : World F) (id : SnakeId) :
    w.alive id = true ↔ ∃ s ∈ w.snakes, s.id = id ∧ s.update.changeDead = false := by
  unfold alive
  cases hget : w.getSnake id with
  | none =>
      have hnone := Keyed.find?_eq_none.mp hget
      simp only [Option.any_none, Bool.false_eq_true, false_iff, not_exists, not_and]
      exact fun s hs hid => absurd hid (hnone s hs)
  | some s =>
      obtain ⟨hs, hid⟩ := Keyed.find?_eq_some.mp hget
      simp only [Option.any_some, Bool.not_eq_true']
      constructor
      · exact fun hlive => ⟨s, hs, hid, hlive⟩
      · rintro ⟨t, ht, htid, hlive⟩
        rwa [Keyed.mem_unique w.snakes hs ht (hid.trans htid.symm)]

private theorem alive_of_kept {w w' : World F} (h : w'.kept = w.kept) : w'.alive = w.alive := by
  funext id
  have hget := congrFun (congrArg Prod.fst h) id
  simp only [kept] at hget
  have hfactor : ∀ o : Option (Snake F), (o.any fun s => !s.update.changeDead) =
      (o.map ident).any fun i => !i.2.2.2 := by
    intro o
    cases o <;> rfl
  unfold alive
  rw [hfactor, hfactor, hget]

private theorem alive_store {w : World F} {s : Snake F} {id : SnakeId}
    (hs : (w.getSnake s.id).isSome) :
    (w.store s).alive id = if s.id = id then !s.update.changeDead else w.alive id := by
  obtain ⟨t, ht⟩ := Option.isSome_iff_exists.mp hs
  unfold alive getSnake store
  rw [Keyed.find?_replace]
  split
  · rename_i h
    subst h
    have ht' : w.snakes.find? s.id = some t := ht
    rw [ht']
    rfl
  · rfl

private theorem alive_reorders {w w' : World F} (h : Reorders w w') : w'.alive = w.alive := by
  obtain ⟨snakes, hperm, rfl⟩ := h
  funext id
  unfold alive getSnake
  rw [Keyed.find?_perm hperm]

end World

namespace GameServer

/-- What every open session has been told agrees with the world. -/
def RosterView (srv : GameServer F) : Prop :=
  ∀ hdl v, srv.view hdl = some v → ∀ id, holdsSnake v.2 id = srv.world.alive id

private theorem holdsSnake_received (ps : List (Packet F)) (ms : List (Message F))
    (hdl : ConnectionHdl) (id : SnakeId) :
    holdsSnake (ps ++ received hdl ms) id =
      (received hdl (Message.ofKind Packet.isRoster ms)).foldl (Packet.stepRoster id)
        (holdsSnake ps id) := (Replica.roster id).held_received ps ms hdl

private theorem RosterView.delivers {srv srv' : GameServer F} (h : srv.RosterView)
    (ms : List (Message F)) (hview : ∀ hdl, srv'.view hdl = (srv.deliverAll ms).view hdl)
    (htell : ∀ hdl id, (received hdl (Message.ofKind Packet.isRoster ms)).foldl
      (Packet.stepRoster id) (srv.world.alive id) = srv'.world.alive id) : srv'.RosterView := by
  intro hdl v hv id
  rw [hview, view_deliverAll] at hv
  obtain ⟨v₀, hv₀, rfl⟩ := Option.map_eq_some_iff.mp hv
  rw [holdsSnake_received, h hdl v₀ hv₀, htell]

private theorem RosterView.silent {srv srv' : GameServer F} (h : srv.RosterView)
    (ms : List (Message F)) (hview : ∀ hdl, srv'.view hdl = (srv.deliverAll ms).view hdl)
    (hms : Message.ofKind Packet.isRoster ms = []) (halive : srv'.world.alive = srv.world.alive) :
    srv'.RosterView := by
  apply h.delivers ms hview
  intro hdl id
  rw [hms, halive]
  rfl

private theorem ofKind_isRoster_povMessages (ss : SectorSeq) (hdl : ConnectionHdl) (s : Snake F) :
    Message.ofKind Packet.isRoster (povMessages ss hdl s) = [] := by
  apply Message.ofKind_eq_nil
  intro msg hmsg
  rcases List.mem_append.mp hmsg with hmsg | hmsg
  · obtain ⟨p, -, hp⟩ := List.mem_flatMap.mp hmsg
    rcases List.mem_pair.mp hp with rfl | rfl <;> rfl
  · obtain ⟨p, -, rfl⟩ := List.mem_map.mp hmsg
    rfl

theorem ofKind_isRoster_announcement (ss : SectorSeq) (sesI : SessionIter) (s : Snake F) :
    Message.ofKind Packet.isRoster (announcement ss sesI s) = [] := by
  have hlength : ∀ t : Snake F, Message.ofKind Packet.isRoster (lengthMessages t) = [] := by
    intro t
    unfold lengthMessages
    split
    · rfl
    · split <;> rfl
  rw [Message.ofKind_announcement silent_isRoster, hlength]
  split
  · split
    · rfl
    · cases sesI with
      | none => rfl
      | some hdl => exact ofKind_isRoster_povMessages ss hdl _
  · rfl

/-- While an update is under way the snakes to be cleaned up are dead. -/
structure RosterUpdating (srv : GameServer F) : Prop where
  view : srv.RosterView
  dead : ∀ id ∈ srv.world.dead, srv.world.alive id = false

private theorem RosterUpdating.buries {srv srv' : GameServer F} {s : Snake F}
    (h : srv.RosterUpdating)
    (hs : srv.world.getSnake s.id = some s) (hb : Buries srv s srv') : srv'.RosterUpdating := by
  obtain ⟨spawn, ss, rng, -, rfl⟩ := hb
  have hsome : (srv.world.getSnake s.buried.id).isSome := by
    show (srv.world.getSnake s.id).isSome
    rw [hs]
    rfl
  have halive : ∀ id, (srv.world.store s.buried).alive id =
      if s.id = id then false else srv.world.alive id := by
    intro id
    rw [World.alive_store hsome]
    simp [buried, markDead, foodSent]
  refine ⟨?_, fun id hid => ?_⟩
  · refine h.view.delivers (endMessages (srv.loadSessionIter s.id) s ++
      removalMessages { s with spawn := spawn }) (fun hdl => ?_) fun hdl id => ?_
    · rfl
    rw [Message.ofKind_removal silent_isRoster]
    show _ = (srv.world.store s.buried).alive id
    rw [halive]
    show ([.removeSnake s.id _, .removeSnake s.id _] : List (Packet F)).foldl
      (Packet.stepRoster id) (srv.world.alive id) = _
    by_cases hid : s.id = id <;> simp [Packet.stepRoster, hid]
  · show (srv.world.store s.buried).alive id = false
    rw [halive]
    split
    · rfl
    · rename_i hne
      replace hid : id ∈ if s.bot = true then srv.world.dead ++ [s.id] else srv.world.dead := hid
      split at hid
      · rcases List.mem_append.mp hid with hid | hid
        · exact h.dead id hid
        · exact absurd (List.mem_singleton.mp hid).symm hne
      · exact h.dead id hid

private theorem RosterUpdating.broadcastUpdate {srv : GameServer F} {s : Snake F}
    (h : srv.RosterUpdating) (hs : srv.world.getSnake s.id = some s) :
    Post (srv.broadcastUpdate s.id) RosterUpdating (fun _ => True) := by
  refine (broadcastUpdate_post hs).mono ?_ fun _ _ => trivial
  rintro r ⟨hdead, hdying, halive⟩
  cases hd : s.update.changeDead with
  | true =>
      rw [hdead hd]
      exact h
  | false =>
      cases hy : s.update.changeDying with
      | true => exact h.buries hs (hdying hd hy)
      | false =>
          have hsend := halive hd hy
          have hid := (announced_frame s).1
          have hflag : s.announced.update.changeDead = s.update.changeDead :=
            (announced_frame s).2.2.2.2
          have hsame : (srv.world.store s.announced).alive = srv.world.alive := by
            funext id
            rw [World.alive_store (by rw [hid, hs]; rfl), hid]
            split
            · rename_i heq
              rw [← heq, World.alive, hs, hflag]
              rfl
            · rfl
          rw [hsend]
          refine ⟨h.view.silent _ (fun _ => rfl) (ofKind_isRoster_announcement _ _ s) hsame,
            fun id hid => ?_⟩
          show (srv.world.store s.announced).alive id = false
          rw [hsame]
          exact h.dead id hid

private theorem alive_removeSnake (w : World F) (id j : SnakeId) :
    (w.removeSnake id).alive j = if j = id then false else w.alive j := by
  unfold World.alive
  rw [World.getSnake_removeSnake]
  split <;> rfl

private theorem RosterUpdating.removeDeadSnakes {srv : GameServer F} (h : srv.RosterUpdating) :
    srv.removeDeadSnakes.RosterView := by
  have hfold := foldl_inv (f := GameServer.removeSnake)
    (fun ids (r : GameServer F) => r.RosterView ∧ ∀ id ∈ ids, r.world.alive id = false)
    (fun id rest r hr => ?_) srv.world.dead srv ⟨h.view, h.dead⟩
  · exact hfold.1
  · have hsame : (r.removeSnake id).world.alive = r.world.alive := by
      funext j
      show (r.world.removeSnake id).alive j = _
      rw [alive_removeSnake]
      split
      · rename_i hj
        rw [hj, hr.2 id (List.mem_cons_self ..)]
      · rfl
    refine ⟨fun hdl v hv j => ?_, fun j hj => ?_⟩
    · rw [hsame]
      exact hr.1 hdl v hv j
    · rw [hsame]
      exact hr.2 j (List.mem_cons_of_mem _ hj)

/-- A connection is opened when no snake is dead, and a session is closed when its snake is dead or
nobody else is there. -/
def UndisturbedRoster (srv : GameServer F) : Event → Prop
  | .opened _ => ∀ s ∈ srv.world.snakes, s.update.changeDead = false
  | .closed hdl => ∀ ses, srv.sessions.find? hdl = some ses →
      srv.world.alive ses.snakeId = false ∨ ∀ ses' ∈ srv.sessions, ses'.hdl = hdl
  | _ => True

/-- Between two events. -/
structure RosterIdle (srv : GameServer F) : Prop where
  view : srv.RosterView
  dead : srv.world.dead = []

private theorem foldl_addSnake (ts : List (Snake F)) (id : SnakeId) (held : Bool) :
    (ts.map Packet.addSnake).foldl (Packet.stepRoster id) held =
      (held || ts.any fun t => t.id = id) := by
  induction ts generalizing held with
  | nil => simp
  | cons t ts ih =>
      rw [List.map_cons, List.foldl_cons, ih, List.any_cons]
      by_cases h : t.id = id <;> simp [Packet.stepRoster, h]

private theorem RosterIdle.opened {srv r : GameServer F} {m : Libm F} {hdl : ConnectionHdl}
    {s : Snake F}
    {w : World F} (h : srv.RosterIdle) (hcond : ∀ t ∈ srv.world.snakes, t.update.changeDead = false)
    (hcreate : srv.world.createSnake m = .ok (s, w)) (hfree : w.getSnake s.id = none)
    (hsend : Sends (srv.join w hdl s) (welcomeMessages srv.init w.sectors hdl s w.snakes.entries)
      s.povSent r) : r.RosterIdle := by
  obtain ⟨hfresh, -, hsnakes, hdead, -⟩ := (World.create_fresh m false srv.world).of_ok hcreate
  have hlive : s.povSent.update.changeDead = false := by
    show s.update.changeDead = false
    rw [hfresh.update]
    rfl
  have hget := getSnake_opened hcreate hfree
  have hsome : ((w.addSnake s).getSnake s.povSent.id).isSome := by
    show ((w.addSnake s).getSnake s.id).isSome
    rw [hget, if_pos rfl]
    rfl
  have halive : ∀ id, r.world.alive id = if s.id = id then true else srv.world.alive id := by
    intro id
    rw [hsend]
    show ((w.addSnake s).store s.povSent).alive id = _
    rw [World.alive_store hsome, hlive]
    show (if s.id = id then _ else _) = _
    by_cases hid : s.id = id
    · simp [hid]
    · rw [if_neg hid, if_neg hid, World.alive, hget, if_neg hid, World.alive]
  refine ⟨fun h' v hv id => ?_, by rw [hsend]; exact hdead.trans h.dead⟩
  rw [view_opened hsend] at hv
  obtain ⟨v₀, hv₀, rfl⟩ := Option.map_eq_some_iff.mp hv
  rw [holdsSnake_received, received_welcome silent_isRoster (fun _ => rfl) (fun _ _ => ⟨rfl, rfl⟩),
    List.foldl_cons, halive]
  by_cases hh : hdl = h'
  · rw [if_pos hh] at hv₀ ⊢
    cases hv₀
    have hothers : w.snakes.entries.any (fun t => decide (t.id = id)) = srv.world.alive id := by
      rw [Bool.eq_iff_iff, List.any_eq_true, World.alive_iff, hsnakes]
      simp only [decide_eq_true_eq]
      exact ⟨fun ⟨t, ht, hid⟩ => ⟨t, ht, hid, hcond t ht⟩, fun ⟨t, ht, hid, _⟩ => ⟨t, ht, hid⟩⟩
    rw [foldl_addSnake, hothers]
    by_cases hid : s.id = id <;> simp [Packet.stepRoster, holdsSnake, hid]
  · rw [if_neg hh] at hv₀ ⊢
    rw [List.foldl_nil, h.view h' v₀ hv₀]
    rfl

private theorem RosterIdle.closed {srv : GameServer F} {hdl : ConnectionHdl} (h : srv.RosterIdle)
    (hcond : srv.UndisturbedRoster (.closed hdl)) : (srv.onClose hdl).RosterIdle := by
  unfold onClose
  cases hfind : srv.sessions.find? hdl with
  | none => exact h
  | some ses =>
      have hdead : ∀ id, (srv.world.removeSnake id).dead = srv.world.dead := by
        intro id
        unfold World.removeSnake
        dsimp only
        split <;> rfl
      refine ⟨fun h' v hv id => ?_, (hdead _).trans h.dead⟩
      replace hv : ((srv.sessions.erase hdl).find? h').map (fun ses => (ses.snakeId, ses.sent)) =
          some v := hv
      rw [Keyed.find?_erase] at hv
      split at hv
      · cases hv
      · rename_i hne
        show _ = (srv.world.removeSnake ses.snakeId).alive id
        rw [alive_removeSnake, h.view h' v hv id]
        rcases hcond ses hfind with hgone | honly
        · split
          · rename_i hid
            rw [hid, hgone]
          · rfl
        · obtain ⟨ses', hses', -⟩ := Option.map_eq_some_iff.mp hv
          have hhdl := honly ses' (Keyed.mem_of_find? hses')
          rw [Keyed.key_of_find? hses'] at hhdl
          exact absurd hhdl hne

private theorem RosterIdle.handle {m : Libm F} {srv : GameServer F} {e : Event} (h : srv.RosterIdle)
    (hcond : srv.UndisturbedRoster e) : Post (srv.handle m e) RosterIdle (fun _ => True) := by
  cases e with
  | opened hdl =>
      refine (onOpen_post m srv hdl).mono ?_ fun _ _ => trivial
      rintro r ⟨s, w, hcreate, hfree, hsend⟩
      exact h.opened hcond hcreate hfree hsend
  | message hdl binary payload =>
      refine (onMessage_post m srv hdl binary payload).mono (fun r hr => ?_) fun _ _ => trivial
      obtain ⟨ms, hpong, hview⟩ := hr.view
      have hms : Message.ofKind Packet.isRoster ms = [] := by
        apply Message.ofKind_eq_nil
        intro msg hmsg
        rw [hpong msg hmsg]
        rfl
      rcases hr.world with hw | ⟨s, s', hs, hkept, -, hw⟩
      · exact ⟨h.view.silent _ hview hms (by rw [hw]), by rw [hw]; exact h.dead⟩
      · refine ⟨h.view.silent _ hview hms ?_, by rw [hw]; exact h.dead⟩
        rw [hw]
        exact World.alive_of_kept (World.kept_store (Keyed.mem_of_find? hs) (ident_of_kept hkept))
  | closed hdl => exact h.closed hcond
  | timer ec dt =>
      apply onTimer_rule fun _ => RosterUpdating
      · exact h
      · trivial
      · refine (World.tick_kept m dt srv.world).mono (fun w hw ms hms => ?_) fun _ _ => trivial
        have halive := World.alive_of_kept hw
        have hdead : w.dead = srv.world.dead := congrArg (fun k => k.2.1) hw
        have hworld : ((srv.setWorld w).deliverAll ms).world = w := world_deliverAll _ ms
        refine ⟨h.view.silent ms (fun hdl => ?_) ?_ ?_, fun id hid => ?_⟩
        · rw [view_deliverAll, view_deliverAll]
          rfl
        · apply Message.ofKind_eq_nil
          intro msg hmsg
          obtain ⟨c, hc⟩ := hms msg hmsg
          rw [hc]
          rfl
        · rw [hworld, halive]
        · rw [hworld, hdead, h.dead] at hid
          cases hid
      · exact fun s rest r hr hs => hr.broadcastUpdate hs
      · intro r hr
        have hflush : (r.setWorld r.world.flushChanges).RosterUpdating := ⟨hr.view, hr.dead⟩
        exact ⟨hflush.removeDeadSnakes, rfl⟩

private theorem run_rosterIdle {m : Libm F} {debug : Bool} {config : WorldConfig} {rng : Rng}
    {srv₀ srv : GameServer F} {es : List Event} (hstart : run m debug config rng = .ok srv₀)
    (hrun : Run (fun s e t => Step m s e t ∧ s.UndisturbedRoster e) srv₀ es srv) :
    srv.RosterIdle := by
  obtain ⟨w, hinit, hsrv⟩ := bind_eq_ok.mp hstart
  have hw := (World.init_initial m config rng).of_ok hinit
  refine hrun.state_invariant (I := RosterIdle) ?_ ?_
  · have hview := view_start hstart
    cases hsrv
    refine ⟨fun hdl v hv => ?_, hw.dead⟩
    rw [hview] at hv
    cases hv
  · rintro t e u ht ⟨⟨-, w', hreorder, hhandle⟩, hcond⟩
    have halive := World.alive_reorders hreorder
    obtain ⟨snakes, hperm, rfl⟩ := hreorder
    have ht' : (t.setWorld { t.world with snakes := snakes }).RosterIdle := by
      refine ⟨fun hdl v hv id => ?_, ht.dead⟩
      exact (ht.view hdl v hv id).trans (congrFun halive id).symm
    have hcond' : (t.setWorld { t.world with snakes := snakes }).UndisturbedRoster e := by
      cases e with
      | opened hdl => exact fun s hs => hcond s (hperm.mem_iff.mp hs)
      | closed hdl =>
          intro ses hses
          refine (hcond ses hses).imp (fun h => ?_) id
          exact (congrFun halive ses.snakeId).trans h
      | message => trivial
      | timer => trivial
    exact (ht'.handle hcond').of_ok hhandle

/-- Every open session has exactly the snakes whose removal has not been announced. -/
def RosterAgrees (srv : GameServer F) : Prop :=
  ∀ ses ∈ srv.sessions, ∀ id, holdsSnake ses.sent id = true ↔
    ∃ s ∈ srv.world.snakes, s.id = id ∧ s.update.changeDead = false

/-- The clients have the snakes that are alive in every run in which nobody joins while a snake is
dead and no player leaves alive while others watch. -/
theorem roster_agrees (m : Libm F) (debug : Bool) (config : WorldConfig) (rng : Rng)
    {srv₀ srv : GameServer F} {es : List Event} (hstart : run m debug config rng = .ok srv₀)
    (hrun : Run (fun s e t => Step m s e t ∧ s.UndisturbedRoster e) srv₀ es srv) :
    srv.RosterAgrees := by
  intro ses hses id
  have h := (run_rosterIdle hstart hrun).view ses.hdl _ (view_of_mem hses) id
  rw [← World.alive_iff, ← h]

instance (srv : GameServer F) (e : Event) : Decidable (srv.UndisturbedRoster e) :=
  match e with
  | .opened _ =>
      inferInstanceAs (Decidable (∀ s ∈ srv.world.snakes.entries, s.update.changeDead = false))
  | .closed hdl => inferInstanceAs (Decidable (∀ ses ∈ srv.sessions.find? hdl,
      srv.world.alive ses.snakeId = false ∨ ∀ ses' ∈ srv.sessions.entries, ses'.hdl = hdl))
  | .message _ _ _ => .isTrue trivial
  | .timer _ _ => .isTrue trivial

/-- The first two snakes die and leave, two more come and one of them dies. -/
theorem roster_agrees_rejoined :
    ∃ srv : GameServer ℚ,
      Run (fun s e t => Step Libm.axis s e t ∧ s.UndisturbedRoster e) (blank false {} Rng.zero)
        [.opened 1, .opened 2, .timer false 232, .closed 1, .closed 2, .opened 3, .timer false 700,
          .opened 4, .timer false 232] srv ∧
      (srv.world.snakes.entries.map fun s => (s.id, s.update.changeDead)) =
        [(3, false), (4, true)] ∧ srv.RosterAgrees := by
  let check : GameServer ℚ → Bool := fun srv =>
    decide ((srv.world.snakes.entries.map fun s => (s.id, s.update.changeDead)) =
      [(3, false), (4, true)])
  have heval : ((lobby {}).replayWhere Libm.axis (fun s e => decide (s.UndisturbedRoster e))
      [.opened 1, .opened 2, .timer false 232, .closed 1, .closed 2, .opened 3, .timer false 700,
        .opened 4, .timer false 232]).any check = true := by decide +kernel
  obtain ⟨srv, hrun, hcheck⟩ := exists_run_where heval
  have hrun' : Run (fun s e t => Step Libm.axis s e t ∧ s.UndisturbedRoster e) (blank false {} Rng.zero)
      [.opened 1, .opened 2, .timer false 232, .closed 1, .closed 2, .opened 3, .timer false 700,
        .opened 4, .timer false 232] srv :=
    hrun.mono fun s e t h => ⟨.of_handle h.2.1 h.2.2, of_decide_eq_true h.1⟩
  exact ⟨srv, hrun', of_decide_eq_true hcheck,
    roster_agrees Libm.axis false {} Rng.zero (run_blank _ _ _ rfl) hrun'⟩

/-- When a living player disconnects, the others are not told: its snake stays on their screens. -/
theorem roster_keeps_left_player :
    ∃ srv : GameServer ℚ,
      Run (Step Libm.axis) (blank false {} Rng.zero) [.opened 1, .opened 2, .closed 1] srv ∧
      created {} [.opened 1, .opened 2, .closed 1] ≤ 65535 ∧ ¬ srv.RosterAgrees := by
  let check : GameServer ℚ → Bool := fun srv =>
    (srv.view 2).any (fun v => holdsSnake v.2 1) && (srv.world.getSnake 1).isNone
  have heval : ((lobby {}).replay Libm.axis [.opened 1, .opened 2, .closed 1]).any check = true := by
    decide +kernel
  obtain ⟨srv, hrun, hcheck⟩ := exists_run heval
  obtain ⟨hheld, hgone⟩ := Bool.and_eq_true_iff.mp hcheck
  refine ⟨srv, hrun, by decide, fun hagrees => ?_⟩
  obtain ⟨v, hv, hholds⟩ := (Option.any_eq_true _ _).mp hheld
  obtain ⟨ses, hses, -, rfl⟩ := exists_session hv
  obtain ⟨s, hs, hid, -⟩ := (hagrees ses hses 1).mp hholds
  exact Keyed.find?_eq_none.mp (Option.isNone_iff_eq_none.mp hgone) s hs hid

end GameServer

end Slither
