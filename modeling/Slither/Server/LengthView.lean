import Slither.Server.Handlers

/-!
# How long a client takes the snakes to be

All sessions follow one count for each snake, `clientPartsIndex`.  A session that joins is given the
true length instead, so the counts agree only if nobody joins while a snake is catching up.
-/

set_option linter.unusedSectionVars false

namespace Slither

open Framework Snake

variable {F : Type} [Field F] [LinearOrder F] [FloorRing F]

namespace World

/-- The length the clients are to take a living snake to have. -/
def length? (w : World F) (id : SnakeId) : Option ℕ :=
  (w.getSnake id).bind fun s => if s.update.changeDead then none else some s.clientPartsIndex

private theorem length?_of_mem {w : World F} {s : Snake F} (hs : s ∈ w.snakes)
    (hlive : s.update.changeDead = false) : w.length? s.id = some s.clientPartsIndex := by
  rw [length?, getSnake, Keyed.find?_key hs, Option.bind_some, hlive]
  rfl

private theorem length?_of_kept {w w' : World F} (h : w'.kept = w.kept) :
    w'.length? = w.length? := by
  funext id
  have hget := congrFun (congrArg Prod.fst h) id
  simp only [kept] at hget
  have hfactor : ∀ o : Option (Snake F),
      (o.bind fun s => if s.update.changeDead then none else some s.clientPartsIndex) =
        (o.map ident).bind fun i => if i.2.2.2 then none else some i.2.2.1 := by
    intro o
    cases o <;> rfl
  unfold length?
  rw [hfactor, hfactor, hget]

private theorem length?_store {w : World F} {s : Snake F} (hs : (w.getSnake s.id).isSome)
    (id : SnakeId) :
    (w.store s).length? id =
      if s.id = id then (if s.update.changeDead then none else some s.clientPartsIndex)
      else w.length? id := by
  obtain ⟨t, ht⟩ := Option.isSome_iff_exists.mp hs
  unfold length? getSnake store
  rw [Keyed.find?_replace]
  split
  · rename_i h
    subst h
    have ht' : w.snakes.find? s.id = some t := ht
    rw [ht']
    rfl
  · rfl

private theorem length?_reorders {w w' : World F} (h : Reorders w w') : w'.length? = w.length? := by
  obtain ⟨snakes, hperm, rfl⟩ := h
  funext id
  unfold length? getSnake
  rw [Keyed.find?_perm hperm]

private theorem length?_removeSnake (w : World F) (id j : SnakeId) :
    (w.removeSnake id).length? j = if j = id then none else w.length? j := by
  unfold length?
  rw [getSnake_removeSnake]
  split <;> rfl

end World

namespace GameServer

/-- What every open session takes the lengths to be agrees with the shared counts. -/
def LengthView (srv : GameServer F) : Prop :=
  ∀ hdl v, srv.view hdl = some v → ∀ id n, srv.world.length? id = some n → heldLength v.2 id = n

private theorem heldLength_received (ps : List (Packet F)) (ms : List (Message F))
    (hdl : ConnectionHdl) (id : SnakeId) :
    heldLength (ps ++ received hdl ms) id =
      (received hdl (Message.ofKind Packet.isLength ms)).foldl (Packet.stepLength id)
        (heldLength ps id) := (Replica.length id).held_received ps ms hdl

private theorem LengthView.delivers {srv srv' : GameServer F} (h : srv.LengthView)
    (ms : List (Message F)) (hview : ∀ hdl, srv'.view hdl = (srv.deliverAll ms).view hdl)
    (htell : ∀ hdl id n, srv'.world.length? id = some n → ∃ k, srv.world.length? id = some k ∧
      (received hdl (Message.ofKind Packet.isLength ms)).foldl (Packet.stepLength id) (k : ℤ) = n) :
    srv'.LengthView := by
  intro hdl v hv id n hn
  rw [hview, view_deliverAll] at hv
  obtain ⟨v₀, hv₀, rfl⟩ := Option.map_eq_some_iff.mp hv
  obtain ⟨k, hk, hfold⟩ := htell hdl id n hn
  rw [heldLength_received, h hdl v₀ hv₀ id k hk, hfold]

private theorem LengthView.silent {srv srv' : GameServer F} (h : srv.LengthView)
    (ms : List (Message F)) (hview : ∀ hdl, srv'.view hdl = (srv.deliverAll ms).view hdl)
    (hms : Message.ofKind Packet.isLength ms = [])
    (hlength : ∀ id n, srv'.world.length? id = some n → srv.world.length? id = some n) :
    srv'.LengthView := by
  apply h.delivers ms hview
  intro hdl id n hn
  rw [hms]
  exact ⟨n, hlength id n hn, rfl⟩

private theorem ofKind_isLength_povMessages (ss : SectorSeq) (hdl : ConnectionHdl) (s : Snake F) :
    Message.ofKind Packet.isLength (povMessages ss hdl s) = [] := by
  apply Message.ofKind_eq_nil
  intro msg hmsg
  rcases List.mem_append.mp hmsg with hmsg | hmsg
  · obtain ⟨p, -, hp⟩ := List.mem_flatMap.mp hmsg
    rcases List.mem_pair.mp hp with rfl | rfl <;> rfl
  · obtain ⟨p, -, rfl⟩ := List.mem_map.mp hmsg
    rfl

private theorem foldl_lengthMessages (hdl : ConnectionHdl) (s : Snake F) (id : SnakeId) :
    (received hdl (Message.ofKind Packet.isLength s.lengthMessages)).foldl (Packet.stepLength id)
      (s.clientPartsIndex : ℤ) =
      if s.id = id then (s.lengthSent.clientPartsIndex : ℤ) else s.clientPartsIndex := by
  unfold lengthMessages lengthSent
  by_cases hlt : s.clientPartsIndex < s.parts.length
  · simp only [if_pos hlt]
    show ([Packet.incOf s] : List (Packet F)).foldl (Packet.stepLength id) _ = _
    by_cases hid : s.id = id <;> simp [Packet.incOf, Packet.stepLength, hid]
  · simp only [if_neg hlt]
    by_cases hgt : s.clientPartsIndex > s.parts.length
    · simp only [if_pos hgt]
      show ([Packet.removePartOf s] : List (Packet F)).foldl (Packet.stepLength id) _ = _
      have hpos : 1 ≤ s.clientPartsIndex := Nat.one_le_of_lt hgt
      by_cases hid : s.id = id <;> simp [Packet.removePartOf, Packet.stepLength, hid, hpos]
    · simp only [if_neg hgt]
      show ([] : List (Packet F)).foldl (Packet.stepLength id) _ = _
      simp

private theorem stepLength_other {s : Snake F} {id : SnakeId} (hid : s.id ≠ id)
    (hdl : ConnectionHdl) (k : ℤ) :
    (received hdl (Message.ofKind Packet.isLength s.lengthMessages)).foldl (Packet.stepLength id) k =
      k := by
  unfold lengthMessages
  split
  · show ([Packet.incOf s] : List (Packet F)).foldl (Packet.stepLength id) _ = _
    simp [Packet.incOf, Packet.stepLength, hid]
  · split
    · show ([Packet.removePartOf s] : List (Packet F)).foldl (Packet.stepLength id) _ = _
      simp [Packet.removePartOf, Packet.stepLength, hid]
    · rfl

private theorem ofKind_isLength_announcement (ss : SectorSeq) (sesI : SessionIter) (s : Snake F) :
    Message.ofKind Packet.isLength (announcement ss sesI s) =
      if s.update.changePos then
        Message.ofKind Packet.isLength s.rotationSent.xorPos.lengthMessages
      else [] := by
  rw [Message.ofKind_announcement silent_isLength]
  split
  · split
    · exact List.append_nil _
    · cases sesI with
      | none => exact List.append_nil _
      | some hdl =>
          show _ ++ Message.ofKind Packet.isLength (povMessages ss hdl _) = _
          rw [ofKind_isLength_povMessages, List.append_nil]
  · rfl

private theorem announced_clientPartsIndex (s : Snake F) :
    s.announced.clientPartsIndex =
      if s.update.changePos then s.rotationSent.xorPos.lengthSent.clientPartsIndex
      else s.clientPartsIndex := by
  have hplayer : ∀ t : Snake F, t.playerSent.clientPartsIndex = t.clientPartsIndex := by
    intro t
    unfold playerSent
    split <;> rfl
  unfold announced
  split
  · split
    · rfl
    · exact hplayer _
  · rfl

private theorem LengthView.announces {srv srv' : GameServer F} {s : Snake F} (h : srv.LengthView)
    (hs : srv.world.getSnake s.id = some s) (hlive : s.update.changeDead = false)
    (hsend : Sends srv (announcement srv.world.sectors (srv.loadSessionIter s.id) s) s.announced
      srv') : srv'.LengthView := by
  obtain ⟨hid, -, -, -, hdead⟩ := announced_frame s
  have hlength : ∀ id, srv'.world.length? id =
      if s.id = id then some s.announced.clientPartsIndex else srv.world.length? id := by
    intro id
    rw [hsend]
    show (srv.world.store s.announced).length? id = _
    rw [World.length?_store (by rw [hid, hs]; rfl), hid, hdead, hlive]
    rfl
  have hbefore : srv.world.length? s.id = some s.clientPartsIndex :=
    World.length?_of_mem (Keyed.mem_of_find? hs) hlive
  refine h.delivers (announcement srv.world.sectors (srv.loadSessionIter s.id) s)
    (fun hdl => ?_) fun hdl id n hn => ?_
  · rw [hsend]
    rfl
  rw [ofKind_isLength_announcement]
  rw [hlength] at hn
  by_cases heq : s.id = id
  · subst heq
    rw [if_pos rfl] at hn
    cases hn
    refine ⟨s.clientPartsIndex, hbefore, ?_⟩
    rw [announced_clientPartsIndex]
    split
    · have hfold := foldl_lengthMessages hdl s.rotationSent.xorPos s.id
      rw [if_pos (show s.rotationSent.xorPos.id = s.id from rfl)] at hfold
      exact hfold
    · rfl
  · rw [if_neg heq] at hn
    refine ⟨n, hn, ?_⟩
    split
    · exact stepLength_other (s := s.rotationSent.xorPos) heq hdl n
    · rfl

private theorem LengthView.broadcastUpdate {srv : GameServer F} {s : Snake F} (h : srv.LengthView)
    (hs : srv.world.getSnake s.id = some s) :
    Post (srv.broadcastUpdate s.id) LengthView (fun _ => True) := by
  refine (broadcastUpdate_post hs).mono ?_ fun _ _ => trivial
  rintro r ⟨hdead, hdying, halive⟩
  cases hd : s.update.changeDead with
  | true =>
      rw [hdead hd]
      exact h
  | false =>
      cases hy : s.update.changeDying with
      | false => exact h.announces hs hd (halive hd hy)
      | true =>
          obtain ⟨spawn, ss, rng, -, rfl⟩ := hdying hd hy
          refine h.silent (endMessages (srv.loadSessionIter s.id) s ++
            removalMessages { s with spawn := spawn }) (fun hdl => rfl) ?_ fun id n hn => ?_
          · rw [Message.ofKind_removal silent_isLength]
            rfl
          · replace hn : (srv.world.store s.buried).length? id = some n := hn
            have hsome : (srv.world.getSnake s.buried.id).isSome := by
              show (srv.world.getSnake s.id).isSome
              rw [hs]
              rfl
            rw [World.length?_store hsome] at hn
            split at hn
            · simp [buried, markDead] at hn
            · exact hn

/-- A connection is opened when the clients' count of every living snake has caught up. -/
def CaughtUp (srv : GameServer F) : Event → Prop
  | .opened _ => ∀ s ∈ srv.world.snakes, s.update.changeDead = false →
      s.clientPartsIndex = s.parts.length
  | _ => True

private theorem foldl_addSnake_length (ts : List (Snake F)) (id : SnakeId) {k : ℕ} {n : ℤ}
    (hall : ∀ t ∈ ts, t.id = id → t.parts.length = k) (hn : n = k ∨ ∃ t ∈ ts, t.id = id) :
    (ts.map Packet.addSnake).foldl (Packet.stepLength id) n = k := by
  induction ts generalizing n with
  | nil =>
      rcases hn with rfl | ⟨t, ht, -⟩
      · rfl
      · cases ht
  | cons t ts ih =>
      rw [List.map_cons, List.foldl_cons]
      apply ih (fun t' ht' => hall t' (List.mem_cons_of_mem _ ht'))
      by_cases hid : t.id = id
      · refine .inl ?_
        simp [Packet.stepLength, hid, hall t (List.mem_cons_self ..) hid]
      · rcases hn with rfl | ⟨t', ht', hid'⟩
        · exact .inl (by simp [Packet.stepLength, hid])
        · rcases List.mem_cons.mp ht' with rfl | ht'
          · exact absurd hid' hid
          · exact .inr ⟨t', ht', hid'⟩

private theorem LengthView.opened {srv r : GameServer F} {m : Libm F} {hdl : ConnectionHdl}
    {s : Snake F} {w : World F} (h : srv.LengthView) (hcond : srv.CaughtUp (.opened hdl))
    (hcreate : srv.world.createSnake m = .ok (s, w)) (hfree : w.getSnake s.id = none)
    (hsend : Sends (srv.join w hdl s) (welcomeMessages srv.init w.sectors hdl s w.snakes.entries)
      s.povSent r) : r.LengthView := by
  obtain ⟨hfresh, -, hsnakes, -⟩ := (World.create_fresh m false srv.world).of_ok hcreate
  have hget := getSnake_opened hcreate hfree
  have hlive : s.povSent.update.changeDead = false := by
    show s.update.changeDead = false
    rw [hfresh.update]
    rfl
  have hsome : ((w.addSnake s).getSnake s.povSent.id).isSome := by
    show ((w.addSnake s).getSnake s.id).isSome
    rw [hget, if_pos rfl]
    rfl
  have hlength : ∀ id, r.world.length? id =
      if s.id = id then some s.parts.length else srv.world.length? id := by
    intro id
    rw [hsend]
    show ((w.addSnake s).store s.povSent).length? id = _
    rw [World.length?_store hsome, hlive, World.length?, hget]
    show (if s.id = id then some s.clientPartsIndex else _) = _
    rw [hfresh.length]
    by_cases hid : s.id = id
    · rw [if_pos hid, if_pos hid]
    · rw [if_neg hid, if_neg hid, if_neg hid]
      rfl
  intro h' v hv id n hn
  rw [view_opened hsend] at hv
  obtain ⟨v₀, hv₀, rfl⟩ := Option.map_eq_some_iff.mp hv
  rw [heldLength_received, received_welcome silent_isLength (fun _ => rfl) (fun _ _ => ⟨rfl, rfl⟩)]
  rw [hlength] at hn
  have hother : ∀ t ∈ w.snakes.entries, t.id ≠ s.id := Keyed.find?_eq_none.mp hfree
  by_cases hh : hdl = h'
  · rw [if_pos hh] at hv₀ ⊢
    cases hv₀
    show ((s :: w.snakes.entries).map Packet.addSnake).foldl (Packet.stepLength id) 0 = n
    by_cases hid : s.id = id
    · rw [if_pos hid] at hn
      cases hn
      refine foldl_addSnake_length _ id (fun t ht htid => ?_) (.inr ⟨s, List.mem_cons_self .., hid⟩)
      rcases List.mem_cons.mp ht with rfl | ht
      · rfl
      · exact absurd (htid.trans hid.symm) (hother t ht)
    · rw [if_neg hid] at hn
      obtain ⟨t, ht, hcount⟩ := Option.bind_eq_some_iff.mp hn
      split at hcount
      · cases hcount
      rename_i htlive
      cases hcount
      obtain ⟨htmem, htid⟩ := Keyed.find?_eq_some.mp ht
      have hcaught := hcond t htmem (by simpa using htlive)
      rw [hcaught]
      refine foldl_addSnake_length _ id (fun t' ht' htid' => ?_)
        (.inr ⟨t, List.mem_cons_of_mem _ (hsnakes ▸ htmem), htid⟩)
      rcases List.mem_cons.mp ht' with rfl | ht'
      · exact absurd htid' hid
      · have ht'' : t' ∈ srv.world.snakes := hsnakes ▸ ht'
        rw [Keyed.mem_unique srv.world.snakes ht'' htmem (htid'.trans htid.symm)]
  · rw [if_neg hh] at hv₀ ⊢
    show Packet.stepLength id (heldLength v₀.2 id) (.addSnake s) = n
    by_cases hid : s.id = id
    · rw [if_pos hid] at hn
      cases hn
      simp [Packet.stepLength, hid]
    · rw [if_neg hid] at hn
      simp [Packet.stepLength, hid, h h' v₀ hv₀ id n hn]

private theorem LengthView.closed {srv : GameServer F} (h : srv.LengthView) (hdl : ConnectionHdl) :
    (srv.onClose hdl).LengthView := by
  unfold onClose
  cases hfind : srv.sessions.find? hdl with
  | none => exact h
  | some ses =>
      intro h' v hv id n hn
      replace hv : ((srv.sessions.erase hdl).find? h').map (fun ses => (ses.snakeId, ses.sent)) =
          some v := hv
      replace hn : (srv.world.removeSnake ses.snakeId).length? id = some n := hn
      rw [Keyed.find?_erase] at hv
      rw [World.length?_removeSnake] at hn
      split at hv
      · cases hv
      · split at hn
        · cases hn
        · exact h h' v hv id n hn

private theorem LengthView.removeDeadSnakes {srv : GameServer F} (h : srv.LengthView) :
    srv.removeDeadSnakes.LengthView := by
  have hfold := foldl_inv (f := GameServer.removeSnake)
    (fun _ (r : GameServer F) => r.LengthView) (fun id rest r hr => ?_) srv.world.dead srv h
  · exact hfold
  · intro hdl v hv j n hn
    replace hn : (r.world.removeSnake id).length? j = some n := hn
    rw [World.length?_removeSnake] at hn
    split at hn
    · cases hn
    · exact hr hdl v hv j n hn

private theorem LengthView.handle {m : Libm F} {srv : GameServer F} {e : Event} (h : srv.LengthView)
    (hcond : srv.CaughtUp e) : Post (srv.handle m e) LengthView (fun _ => True) := by
  cases e with
  | opened hdl =>
      refine (onOpen_post m srv hdl).mono ?_ fun _ _ => trivial
      rintro r ⟨s, w, hcreate, hfree, hsend⟩
      exact h.opened hcond hcreate hfree hsend
  | message hdl binary payload =>
      refine (onMessage_post m srv hdl binary payload).mono (fun r hr => ?_) fun _ _ => trivial
      obtain ⟨ms, hpong, hview⟩ := hr.view
      have hms : Message.ofKind Packet.isLength ms = [] := by
        apply Message.ofKind_eq_nil
        intro msg hmsg
        rw [hpong msg hmsg]
        rfl
      have hlength : r.world.length? = srv.world.length? := by
        rcases hr.world with hw | ⟨s, s', hs, hkept, -, hw⟩
        · rw [hw]
        · rw [hw]
          exact World.length?_of_kept
            (World.kept_store (Keyed.mem_of_find? hs) (ident_of_kept hkept))
      exact h.silent _ hview hms fun id n hn => hlength ▸ hn
  | closed hdl => exact h.closed hdl
  | timer ec dt =>
      apply onTimer_rule fun _ => LengthView
      · exact h
      · trivial
      · refine (World.tick_kept m dt srv.world).mono (fun w hw ms hms => ?_) fun _ _ => trivial
        have hworld : ((srv.setWorld w).deliverAll ms).world = w := world_deliverAll _ ms
        refine h.silent ms (fun hdl => ?_) ?_ fun id n hn => ?_
        · rw [view_deliverAll, view_deliverAll]
          rfl
        · apply Message.ofKind_eq_nil
          intro msg hmsg
          obtain ⟨c, hc⟩ := hms msg hmsg
          rw [hc]
          rfl
        · rwa [hworld, World.length?_of_kept hw] at hn
      · exact fun s rest r hr hs => hr.broadcastUpdate hs
      · exact fun r hr => (show LengthView (r.setWorld r.world.flushChanges) from hr).removeDeadSnakes

/-- Every open session takes every living snake to be as long as the shared count says. -/
def LengthsAgree (srv : GameServer F) : Prop :=
  ∀ ses ∈ srv.sessions, ∀ s ∈ srv.world.snakes, s.update.changeDead = false →
    heldLength ses.sent s.id = s.clientPartsIndex

/-- The clients agree with the shared counts in every run in which nobody joins while the count of
a living snake is catching up. -/
theorem lengths_agree (m : Libm F) (debug : Bool) (config : WorldConfig) (rng : Rng)
    {srv₀ srv : GameServer F} {es : List Event} (hstart : run m debug config rng = .ok srv₀)
    (hrun : Run (fun s e t => Step m s e t ∧ s.CaughtUp e) srv₀ es srv) : srv.LengthsAgree := by
  have hview : srv.LengthView := by
    refine hrun.state_invariant (I := LengthView) ?_ ?_
    · intro hdl v hv
      rw [view_start hstart] at hv
      cases hv
    · rintro t e u ht ⟨⟨-, w', hreorder, hhandle⟩, hcond⟩
      have hlength := World.length?_reorders hreorder
      obtain ⟨snakes, hperm, rfl⟩ := hreorder
      have ht' : (t.setWorld { t.world with snakes := snakes }).LengthView :=
        fun hdl v hv id n hn => ht hdl v hv id n ((congrFun hlength id).symm.trans hn)
      have hcond' : (t.setWorld { t.world with snakes := snakes }).CaughtUp e := by
        cases e with
        | opened hdl => exact fun s hs => hcond s (hperm.mem_iff.mp hs)
        | closed => trivial
        | message => trivial
        | timer => trivial
      exact (ht'.handle hcond').of_ok hhandle
  exact fun ses hses s hs hlive => hview ses.hdl _ (view_of_mem hses) s.id _
    (World.length?_of_mem hs hlive)

instance (srv : GameServer F) (e : Event) : Decidable (srv.CaughtUp e) :=
  match e with
  | .opened _ => inferInstanceAs (Decidable (∀ s ∈ srv.world.snakes.entries,
      s.update.changeDead = false → s.clientPartsIndex = s.parts.length))
  | .message _ _ _ => .isTrue trivial
  | .closed _ => .isTrue trivial
  | .timer _ _ => .isTrue trivial

/-- The third snake eats the remains of the first two and is being told how it grows. -/
theorem lengths_agree_rejoined :
    ∃ srv : GameServer ℚ,
      Run (fun s e t => Step Libm.axis s e t ∧ s.CaughtUp e) (blank false {} Rng.zero)
        [.opened 1, .opened 2, .timer false 232, .closed 1, .closed 2, .opened 3,
          .timer false 232] srv ∧
      (srv.world.snakes.entries.map fun s => (s.id, s.clientPartsIndex, s.parts.length)) =
        [(3, 6, 9)] ∧ srv.LengthsAgree := by
  let check : GameServer ℚ → Bool := fun srv =>
    decide ((srv.world.snakes.entries.map fun s => (s.id, s.clientPartsIndex, s.parts.length)) =
      [(3, 6, 9)])
  have heval : ((lobby {}).replayWhere Libm.axis (fun s e => decide (s.CaughtUp e))
      [.opened 1, .opened 2, .timer false 232, .closed 1, .closed 2, .opened 3,
        .timer false 232]).any check = true := by decide +kernel
  obtain ⟨srv, hrun, hcheck⟩ := exists_run_where heval
  have hrun' : Run (fun s e t => Step Libm.axis s e t ∧ s.CaughtUp e) (blank false {} Rng.zero)
      [.opened 1, .opened 2, .timer false 232, .closed 1, .closed 2, .opened 3,
        .timer false 232] srv :=
    hrun.mono fun s e t h => ⟨.of_handle h.2.1 h.2.2, of_decide_eq_true h.1⟩
  exact ⟨srv, hrun', of_decide_eq_true hcheck,
    lengths_agree Libm.axis false {} Rng.zero (run_blank _ _ _ rfl) hrun'⟩

/-- A session that joins while a snake is catching up is told the true length: the third snake eats
the remains of the first two and grows by four parts, one of which has been announced. -/
theorem lengths_differ_after_meal :
    ∃ srv : GameServer ℚ,
      Run (Step Libm.axis) (blank false {} Rng.zero)
        [.opened 1, .opened 2, .timer false 232, .closed 1, .closed 2, .opened 3, .timer false 232,
          .opened 4] srv ∧
      created {} [.opened 1, .opened 2, .timer false 232, .closed 1, .closed 2, .opened 3,
        .timer false 232, .opened 4] ≤ 65535 ∧ ¬ srv.LengthsAgree := by
  let check : GameServer ℚ → Bool := fun srv =>
    (srv.view 4).any fun v => srv.world.snakes.entries.any fun s =>
      !s.update.changeDead && decide (heldLength v.2 s.id ≠ s.clientPartsIndex)
  have heval : ((lobby {}).replay Libm.axis [.opened 1, .opened 2, .timer false 232, .closed 1,
      .closed 2, .opened 3, .timer false 232, .opened 4]).any check = true := by decide +kernel
  obtain ⟨srv, hrun, hcheck⟩ := exists_run heval
  refine ⟨srv, hrun, by decide, fun hagrees => ?_⟩
  obtain ⟨v, hv, hany⟩ := (Option.any_eq_true _ _).mp hcheck
  obtain ⟨s, hs, hdiffer⟩ := List.any_eq_true.mp hany
  rw [Bool.and_eq_true, Bool.not_eq_true', decide_eq_true_eq] at hdiffer
  obtain ⟨ses, hses, -, rfl⟩ := exists_session hv
  exact hdiffer.2 (hagrees ses hses s hs hdiffer.1)

end GameServer

end Slither
