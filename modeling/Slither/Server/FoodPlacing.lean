import Slither.Server.FoodLedger

/-!
# Where the food lies

Food is placed in the sector of its own coordinates by `InitFood` and `SpawnFood`.  A dying snake
puts the food it scatters into the sectors of its parts, which is the same only as long as the food
does not come down across a border.
-/

set_option linter.unusedSectionVars false

namespace Slither

open Framework Snake

variable {F : Type} [Field F] [LinearOrder F] [FloorRing F]

private theorem SectorSeq.SameFood.placed_iff {ss ss' : SectorSeq} (h : ss.SameFood ss') :
    ss'.Placed ↔ ss.Placed := by
  have hcoords : ∀ p, (ss'.cell p).x = (ss.cell p).x ∧ (ss'.cell p).y = (ss.cell p).y := fun p =>
    ⟨(ss'.coords p).1.trans (ss.coords p).1.symm, (ss'.coords p).2.trans (ss.coords p).2.symm⟩
  unfold SectorSeq.Placed
  refine forall_congr' fun p => ?_
  rw [h p, (hcoords p).1, (hcoords p).2]

namespace World

private theorem removeSnake_sameFood (w : World F) (id : SnakeId) :
    w.sectors.SameFood (w.removeSnake id).sectors := by
  unfold removeSnake
  dsimp only
  split
  · exact foldl_inv (fun _ (ss : SectorSeq) => w.sectors.SameFood ss)
      (fun p _ ss hss => hss.trans (.modify ss p (fun sec => sec.removeSnake id) fun _ => rfl))
      _ _ fun _ => rfl
  · exact fun _ => rfl

private theorem tick_placed (m : Libm F) (dt : ℕ) {w : World F} (h : w.sectors.Placed) :
    Post (w.tick m dt) (fun w' => w'.sectors.Placed) (fun _ => True) := by
  apply tick_rule
  · exact h
  · intro vfrTime
    have hall : Post (({ w with ticks := w.ticks + dt } : World F).tickAll m vfrTime)
        (fun w' => w'.sectors.Placed) (fun _ => True) := by
      apply tickAll_rule fun _ (w' : World F) => w'.sectors.Placed
      · exact h
      · exact fun s rest w' _ _ hw' => (tick_feeds m vfrTime s w'.sectors).mono
          (fun r hr => hr.placed hw') fun _ _ => trivial
    apply Post.bind hall
    intro w₁ h₁
    unfold checkAll
    refine (Post.foldlM (fun _ (w' : World F) => w'.sectors.Placed) ?_ _ _ h₁).mono
      (fun w₂ h₂ _ _ => h₂) fun _ h => h
    intro id rest w' hw'
    refine (checkChanged_post w' id).mono ?_ fun _ _ => trivial
    rintro w'' (rfl | ⟨s, -, -, rfl⟩) <;> exact hw'

end World

namespace GameServer

/-- The food is in place. -/
def FoodPlaced (srv : GameServer F) : Prop := srv.world.sectors.Placed

private theorem FoodPlaced.reorders {srv : GameServer F} {w : World F} (h : srv.FoodPlaced)
    (hw : World.Reorders srv.world w) : (srv.setWorld w).FoodPlaced := by
  obtain ⟨snakes, -, rfl⟩ := hw
  exact h

/-- The loop of `BroadcastUpdates` over `ids`, started in `srv`, comes to the snake `s` in `r`. -/
def UpdateTurn (srv : GameServer F) (ids : List SnakeId) (s : Snake F) (r : GameServer F) : Prop :=
  ∃ before after, ids = before ++ s.id :: after ∧ before.foldlM broadcastUpdate srv = .ok r ∧
    r.world.getSnake s.id = some s

/-- Every snake whose death the loop announces scatters its food home. -/
def DeathsScatterHome (srv : GameServer F) (ids : List SnakeId) : Prop :=
  ∀ s r, srv.UpdateTurn ids s r → s.update.changeDead = false → s.update.changeDying = true →
    s.ScattersHome r.world.rng

/-- Every snake that dies in this event scatters its food home. -/
def ScattersHome (m : Libm F) (srv : GameServer F) : Event → Prop
  | .timer false dt => ∀ w r, srv.world.tick m dt = .ok w → (srv.setWorld w).broadcastDebug = .ok r →
      r.DeathsScatterHome w.changes
  | _ => True

/-- One event in which every death scatters its food home. -/
def HomeStep (m : Libm F) (srv : GameServer F) (e : Event) (srv' : GameServer F) : Prop :=
  srv.Enabled e ∧ ∃ w, World.Reorders srv.world w ∧ (srv.setWorld w).handle m e = .ok srv' ∧
    (srv.setWorld w).ScattersHome m e

private theorem broadcastUpdate_placed {srv : GameServer F} {s : Snake F}
    (hs : srv.world.getSnake s.id = some s) :
    Post (srv.broadcastUpdate s.id) (fun r => r.FoodPlaced ↔ srv.FoodPlaced ∧
        (s.update.changeDead = false → s.update.changeDying = true → s.ScattersHome srv.world.rng))
      (fun _ => True) := by
  refine (broadcastUpdate_scatters hs).mono ?_ fun _ _ => trivial
  rintro r ⟨hdead, hdying, halive⟩
  cases hd : s.update.changeDead with
  | true =>
      rw [hdead hd]
      simp
  | false =>
      cases hy : s.update.changeDying with
      | true =>
          obtain ⟨spawn, ss, rng, hspawn, rfl⟩ := hdying hd hy
          simp only [true_implies]
          exact ((onDeadFoodSpawn_scatters s _ _).of_ok hspawn).2.2
      | false =>
          rw [halive hd hy]
          simp only [true_implies, Bool.false_eq_true, false_implies, and_true]
          exact Iff.rfl

private theorem foldlM_broadcastUpdate_placed (ids : List SnakeId) {srv r : GameServer F}
    (h : ids.foldlM broadcastUpdate srv = .ok r) :
    r.FoodPlaced ↔ srv.FoodPlaced ∧ srv.DeathsScatterHome ids := by
  induction ids generalizing srv with
  | nil =>
      cases h
      refine ⟨fun hp => ⟨hp, ?_⟩, fun hp => hp.1⟩
      rintro s q ⟨before, after, hids, -⟩
      exact absurd hids (by simp)
  | cons id ids ih =>
      rw [List.foldlM_cons] at h
      obtain ⟨q, hfirst, hrest⟩ := bind_eq_ok.mp h
      obtain ⟨s, hs⟩ : ∃ s, srv.world.getSnake id = some s := by
        unfold broadcastUpdate World.deref at hfirst
        cases hget : srv.world.getSnake id with
        | some s => exact ⟨s, rfl⟩
        | none =>
            rw [hget] at hfirst
            cases hfirst
      have hid : s.id = id := Keyed.key_of_find? hs
      subst hid
      rw [ih hrest, (broadcastUpdate_placed hs).of_ok hfirst, and_assoc]
      refine and_congr_right fun _ => ⟨?_, fun hall => ⟨?_, ?_⟩⟩
      · rintro ⟨hhead, htail⟩ t u ⟨before, after, hids, hbefore, ht⟩
        cases before with
        | nil =>
            cases hbefore
            rw [List.nil_append, List.cons.injEq] at hids
            rw [← hids.1, hs] at ht
            cases ht
            exact hhead
        | cons j before =>
            rw [List.cons_append, List.cons.injEq] at hids
            rw [List.foldlM_cons, ← hids.1, hfirst] at hbefore
            exact htail t u ⟨before, after, hids.2, hbefore, ht⟩
      · exact hall s srv ⟨[], ids, rfl, rfl, hs⟩
      · rintro t u ⟨before, after, hids, hbefore, ht⟩
        refine hall t u ⟨s.id :: before, after, by rw [hids]; rfl, ?_, ht⟩
        rw [List.foldlM_cons, hfirst]
        exact hbefore

private theorem removeDeadSnakes_placed (srv : GameServer F) :
    srv.removeDeadSnakes.FoodPlaced ↔ srv.FoodPlaced := by
  have hfold := foldl_inv (f := GameServer.removeSnake)
    (fun _ (r : GameServer F) => srv.world.sectors.SameFood r.world.sectors)
    (fun id _ r hr => hr.trans (World.removeSnake_sameFood r.world id)) srv.world.dead srv
    fun _ => rfl
  exact hfold.placed_iff

/-- An event leaves the food in place exactly if every death in it scatters home. -/
private theorem handle_placed {m : Libm F} {srv r : GameServer F} {e : Event} (h : srv.FoodPlaced)
    (hhandle : srv.handle m e = .ok r) : r.FoodPlaced ↔ srv.ScattersHome m e := by
  have hsame : srv.world.sectors.SameFood r.world.sectors → (r.FoodPlaced ↔ True) := fun hs =>
    hs.placed_iff.trans (iff_true_intro h)
  cases e with
  | opened hdl =>
      apply hsame
      obtain ⟨s, w, hcreate, -, hsend⟩ := (onOpen_post m srv hdl).of_ok hhandle
      rw [hsend]
      exact ((World.create_sameFood m false srv.world).of_ok hcreate).1
  | message hdl binary payload =>
      apply hsame
      rcases ((onMessage_post m srv hdl binary payload).of_ok hhandle).world with hw | ⟨_, _, _, _, _, hw⟩
      · rw [hw]
        exact fun _ => rfl
      · rw [hw]
        exact fun _ => rfl
  | closed hdl =>
      apply hsame
      cases hhandle
      show srv.world.sectors.SameFood (srv.onClose hdl).world.sectors
      unfold onClose
      split
      · exact World.removeSnake_sameFood srv.world _
      · exact fun _ => rfl
  | timer ec dt =>
      cases ec with
      | true =>
          apply hsame
          cases hhandle
          exact fun _ => rfl
      | false =>
          replace hhandle : (srv.world.tick m dt >>= fun w => (srv.setWorld w).broadcastDebug >>=
            fun srv => srv.broadcastUpdates >>= fun srv => pure srv.removeDeadSnakes) = .ok r := hhandle
          obtain ⟨w, htick, hhandle⟩ := bind_eq_ok.mp hhandle
          obtain ⟨q, hdebug, hhandle⟩ := bind_eq_ok.mp hhandle
          obtain ⟨u, hupdates, hclean⟩ := bind_eq_ok.mp hhandle
          obtain ⟨t, hloop, hflush⟩ := bind_eq_ok.mp hupdates
          cases hclean
          cases hflush
          have hworld : q.world = w := by
            obtain ⟨ms, -, rfl⟩ := (broadcastDebug_post (srv.setWorld w)).of_ok hdebug
            exact world_deliverAll _ ms
          rw [hworld] at hloop
          have hplaced : q.FoodPlaced := by
            unfold FoodPlaced
            rw [hworld]
            exact (World.tick_placed m dt h).of_ok htick
          rw [removeDeadSnakes_placed]
          show t.FoodPlaced ↔ _
          rw [foldlM_broadcastUpdate_placed _ hloop, and_iff_right hplaced]
          constructor
          · intro hhome w' q' htick' hdebug'
            rw [htick] at htick'
            cases htick'
            rw [hdebug] at hdebug'
            cases hdebug'
            exact hhome
          · exact fun hhome => hhome w q htick hdebug

/-- The runs in which every death scatters home are the runs that never misplace any food. -/
theorem food_home_iff (m : Libm F) (debug : Bool) (config : WorldConfig) (rng : Rng)
    {srv₀ : GameServer F} (hstart : run m debug config rng = .ok srv₀) :
    srv₀.FoodPlaced ∧ ∀ es srv, Run (HomeStep m) srv₀ es srv ↔
      Run (fun t e u => Step m t e u ∧ u.FoodPlaced) srv₀ es srv := by
  have hplaced₀ : srv₀.FoodPlaced := by
    obtain ⟨w, hinit, hsrv⟩ := bind_eq_ok.mp hstart
    have hfood := ((World.init_food m config rng).of_ok hinit).1
    cases hsrv
    exact hfood.placed_iff.mpr (World.initFood_stocks ⟨World.init_sorted, World.init_placed⟩).2
  refine ⟨hplaced₀, fun es srv => ⟨fun hrun => ?_, fun hrun => ?_⟩⟩
  · have hboth : Run (fun t e u => Step m t e u ∧ u.FoodPlaced) srv₀ es srv ∧ srv.FoodPlaced := by
      induction hrun with
      | nil => exact ⟨.nil, hplaced₀⟩
      | snoc _ hlast ih =>
          obtain ⟨hen, w, hreorder, hhandle, hhome⟩ := hlast
          have hnext := (handle_placed (ih.2.reorders hreorder) hhandle).mpr hhome
          exact ⟨.snoc ih.1 ⟨⟨hen, w, hreorder, hhandle⟩, hnext⟩, hnext⟩
    exact hboth.1
  · have hboth : Run (HomeStep m) srv₀ es srv ∧ srv.FoodPlaced := by
      induction hrun with
      | nil => exact ⟨.nil, hplaced₀⟩
      | snoc _ hlast ih =>
          obtain ⟨⟨hen, w, hreorder, hhandle⟩, hnext⟩ := hlast
          have hhome := (handle_placed (ih.2.reorders hreorder) hhandle).mp hnext
          exact ⟨.snoc ih.1 ⟨hen, w, hreorder, hhandle, hhome⟩, hnext⟩
    exact hboth.1

instance (s : Snake F) (rng : Rng) : Decidable (s.ScattersHome rng) := by
  unfold Snake.ScattersHome Snake.FallsHome
  infer_instance

/-- `DeathsScatterHome`, computed along the loop. -/
def scatterHome (srv : GameServer F) : List SnakeId → Bool
  | [] => true
  | j :: ids =>
      ((srv.world.getSnake j).all fun s => s.update.changeDead || !s.update.changeDying ||
        decide (s.ScattersHome srv.world.rng)) &&
      match srv.broadcastUpdate j with
      | .ok r => r.scatterHome ids
      | .error _ => true

private theorem deathsScatterHome_of_scatterHome {srv : GameServer F} {ids : List SnakeId}
    (h : srv.scatterHome ids = true) : srv.DeathsScatterHome ids := by
  rintro s r ⟨before, after, rfl, hbefore, hs⟩ hlive hdying
  induction before generalizing srv with
  | nil =>
      cases hbefore
      rw [List.nil_append, scatterHome, hs, Option.all_some, Bool.and_eq_true, hlive, hdying] at h
      simpa using h.1
  | cons id before ih =>
      rw [List.foldlM_cons] at hbefore
      obtain ⟨q, hq, hrest⟩ := bind_eq_ok.mp hbefore
      rw [List.cons_append, scatterHome, hq, Bool.and_eq_true] at h
      exact ih h.2 hrest

/-- Two snakes die inside their sectors and scatter home, and another one joins. -/
theorem food_home_iff_rejoined :
    ∃ srv : GameServer ℚ,
      Run (Step Libm.axis) (blank false {} Rng.zero)
        [.opened 1, .opened 2, .timer false 232, .closed 1, .opened 3] srv ∧
      (srv.world.snakes.entries.map fun s => (s.id, s.update.changeDead)) =
        [(2, true), (3, false)] ∧ srv.FoodPlaced := by
  let ok : GameServer ℚ → Event → Bool := fun srv e => match e with
    | .timer false dt => match srv.world.tick Libm.axis dt with
      | .ok w => match (srv.setWorld w).broadcastDebug with
        | .ok r => r.scatterHome w.changes
        | .error _ => true
      | .error _ => true
    | _ => true
  let check : GameServer ℚ → Bool := fun srv =>
    decide ((srv.world.snakes.entries.map fun s => (s.id, s.update.changeDead)) =
      [(2, true), (3, false)])
  have heval : ((lobby {}).replayWhere Libm.axis ok
      [.opened 1, .opened 2, .timer false 232, .closed 1, .opened 3]).any check = true := by
    decide +kernel
  obtain ⟨srv, hrun, hcheck⟩ := exists_run_where heval
  have hhome : Run (HomeStep Libm.axis) (blank false {} Rng.zero)
      [.opened 1, .opened 2, .timer false 232, .closed 1, .opened 3] srv := by
    apply hrun.mono
    rintro s e t ⟨hok, hen, hhandle⟩
    refine ⟨hen, s.world, ⟨s.world.snakes, .refl _, rfl⟩, hhandle, ?_⟩
    cases e with
    | opened hdl => trivial
    | message hdl binary payload => trivial
    | closed hdl => trivial
    | timer ec dt =>
        cases ec with
        | true => trivial
        | false =>
            intro w r htick hdebug
            replace htick : s.world.tick Libm.axis dt = .ok w := htick
            replace hdebug : (s.setWorld w).broadcastDebug = .ok r := hdebug
            simp only [ok, htick, hdebug] at hok
            exact deathsScatterHome_of_scatterHome hok
  obtain ⟨-, hiff⟩ := food_home_iff Libm.axis false {} Rng.zero (run_blank Libm.axis false Rng.zero rfl)
  have hplaced := (hiff _ srv).mp hhome
  refine ⟨srv, hrun.mono fun s e t h => .of_handle h.2.1 h.2.2, of_decide_eq_true hcheck, ?_⟩
  generalize hes : [Event.opened 1, .opened 2, .timer false 232, .closed 1, .opened 3] = es at hplaced
  cases hplaced with
  | nil => cases hes
  | snoc _ hlast => exact hlast.2

/-- A part that lies just before a sector border loses its food to the far side. -/
theorem dead_food_misplaced :
    ∃ srv : GameServer ℚ,
      Run (Step Libm.axis) (blank false { snakeMinLength := 3 } Rng.zero)
        [.opened 1, .opened 2, .timer false 688, .timer false 232] srv ∧ ¬ srv.FoodPlaced := by
  let p : SectorPtr := ⟨72 * 144 + 74, by decide⟩
  let check : GameServer ℚ → Bool := fun srv =>
    (srv.world.sectors.cell p).food.any fun f => decide (f.x / 300 = 75)
  have heval : ((lobby { snakeMinLength := 3 }).replay Libm.axis
      [.opened 1, .opened 2, .timer false 688, .timer false 232]).any check = true := by
    decide +kernel
  obtain ⟨srv, hrun, hcheck⟩ := exists_run heval
  refine ⟨srv, hrun, fun hplaced => ?_⟩
  obtain ⟨f, hf, hx⟩ := List.any_eq_true.mp hcheck
  have hhome := (hplaced p f hf).1
  rw [(srv.world.sectors.coords p).1] at hhome
  have hfar := of_decide_eq_true hx
  rw [show f.x / WorldConfig.sectorSize = 75 from hfar] at hhome
  exact absurd hhome (by decide)

end GameServer

end Slither
