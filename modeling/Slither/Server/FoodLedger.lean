import Slither.Game.FoodAccounts
import Slither.Server.ChangeNotification

/-!
# The food ledger

Every food that enters or leaves a sector is announced once.  The food on the map and all food
announced as eaten are the food placed at the start and all food announced as spawned.
-/

set_option linter.unusedSectionVars false

namespace Slither

open Framework Snake

variable {F : Type} [Field F] [LinearOrder F] [FloorRing F]

namespace Message

/-- The food a broadcast announces as eaten. -/
def eaten? : Message F → Option Food
  | (.everyone, .eatFood _ f) => some f
  | _ => none

/-- The food a broadcast announces as spawned. -/
def spawned? : Message F → Option Food
  | (.everyone, .spawnFood f) => some f
  | _ => none

/-- A message that announces no food. -/
def Foodless (m : Message F) : Prop := m.eaten? = none ∧ m.spawned? = none

/-- What some messages announce: the food eaten and the food spawned. -/
def foods (ms : List (Message F)) : Multiset Food × Multiset Food :=
  ((ms.filterMap eaten? : List Food), (ms.filterMap spawned? : List Food))

private theorem foods_append (ms ms' : List (Message F)) : foods
    (ms ++ ms') = foods ms + foods ms' := by
  unfold foods
  rw [List.filterMap_append, List.filterMap_append, ← Multiset.coe_add, ← Multiset.coe_add]
  rfl

private theorem foods_foodless {ms : List (Message F)} (h : ∀ m ∈ ms, m.Foodless) :
    foods ms = 0 := by
  unfold foods
  rw [List.filterMap_eq_nil_iff.mpr fun m hm => (h m hm).1,
    List.filterMap_eq_nil_iff.mpr fun m hm => (h m hm).2]
  rfl

private theorem foods_foodMessages (s : Snake F) :
    foods (foodMessages s) = (s.eatenFood, s.spawnedFood) := by
  have heaten : ∀ fs : List Food,
      foods (fs.map fun f => ((.everyone, .eatFood s.id f) : Message F)) = ((fs : Multiset Food), 0) := by
    intro fs
    have htold : (fs.map fun f => ((.everyone, .eatFood s.id f) : Message F)).filterMap eaten? = fs := by
      rw [List.filterMap_map]
      exact List.filterMap_some
    have hsilent : (fs.map fun f => ((.everyone, .eatFood s.id f) : Message F)).filterMap spawned? =
        [] := by
      rw [List.filterMap_map]
      exact List.filterMap_eq_nil_iff.mpr fun _ _ => rfl
    rw [foods, htold, hsilent]
    rfl
  have hspawn : ∀ fs : List Food,
      foods (fs.map fun f => ((.everyone, .spawnFood f) : Message F)) = (0, (fs : Multiset Food)) := by
    intro fs
    have htold : (fs.map fun f => ((.everyone, .spawnFood f) : Message F)).filterMap spawned? = fs := by
      rw [List.filterMap_map]
      exact List.filterMap_some
    have hsilent : (fs.map fun f => ((.everyone, .spawnFood f) : Message F)).filterMap eaten? = [] := by
      rw [List.filterMap_map]
      exact List.filterMap_eq_nil_iff.mpr fun _ _ => rfl
    rw [foods, htold, hsilent]
    rfl
  unfold foodMessages
  rw [foods_append, heaten, hspawn, Prod.mk_add_mk, add_zero, zero_add]
  rfl

end Message

open Message

private theorem foods_announcement (ss : SectorSeq) (sesI : SessionIter) (s : Snake F) :
    foods (announcement ss sesI s) =
      if s.update.changePos then (s.eatenFood, s.spawnedFood) else 0 := by
  have hrotation : foods (rotationMessages s) = 0 := by
    refine foods_foodless fun m hm => ?_
    unfold rotationMessages at hm
    split at hm
    · rw [List.mem_singleton.mp hm]
      exact ⟨rfl, rfl⟩
    · cases hm
  have hlength : ∀ t : Snake F, foods (lengthMessages t) = 0 := fun t => foods_foodless fun m hm => by
    rcases mem_lengthMessages hm with rfl | rfl | rfl <;> exact ⟨rfl, rfl⟩
  have hplayer : ∀ t : Snake F, foods (playerMessages ss sesI t) = 0 :=
    fun t => foods_foodless fun m hm => by
      obtain ⟨hdl, hm | rfl⟩ := mem_playerMessages hm
      · obtain ⟨p, rfl | rfl | rfl⟩ := mem_povMessages hm <;> exact ⟨rfl, rfl⟩
      · exact ⟨rfl, rfl⟩
  unfold announcement
  rw [foods_append, hrotation, zero_add]
  split
  · unfold moveMessages
    rw [foods_append, foods_append, hlength, zero_add, foods_foodMessages]
    split
    · exact add_zero _
    · rw [hplayer, add_zero]
      rfl
  · rfl

private theorem announced_food {s : Snake F} (ss : SectorSeq) (sesI : SessionIter) :
    s.eatenFood = s.announced.eatenFood + (foods (announcement ss sesI s)).1 ∧
      s.spawnedFood = s.announced.spawnedFood + (foods (announcement ss sesI s)).2 := by
  have hplayer : ∀ t : Snake F, t.playerSent.eaten = t.eaten ∧ t.playerSent.spawn = t.spawn := by
    intro t
    unfold playerSent
    split <;> exact ⟨rfl, rfl⟩
  rw [foods_announcement]
  unfold announced
  split
  · have hsent : s.rotationSent.moveSent.eaten = [] ∧ s.rotationSent.moveSent.spawn = [] :=
      ⟨rfl, rfl⟩
    split
    · exact ⟨(zero_add _).symm, (zero_add _).symm⟩
    · rw [eatenFood, spawnedFood, eatenFood, spawnedFood, (hplayer _).1, (hplayer _).2, hsent.1,
        hsent.2]
      exact ⟨(zero_add _).symm, (zero_add _).symm⟩
  · exact ⟨(add_zero _).symm, (add_zero _).symm⟩

private theorem foods_removal (sesI : SessionIter) (s t : Snake F) :
    foods (endMessages sesI s ++ removalMessages t) = (t.eatenFood, t.spawnedFood) := by
  have hend : foods (endMessages sesI s) = 0 := by
    refine foods_foodless fun m hm => ?_
    unfold endMessages at hm
    split at hm
    · cases hm
    · cases sesI with
      | none => cases hm
      | some hdl =>
          rw [List.mem_singleton.mp hm]
          exact ⟨rfl, rfl⟩
  unfold removalMessages
  rw [foods_append, foods_append, hend, zero_add, foods_foodMessages]
  exact add_zero _

namespace GameServer

/-- All food handed to `broadcast_binary` as eaten. -/
def foodEaten (srv : GameServer F) : Multiset Food := (foods srv.handed).1

/-- All food handed to `broadcast_binary` as spawned. -/
def foodSpawned (srv : GameServer F) : Multiset Food := (foods srv.handed).2

/-- The world's accounts with what has been announced so far. -/
def Ledger (start : Multiset Food) (srv : GameServer F) : Prop :=
  srv.world.Accounts srv.foodEaten (start + srv.foodSpawned)

namespace Ledger

variable {start : Multiset Food} {srv srv' : GameServer F} {s : Snake F}

private theorem quiet (srv : GameServer F) {ms : List (Message F)}
    (hhanded : srv'.handed = srv.handed ++ ms)
    (hms : ∀ m ∈ ms, m.Foodless) (h : srv'.world.Accounts srv.foodEaten (start + srv.foodSpawned)) :
    srv'.Ledger start := by
  unfold Ledger foodEaten foodSpawned
  rw [hhanded, foods_append, foods_foodless hms, add_zero]
  exact h

private theorem broadcastUpdate (h : srv.Ledger start) (hs : srv.world.getSnake s.id = some s) :
    Post (srv.broadcastUpdate s.id) (fun r => r.Ledger start) (fun _ => True) := by
  have hmem : s ∈ srv.world.snakes := Keyed.mem_of_find? hs
  refine (broadcastUpdate_scatters hs).mono ?_ fun _ _ => trivial
  rintro r ⟨hdead, hdying, halive⟩
  cases hd : s.update.changeDead with
  | true =>
      rw [hdead hd]
      exact h
  | false =>
      cases hy : s.update.changeDying with
      | true =>
          obtain ⟨spawn, ss, rng, hspawn, rfl⟩ := hdying hd hy
          let t : Snake F := { s with spawn := spawn }
          have hlive : t.update.changeDead = true → t.FoodClear := by
            rw [show t.update.changeDead = false from hd]
            exact nofun
          have hfeed : World.Accounts srv.foodEaten (start + srv.foodSpawned)
              { srv.world with snakes := srv.world.snakes.replace t, sectors := ss } :=
            h.feed t hmem rfl hlive rfl ((onDeadFoodSpawn_scatters s _ _).of_ok hspawn).2.1
          have ht : t ∈ srv.world.snakes.replace t := Keyed.mem_replace.mpr (.inr ⟨rfl, s, hmem, rfl⟩)
          have hsnakes : srv.world.snakes.replace s.buried =
              (srv.world.snakes.replace t).replace s.buried := by
            rw [Keyed.replace_replace _ (show s.buried.id = t.id from rfl)]
          unfold Ledger foodEaten foodSpawned
          show World.Accounts (foods (srv.deliverAll _).handed).1
            (start + (foods (srv.deliverAll _).handed).2) _
          rw [handed_deliverAll, foods_append, foods_removal, Prod.fst_add, Prod.snd_add, ← add_assoc]
          exact hfeed.announce s.buried ht rfl (fun _ => ⟨rfl, rfl⟩) hsnakes rfl
            (zero_add _).symm (zero_add _).symm
      | false =>
          obtain ⟨heaten, hspawned⟩ := announced_food (s := s) srv.world.sectors
            (srv.loadSessionIter s.id)
          rw [halive hd hy]
          unfold Ledger foodEaten foodSpawned
          show World.Accounts (foods (srv.deliverAll _).handed).1
            (start + (foods (srv.deliverAll _).handed).2) _
          rw [handed_deliverAll, foods_append, Prod.fst_add, Prod.snd_add, ← add_assoc]
          refine h.announce _ hmem (announced_frame s).1 (fun hdead => ?_) rfl rfl heaten hspawned
          rw [(announced_frame s).2.2.2.2, hd] at hdead
          cases hdead

end Ledger

private theorem foodClear_of_quiet {eaten placed : Multiset Food} {w : World F}
    (h : w.Accounts eaten placed) (hq : w.QuietExcept []) : ∀ s ∈ w.snakes, s.FoodClear := by
  intro s hs
  rcases hq s hs with hdead | ⟨-, hin | hquiet⟩
  · exact h.clear s hs hdead
  · exact absurd hin List.not_mem_nil
  · exact hquiet.foodClear

namespace Ledger

variable {start : Multiset Food} {srv : GameServer F}

private theorem removeSnake (h : srv.Ledger start) (hclear : ∀ s ∈ srv.world.snakes, s.FoodClear)
    (id : SnakeId) : (srv.removeSnake id).Ledger start ∧
      ∀ s ∈ (srv.removeSnake id).world.snakes, s.FoodClear :=
  ⟨World.Accounts.remove h fun s hs _ => hclear s hs, fun s hs =>
    hclear s ((World.Registered.mem_removeSnake srv.world id s).mp hs).1⟩

private theorem removeDeadSnakes (h : srv.Ledger start)
    (hclear : ∀ s ∈ srv.world.snakes, s.FoodClear) :
    srv.removeDeadSnakes.Ledger start := by
  have hfold := foldl_inv (f := GameServer.removeSnake)
    (fun _ (r : GameServer F) => r.Ledger start ∧ ∀ s ∈ r.world.snakes, s.FoodClear)
    (fun id rest r hr => hr.1.removeSnake hr.2 id) srv.world.dead srv ⟨h, hclear⟩
  exact hfold.1.of_same (fun _ => rfl) (.refl _)

private theorem opened {m : Libm F} {r : GameServer F} {hdl : ConnectionHdl} {s : Snake F}
    {w : World F} (h : srv.Ledger start) (hcreate : srv.world.createSnake m = .ok (s, w))
    (hfree : w.getSnake s.id = none)
    (hsend : Sends (srv.join w hdl s) (welcomeMessages srv.init w.sectors hdl s w.snakes.entries)
      s.povSent r) : r.Ledger start := by
  obtain ⟨hfood, hsnakes⟩ := (World.create_sameFood m false srv.world).of_ok hcreate
  have hfresh : s.Fresh := ((World.create_fresh m false srv.world).of_ok hcreate).1
  have hlive : s.povSent.update.changeDead = true → s.povSent.FoodClear :=
    fun _ => ⟨hfresh.eaten, hfresh.spawn⟩
  have hw : w.Accounts srv.foodEaten (start + srv.foodSpawned) :=
    World.Accounts.of_same h hfood (.of_eq (congrArg Keyed.entries hsnakes))
  have hadd := hw.add (s := s) ⟨hfresh.eaten, hfresh.spawn⟩
  have hmem : s ∈ (w.addSnake s).snakes := (Keyed.mem_insert hfree).mpr (.inr rfl)
  have hms : ∀ msg ∈ welcomeMessages srv.init w.sectors hdl s w.snakes.entries, msg.Foodless := by
    intro msg hmsg
    rcases List.mem_append.mp hmsg with hmsg | hmsg
    · rcases List.mem_append.mp hmsg with hmsg | hmsg
      · simp only [List.mem_cons, List.not_mem_nil, or_false] at hmsg
        rcases hmsg with rfl | rfl | rfl <;> exact ⟨rfl, rfl⟩
      · obtain ⟨p, rfl | rfl | rfl⟩ := mem_povMessages hmsg <;> exact ⟨rfl, rfl⟩
    · obtain ⟨t, -, ht⟩ := List.mem_flatMap.mp hmsg
      rcases List.mem_pair.mp ht with rfl | rfl <;> exact ⟨rfl, rfl⟩
  rw [hsend]
  refine quiet srv (handed_deliverAll _ _) hms ?_
  exact hadd.feed s.povSent hmem rfl hlive rfl (.of_same rfl rfl fun _ => rfl)

private theorem handle {m : Libm F} {e : Event} (h : srv.Ledger start) (hquiet : srv.world.Quiet) :
    Post (srv.handle m e) (Ledger start) (fun _ => True) := by
  have hclear : ∀ s ∈ srv.world.snakes, s.FoodClear :=
    foodClear_of_quiet h (hquiet.changes ▸ (hquiet.reporting []).quiet)
  cases e with
  | opened hdl =>
      refine (onOpen_post m srv hdl).mono ?_ fun _ _ => trivial
      rintro r ⟨s, w, hcreate, hfree, hsend⟩
      exact h.opened hcreate hfree hsend
  | message hdl binary payload =>
      refine (onMessage_post m srv hdl binary payload).mono (fun r hr => ?_) fun _ _ => trivial
      obtain ⟨ms, hms, hhanded⟩ := hr.handed
      refine quiet srv hhanded (fun msg hmsg => ?_) ?_
      · obtain ⟨dest, p⟩ := msg
        cases hms _ hmsg
        cases dest <;> exact ⟨rfl, rfl⟩
      · rcases hr.world with hw | ⟨s, s', hs, hkept, hbody, hw⟩
        · rw [hw]
          exact h
        · rw [hw]
          have hmem : s ∈ srv.world.snakes := Keyed.mem_of_find? hs
          simp only [body, Prod.mk.injEq] at hbody
          obtain ⟨-, -, -, heaten, hspawn⟩ := hbody
          refine h.feed s' hmem (congrArg (fun k => k.1) hkept) (fun _ => ?_) rfl
            (.of_same heaten hspawn fun _ => rfl)
          exact ⟨heaten.trans (hclear s hmem).1, hspawn.trans (hclear s hmem).2⟩
  | closed hdl =>
      show (srv.onClose hdl).Ledger start
      unfold onClose
      split
      · rename_i ses _
        have hclosed : Ledger start { srv with sessions := srv.sessions.erase hdl } := h
        exact (hclosed.removeSnake hclear ses.snakeId).1
      · exact h
  | timer ec dt =>
      apply onTimer_rule fun ids (r : GameServer F) => r.world.QuietExcept ids ∧ r.Ledger start
      · exact h
      · trivial
      · refine ((World.tick_quietExcept hquiet).and (World.Accounts.tick m dt h)).mono
          (fun w hw ms hms => ?_) fun _ _ => trivial
        have hworld := world_deliverAll (srv.setWorld w) ms
        refine ⟨by rw [hworld]; exact hw.1, quiet srv (handed_deliverAll _ ms) (fun msg hmsg => ?_) ?_⟩
        · obtain ⟨dest, p⟩ := msg
          obtain ⟨c, hc⟩ := hms _ hmsg
          cases hc
          cases dest <;> exact ⟨rfl, rfl⟩
        · rw [hworld]
          exact hw.2
      · rintro s rest r ⟨hq, hr⟩ hs
        exact (broadcastUpdate_quietExcept hq hs).and (hr.broadcastUpdate hs) |>.mono
          (fun _ h => h) fun _ _ => trivial
      · rintro r ⟨hq, hr⟩
        have hflush : (r.setWorld r.world.flushChanges).Ledger start :=
          hr.of_same (fun _ => rfl) (.refl _)
        have hclear := foodClear_of_quiet hr hq
        exact hflush.removeDeadSnakes hclear

end Ledger

/-- Every reachable state keeps the ledger that starts with the food of `InitFood`. -/
private theorem run_ledger {m : Libm F} {debug : Bool} {config : WorldConfig} {rng : Rng}
    {srv₀ srv : GameServer F} {es : List Event} (hstart : run m debug config rng = .ok srv₀)
    (hrun : Run (Step m) srv₀ es srv) :
    srv.Ledger (World.blank config rng : World F).initFood.sectors.food := by
  induction hrun with
  | nil =>
      obtain ⟨w, hinit, hsrv⟩ := bind_eq_ok.mp hstart
      obtain ⟨hfood, hfresh⟩ := (World.init_food m config rng).of_ok hinit
      have hclear : ∀ s ∈ w.snakes, s.FoodClear := fun s hs =>
        ⟨(hfresh s hs).eaten, (hfresh s hs).spawn⟩
      have hworld := World.Accounts.start hfood hclear
        (World.initFood_stocks ⟨World.init_sorted, World.init_placed⟩).1
      cases hsrv
      have hnone : foods ([] : List (Message F)) = 0 := foods_foodless fun m hm => by cases hm
      unfold Ledger foodEaten foodSpawned
      rw [hnone, Prod.snd_zero, add_zero]
      exact hworld
  | @snoc es t u e hrun hlast ih =>
      obtain ⟨-, w', ⟨snakes, hperm, rfl⟩, hhandle⟩ := hlast
      have hquiet := run_quiet hstart hrun
      have hledger : Ledger _ (t.setWorld { t.world with snakes := snakes }) :=
        ih.of_same (fun _ => rfl) hperm
      refine (hledger.handle ?_).of_ok hhandle
      exact hquiet.of_mem hquiet.changes fun s hs => hperm.mem_iff.mp hs

/-- In every reachable state the food is sorted, so that `FindClosestFood` finds the right place, and
every food that has come or gone has been announced once. -/
theorem food_accounted (m : Libm F) (debug : Bool) (config : WorldConfig) (rng : Rng)
    {srv₀ srv : GameServer F} {es : List Event} (hstart : run m debug config rng = .ok srv₀)
    (hrun : Run (Step m) srv₀ es srv) :
    srv.world.sectors.Sorted ∧
      (∀ p fx, Separates (Sector.foodBefore fx) (srv.world.sectors.cell p).food
        ((srv.world.sectors.cell p).findClosestFood fx)) ∧
      srv.world.sectors.food + srv.foodEaten =
        (World.blank config rng : World F).initFood.sectors.food + srv.foodSpawned := by
  have hledger := run_ledger hstart hrun
  have hquiet := run_quiet hstart hrun
  have hclear := foodClear_of_quiet hledger (hquiet.changes ▸ (hquiet.reporting []).quiet)
  refine ⟨hledger.sorted, fun p fx => ?_, ?_⟩
  · exact lowerBound_separates (Sector.partitionedBy_foodBefore (hledger.sorted p) fx)
  · have hbalance := hledger.balance
    rw [Keyed.total_eq_zero fun s hs => (hclear s hs).shares.1,
      Keyed.total_eq_zero fun s hs => (hclear s hs).shares.2, add_zero, add_zero] at hbalance
    exact hbalance

/-- Two snakes that die in each other leave food behind. -/
theorem food_accounted_scattered :
    ∃ srv : GameServer ℚ, Run (Step Libm.axis) (blank false {} Rng.zero)
        [.opened 1, .opened 2, .timer false 232] srv ∧
      (srv.handed.filterMap spawned?).length = 20 ∧
      srv.world.sectors.food + srv.foodEaten =
        (World.blank {} Rng.zero : World ℚ).initFood.sectors.food + srv.foodSpawned := by
  let check : GameServer ℚ → Bool := fun srv =>
    decide ((srv.handed.filterMap spawned?).length = 20)
  have heval : ((lobby {}).replay Libm.axis [.opened 1, .opened 2, .timer false 232]).any check =
      true := by decide +kernel
  obtain ⟨srv, hrun, hcheck⟩ := exists_run heval
  exact ⟨srv, hrun, of_decide_eq_true hcheck,
    (food_accounted Libm.axis false {} Rng.zero (run_blank _ _ _ rfl) hrun).2.2⟩

end GameServer

end Slither
