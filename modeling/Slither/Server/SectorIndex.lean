import Slither.Game.Border
import Slither.Server.ChangeNotification

/-!
# Indexing the sectors

`UpdateEatenFood` reads the sector under the head without a check of its own.  Between two events
every living head is inside the border, so it is the length of a single move that decides whether
the index is good, and `on_timer` does not bound it.
-/

set_option linter.unusedSectionVars false

namespace Slither

open Framework Snake

variable {F : Type} [Field F] [LinearOrder F] [FloorRing F]

private theorem Snake.announced_parts (s : Snake F) : s.announced.parts = s.parts := by
  unfold announced playerSent
  split
  · split
    · rfl
    · split <;> rfl
  · rfl

theorem Snake.announced_gear (s : Snake F) :
    (s.announced.speed, s.announced.movTicks) = (s.speed, s.movTicks) := by
  unfold announced playerSent
  split
  · split
    · rfl
    · split <;> rfl
  · rfl

namespace World

theorem InsideExcept.of_mem {ids : List SnakeId} {w w' : World F} (h : w.InsideExcept ids)
    (hmem : ∀ s ∈ w'.snakes, s ∈ w.snakes) : w'.InsideExcept ids := fun s hs => h s (hmem s hs)

variable [IsStrictOrderedRing F]

/-- The next tick of the world by `dt` reads a sector of the map for every living snake that it
moves: the one that holds its head. -/
def IndicesInRange (m : Libm F) (dt : ℕ) (w : World F) : Prop :=
  WorldConfig.frameTimeMs ≤ w.ticks + dt → ∀ s w',
    ({ w with ticks := w.ticks + dt } : World F).Turn m (w.vfrTime dt) s w' →
    s.Alive → s.framesTicks (w.vfrTime dt) ≠ 0 →
    (s.eater m (w.vfrTime dt) w'.sectors).1.CellInRange

private theorem create_inside {m : Libm F} (hm : m.Unit) (bot : Bool) (w : World F) :
    Post (w.create m bot) (fun r => r.1.Inside) (fun _ => True) := by
  have hsquare : ∀ {a : F}, |a| ≤ 6000 → a * a ≤ 6000 * 6000 := by
    intro a ha
    rw [← abs_mul_abs_self]
    exact mul_self_le_mul_self (abs_nonneg a) ha
  have hborn : Post (w.createSnake m) (fun r => ¬ r.1.Outside) (fun _ => True) := by
    refine (createSnake_born m w).mono ?_ fun _ _ => trivial
    rintro _ ⟨skin, turn, away, drawn, rng, haway, rfl⟩
    obtain ⟨hx, hy⟩ := getHead_born hm w skin turn haway drawn
    have hparts : ((w.born m skin turn away drawn).initBoxNewSectors w.sectors).1.parts =
        (w.born m skin turn away drawn).parts := rfl
    rw [Outside.congr hparts]
    refine not_le.mpr ?_
    have hx' := hsquare hx
    have hy' := hsquare hy
    simp only [Body.distanceSquared, WorldConfig.gameRadius, WorldConfig.deathRadius]
    unfold getHeadX at hx'
    unfold getHeadY at hy'
    push_cast
    linarith
  unfold create createSnakeBot
  cases bot with
  | true => exact Post.bind hborn fun r hr => fun _ => hr
  | false => exact hborn.mono (fun r hr _ => hr) fun _ h => h

private theorem init_inside {m : Libm F} (hm : m.Unit) (config : WorldConfig) (rng : Rng) :
    Post (World.init m config rng) (InsideExcept []) (fun _ => True) := by
  refine init_rule (fun s hs => absurd hs List.not_mem_nil) fun w hw => ?_
  refine Post.bind (((create_inside hm true w).and (create_fresh m true w)).mono (fun _ h => h)
    fun _ _ => trivial) ?_
  rintro ⟨s, w'⟩ ⟨hin, -, -, hsnakes, -⟩ t ht
  rcases Keyed.mem_of_mem_insert ht with ht | rfl
  · exact hw t (hsnakes ▸ ht)
  · exact .inl hin

end World

namespace GameServer

/-- No living snake is moved further than from the border to the edge of the map. -/
def ShortMoves [IsStrictOrderedRing F] (srv : GameServer F) : Event → Prop
  | .timer false dt => ∀ s ∈ srv.world.snakes, s.Alive →
      s.moveDist (srv.world.vfrTime dt) ≤ (300 : F)
  | _ => True

private theorem broadcastUpdate_inside {srv : GameServer F} {s : Snake F}
    (h : srv.world.InsideExcept []) (hs : srv.world.getSnake s.id = some s) :
    Post (srv.broadcastUpdate s.id) (fun r => r.world.InsideExcept []) (fun _ => True) := by
  refine (broadcastUpdate_post hs).mono ?_ fun _ _ => trivial
  rintro r ⟨hdead, hdying, halive⟩
  cases hd : s.update.changeDead with
  | true =>
      rw [hdead hd]
      exact h
  | false =>
      cases hy : s.update.changeDying with
      | true =>
          obtain ⟨spawn, ss, rng, -, rfl⟩ := hdying hd hy
          refine h.store (s := s.buried) (fun id hid => .inr hid) (.inl (.of_dead ?_))
          simp [buried, markDead]
      | false =>
          rw [halive hd hy]
          refine h.store (s := s.announced) (fun id hid => .inr hid) (.inl fun _ => ?_)
          rw [Outside.congr s.announced_parts]
          exact ((h s (Keyed.mem_of_find? hs)).resolve_right fun hin => absurd hin.1
            List.not_mem_nil) ⟨hy, hd⟩

private theorem handle_inside [IsStrictOrderedRing F] {m : Libm F} (hm : m.Unit)
    {srv : GameServer F} {e : Event} (hquiet : srv.world.Quiet) (h : srv.world.InsideExcept []) :
    Post (srv.handle m e) (fun r => r.world.InsideExcept []) (fun _ => True) := by
  cases e with
  | opened hdl =>
      refine (onOpen_post m srv hdl).mono ?_ fun _ _ => trivial
      rintro r ⟨s, w, hcreate, hfree, hsend⟩
      obtain ⟨-, -, hsnakes, -⟩ := (World.create_fresh m false srv.world).of_ok hcreate
      have hin : s.Inside := (World.create_inside hm false srv.world).of_ok hcreate
      have hjoin : (w.addSnake s).InsideExcept [] := by
        intro t ht
        rcases Keyed.mem_of_mem_insert ht with ht | rfl
        · exact h t (hsnakes ▸ ht)
        · exact .inl hin
      rw [hsend]
      exact hjoin.store (fun id hid => .inr hid) (.inl hin)
  | message hdl binary payload =>
      refine (onMessage_post m srv hdl binary payload).mono (fun r hr => ?_) fun _ _ => trivial
      rcases hr.world with hw | ⟨s, s', hs, hkept, hbody, hw⟩
      · rw [hw]
        exact h
      · rw [hw]
        refine h.store (fun id hid => .inr hid) (.inl fun halive => ?_)
        simp only [kept, Changes.announced, Prod.mk.injEq] at hkept
        obtain ⟨-, -, -, -, -, -, hdying, hdead⟩ := hkept
        rw [Outside.congr (congrArg Prod.fst hbody)]
        exact ((h s (Keyed.mem_of_find? hs)).resolve_right fun hin => absurd hin.1
          List.not_mem_nil) ⟨hdying ▸ halive.1, hdead ▸ halive.2⟩
  | closed hdl =>
      show (srv.onClose hdl).world.InsideExcept []
      unfold onClose
      split
      · exact h.of_mem fun s hs => ((World.Registered.mem_removeSnake _ _ s).mp hs).1
      · exact h
  | timer ec dt =>
      apply onTimer_rule fun _ (r : GameServer F) => r.world.InsideExcept []
      · exact h
      · trivial
      · refine (World.tick_inside hquiet h).mono (fun w hw ms _ => ?_) fun _ he => he
        rw [world_deliverAll]
        exact hw
      · exact fun s rest r hr hs => broadcastUpdate_inside hr hs
      · intro r hr
        exact foldl_inv (f := GameServer.removeSnake)
          (fun _ (r : GameServer F) => r.world.InsideExcept [])
          (fun id rest r hr => hr.of_mem fun s hs =>
            ((World.Registered.mem_removeSnake _ _ s).mp hs).1) r.world.dead _ hr

theorem run_inside [IsStrictOrderedRing F] {m : Libm F} (hm : m.Unit) {debug : Bool}
    {config : WorldConfig} {rng : Rng} {srv₀ srv : GameServer F} {es : List Event}
    (hstart : run m debug config rng = .ok srv₀) (hrun : Run (Step m) srv₀ es srv) :
    srv.world.InsideExcept [] := by
  obtain ⟨w, hinit, hsrv⟩ := bind_eq_ok.mp hstart
  have hw := (World.init_initial m config rng).of_ok hinit
  have hin := (World.init_inside hm config rng).of_ok hinit
  refine (hrun.state_invariant (I := fun srv => srv.world.Quiet ∧ srv.world.InsideExcept [])
    ?_ ?_).2
  · cases hsrv
    exact ⟨⟨hw.changes, fun s hs => .inr (hw.fresh s hs).1.quiet⟩, hin⟩
  · rintro t e u ⟨hquiet, hinside⟩ ⟨-, w', ⟨snakes, hperm, rfl⟩, hhandle⟩
    have hsame : ∀ s ∈ ({ t.world with snakes := snakes } : World F).snakes, s ∈ t.world.snakes :=
      fun s hs => hperm.mem_iff.mp hs
    have hquiet' : (t.setWorld { t.world with snakes := snakes }).world.Quiet :=
      hquiet.of_mem hquiet.changes hsame
    have hinside' : (t.setWorld { t.world with snakes := snakes }).world.InsideExcept [] :=
      hinside.of_mem hsame
    exact ⟨(handle_quiet hquiet').of_ok hhandle, (handle_inside hm hquiet' hinside').of_ok hhandle⟩

private theorem onMessage_gear (m : Libm F) (srv : GameServer F) (hdl : ConnectionHdl)
    (binary : Bool) (payload : List UInt8) :
    Post (srv.onMessage m hdl binary payload)
      (fun r => ∀ s ∈ r.world.snakes, ∃ t ∈ srv.world.snakes,
        s.speed = t.speed ∧ s.movTicks = t.movTicks) (fun _ => True) := by
  have hsame : ∀ s ∈ srv.world.snakes, ∃ t ∈ srv.world.snakes,
      s.speed = t.speed ∧ s.movTicks = t.movTicks := fun s hs => ⟨s, hs, rfl, rfl⟩
  have hdo : ∀ (srv' : GameServer F) (id : SnakeId) (f : Snake F → Snake F),
      srv'.world = srv.world → (∀ s, (f s).speed = s.speed ∧ (f s).movTicks = s.movTicks) →
      Post (srv'.doSnake id f) (fun r => ∀ s ∈ r.world.snakes, ∃ t ∈ srv.world.snakes,
        s.speed = t.speed ∧ s.movTicks = t.movTicks) (fun _ => True) := by
    intro srv' id f hworld hf
    refine (doSnake_post srv' id f).mono ?_ fun _ _ => trivial
    rintro r (rfl | ⟨t, ht, rfl⟩) s hs
    · exact hsame s (hworld ▸ hs)
    · rcases Keyed.mem_replace.mp hs with ⟨hs, -⟩ | ⟨rfl, -⟩
      · exact hsame s (hworld ▸ hs)
      · exact ⟨t, hworld ▸ Keyed.mem_of_find? ht, hf t⟩
  unfold onMessage
  split
  swap
  · exact hsame
  dsimp only
  split
  · exact hsame
  split
  · exact hsame
  unfold onPacket
  split
  · exact hdo _ _ _ rfl fun s => ⟨rfl, rfl⟩
  split
  · unfold sendBinary
    split
    · exact hsame
    · trivial
  split
  · exact hdo _ _ _ rfl fun s => ⟨rfl, rfl⟩
  split
  · exact hdo _ _ _ rfl fun s => ⟨rfl, rfl⟩
  split
  · exact hdo _ _ _ rfl fun s => ⟨rfl, rfl⟩
  split
  · exact hsame
  split <;> exact hsame

/-- Every snake keeps its speed in range and less than an interval on its movement clock. -/
def Timely [IsStrictOrderedRing F] (srv : GameServer F) : Prop :=
  ∀ s ∈ srv.world.snakes, s.InRange ∧ s.movTicks < 227

private theorem Timely.of_gear [IsStrictOrderedRing F] {srv srv' : GameServer F} (h : srv.Timely)
    (hgear : ∀ s ∈ srv'.world.snakes, ∃ t ∈ srv.world.snakes,
      s.speed = t.speed ∧ s.movTicks = t.movTicks) : srv'.Timely := by
  intro s hs
  obtain ⟨t, ht, hspeed, hmov⟩ := hgear s hs
  obtain ⟨hrange, hrest⟩ := h t ht
  exact ⟨⟨hspeed ▸ hrange.base, hspeed ▸ hrange.boost⟩, hmov ▸ hrest⟩

private theorem broadcastUpdate_timely [IsStrictOrderedRing F] {srv : GameServer F} {s : Snake F}
    (h : srv.Timely) (hs : srv.world.getSnake s.id = some s) :
    Post (srv.broadcastUpdate s.id) Timely (fun _ => True) := by
  refine (broadcastUpdate_post hs).mono ?_ fun _ _ => trivial
  rintro r ⟨hdead, hdying, halive⟩
  have hstore : ∀ t : Snake F, t.speed = s.speed → t.movTicks = s.movTicks →
      ∀ u ∈ (srv.world.store t).snakes, ∃ v ∈ srv.world.snakes,
        u.speed = v.speed ∧ u.movTicks = v.movTicks := by
    intro t hspeed hmov u hu
    rcases Keyed.mem_replace.mp hu with ⟨hu, -⟩ | ⟨rfl, -⟩
    · exact ⟨u, hu, rfl, rfl⟩
    · exact ⟨s, Keyed.mem_of_find? hs, hspeed, hmov⟩
  cases hd : s.update.changeDead with
  | true =>
      rw [hdead hd]
      exact h
  | false =>
      cases hy : s.update.changeDying with
      | true =>
          obtain ⟨spawn, ss, rng, -, rfl⟩ := hdying hd hy
          exact h.of_gear (hstore s.buried rfl rfl)
      | false =>
          rw [halive hd hy]
          exact h.of_gear (hstore s.announced (congrArg Prod.fst s.announced_gear)
            (congrArg Prod.snd s.announced_gear))

private theorem handle_timely [IsStrictOrderedRing F] {m : Libm F} {srv : GameServer F} {e : Event}
    (h : srv.Timely) : Post (srv.handle m e) Timely (fun _ => True) := by
  cases e with
  | opened hdl =>
      refine (onOpen_post m srv hdl).mono ?_ fun _ _ => trivial
      rintro r ⟨s, w, hcreate, hfree, hsend⟩ t ht
      obtain ⟨-, -, hsnakes, -⟩ := (World.create_fresh m false srv.world).of_ok hcreate
      have hnew : s.OnTime [] := (World.create_onTime m false srv.world).of_ok hcreate
      rw [hsend] at ht
      rcases Keyed.mem_replace.mp ht with ⟨ht, -⟩ | ⟨rfl, -⟩
      · rcases Keyed.mem_of_mem_insert ht with ht | rfl
        · exact h t (hsnakes ▸ ht)
        · exact ⟨hnew.speed, hnew.rest⟩
      · exact ⟨⟨hnew.speed.base, hnew.speed.boost⟩, hnew.rest⟩
  | message hdl binary payload =>
      exact (onMessage_gear m srv hdl binary payload).mono (fun r hr => h.of_gear hr) fun _ h => h
  | closed hdl =>
      show (srv.onClose hdl).Timely
      unfold onClose
      split
      · exact h.of_gear fun s hs =>
          ⟨s, ((World.Registered.mem_removeSnake _ _ s).mp hs).1, rfl, rfl⟩
      · exact h
  | timer ec dt =>
      apply onTimer_rule fun _ (r : GameServer F) => r.Timely
      · exact h
      · trivial
      · refine (World.tick_each m dt srv.world).mono (fun w hw ms _ s hs => ?_) fun _ he => he
        rw [world_deliverAll] at hs
        rcases hw s hs with hs | ⟨t, ht, time, ss, r, hr, -, hmark, -⟩
        · exact h s hs
        · obtain ⟨hrange, hrest⟩ := h t ht
          have hgear : s.speed = r.snake.speed ∧ s.movTicks = r.snake.movTicks := by
            rcases hmark with rfl | rfl <;> exact ⟨rfl, rfl⟩
          rw [hgear.2]
          have hticked := tick_timely hrange hrest hr
          exact ⟨⟨hgear.1 ▸ hticked.1.base, hgear.1 ▸ hticked.1.boost⟩, hticked.2⟩
      · exact fun s rest r hr hs => broadcastUpdate_timely hr hs
      · intro r hr
        exact foldl_inv (f := GameServer.removeSnake) (fun _ (r : GameServer F) => r.Timely)
          (fun id rest r hr => hr.of_gear fun s hs =>
            ⟨s, ((World.Registered.mem_removeSnake _ _ s).mp hs).1, rfl, rfl⟩) r.world.dead _ hr

theorem run_timely [IsStrictOrderedRing F] {m : Libm F} {debug : Bool} {config : WorldConfig}
    {rng : Rng} {srv₀ srv : GameServer F} {es : List Event}
    (hstart : run m debug config rng = .ok srv₀) (hrun : Run (Step m) srv₀ es srv) :
    srv.Timely := by
  obtain ⟨w, hinit, hsrv⟩ := bind_eq_ok.mp hstart
  have hstarted : ∀ s ∈ w.snakes, s.InRange ∧ s.movTicks < 227 := by
    refine Post.of_ok (Q := fun _ => True) (World.init_rule
      (I := fun w => ∀ s ∈ w.snakes, s.InRange ∧ s.movTicks < 227)
      (fun s hs => absurd hs List.not_mem_nil) fun w hw => ?_) hinit
    refine Post.bind (((World.create_onTime m true w).and (World.create_fresh m true w)).mono
      (fun _ h => h) fun _ _ => trivial) ?_
    rintro ⟨s, w'⟩ ⟨hnew, -, -, hsnakes, -⟩ t ht
    rcases Keyed.mem_of_mem_insert ht with ht | rfl
    · exact hw t (hsnakes ▸ ht)
    · exact ⟨hnew.speed, hnew.rest⟩
  refine hrun.state_invariant (I := Timely) ?_ ?_
  · cases hsrv
    exact hstarted
  · rintro t e u ht ⟨-, w', ⟨snakes, hperm, rfl⟩, hhandle⟩
    have ht' : (t.setWorld { t.world with snakes := snakes }).Timely :=
      fun s hs => ht s (hperm.mem_iff.mp hs)
    exact (handle_timely ht').of_ok hhandle

/-- A timer event reads good sectors as long as it moves no living snake further than from the
border to the edge of the map, and so if it hands at most 443 milliseconds to the snakes. -/
theorem indices_in_range [IsStrictOrderedRing F] {m : Libm F} (hm : m.Unit) (debug : Bool)
    (config : WorldConfig) (rng : Rng) {srv₀ srv : GameServer F} {es : List Event}
    (hstart : run m debug config rng = .ok srv₀) (hrun : Run (Step m) srv₀ es srv) (dt : ℕ) :
    (srv.ShortMoves (.timer false dt) →
      ∀ w, World.Reorders srv.world w → w.IndicesInRange m dt) ∧
    (srv.world.vfrTime dt ≤ 443 → srv.ShortMoves (.timer false dt)) := by
  refine ⟨?_, fun hdt s hs _ => moveDist_le (run_timely hstart hrun s hs) hdt⟩
  rintro hshort w ⟨snakes, hperm, rfl⟩ - s w' ⟨before, after, hentries, -⟩ halive -
  have hs : s ∈ srv.world.snakes := by
    refine hperm.mem_iff.mp ?_
    have hsnakes : snakes.entries = before ++ s :: after := hentries
    rw [hsnakes]
    exact List.mem_append_right _ (List.mem_cons_self ..)
  have hin : ¬ s.Outside :=
    ((run_inside hm hstart hrun s hs).resolve_right fun hin => absurd hin.1 List.not_mem_nil) halive
  rw [cellInRange_iff, eater_getHead]
  exact nextHead_onMap hm hin (hshort s hs halive)

theorem indices_in_range_opened :
    ∃ srv : GameServer ℚ, Run (Step Libm.axis) (blank false {} Rng.zero) [.opened 1] srv ∧
      srv.world.snakes.entries.length = 1 ∧ srv.world.IndicesInRange Libm.axis 440 := by
  let check : GameServer ℚ → Bool := fun srv =>
    decide (srv.world.ticks = 0) && decide (srv.world.snakes.entries.length = 1)
  have heval : ((lobby {}).replay Libm.axis [.opened 1]).any check = true := by decide +kernel
  obtain ⟨srv, hrun, hcheck⟩ := exists_run heval
  rw [Bool.and_eq_true, decide_eq_true_eq, decide_eq_true_eq] at hcheck
  have hrange := indices_in_range Libm.axis_unit false {} Rng.zero (run_blank _ _ _ rfl) hrun 440
  refine ⟨srv, hrun, hcheck.2, hrange.1 (hrange.2 ?_) srv.world ⟨srv.world.snakes, .refl _, rfl⟩⟩
  unfold World.vfrTime
  rw [hcheck.1]
  decide

/-- A tick that comes 1000 seconds late takes the head off the map. -/
theorem indices_out_of_range :
    ¬ ∀ (m : Libm ℚ) (debug : Bool) (config : WorldConfig) (rng : Rng) (srv₀ srv : GameServer ℚ)
      (es : List Event) (dt : ℕ), m.Unit → run m debug config rng = .ok srv₀ →
        Run (Step m) srv₀ es srv → ∀ w, World.Reorders srv.world w → w.IndicesInRange m dt := by
  intro h
  let check : GameServer ℚ → Bool := fun srv =>
    match srv.world.snakes.entries with
    | [] => false
    | s :: _ => decide (s.update.changeDying = false ∧ s.update.changeDead = false) &&
        decide (s.framesTicks (srv.world.vfrTime 1000000) ≠ 0) &&
        decide (43200 ≤ (s.nextHead Libm.axis (srv.world.vfrTime 1000000)).x)
  have heval : ((lobby {}).replay Libm.axis [.opened 1]).any check = true := by decide +kernel
  obtain ⟨srv, hrun, hcheck⟩ := exists_run heval
  have hrange := h Libm.axis false {} Rng.zero _ srv _ 1000000 Libm.axis_unit
    (run_blank _ _ _ rfl) hrun srv.world ⟨srv.world.snakes, .refl _, rfl⟩
  cases hentries : srv.world.snakes.entries with
  | nil =>
      simp only [check, hentries] at hcheck
      cases hcheck
  | cons s rest =>
      simp only [check, hentries] at hcheck
      rw [Bool.and_eq_true, Bool.and_eq_true, decide_eq_true_eq, decide_eq_true_eq,
        decide_eq_true_eq] at hcheck
      obtain ⟨⟨halive, hframes⟩, hout⟩ := hcheck
      have hlate : WorldConfig.frameTimeMs ≤ srv.world.ticks + 1000000 := by
        simp only [WorldConfig.frameTimeMs]
        omega
      have hcell := hrange hlate s _ ⟨[], rest, hentries, rfl⟩ halive hframes
      rw [cellInRange_iff, eater_getHead] at hcell
      exact not_le.mpr hcell.x.2 hout

end GameServer

end Slither
