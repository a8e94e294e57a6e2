import Slither.Game.Faultless
import Slither.Game.Placement
import Slither.Server.Census
import Slither.Server.Commands
import Slither.Server.SectorIndex

/-!
# The server goes on

The handlers follow iterators, pointers and sector indices without a check.  In every state the
server reaches, the next event can be handled to its end: nothing is divided by zero, no iterator is
at its end, no snake behind a pointer is gone and no index leaves the map.
-/

set_option linter.unusedSectionVars false

namespace Slither

open Framework Snake

variable {F : Type} [Field F] [LinearOrder F] [FloorRing F]

private theorem Snake.sc_announced (s : Snake F) : s.announced.sc = s.sc := by
  unfold announced playerSent
  split
  · split
    · rfl
    · split <;> rfl
  · rfl

private theorem Command.sc_onSnake (c : Command F) (ses : Session F) (s : Snake F) :
    (c.onSnake ses s).sc = s.sc := by
  cases c <;> rfl

namespace World

private theorem getSnake_store_isSome (w : World F) (s : Snake F) (id : SnakeId) :
    ((w.store s).getSnake id).isSome = (w.getSnake id).isSome := by
  show ((w.snakes.replace s).find? id).isSome = _
  rw [Keyed.find?_replace]
  split
  · rw [Option.isSome_map]
    rfl
  · rfl

variable [IsStrictOrderedRing F]

private theorem create_scaled (m : Libm F) (bot : Bool) (w : World F) :
    Post (w.create m bot) (fun r => r.1.Scaled) (fun _ => True) := by
  have hplain : Post (w.createSnake m) (fun r => r.1.Scaled) (fun _ => True) := by
    apply (createSnake_post m w).mono ?_ fun _ _ => trivial
    intro r hr
    obtain ⟨skin, x, y, angle, body, rng, rfl⟩ := hr
    exact partScale_bounds _
  unfold create
  split
  · exact Post.bind hplain fun r hr => hr
  · exact hplain

end World

namespace GameServer

section Order

variable [IsStrictOrderedRing F]

private theorem lasting_scaled (m : Libm F) : Lasting m (F := F) Scaled where
  create := World.create_scaled m
  tick _ _ ss h := h.tick ss
  markDying _ h := h
  command ses s binary payload h := by
    unfold Scaled
    rw [Command.sc_onSnake]
    exact h
  announced s h := by
    unfold Scaled
    rw [sc_announced]
    exact h
  buried _ h := h
  povSent _ h := h

private theorem broadcastUpdate_config {srv : GameServer F} {s : Snake F}
    (hs : srv.world.getSnake s.id = some s) :
    Post (srv.broadcastUpdate s.id) (fun r => r.world.config = srv.world.config)
      (fun _ => True) := by
  apply (broadcastUpdate_post hs).mono ?_ fun _ _ => trivial
  intro r hr
  obtain ⟨hdead, hdying, halive⟩ := hr
  cases hd : s.update.changeDead with
  | true => rw [hdead hd]
  | false =>
      cases hy : s.update.changeDying with
      | true =>
          obtain ⟨spawn, ss, rng, -, rfl⟩ := hdying hd hy
          rfl
      | false =>
          rw [halive hd hy]
          rfl

private theorem handle_config {m : Libm F} {config : WorldConfig} {srv : GameServer F} {e : Event}
    (h : srv.world.config = config) :
    Post (srv.handle m e) (fun r => r.world.config = config) (fun _ => True) := by
  cases e with
  | opened hdl =>
      apply (onOpen_post m srv hdl).mono ?_ fun _ _ => trivial
      intro r hr
      obtain ⟨s, w, hcreate, -, hsend⟩ := hr
      obtain ⟨s₀, -, -, -, -, -, -, -, hconfig⟩ :=
        (World.create_post m false srv.world).of_ok hcreate
      rw [hsend]
      exact hconfig.trans h
  | message hdl binary payload =>
      apply (onMessage_post m srv hdl binary payload).mono ?_ fun _ _ => trivial
      intro r hr
      rcases hr.world with hw | ⟨s, s', -, -, -, hw⟩
      · rw [hw]
        exact h
      · rw [hw]
        exact h
  | closed hdl =>
      show (srv.onClose hdl).world.config = config
      unfold onClose
      split
      · exact (World.config_removeSnake srv.world _).1.trans h
      · exact h
  | timer ec dt =>
      apply onTimer_rule fun _ (r : GameServer F) => r.world.config = config
      · exact h
      · trivial
      · apply (World.tick_kept m dt srv.world).mono ?_ fun _ _ => trivial
        intro w hw ms _
        rw [world_deliverAll]
        exact (congrArg (fun k => k.2.2.2.1) hw).trans h
      · intro s rest r hr hs
        exact (broadcastUpdate_config hs).mono (fun _ h' => h'.trans hr) fun _ h' => h'
      · intro r hr
        exact foldl_inv (f := GameServer.removeSnake)
          (fun _ (r : GameServer F) => r.world.config = config)
          (fun id rest r hr => (World.config_removeSnake r.world id).1.trans hr) r.world.dead
          (r.setWorld r.world.flushChanges) hr

private theorem run_config {m : Libm F} {debug : Bool} {config : WorldConfig} {rng : Rng}
    {srv₀ srv : GameServer F} {es : List Event} (hstart : run m debug config rng = .ok srv₀)
    (hrun : Run (Step m) srv₀ es srv) : srv.world.config = config := by
  apply hrun.state_invariant (I := fun srv => srv.world.config = config)
  · obtain ⟨w, hinit, hsrv⟩ := bind_eq_ok.mp hstart
    cases hsrv
    exact (World.spawnNumSnakes_config m _ _).of_ok hinit
  · intro t e u ht hstep
    obtain ⟨-, w', ⟨snakes, -, rfl⟩, hhandle⟩ := hstep
    have ht' : (t.setWorld { t.world with snakes := snakes }).world.config = config := ht
    exact (handle_config ht').of_ok hhandle

private theorem onDeadFoodSpawn_returns {s : Snake F} (h : s.Scaled) (ss : SectorSeq) (rng : Rng) :
    Post (s.onDeadFoodSpawn ss rng) (fun _ => True) (fun _ => False) := by
  obtain ⟨hcount, -⟩ := deadFoodCount_mem h
  unfold deadFoodCount at hcount
  unfold onDeadFoodSpawn
  apply Post.bind (R := fun _ => True)
  · unfold divide
    split
    · omega
    · trivial
  intro foodSize _
  refine Post.foldlM (fun _ _ => True) ?_ _ _ trivial
  intro pt rest st _
  dsimp only
  split
  · rename_i hedge
    refine Post.foldlM (fun _ _ => True) ?_ _ _ trivial
    intro _ _ st' _
    apply Post.bind (R := fun _ => True)
    · unfold SectorSeq.getSector
      split
      · trivial
      · rename_i hout
        apply hout
        simp only [SectorSeq.getIndex, sectorLen, WorldConfig.sectorCountAlongEdge] at hedge ⊢
        omega
    · exact fun _ _ => trivial
  · trivial

private theorem broadcastUpdate_returns {srv : GameServer F} {s : Snake F} (hscaled : s.Scaled)
    (hs : srv.world.getSnake s.id = some s)
    (hses : s.bot = false → srv.loadSessionIter s.id ≠ none) :
    Post (srv.broadcastUpdate s.id)
      (fun r => ∀ id, (r.world.getSnake id).isSome = (srv.world.getSnake id).isSome)
      (fun _ => False) := by
  apply Post.intro
  · intro r hr id
    obtain ⟨hdead, hdying, halive⟩ := (broadcastUpdate_post hs).of_ok hr
    cases hd : s.update.changeDead with
    | true => rw [hdead hd]
    | false =>
        cases hy : s.update.changeDying with
        | true =>
            obtain ⟨spawn, ss, rng, -, rfl⟩ := hdying hd hy
            exact World.getSnake_store_isSome srv.world s.buried id
        | false =>
            rw [halive hd hy]
            exact World.getSnake_store_isSome srv.world s.announced id
  · intro e he
    have hderef : srv.world.deref s.id = .ok s := by
      unfold World.deref
      rw [hs]
    unfold broadcastUpdate at he
    rw [hderef] at he
    replace he : (if s.update.changeDead = true then _ else _) = Except.error e := he
    split at he
    · cases he
    · split at he
      · unfold broadcastDying at he
        rw [sendEnd_eq] at he
        obtain ⟨r, hspawn, -⟩ := (onDeadFoodSpawn_returns hscaled
          (srv.deliverAll (endMessages (srv.loadSessionIter s.id) s)).world.sectors
          (srv.deliverAll (endMessages (srv.loadSessionIter s.id) s)).world.rng).exists_ok
          fun _ h => h
        replace he : (s.onDeadFoodSpawn _ _ >>= _) = Except.error e := he
        rw [hspawn] at he
        cases he
      · obtain ⟨-, hbot, hnone⟩ := (broadcastAlive_post hs).of_error he
        exact hses hbot hnone

private theorem broadcastUpdates_returns {m : Libm F} {srv : GameServer F} (h : srv.Updating)
    (hscaled : srv.Each Scaled)
    (hchanges : ∀ id ∈ srv.world.changes, (srv.world.getSnake id).isSome) :
    Post srv.broadcastUpdates (fun _ => True) (fun _ => False) := by
  unfold broadcastUpdates
  apply Post.bind (R := fun _ => True)
  swap
  · exact fun _ _ => trivial
  refine (Post.foldlM (fun ids (r : GameServer F) => r.Updating ∧ r.Each Scaled ∧
    ∀ id ∈ ids, (r.world.getSnake id).isSome) ?_ _ _ ⟨h, hscaled, hchanges⟩).mono
    (fun _ _ => trivial) fun _ h => h
  intro id rest r hr
  obtain ⟨hup, hc, hin⟩ := hr
  obtain ⟨s, hs⟩ := Option.isSome_iff_exists.mp (hin id (List.mem_cons_self ..))
  obtain rfl : s.id = id := Keyed.key_of_find? hs
  have hses : s.bot = false → r.loadSessionIter s.id ≠ none := by
    intro hbot hnone
    have hplayer : r.world.player? s.id = some false := by
      rw [World.player?, hs]
      exact congrArg some hbot
    obtain ⟨hdl, hfound, -⟩ := hup.coherent.loadSessionIter hplayer
    rw [hnone] at hfound
    cases hfound
  have hreturns := broadcastUpdate_returns (hc s (Keyed.mem_of_find? hs)) hs hses
  apply ((hreturns.and (hup.broadcastUpdate hs)).and
    (hc.broadcastUpdate (lasting_scaled m).toUpheld.sends hs)).mono ?_ fun _ he => he.1.1
  intro r' hr'
  obtain ⟨⟨hsome, hup'⟩, hc'⟩ := hr'
  refine ⟨hup', hc', ?_⟩
  intro j hj
  rw [hsome]
  exact hin j (List.mem_cons_of_mem _ hj)

omit [IsStrictOrderedRing F] in
theorem broadcastDebug_returns {srv : GameServer F}
    (hchanges : ∀ id ∈ srv.world.changes, (srv.world.getSnake id).isSome) :
    Post srv.broadcastDebug (fun _ => True) (fun _ => False) := by
  unfold broadcastDebug
  split
  swap
  · trivial
  apply Post.bind (R := fun _ => True)
  · refine (Post.foldlM (fun ids _ => ∀ id ∈ ids, (srv.world.getSnake id).isSome) ?_ _ _
      hchanges).mono (fun _ _ => trivial) fun _ h => h
    intro id rest circles hin
    obtain ⟨s, hs⟩ := Option.isSome_iff_exists.mp (hin id (List.mem_cons_self ..))
    unfold World.deref
    rw [hs]
    exact fun j hj => hin j (List.mem_cons_of_mem _ hj)
  · exact fun _ _ => trivial

/-- Everything that is known of the state between two events. -/
structure Settled (config : WorldConfig) (n : ℕ) (srv : GameServer F) : Prop where
  idle : srv.Idle
  quiet : srv.world.Quiet
  inside : srv.world.InsideExcept []
  timely : srv.Timely
  census : srv.world.Census n
  config : srv.world.config = config
  scaled : srv.Each Scaled

private theorem run_settled {m : Libm F} (hm : m.Unit) {debug : Bool} {config : WorldConfig}
    {rng : Rng}
    {srv₀ srv : GameServer F} {es : List Event} (hstart : run m debug config rng = .ok srv₀)
    (hrun : Run (Step m) srv₀ es srv) (hcap : created config es ≤ 65535) :
    srv.Settled config (created config es) where
  idle := run_idle hstart hrun
  quiet := run_quiet hstart hrun
  inside := run_inside hm hstart hrun
  timely := run_timely hstart hrun
  census := run_census hstart hrun hcap
  config := run_config hstart hrun
  scaled := run_each (lasting_scaled m) hstart hrun

private theorem Settled.reorders {config : WorldConfig} {n : ℕ} {srv : GameServer F} {w : World F}
    (h : srv.Settled config n) (hw : World.Reorders srv.world w) :
    (srv.setWorld w).Settled config n := by
  have hidle := h.idle.reorders hw
  obtain ⟨snakes, hperm, rfl⟩ := hw
  have hmem : ∀ s ∈ ({ srv.world with snakes := snakes } : World F).snakes, s ∈ srv.world.snakes :=
    fun s hs => hperm.mem_iff.mp hs
  exact {
    idle := hidle
    quiet := h.quiet.of_mem h.quiet.changes hmem
    inside := h.inside.of_mem hmem
    timely := fun s hs => h.timely s (hmem s hs)
    census := h.census.of_eq (fun _ => hperm.mem_iff) rfl rfl
    config := h.config
    scaled := fun s hs => h.scaled s (hmem s hs) }

omit [IsStrictOrderedRing F] in
theorem tick_listed {m : Libm F} {dt : ℕ} {w : World F} (h : w.Quiet) :
    Post (w.tick m dt) (fun w' => ∀ id ∈ w'.changes, (w'.getSnake id).isSome)
      (fun _ => True) := by
  apply World.tick_rule
  · intro id hid
    replace hid : id ∈ w.changes := hid
    rw [h.changes] at hid
    cases hid
  · intro vfrTime
    have hq : ({ w with ticks := w.ticks + dt } : World F).Quiet := ⟨h.changes, h.snakes⟩
    apply Post.bind (World.tickAll_reporting hq)
    intro w₁ hw₁
    apply ((World.checkAll_kept w₁).mono ?_ fun _ _ => trivial)
    intro w₂ hw₂ ticks frames id hid
    obtain ⟨hkept, hchanges, -⟩ := hw₂
    have hsome := hw₁.listed id (hchanges ▸ hid)
    have hident := congrArg Option.isSome (congrFun (congrArg Prod.fst hkept) id)
    simp only [World.kept, Option.isSome_map] at hident
    show (w₂.getSnake id).isSome
    rw [hident, hsome]

private theorem onTimer_returns {m : Libm F} (hm : m.Unit) {config : WorldConfig} {n : ℕ}
    {srv : GameServer F} (h : srv.Settled config n) {ec : Bool} {dt : ℕ}
    (hshort : srv.ShortMoves (.timer ec dt)) : ∃ r, srv.onTimer m ec dt = .ok r := by
  cases ec with
  | true => exact ⟨srv, rfl⟩
  | false =>
      have htickable : srv.world.Tickable m (srv.world.vfrTime dt) := by
        intro s hs
        refine ⟨(h.timely s hs).1, fun halive _ => ?_⟩
        have hin := (h.inside s hs).resolve_right fun hin => absurd hin.1 List.not_mem_nil
        exact nextHead_onMap hm (hin halive) (hshort s hs halive)
      obtain ⟨w, hw⟩ := World.tick_returns h.census.1 h.quiet.changes htickable
      have hkept := (World.tick_kept m dt srv.world).of_ok hw
      have hlisted : ∀ id ∈ w.changes, (w.getSnake id).isSome := (tick_listed h.quiet).of_ok hw
      have hscaled := (World.Scaled.tick h.scaled m dt).of_ok hw
      have hdebug : Post (srv.setWorld w).broadcastDebug (fun _ => True) fun _ => False :=
        broadcastDebug_returns hlisted
      obtain ⟨r, hdebug, -, ms, -, hr⟩ :=
        (hdebug.and (broadcastDebug_post (srv.setWorld w))).exists_ok fun _ he => he.1
      have hworld : r.world = w := by
        rw [hr, world_deliverAll]
        rfl
      have hupdating : r.Updating := by
        rw [hr]
        exact h.idle.ticked hkept ms
      have hrscaled : r.Each Scaled := by
        unfold Each
        rw [hworld]
        exact hscaled
      obtain ⟨r', hupdates, -⟩ := (broadcastUpdates_returns (m := m) hupdating hrscaled
        (by rw [hworld]; exact hlisted)).exists_ok fun _ h => h
      refine ⟨r'.removeDeadSnakes, ?_⟩
      unfold onTimer
      simp only [Bool.false_eq_true, if_false]
      rw [hw]
      show ((srv.setWorld w).broadcastDebug >>= _) = _
      rw [hdebug]
      show (r.broadcastUpdates >>= _) = _
      rw [hupdates]
      rfl

private theorem Settled.handle {m : Libm F} (hm : m.Unit) {config : WorldConfig}
    (hlen : config.snakeAverageLength ≠ 0) {n : ℕ} {srv : GameServer F}
    (h : srv.Settled config n) {e : Event} (hcap : n + e.opens ≤ 65535)
    (hshort : srv.ShortMoves e) : ∃ r, srv.handle m e = .ok r := by
  cases e with
  | opened hdl =>
      have havg : srv.world.config.snakeAverageLength ≠ 0 := by
        rw [h.config]
        exact hlen
      obtain ⟨s, w, r, -, -, -, hopen, -⟩ :=
        onOpen_ok m srv hdl havg (h.census.2.fresh hcap)
      exact ⟨r, hopen⟩
  | message hdl binary payload =>
      rcases onMessage_obeyed h.idle.coherent m hdl binary payload with
        ⟨-, hsame⟩ | ⟨ses, s, -, -, hobeyed⟩
      · exact ⟨_, hsame⟩
      · exact ⟨_, hobeyed⟩
  | closed hdl => exact ⟨_, rfl⟩
  | timer ec dt => exact onTimer_returns hm h hshort

/-- The server starts, and from every state it reaches it can handle the next event, whatever the
order of the snakes in the map: while ids are left for the snakes, the average length is not zero,
and no late tick carries a living head off the map. -/
theorem never_faults {m : Libm F} (hm : m.Unit) (debug : Bool) {config : WorldConfig} (rng : Rng)
    (hlen : config.snakeAverageLength ≠ 0) :
    (∃ srv₀ : GameServer F, run m debug config rng = .ok srv₀) ∧
    ∀ (srv₀ srv : GameServer F) (es : List Event) (e : Event) (w : World F),
      run m debug config rng = .ok srv₀ → Run (Step m) srv₀ es srv →
      created config (es ++ [e]) ≤ 65535 → srv.ShortMoves e → World.Reorders srv.world w →
      ∃ srv', (srv.setWorld w).handle m e = .ok srv' := by
  constructor
  · obtain ⟨w, hw, -⟩ := World.spawnNumSnakes_ok m
      (w := (World.blank config rng).initFood) hlen config.bots
    unfold run World.init
    rw [hw]
    exact ⟨_, rfl⟩
  · intro srv₀ srv es e w hstart hrun hcap hshort hw
    rw [created_snoc] at hcap
    have hsettled := (run_settled hm hstart hrun (by omega)).reorders hw
    refine hsettled.handle hm hlen hcap ?_
    obtain ⟨snakes, hperm, rfl⟩ := hw
    cases e with
    | timer ec dt =>
        cases ec with
        | true => trivial
        | false => exact fun s hs => hshort s (hperm.mem_iff.mp hs)
    | opened => trivial
    | message => trivial
    | closed => trivial

/-- A player joins, and a tick 440 milliseconds later can be handled. -/
theorem never_faults_opened :
    ∃ srv srv' : GameServer ℚ, Run (Step Libm.axis) (blank false {} Rng.zero) [.opened 1] srv ∧
      srv.world.snakes.entries.length = 1 ∧
      (srv.setWorld srv.world).handle Libm.axis (.timer false 440) = .ok srv' := by
  let check : GameServer ℚ → Bool := fun srv =>
    decide (srv.world.ticks = 0) && decide (srv.world.snakes.entries.length = 1)
  have heval : ((lobby {}).replay Libm.axis [.opened 1]).any check = true := by decide +kernel
  obtain ⟨srv, hrun, hcheck⟩ := exists_run heval
  rw [Bool.and_eq_true, decide_eq_true_eq, decide_eq_true_eq] at hcheck
  have hstart : GameServer.run Libm.axis false {} Rng.zero = .ok (blank false {} Rng.zero) :=
    run_blank Libm.axis false Rng.zero rfl
  have hshort : srv.ShortMoves (.timer false 440) := by
    intro s hs _
    apply moveDist_le (run_timely hstart hrun s hs)
    unfold World.vfrTime
    rw [hcheck.1]
    decide
  have hlen : ({} : WorldConfig).snakeAverageLength ≠ 0 := by decide
  obtain ⟨srv', hhandle⟩ := (never_faults Libm.axis_unit false Rng.zero hlen).2 _ srv _
    (.timer false 440) srv.world hstart hrun (by decide) hshort
      ⟨srv.world.snakes, .refl _, rfl⟩
  exact ⟨srv, srv', hrun, hcheck.2, hhandle⟩

end Order

end GameServer

end Slither
