import Slither.Game.Changes
import Slither.Server.Handlers

/-!
# Change notifications

Everything a tick reports is announced before the next event, so that the reports of the next tick
are new ones.
-/

set_option linter.unusedSectionVars false

namespace Slither

open Framework Snake

variable {F : Type} [Field F] [LinearOrder F] [FloorRing F]

private theorem Snake.announced_quiet {s : Snake F} (htidy : s.Tidy)
    (hdying : s.update.changeDying = false) : s.announced.Quiet := by
  have hplayer : ∀ t : Snake F, t.Quiet → t.playerSent.Quiet := by
    intro t ht
    unfold playerSent
    split
    · exact ⟨ht.pos, ht.angle, ht.speed, ht.dying, ht.eaten, ht.spawn⟩
    · exact ⟨ht.pos, ht.angle, ht.speed, ht.dying, ht.eaten, ht.spawn⟩
  unfold announced
  cases hpos : s.update.changePos with
  | false =>
      obtain ⟨heaten, hspawn⟩ := htidy hpos
      exact ⟨hpos, rfl, rfl, hdying, heaten, hspawn⟩
  | true =>
      have hmove : s.rotationSent.moveSent.Quiet := by
        refine ⟨?_, rfl, rfl, hdying, rfl, rfl⟩
        show (!s.update.changePos) = false
        rw [hpos]
        rfl
      simp only [if_true]
      split
      · exact hmove
      · exact hplayer _ hmove

theorem Snake.Fresh.quiet {s : Snake F} (h : s.Fresh) : s.Quiet := by
  refine ⟨?_, ?_, ?_, ?_, h.eaten, h.spawn⟩ <;> rw [h.update] <;> rfl

namespace World

theorem Quiet.of_mem {w w' : World F} (h : w.Quiet) (hchanges : w'.changes = [])
    (hmem : ∀ s ∈ w'.snakes, s ∈ w.snakes) : w'.Quiet :=
  ⟨hchanges, fun s hs => h.snakes s (hmem s hs)⟩

private theorem Quiet.store {w : World F} {s : Snake F} (h : w.Quiet)
    (hs : s.update.changeDead = true ∨ s.Quiet) : (w.store s).Quiet := by
  refine ⟨h.changes, fun t ht => ?_⟩
  rcases Keyed.mem_replace.mp ht with ⟨ht, -⟩ | ⟨rfl, -⟩
  · exact h.snakes t ht
  · exact hs

private theorem changes_removeSnake (w : World F) (id : SnakeId) :
    (w.removeSnake id).changes = w.changes.filter fun j => j ≠ id := by
  unfold removeSnake
  dsimp only
  split <;> rfl

private theorem Quiet.removeSnake {w : World F} (h : w.Quiet) (id : SnakeId) :
    (w.removeSnake id).Quiet := by
  refine h.of_mem ?_ fun s hs => ((Registered.mem_removeSnake w id s).mp hs).1
  rw [changes_removeSnake, h.changes]
  rfl

end World

namespace GameServer

theorem broadcastUpdate_quietExcept {srv : GameServer F} {s : Snake F} {rest : List SnakeId}
    (h : srv.world.QuietExcept (s.id :: rest)) (hs : srv.world.getSnake s.id = some s) :
    Post (srv.broadcastUpdate s.id) (fun r => r.world.QuietExcept rest) (fun _ => True) := by
  have hids : ∀ id ∈ s.id :: rest, id = s.id ∨ id ∈ rest := fun id hid => List.mem_cons.mp hid
  refine (broadcastUpdate_post hs).mono ?_ fun _ _ => trivial
  rintro r ⟨hdead, hdying, halive⟩
  cases hd : s.update.changeDead with
  | true =>
      rw [hdead hd]
      have hstore := h.store (s := s) hids (.inl hd)
      unfold World.store at hstore
      rwa [Keyed.replace_self (Keyed.mem_of_find? hs)] at hstore
  | false =>
      cases hy : s.update.changeDying with
      | true =>
          obtain ⟨spawn, ss, rng, -, rfl⟩ := hdying hd hy
          refine h.store (s := s.buried) hids (.inl ?_)
          simp [buried, markDead]
      | false =>
          rw [halive hd hy]
          have hsid : s.announced.id = s.id := (announced_frame s).1
          have htidy : s.Tidy := by
            rcases h s (Keyed.mem_of_find? hs) with hdead' | ⟨htidy, -⟩
            · rw [hd] at hdead'
              cases hdead'
            · exact htidy
          have hquiet := announced_quiet htidy hy
          exact h.store (s := s.announced) (fun id hid => hsid.symm ▸ hids id hid)
            (.inr ⟨hquiet.tidy, .inr hquiet⟩)

theorem handle_quiet {m : Libm F} {srv : GameServer F} {e : Event} (h : srv.world.Quiet) :
    Post (srv.handle m e) (fun r => r.world.Quiet) (fun _ => True) := by
  cases e with
  | opened hdl =>
      refine (onOpen_post m srv hdl).mono ?_ fun _ _ => trivial
      rintro r ⟨s, w, hcreate, hfree, hsend⟩
      obtain ⟨hfresh, -, hsnakes, -, hchanges⟩ :=
        (World.create_fresh m false srv.world).of_ok hcreate
      have hjoin : (w.addSnake s).Quiet := by
        refine ⟨hchanges.trans h.changes, fun t ht => ?_⟩
        rcases Keyed.mem_of_mem_insert ht with ht | rfl
        · exact h.snakes t (hsnakes ▸ ht)
        · exact .inr hfresh.quiet
      rw [hsend]
      have hq := hfresh.quiet
      exact hjoin.store (.inr ⟨hq.pos, hq.angle, hq.speed, hq.dying, hq.eaten, hq.spawn⟩)
  | message hdl binary payload =>
      refine (onMessage_post m srv hdl binary payload).mono (fun r hr => ?_) fun _ _ => trivial
      rcases hr.world with hw | ⟨s, s', hs, hkept, hbody, hw⟩
      · rw [hw]
        exact h
      · rw [hw]
        apply h.store
        refine (h.snakes s (Keyed.mem_of_find? hs)).imp (fun hdead => ?_) fun hq =>
          hq.of_same hkept hbody
        simp only [kept, Changes.announced, Prod.mk.injEq] at hkept
        exact hkept.2.2.2.2.2.2.2.trans hdead
  | closed hdl =>
      show (srv.onClose hdl).world.Quiet
      unfold onClose
      split
      · exact h.removeSnake _
      · exact h
  | timer ec dt =>
      apply onTimer_rule fun ids (r : GameServer F) => r.world.QuietExcept ids
      · exact h
      · trivial
      · refine (World.tick_quietExcept h).mono (fun w hw ms _ => ?_) fun _ he => he
        rw [world_deliverAll]
        exact hw
      · exact fun s rest r hr hs => broadcastUpdate_quietExcept hr hs
      · intro r hr
        have hflush : (r.setWorld r.world.flushChanges).world.Quiet := by
          refine ⟨rfl, fun s hs => (hr s hs).imp id fun hq => ?_⟩
          exact hq.2.resolve_left List.not_mem_nil
        have hfold := foldl_inv (f := GameServer.removeSnake)
          (fun _ (r : GameServer F) => r.world.Quiet)
          (fun id rest r hr => hr.removeSnake id) r.world.dead _ hflush
        exact ⟨hfold.changes, hfold.snakes⟩

theorem run_quiet {m : Libm F} {debug : Bool} {config : WorldConfig} {rng : Rng}
    {srv₀ srv : GameServer F} {es : List Event} (hstart : run m debug config rng = .ok srv₀)
    (hrun : Run (Step m) srv₀ es srv) : srv.world.Quiet := by
  obtain ⟨w, hinit, hsrv⟩ := bind_eq_ok.mp hstart
  have hw := (World.init_initial m config rng).of_ok hinit
  refine hrun.state_invariant (I := fun srv => srv.world.Quiet) ?_ ?_
  · cases hsrv
    exact ⟨hw.changes, fun s hs => .inr (hw.fresh s hs).1.quiet⟩
  · rintro t e u ht ⟨-, w', ⟨snakes, hperm, rfl⟩, hhandle⟩
    have ht' : (t.setWorld { t.world with snakes := snakes }).world.Quiet :=
      ht.of_mem ht.changes fun s hs => hperm.mem_iff.mp hs
    exact (handle_quiet ht').of_ok hhandle

/-- What the first loop of `TickSnakes` hands on when it ends in `w₁`: a tick is reported exactly if
it set a bit, each reported snake is in `changes` once, and each one that moved goes through
`CheckSnakeBounds` once. -/
structure ReportedOnce (m : Libm F) (dt : ℕ) (w w₁ : World F) : Prop where
  ticks : ∀ s w', w.Turn m dt s w' → ∃ c r,
    s.written m dt w'.sectors = .ok c ∧ s.tick m dt w'.sectors = .ok r ∧
    (r.changed = true ↔ c.changePos = true ∨ c.changeAngle = true ∨ c.changeSpeed = true) ∧
    (s.id ∈ w₁.changes ↔ r.changed = true) ∧ (s.id ∈ w₁.checked ↔ c.changePos = true)
  once : w₁.changes.Nodup
  checks : w₁.checkAll = w₁.checked.foldlM (fun w id => w.deref id >>= w.checkSnakeBounds) w₁
  handed : ∀ w₂, w₁.checkAll = .ok w₂ → w₂.changes = w₁.changes

/-- Between events nothing waits to be announced, and a timer event loses no report. -/
theorem changes_reported (m : Libm F) (debug : Bool) (config : WorldConfig) (rng : Rng)
    {srv₀ srv : GameServer F} {es : List Event} (hstart : run m debug config rng = .ok srv₀)
    (hrun : Run (Step m) srv₀ es srv) :
    (srv.world.changes = [] ∧ ∀ s ∈ srv.world.snakes, s.update.changeDead = false →
      s.update.changePos = false ∧ s.update.changeAngle = false ∧ s.update.changeSpeed = false ∧
        s.update.changeDying = false ∧ s.eaten = [] ∧ s.spawn = []) ∧
    ∀ w dt vfrTime w₁, World.Reorders srv.world w →
      ({ w with ticks := w.ticks + dt } : World F).tickAll m vfrTime = .ok w₁ →
      ReportedOnce m vfrTime { w with ticks := w.ticks + dt } w₁ := by
  have hquiet := run_quiet hstart hrun
  refine ⟨⟨hquiet.changes, fun s hs hlive => ?_⟩, ?_⟩
  · rcases hquiet.snakes s hs with hdead | hq
    · rw [hlive] at hdead
      cases hdead
    · exact ⟨hq.pos, hq.angle, hq.speed, hq.dying, hq.eaten, hq.spawn⟩
  · rintro w dt vfrTime w₁ ⟨snakes, hperm, rfl⟩ hall
    have hq : ({ { srv.world with snakes := snakes } with ticks := srv.world.ticks + dt } :
        World F).Quiet :=
      hquiet.of_mem hquiet.changes fun s hs => hperm.mem_iff.mp hs
    have hrep := (World.tickAll_reporting hq).of_ok hall
    refine ⟨fun s w' hturn => ?_, hrep.once, World.checkAll_eq hrep.listed, fun w₂ hw₂ => ?_⟩
    · obtain ⟨c, r, hc, hr, hchanged, hlisted, hchecked⟩ := World.turn_reports hq hall hturn
      have hset : r.changed = true ↔ c ≠ ∅ := by rw [hchanged, decide_eq_true_iff]
      exact ⟨c, r, hc, hr, hset.trans (written_ne_empty hc), hlisted.trans hset.symm, hchecked⟩
    · exact ((World.checkAll_kept w₁).of_ok hw₂).2.1

/-- Of a dead snake and a living one the second moves and is reported. -/
theorem changes_reported_rejoined :
    ∃ (srv : GameServer ℚ) (w₁ : World ℚ),
      Run (Step Libm.axis) (blank false {} Rng.zero)
        [.opened 1, .opened 2, .timer false 232, .closed 1, .opened 3] srv ∧
      srv.world.changes = [] ∧
      ({ srv.world with ticks := srv.world.ticks + 232 } : World ℚ).tickAll Libm.axis 232 =
        .ok w₁ ∧ w₁.changes = [3] ∧
      ReportedOnce Libm.axis 232 { srv.world with ticks := srv.world.ticks + 232 } w₁ := by
  let check : GameServer ℚ → Bool := fun srv =>
    match ({ srv.world with ticks := srv.world.ticks + 232 } : World ℚ).tickAll Libm.axis 232 with
    | .ok w₁ => decide (w₁.changes = [3])
    | .error _ => false
  have heval : ((lobby {}).replay Libm.axis
      [.opened 1, .opened 2, .timer false 232, .closed 1, .opened 3]).any check = true := by
    decide +kernel
  obtain ⟨srv, hrun, hcheck⟩ := exists_run heval
  obtain ⟨⟨hnone, -⟩, hreported⟩ :=
    changes_reported Libm.axis false {} Rng.zero (run_blank _ _ _ rfl) hrun
  simp only [check] at hcheck
  cases hall : ({ srv.world with ticks := srv.world.ticks + 232 } : World ℚ).tickAll Libm.axis
      232 with
  | error e =>
      rw [hall] at hcheck
      cases hcheck
  | ok w₁ =>
      rw [hall] at hcheck
      exact ⟨srv, w₁, hrun, hnone, hall, of_decide_eq_true hcheck,
        hreported srv.world 232 232 w₁ ⟨srv.world.snakes, .refl _, rfl⟩ hall⟩

end GameServer

end Slither
