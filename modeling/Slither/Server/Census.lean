import Slither.Server.Handlers

/-!
# Ids and registrations over a run of the server

The handlers write to the world in other ways than the calls on it do.  Both keep the agreement
between snakes and sectors, and the ids below the counter.
-/

set_option linter.unusedSectionVars false

namespace Slither

open Framework Snake

variable {F : Type} [Field F] [LinearOrder F] [FloorRing F]

namespace World

/-- Snakes and sectors agree, and the counter has given `n` ids. -/
def Census (w : World F) (n : ℕ) : Prop := w.Registered ∧ w.Numbered n

namespace Census

variable {w w' : World F} {n : ℕ}

theorem of_eq (h : w.Census n) (hsnakes : ∀ s, s ∈ w'.snakes ↔ s ∈ w.snakes)
    (hsectors : w'.sectors = w.sectors) (hlast : w'.lastSnakeId = w.lastSnakeId) : w'.Census n :=
  ⟨h.1.of_eq hsnakes hsectors, hlast.trans h.2.last, fun s hs => h.2.range s ((hsnakes s).mp hs)⟩

private theorem replace {s : Snake F} (h : w.Census n) (s' : Snake F) (hs : s ∈ w.snakes)
    (hid : s'.id = s.id)
    (hsbb : s'.sbb = s.sbb) (hss : ∀ p, (w'.sectors.cell p).snakes = (w.sectors.cell p).snakes)
    (hsnakes : w'.snakes = w.snakes.replace s') (hlast : w'.lastSnakeId = w.lastSnakeId) :
    w'.Census n := by
  refine ⟨h.1.update hs hid (hsbb ▸ .of_same rfl rfl hss) hsnakes, hlast.trans h.2.last,
    fun t ht => ?_⟩
  rw [hsnakes] at ht
  rcases Keyed.mem_replace.mp ht with ⟨ht, -⟩ | ⟨rfl, -⟩
  · exact h.2.range t ht
  · rw [hid]
    exact h.2.range s hs

private theorem store {s : Snake F} (h : w.Census n) (s' : Snake F) (hs : s ∈ w.snakes)
    (hid : s'.id = s.id) (hsbb : s'.sbb = s.sbb) : (w.store s').Census n :=
  h.replace s' hs hid hsbb (fun _ => rfl) rfl rfl

private theorem remove (h : w.Census n) (id : SnakeId) : (w.removeSnake id).Census n := by
  refine ⟨h.1.remove id, ?_, fun t ht => h.2.range t ((Registered.mem_removeSnake w id t).mp ht).1⟩
  rw [← h.2.last]
  unfold removeSnake
  dsimp only
  split <;> rfl

theorem tick (m : Libm F) (dt : ℕ) (h : w.Census n) :
    Post (w.tick m dt) (fun w' => w'.Census n) (fun _ => True) := by
  refine ((h.1.tick m dt).and (tick_kept m dt w)).mono ?_ fun _ _ => trivial
  rintro w' ⟨hreg, hkept⟩
  refine ⟨hreg, (congrArg (fun k => k.2.2.1) hkept).trans h.2.last, fun t ht => ?_⟩
  obtain ⟨s, hs, hident⟩ := ids_of_kept hkept ht
  have hid : s.id = t.id := congrArg Prod.fst hident
  exact hid ▸ h.2.range s hs

end Census

end World

/-- The number of snakes an event creates. -/
def Event.opens : Event → ℕ
  | .opened _ => 1
  | _ => 0

theorem created_snoc (config : WorldConfig) (es : List Event) (e : Event) :
    created config (es ++ [e]) = created config es + e.opens := by
  cases e <;> simp [created, Event.opens, List.countP_append, Nat.add_assoc]

namespace GameServer

open World

theorem broadcastUpdate_census {srv : GameServer F} {s : Snake F} {n : ℕ}
    (h : srv.world.Census n) (hs : srv.world.getSnake s.id = some s) :
    Post (srv.broadcastUpdate s.id) (fun r => r.world.Census n) (fun _ => True) := by
  have hmem : s ∈ srv.world.snakes := Keyed.mem_of_find? hs
  refine (broadcastUpdate_post hs).mono ?_ fun _ _ => trivial
  rintro r ⟨hdead, hdying, halive⟩
  cases hd : s.update.changeDead with
  | true =>
      rw [hdead hd]
      exact h
  | false =>
      cases hy : s.update.changeDying with
      | true =>
          obtain ⟨spawn, ss, rng, hss, rfl⟩ := hdying hd hy
          exact h.replace s.buried hmem rfl rfl hss rfl rfl
      | false =>
          rw [halive hd hy]
          obtain ⟨hid, -, -, hsbb, -⟩ := announced_frame s
          exact h.store _ hmem hid hsbb

theorem removeDeadSnakes_census (srv : GameServer F) {n : ℕ} (h : srv.world.Census n) :
    srv.removeDeadSnakes.world.Census n := by
  have hfold := foldl_inv (f := GameServer.removeSnake)
    (fun _ (r : GameServer F) => r.world.Census n) (fun id rest r hr => hr.remove id)
    srv.world.dead srv h
  exact hfold.of_eq (fun _ => Iff.rfl) rfl rfl

theorem handle_census {m : Libm F} (srv : GameServer F) {e : Event} {n : ℕ}
    (h : srv.world.Census n) (hcap : n + e.opens ≤ 65535) :
    Post (srv.handle m e) (fun r => r.world.Census (n + e.opens)) (fun _ => True) := by
  cases e with
  | opened hdl =>
      refine (onOpen_post m srv hdl).mono ?_ fun _ _ => trivial
      rintro r ⟨s, w, hcreate, hfree, hsend⟩
      have hperform : srv.world.perform m (.create false) = .ok (w.addSnake s) := by
        show (srv.world.createSnake m >>= fun r => pure (r.2.addSnake r.1)) = _
        rw [hcreate]
        rfl
      have hadd : (w.addSnake s).Census (n + 1) :=
        perform_registered (.create false) h.1 h.2 hcap hperform
      rw [hsend]
      exact hadd.store (s := s) s.povSent (Keyed.mem_insert hfree |>.mpr (.inr rfl)) rfl rfl
  | message hdl binary payload =>
      refine (onMessage_post m srv hdl binary payload).mono (fun r hr => ?_) fun _ _ => trivial
      rcases hr.world with hw | ⟨s, s', hs, hkept, hbody, hw⟩
      · rw [hw]
        exact h
      · rw [hw]
        exact h.store _ (Keyed.mem_of_find? hs) (congrArg (fun k => k.1) hkept)
          (congrArg (fun b => b.2.1) hbody)
  | closed hdl =>
      show (srv.onClose hdl).world.Census n
      unfold onClose
      split
      · exact h.remove _
      · exact h
  | timer ec dt =>
      apply onTimer_rule fun _ (r : GameServer F) => r.world.Census n
      · exact h
      · trivial
      · refine (h.tick m dt).mono (fun w hw ms _ => ?_) fun _ _ => trivial
        rw [world_deliverAll]
        exact hw
      · exact fun s rest r hr hs => broadcastUpdate_census hr hs
      · intro r hr
        exact removeDeadSnakes_census (r.setWorld r.world.flushChanges)
          (hr.of_eq (fun _ => Iff.rfl) rfl rfl)

/-- Snakes and sectors agree in every reachable state. -/
theorem run_census {m : Libm F} {debug : Bool} {config : WorldConfig} {rng : Rng}
    {srv₀ srv : GameServer F} {es : List Event} (hstart : run m debug config rng = .ok srv₀)
    (hrun : Run (Step m) srv₀ es srv) (hcap : created config es ≤ 65535) :
    srv.world.Census (created config es) := by
  induction hrun with
  | nil =>
      obtain ⟨w, hinit, hsrv⟩ := bind_eq_ok.mp hstart
      cases hsrv
      exact init_registered hinit hcap
  | snoc hrun hlast ih =>
      obtain ⟨-, w', ⟨snakes, hperm, rfl⟩, hhandle⟩ := hlast
      rw [created_snoc] at hcap ⊢
      refine (handle_census (GameServer.setWorld _ _) ?_ hcap).of_ok hhandle
      exact (ih (by omega)).of_eq (fun s => hperm.mem_iff) rfl rfl

end GameServer

end Slither
