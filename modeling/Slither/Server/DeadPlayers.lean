import Slither.Game.Border
import Slither.Game.Clock
import Slither.Server.Deaths

/-!
# Dead players

A dead bot leaves the world with the event it dies in, but a dead player stays until its connection
is closed, registered in its sectors.  A living snake that runs into it dies, so living snakes die
of living ones only as long as none comes near a dead player.
-/

set_option linter.unusedSectionVars false

namespace Slither

open Framework Snake

variable {F : Type} [Field F] [LinearOrder F] [FloorRing F]

/-- The first loop of `TickSnakes` in a tick of the world by `dt`. -/
def World.advanceAll (m : Libm F) (dt : ℕ) (w : World F) : Exec (World F) :=
  ({ w with ticks := w.ticks + dt } : World F).tickAll m (w.vfrTime dt)

/-- In the second loop of `TickSnakes`, started in `w₁`, whoever is marked is outside the border or
has met a snake whose removal has not been announced. -/
def World.DiesOfTheLiving (w₁ : World F) : Prop :=
  ∀ before id after w' s cause, w₁.changes = before ++ id :: after →
    before.foldlM World.checkChanged w₁ = .ok w' → w'.getSnake id = some s →
    s.update.changePos = true → w'.boundsCause s = .ok (some cause) →
    s.Outside ∨ ∃ d ∈ w'.snakes, cause = .snake d.id ∧ d.id ≠ s.id ∧
      d.update.changeDead = false ∧ d.intersect s.headCircle = true

namespace World

private theorem checked_alive {m : Libm F} {dt : ℕ} {w w₁ : World F} {s : Snake F} (h : w.Quiet)
    (hall : w.advanceAll m dt = .ok w₁) (hs : s ∈ w₁.snakes) (hchecked : s.id ∈ w₁.checked) :
    s.Alive := by
  obtain ⟨s₀, hs₀, -, ss, r, hr, rfl, hlisted⟩ := exists_ticked hall hs
  obtain ⟨c, hc, hrep⟩ := (Snake.tick_reports m _ ss (h.snakes s₀ hs₀)).of_ok hr
  have hchanged : r.changed = true := by
    rcases hlisted.mp (List.mem_filter.mp hchecked).1 with hchanged | hbefore
    · exact hchanged
    · rw [show w.changes = [] from h.changes] at hbefore
      cases hbefore
  have hlive : s₀.update.changeDead = false := by
    by_contra hdead
    rw [Bool.not_eq_false] at hdead
    simp only [written, hdead, Bool.or_true, if_true, Except.ok.injEq] at hc
    rw [hrep.changed, ← hc] at hchanged
    simp at hchanged
  exact ⟨hrep.dying hlive, hrep.dead.trans hlive⟩

private theorem foldlM_checkChanged_sectors (ids : List SnakeId) (w : World F) :
    Post (ids.foldlM checkChanged w) (fun w' => w'.sectors = w.sectors) (fun _ => True) := by
  refine Post.foldlM (fun _ (w' : World F) => w'.sectors = w.sectors) ?_ _ _ rfl
  intro id rest w' hw'
  apply (checkChanged_post w' id).mono ?_ fun _ _ => trivial
  rintro w'' (rfl | ⟨s, -, -, rfl⟩)
  · exact hw'
  · exact hw'

private theorem found_at_start {ids : List SnakeId} {w₁ w' : World F} {id j : SnakeId} {s : Snake F}
    (hbefore : ids.foldlM checkChanged w₁ = .ok w') (hs : w'.getSnake id = some s)
    (hcause : w'.boundsCause s = .ok (some (.snake j))) :
    ∃ s₁ d₁ d, w₁.getSnake id = some s₁ ∧ w₁.getSnake j = some d₁ ∧ w'.getSnake j = some d ∧
      (s.update.changePos = true → s₁.update.changePos = true) ∧ ¬ s₁.Outside ∧ j ≠ s.id ∧
      (∃ p ∈ w₁.examined s₁, j ∈ (w₁.sectors.cell p).snakes) ∧
      d₁.intersect s₁.headCircle = true ∧ d.intersect s.headCircle = true ∧
      (d.update.changeDead = true → d₁.update.changeDead = true) := by
  obtain ⟨hinside, ⟨hne, d, hd, hhit⟩, p, hp, hlisted⟩ := (boundsCause_spec w' s).of_ok hcause
  have heach := (foldlM_checkChanged_each ids w₁).of_ok hbefore
  have hsectors := (foldlM_checkChanged_sectors ids w₁).of_ok hbefore
  obtain ⟨s₁, hs₁, hsmark⟩ := heach id s hs
  obtain ⟨d₁, hd₁, hdmark⟩ := heach j d hd
  have hcircle : s.headCircle = s₁.headCircle := by rcases hsmark with rfl | rfl <;> rfl
  have hreach : s.headReach = s₁.headReach := by rcases hsmark with rfl | rfl <;> rfl
  have hbody : d.intersect s.headCircle = d₁.intersect s.headCircle := by
    rcases hdmark with rfl | rfl
    · rfl
    · exact intersect_congr (s := d₁) (t := d₁.markDying) rfl rfl _
  have hparts : s.parts = s₁.parts := by rcases hsmark with rfl | rfl <;> rfl
  refine ⟨s₁, d₁, d, hs₁, hd₁, hd, ?_, ?_, hne, ⟨p, ?_, ?_⟩, ?_, hhit, ?_⟩
  · rcases hsmark with rfl | rfl
    · exact fun h => h
    · exact fun h => by simpa [markDying] using h
  · exact fun hout => hinside ((Outside.congr hparts).mpr hout)
  · unfold examined at hp ⊢
    rw [hsectors, hreach] at hp
    unfold getHeadX getHeadY getHead at hp ⊢
    rw [hparts] at hp
    exact hp
  · rw [← hsectors]
    exact hlisted
  · rw [← hcircle, ← hbody, hhit]
  · rcases hdmark with rfl | rfl
    · exact fun h => h
    · exact fun h => by simpa [markDying] using h

end World

namespace GameServer

/-- No snake that is checked in this tick has its head in the body of another one that is dead: a
player that is still connected, in a sector the check looks at. -/
def ClearOfDead (m : Libm F) (srv : GameServer F) : Event → Prop
  | .timer false dt => ∀ w w₁, World.Reorders srv.world w → w.advanceAll m dt = .ok w₁ →
      ∀ s ∈ w₁.snakes, s.id ∈ w₁.checked → s.Alive → ¬ s.Outside →
        ∀ d ∈ srv.world.snakes, d.id ≠ s.id → d.bot = false → d.update.changeDead = true →
          (∃ p ∈ w₁.examined s, d.id ∈ (w₁.sectors.cell p).snakes) →
            d.intersect s.headCircle = false
  | _ => True

private theorem dead_of_advanceAll {m : Libm F} {dt : ℕ} {w w₁ : World F} {d : Snake F}
    (hall : w.advanceAll m dt = .ok w₁) (hd : d ∈ w₁.snakes) (hdead : d.update.changeDead = true) :
    d ∈ w.snakes := by
  obtain ⟨d₀, hd₀, -, ss, r, hr, rfl, -⟩ := World.exists_ticked hall hd
  have hident := (tick_ident m _ d₀ ss).of_ok hr
  simp only [ident, Prod.mk.injEq] at hident
  unfold Snake.tick at hr
  rw [← hident.2.2.2, hdead, Bool.or_true, if_pos rfl] at hr
  cases hr
  exact hd₀

/-- As long as no snake comes to a dead player, a snake dies of the border or of a living one. -/
theorem dead_do_not_kill (m : Libm F) (debug : Bool) (config : WorldConfig) (rng : Rng)
    {srv₀ srv : GameServer F} {es : List Event} (hstart : run m debug config rng = .ok srv₀)
    (hrun : Run (Step m) srv₀ es srv) {dt : ℕ} (hclear : srv.ClearOfDead m (.timer false dt)) :
    ∀ w w₁, World.Reorders srv.world w → w.advanceAll m dt = .ok w₁ → w₁.DiesOfTheLiving := by
  intro w w₁ hreorder hall before id after w' s cause hchanges hbefore hs hpos hcause
  cases cause with
  | border => exact .inl ((World.boundsCause_spec w' s).of_ok hcause)
  | snake j =>
      obtain ⟨s₁, d₁, d, hs₁, hd₁, hd, hpos₁, hinside, hne, hlisted, hhit₁, hhit, hdead₁⟩ :=
        World.found_at_start hbefore hs hcause
      obtain ⟨hdmem, hdid⟩ := Keyed.find?_eq_some.mp hd
      refine .inr ⟨d, hdmem, by rw [hdid], by rw [hdid]; exact hne, ?_, hhit⟩
      -- a dead body that is met is a dead player's, and none is met
      by_contra hdead
      rw [Bool.not_eq_false] at hdead
      replace hdead := hdead₁ hdead
      obtain ⟨hs₁mem, hs₁id⟩ := Keyed.find?_eq_some.mp hs₁
      obtain ⟨hd₁mem, rfl⟩ := Keyed.find?_eq_some.mp hd₁
      have hmem : ∀ t, t ∈ w.snakes ↔ t ∈ srv.world.snakes := by
        obtain ⟨snakes, hperm, rfl⟩ := hreorder
        exact fun t => hperm.mem_iff
      have hquiet : w.Quiet := by
        obtain ⟨snakes, hperm, rfl⟩ := hreorder
        exact (run_quiet hstart hrun).of_mem (run_quiet hstart hrun).changes fun t ht => (hmem t).mp ht
      have hchecked : s₁.id ∈ w₁.checked := by
        rw [World.checked, List.mem_filter, hchanges, hs₁id, hs₁, Option.any_some]
        exact ⟨by simp, hpos₁ hpos⟩
      have hd₀ : d₁ ∈ srv.world.snakes := (hmem d₁).mp (dead_of_advanceAll hall hd₁mem hdead)
      have hplayer : d₁.bot = false := by
        cases hbot : d₁.bot with
        | false => rfl
        | true =>
            have hin := run_botsListed hstart hrun d₁ hd₀ hdead hbot
            rw [(run_idle hstart hrun).dead] at hin
            cases hin
      have hother : d₁.id ≠ s₁.id := by
        rw [hs₁id, ← Keyed.key_of_find? hs]
        exact hne
      have hmiss := hclear w w₁ hreorder hall s₁ hs₁mem hchecked
        (World.checked_alive hquiet hall hs₁mem hchecked) hinside d₁ hd₀ hother hplayer hdead hlisted
      rw [hmiss] at hhit₁
      cases hhit₁

/-- Whether no dead snake of `w` has the head of another one that is checked in its body. -/
private def missesDead (m : Libm F) (dt : ℕ) (w : World F) : Bool :=
  match w.advanceAll m dt with
  | .error _ => true
  | .ok w₁ => w₁.snakes.entries.all fun s => !decide (s.id ∈ w₁.checked) ||
      w.snakes.entries.all fun d => !d.update.changeDead || decide (d.id = s.id) ||
        !d.intersect s.headCircle

/-- The same in whatever order the map of the snakes is gone through. -/
private def missesDeadInAnyOrder (m : Libm F) (dt : ℕ) (w : World F) : Bool :=
  w.snakes.entries.permutations'.all fun es =>
    if hes : (es.map Snake.id).Nodup then missesDead m dt { w with snakes := ⟨es, hes⟩ } else true

private theorem clearOfDead_of_misses {m : Libm F} {srv : GameServer F} {dt : ℕ}
    (h : missesDeadInAnyOrder m dt srv.world = true) : srv.ClearOfDead m (.timer false dt) := by
  rintro w w₁ ⟨snakes, hperm, rfl⟩ hall s hs hchecked - - d hd hne - hdead -
  have hmiss := List.all_eq_true.mp h snakes.entries (List.mem_permutations'.mpr hperm)
  rw [dif_pos snakes.nodup, missesDead, hall] at hmiss
  have hother := List.all_eq_true.mp hmiss s hs
  rw [decide_eq_true hchecked, Bool.not_true, Bool.false_or] at hother
  have hbody := List.all_eq_true.mp hother d (hperm.mem_iff.mpr hd)
  simpa [hdead, hne] using hbody

/-- The second snake dies in the trail of the first and stays; the first one moves on beside it. -/
theorem dead_do_not_kill_beside :
    ∃ srv : GameServer ℚ, Run (Step Libm.axis) (blank false {} Rng.zero)
        [.opened 1, .timer false 700, .opened 2, .timer false 232] srv ∧
      (∃ d ∈ srv.world.snakes, d.update.changeDead = true ∧ srv.owner 2 = some d.id) ∧
      ∃ w₁, srv.world.advanceAll Libm.axis 232 = .ok w₁ ∧ w₁.checked = [1] ∧
        w₁.DiesOfTheLiving := by
  let check : GameServer ℚ → Bool := fun srv =>
    missesDeadInAnyOrder Libm.axis 232 srv.world &&
    (srv.world.snakes.entries.any fun d => d.update.changeDead &&
      decide (srv.owner 2 = some d.id)) &&
    match srv.world.advanceAll Libm.axis 232 with
    | .error _ => false
    | .ok w₁ => decide (w₁.checked = [1])
  have heval : ((lobby {}).replay Libm.axis
      [.opened 1, .timer false 700, .opened 2, .timer false 232]).any check = true := by
    decide +kernel
  obtain ⟨srv, hrun, hcheck⟩ := exists_run heval
  simp only [check, Bool.and_eq_true] at hcheck
  obtain ⟨⟨hmisses, hany⟩, hmoves⟩ := hcheck
  obtain ⟨d, hd, hdead⟩ := List.any_eq_true.mp hany
  rw [Bool.and_eq_true, decide_eq_true_eq] at hdead
  refine ⟨srv, hrun, ⟨d, hd, hdead⟩, ?_⟩
  cases hall : srv.world.advanceAll Libm.axis 232 with
  | error e =>
      rw [hall] at hmoves
      cases hmoves
  | ok w₁ =>
      rw [hall] at hmoves
      exact ⟨w₁, rfl, of_decide_eq_true hmoves,
        dead_do_not_kill Libm.axis false {} Rng.zero (run_blank _ _ _ rfl) hrun
          (clearOfDead_of_misses hmisses) srv.world w₁ ⟨srv.world.snakes, .refl _, rfl⟩ hall⟩

/-- The third snake runs into one of the first two, whose removal has been announced. -/
theorem dead_player_kills :
    ∃ srv : GameServer ℚ,
      Run (Step Libm.axis) (blank false {} Rng.zero)
        [.opened 1, .opened 2, .timer false 232, .opened 3] srv ∧
      ∃ w₁, srv.world.advanceAll Libm.axis 232 = .ok w₁ ∧ ¬ w₁.DiesOfTheLiving := by
  let check : GameServer ℚ → Bool := fun srv =>
    match srv.world.advanceAll Libm.axis 232 with
    | .error _ => false
    | .ok w₁ => w₁.changes.any fun id => decide (w₁.changes = [id]) &&
        (w₁.getSnake id).any fun s => s.update.changePos &&
          decide (s.getHead.distanceSquared 21600 21600 < 21300 * 21300) &&
          match w₁.boundsCause s with
          | .ok (some (.snake j)) => (w₁.getSnake j).any fun d => d.update.changeDead
          | _ => false
  have heval : ((lobby {}).replay Libm.axis
      [.opened 1, .opened 2, .timer false 232, .opened 3]).any check = true := by decide +kernel
  obtain ⟨srv, hrun, hcheck⟩ := exists_run heval
  refine ⟨srv, hrun, ?_⟩
  simp only [check] at hcheck
  cases hall : srv.world.advanceAll Libm.axis 232 with
  | error e =>
      rw [hall] at hcheck
      cases hcheck
  | ok w₁ =>
      rw [hall] at hcheck
      refine ⟨w₁, rfl, fun hdies => ?_⟩
      obtain ⟨id, -, hid⟩ := List.any_eq_true.mp hcheck
      rw [Bool.and_eq_true, decide_eq_true_eq] at hid
      obtain ⟨hchanges, hany⟩ := hid
      obtain ⟨s, hs, hmarked⟩ := (Option.any_eq_true _ _).mp hany
      rw [Bool.and_eq_true, Bool.and_eq_true, decide_eq_true_eq] at hmarked
      obtain ⟨⟨hpos, hinside⟩, hcause⟩ := hmarked
      cases hbounds : w₁.boundsCause s with
      | error e =>
          rw [hbounds] at hcause
          cases hcause
      | ok cause =>
          rw [hbounds] at hcause
          obtain _ | _ | j := cause
          · cases hcause
          · cases hcause
          obtain ⟨d, hd, hdead⟩ := (Option.any_eq_true _ _).mp hcause
          rcases hdies [] id [] w₁ s _ hchanges rfl hs hpos hbounds with hout | ⟨d', hd', heq, -, hlive, -⟩
          · unfold Outside at hout
            norm_num at hout hinside
            exact absurd hinside (not_lt.mpr hout)
          · cases heq
            have hsame : some d = some d' := hd.symm.trans (Keyed.find?_key hd')
            cases hsame
            rw [hlive] at hdead
            cases hdead

end GameServer

end Slither
