import Slither.Game.World

/-!
# What the operations leave alone

`Snake.kept` collects what no part of a tick writes before its last test, and `Snake.body` what
only a movement writes.  Each operation has one equation for each of them.
-/

set_option linter.unusedSectionVars false

namespace Slither

open Framework

variable {F : Type} [Field F] [LinearOrder F] [FloorRing F]

/-- The bits that are announced to the clients or to the collision check. -/
def Changes.announced (u : Changes) : Bool × Bool × Bool × Bool × Bool :=
  (u.changePos, u.changeAngle, u.changeSpeed, u.changeDying, u.changeDead)

@[simp] theorem Changes.union_changePos (a b : Changes) :
    (a ∪ b).changePos = (a.changePos || b.changePos) := rfl

@[simp] theorem Changes.union_changeAngle (a b : Changes) :
    (a ∪ b).changeAngle = (a.changeAngle || b.changeAngle) := rfl

@[simp] theorem Changes.union_changeSpeed (a b : Changes) :
    (a ∪ b).changeSpeed = (a.changeSpeed || b.changeSpeed) := rfl

@[simp] theorem Changes.union_changeDying (a b : Changes) :
    (a ∪ b).changeDying = (a.changeDying || b.changeDying) := rfl

@[simp] theorem Changes.union_changeDead (a b : Changes) :
    (a ∪ b).changeDead = (a.changeDead || b.changeDead) := rfl

@[simp] theorem Changes.announced_wangle (u : Changes) :
    (u ∪ { changeWangle := true }).announced = u.announced := by
  simp [Changes.announced]

@[simp] theorem Changes.announced_fullness (u : Changes) :
    (u ∪ { changeFullness := true }).announced = u.announced := by
  simp [Changes.announced]

namespace Snake

/-- What `advance` never writes. -/
def kept (s : Snake F) : SnakeId × Bool × ℕ × Bool × Bool × Bool × Bool × Bool :=
  (s.id, s.bot, s.clientPartsIndex, s.update.announced)

/-- What only a movement writes. -/
def body (s : Snake F) :
    List (Body F) × SnakeBoundBox F × ViewPort F × List Food × List Food :=
  (s.parts, s.sbb, s.vp, s.eaten, s.spawn)

/-- Where a snake is and how it moves. -/
def pose (s : Snake F) : List (Body F) × F × ℕ × ℕ := (s.parts, s.angle, s.speed, s.fullness)

private theorem kept_aiStep (m : Libm F) (s : Snake F) : (s.aiStep m).kept = s.kept := by
  simp only [aiStep]
  split <;> simp [kept]

private theorem body_aiStep (m : Libm F) (s : Snake F) : (s.aiStep m).body = s.body := by
  simp only [aiStep]
  split <;> rfl

theorem foldl_keeps {α β σ : Type} (g : σ → β) {f : σ → α → σ} (hf : ∀ st a, g (f st a) = g st)
    (xs : List α) (st : σ) : g (xs.foldl f st) = g st := by
  induction xs generalizing st with
  | nil => rfl
  | cons x xs ih => rw [List.foldl_cons, ih, hf]

theorem kept_tickBot (m : Libm F) (dt : ℕ) (s : Snake F) : (s.tickBot m dt).kept = s.kept := by
  have hai : ∀ (n : ℕ) (s : Snake F), (s.tickAI m n).kept = s.kept :=
    fun n s => foldl_keeps kept (fun s _ => kept_aiStep m s) _ s
  simp only [tickBot]
  split
  · split
    · exact hai _ _
    · rfl
  · rfl

theorem body_tickBot (m : Libm F) (dt : ℕ) (s : Snake F) : (s.tickBot m dt).body = s.body := by
  have hai : ∀ (n : ℕ) (s : Snake F), (s.tickAI m n).body = s.body :=
    fun n s => foldl_keeps body (fun s _ => body_aiStep m s) _ s
  simp only [tickBot]
  split
  · split
    · exact hai _ _
    · rfl
  · rfl

theorem kept_tickRotation (m : Libm F) (dt : ℕ) (s : Snake F) :
    (s.tickRotation m dt).1.kept = s.kept := by
  simp only [tickRotation]
  split
  · split <;> rfl
  · rfl

theorem body_tickRotation (m : Libm F) (dt : ℕ) (s : Snake F) :
    (s.tickRotation m dt).1.body = s.body := by
  simp only [tickRotation]
  split
  · split <;> rfl
  · rfl

private theorem kept_updateSnakeConsts (s : Snake F) : s.updateSnakeConsts.kept = s.kept := rfl

private theorem kept_increaseSnake (s : Snake F) (volume : ℕ) :
    (s.increaseSnake volume).kept = s.kept := by
  simp only [increaseSnake, kept_updateSnakeConsts]
  split <;> simp [kept]

private theorem kept_onFoodEaten (s : Snake F) (f : Food) : (s.onFoodEaten f).kept = s.kept :=
  kept_increaseSnake s f.size

private theorem spawnFood_eq (s : Snake F) (ss : SectorSeq) (f : Food) :
    ∃ spawn, (s.spawnFood ss f).1 = { s with spawn := spawn } := by
  unfold spawnFood
  dsimp only
  split
  · exact ⟨_, rfl⟩
  · exact ⟨s.spawn, rfl⟩

private theorem dropPart_eq (st : Snake F × SectorSeq) :
    (dropPart st).1 = st.1 ∨ 3 < st.1.parts.length ∧ ∃ spawn h,
      (dropPart st).1 =
        { st.1 with spawn := spawn, parts := st.1.parts.dropLast, size_parts := h } := by
  have hlose : ∀ (t : Snake F) (spawn : List Food) (ht : 3 ≤ t.parts.dropLast.length),
      t = { st.1 with spawn := spawn } → ∃ spawn h,
        ({ t with parts := t.parts.dropLast, size_parts := ht } : Snake F) =
          { st.1 with spawn := spawn, parts := st.1.parts.dropLast, size_parts := h } := by
    rintro t spawn ht rfl
    exact ⟨spawn, ht, rfl⟩
  unfold dropPart
  split
  · rename_i h3
    obtain ⟨spawn, hspawn⟩ := st.1.spawnFood_eq st.2
      { x := Math.toUint16 st.1.getBack.x, y := Math.toUint16 st.1.getBack.y, size := 100
        color := st.1.skin }
    exact .inr ⟨h3, hlose _ spawn _ hspawn⟩
  · exact .inl rfl

private theorem decreaseSnake_keeps {β : Type} (g : Snake F → β)
    (hdrop : ∀ (s : Snake F) (spawn : List Food) (h : 3 ≤ s.parts.dropLast.length),
      3 < s.parts.length →
        g { s with spawn := spawn, parts := s.parts.dropLast, size_parts := h } = g s)
    (hcount : ∀ (s : Snake F) (k : ℕ), g ({ s with
      fullness := k, update := s.update ∪ { changeFullness := true } } : Snake F).updateSnakeConsts =
        g s)
    (s : Snake F) (ss : SectorSeq) (volume : ℕ) : g (s.decreaseSnake ss volume).1 = g s := by
  have hfold := foldl_keeps (fun st : Snake F × SectorSeq => g st.1)
    (f := fun st (_ : ℕ) => dropPart st) fun st _ => by
      rcases dropPart_eq st with h | ⟨h3, spawn, hsize, h⟩
      · exact congrArg g h
      · exact (congrArg g h).trans (hdrop st.1 spawn hsize h3)
  simp only [decreaseSnake]
  split
  · exact (hcount ((List.range _).foldl (fun st _ => dropPart st) (s, ss)).1 _).trans
      (hfold _ (s, ss))
  · exact hcount s _

theorem updateAcceleration_keeps {β : Type} (g : Snake F → β)
    (hdrop : ∀ (s : Snake F) (spawn : List Food) (h : 3 ≤ s.parts.dropLast.length),
      3 < s.parts.length →
        g { s with spawn := spawn, parts := s.parts.dropLast, size_parts := h } = g s)
    (hcount : ∀ (s : Snake F) (k : ℕ), g ({ s with
      fullness := k, update := s.update ∪ { changeFullness := true } } : Snake F).updateSnakeConsts =
        g s)
    (haccel : ∀ s : Snake F, g { s with acceleration := false } = g s)
    (s : Snake F) (ss : SectorSeq) : g (s.updateAcceleration ss).1 = g s := by
  unfold updateAcceleration
  split
  · split
    · exact haccel s
    · exact decreaseSnake_keeps g hdrop hcount s ss 33
  · rfl

private theorem kept_updateAcceleration (s : Snake F) (ss : SectorSeq) :
    (s.updateAcceleration ss).1.kept = s.kept := by
  apply updateAcceleration_keeps
  · exact fun _ _ _ _ => rfl
  · intro s k
    rw [kept_updateSnakeConsts]
    simp [kept]
  · exact fun _ => rfl

theorem updateSpeed_eq (framesTicks : ℕ) (s : Snake F) :
    ∃ speed, (s.updateSpeed framesTicks).1 = { s with speed := speed } := by
  unfold updateSpeed
  dsimp only
  by_cases h : s.speed ≠ if s.acceleration then boostSpeed else baseMoveSpeed
  · rw [if_pos h]
    exact ⟨_, rfl⟩
  · rw [if_neg h]
    exact ⟨s.speed, rfl⟩

private theorem kept_updateSpeed (framesTicks : ℕ) (s : Snake F) :
    (s.updateSpeed framesTicks).1.kept = s.kept := by
  obtain ⟨speed, hspeed⟩ := s.updateSpeed_eq framesTicks
  rw [hspeed]
  rfl

private theorem eatLeft_preserves {P : Snake F → Prop} (hP : ∀ s f, P s → P (s.onFoodEaten f))
    (close : Food → Bool) (i : ℕ) {s : Snake F} (sec : Sector) (h : P s) :
    P (eatLeft close i s sec).1 := by
  induction i generalizing s sec with
  | zero => exact h
  | succ i ih =>
      rw [eatLeft]
      split
      · exact h
      · split
        · exact ih _ (hP _ _ h)
        · exact h

private theorem eatRight_preserves {P : Snake F → Prop} (hP : ∀ s f, P s → P (s.onFoodEaten f))
    (close : Food → Bool) (i fuel : ℕ) {s : Snake F} (sec : Sector) (h : P s) :
    P (eatRight close i fuel s sec).1 := by
  induction fuel generalizing s sec with
  | zero => exact h
  | succ fuel ih =>
      rw [eatRight]
      split
      · exact h
      · split
        · exact ih _ (hP _ _ h)
        · exact h

private theorem eatLeft_keeps {β : Type} (g : Snake F → β) (hg : ∀ s f, g (s.onFoodEaten f) = g s)
    (close : Food → Bool) (i : ℕ) (s : Snake F) (sec : Sector) :
    g (eatLeft close i s sec).1 = g s :=
  eatLeft_preserves (P := fun t => g t = g s) (fun t f h => (hg t f).trans h) close i sec rfl

private theorem eatRight_keeps {β : Type} (g : Snake F → β) (hg : ∀ s f, g (s.onFoodEaten f) = g s)
    (close : Food → Bool) (i fuel : ℕ) (s : Snake F) (sec : Sector) :
    g (eatRight close i fuel s sec).1 = g s :=
  eatRight_preserves (P := fun t => g t = g s) (fun t f h => (hg t f).trans h) close i fuel sec rfl

theorem updateEatenFood_post (s : Snake F) (ss : SectorSeq) :
    Post (s.updateEatenFood ss)
      (fun r => ∃ p close i₀ fuel,
        let l := eatLeft close i₀ s (ss.cell p)
        let t := eatRight close l.2.2 fuel l.1 l.2.1
        r = (t.1, ss.put p t.2))
      (fun e => e = .sectorIndex) := by
  simp only [updateEatenFood]
  apply Post.bind (R := fun _ => True)
  · unfold SectorSeq.getSector
    split
    · trivial
    · rfl
  · intro p _
    exact ⟨p, _, _, _, rfl⟩

theorem updateEatenFood_preserves {P : Snake F → Prop} (hP : ∀ s f, P s → P (s.onFoodEaten f))
    {s : Snake F} (ss : SectorSeq) (h : P s) :
    Post (s.updateEatenFood ss) (fun r => P r.1) (fun e => e = .sectorIndex) := by
  refine (updateEatenFood_post s ss).mono ?_ fun _ h => h
  rintro r ⟨p, close, i₀, fuel, rfl⟩
  exact eatRight_preserves hP _ _ _ _ (eatLeft_preserves hP _ _ _ h)

theorem updateEatenFood_keeps {β : Type} (g : Snake F → β)
    (hg : ∀ s f, g (s.onFoodEaten f) = g s) (s : Snake F) (ss : SectorSeq) :
    Post (s.updateEatenFood ss) (fun r => g r.1 = g s) (fun e => e = .sectorIndex) :=
  updateEatenFood_preserves (P := fun t => g t = g s) (fun t f h => (hg t f).trans h) ss rfl

theorem tickMovement_post (m : Libm F) (dt : ℕ) (s : Snake F) (ss : SectorSeq) :
    Post (s.tickMovement m dt ss)
      (fun r => r.snake.kept = s.kept ∧
        (r.pos = false → r.snake.body = s.body ∧ r.ss = ss ∧ r.speed = false))
      (fun e => e = .sectorIndex ∨ e = .divByZero) := by
  apply tickMovement_rule
  · exact ⟨rfl, fun _ => ⟨rfl, rfl, rfl⟩⟩
  · intro framesTicks
    apply Post.bind ((updateEatenFood_post _ _).mono (fun _ h => h) fun e h => .inl h)
    rintro r ⟨p, close, i₀, fuel, rfl⟩
    refine ⟨?_, fun h => by cases h⟩
    exact (kept_updateSpeed _ _).trans <| (kept_updateAcceleration _ _).trans <|
      (eatRight_keeps kept kept_onFoodEaten _ _ _ _ _).trans
        (eatLeft_keeps kept kept_onFoodEaten _ _ _ _)
  · exact .inr rfl

/-- The body of a tick keeps what is announced; without a movement it keeps the body as well. -/
theorem advance_post (m : Libm F) (dt : ℕ) (s : Snake F) (ss : SectorSeq) :
    Post (s.advance m dt ss)
      (fun a => a.snake.kept = s.kept ∧
        (a.changes.changePos = false →
          a.snake.body = s.body ∧ a.ss = ss ∧ a.changes.changeSpeed = false) ∧
        a.changes.changeWangle = false ∧ a.changes.changeFullness = false ∧
        a.changes.changeDying = false ∧ a.changes.changeDead = false)
      (fun e => e = .sectorIndex ∨ e = .divByZero) := by
  apply advance_rule
  refine (tickMovement_post m dt _ ss).mono ?_ fun _ h => h
  rintro r ⟨hkept, hstill⟩
  refine ⟨?_, fun hpos => ?_, rfl, rfl, rfl, rfl⟩
  · exact hkept.trans ((kept_tickRotation _ _ _).trans (kept_tickBot _ _ _))
  · obtain ⟨hbody, hss, hspeed⟩ := hstill hpos
    exact ⟨hbody.trans ((body_tickRotation _ _ _).trans (body_tickBot _ _ _)), hss, hspeed⟩

/-- What no tick writes. -/
def ident (s : Snake F) : SnakeId × Bool × ℕ × Bool :=
  (s.id, s.bot, s.clientPartsIndex, s.update.changeDead)

theorem ident_of_kept {s s' : Snake F} (h : s'.kept = s.kept) : s'.ident = s.ident := by
  simp only [kept, Changes.announced, Prod.mk.injEq] at h
  simp [ident, h]

@[simp] theorem ident_markDying (s : Snake F) : s.markDying.ident = s.ident := by
  simp [ident, markDying]

theorem tick_ident (m : Libm F) (dt : ℕ) (s : Snake F) (ss : SectorSeq) :
    Post (s.tick m dt ss) (fun r => r.snake.ident = s.ident)
      (fun e => e = .sectorIndex ∨ e = .divByZero) := by
  unfold tick
  split
  · rfl
  · apply Post.bind (advance_post m dt s ss)
    rintro a ⟨hkept, -, -, -, -, hdead⟩
    rw [post_pure, ← ident_of_kept hkept]
    simp only [report]
    split <;> simp [ident, hdead]

theorem tick_id (m : Libm F) (dt : ℕ) (s : Snake F) (ss : SectorSeq) :
    Post (s.tick m dt ss) (fun r => r.snake.id = s.id)
      (fun e => e = .sectorIndex ∨ e = .divByZero) :=
  (tick_ident m dt s ss).mono (fun _ h => congrArg Prod.fst h) fun _ h => h

end Snake

namespace World

/-- What `CreateSnake` makes of its draws: the direction and the distance of the head from the
middle of the map, and the length of the body. -/
def born (m : Libm F) (w : World F) (skin : ℕ) (turn : F) (away drawn : ℕ) : Snake F :=
  let angle := Math.f2pi m * turn
  let dist : F := 1000 + (away : F)
  Snake.newborn m ((w.lastSnakeId + 1) % 65536) skin
    (Math.toUint16 ((WorldConfig.gameRadius : F) + dist * m.cosf angle))
    (Math.toUint16 ((WorldConfig.gameRadius : F) + dist * m.sinf angle))
    (Math.normalizeAngle m (angle + m.fPi)) (max w.config.snakeMinLength drawn)

theorem createSnake_born (m : Libm F) (w : World F) :
    Post (w.createSnake m)
      (fun r => ∃ skin turn away drawn rng, away < 5000 ∧
        let s := w.born m skin turn away drawn
        r = ((s.initBoxNewSectors w.sectors).1,
          { w with
            lastSnakeId := (w.lastSnakeId + 1) % 65536
            sectors := (s.initBoxNewSectors w.sectors).2, rng := rng }))
      (fun e => e = .divByZero) := by
  unfold createSnake
  apply Post.bind (R := fun _ => True)
  · unfold Rng.nextBase
    split
    · rfl
    · trivial
  · intro drawn _
    exact ⟨_, _, _, drawn.1, _, Nat.mod_lt _ (by norm_num), rfl⟩

/-- Creating a snake changes the counter, the sectors and the draws, or divides by zero. -/
theorem createSnake_post (m : Libm F) (w : World F) :
    Post (w.createSnake m)
      (fun r => ∃ skin x y angle body rng,
        let s := Snake.newborn m ((w.lastSnakeId + 1) % 65536) skin x y angle body
        r = ((s.initBoxNewSectors w.sectors).1,
          { w with
            lastSnakeId := (w.lastSnakeId + 1) % 65536
            sectors := (s.initBoxNewSectors w.sectors).2, rng := rng }))
      (fun e => e = .divByZero) := by
  refine (createSnake_born m w).mono ?_ fun _ h => h
  rintro _ ⟨skin, turn, away, drawn, rng, -, rfl⟩
  exact ⟨_, _, _, _, _, _, rfl⟩

/-- The first loop of a tick.  The invariant is indexed by the snakes still to be ticked, which are
still in the world as they were. -/
theorem tickAll_rule {m : Libm F} {dt : ℕ} {w : World F} {Q : Fault → Prop}
    (I : List (Snake F) → World F → Prop) (hinit : I w.snakes.entries w)
    (hstep : ∀ s rest w, s ∈ w.snakes → (∀ t ∈ rest, t.id ≠ s.id) → I (s :: rest) w →
      Post (s.tick m dt w.sectors) (fun r => I rest (w.ticked s r)) Q) :
    Post (w.tickAll m dt) (I []) Q := by
  let J : List (Snake F) → World F → Prop := fun rest w =>
    (rest.map Snake.id).Nodup ∧ (∀ s ∈ rest, s ∈ w.snakes) ∧ I rest w
  refine (Post.foldlM J ?_ _ w ⟨w.snakes.nodup, fun _ h => h, hinit⟩).mono (fun _ h => h.2.2)
    fun _ h => h
  rintro s rest w ⟨hnodup, hin, hI⟩
  rw [List.map_cons, List.nodup_cons] at hnodup
  have hne : ∀ t ∈ rest, t.id ≠ s.id := fun t ht heq =>
    hnodup.1 (heq ▸ List.mem_map_of_mem ht)
  have hs := hin s (List.mem_cons_self ..)
  have hpost := hstep s rest w hs hne hI
  unfold tickSnake
  cases ht : s.tick m dt w.sectors with
  | error e => exact hpost.of_error ht
  | ok r =>
      have hid : r.snake.id = s.id := (Snake.tick_id m dt s w.sectors).of_ok ht
      refine ⟨hnodup.2, fun t htr => ?_, hpost.of_ok ht⟩
      exact Keyed.mem_replace.mpr (.inl ⟨hin t (List.mem_cons_of_mem _ htr), hid ▸ hne t htr⟩)

private theorem checkListed_post (w : World F) (s : Snake F) (check : BoundBoxPos F)
    (ids cache : List SnakeId) :
    Post (w.checkListed s check ids cache) (fun _ => True) (fun e => e = .danglingPtr) := by
  induction ids generalizing cache with
  | nil => trivial
  | cons id rest ih =>
      rw [checkListed]
      split
      · exact ih _
      · split
        · exact ih _
        · apply Post.bind (R := fun _ => True)
          · unfold deref
            split
            · trivial
            · rfl
          · intro s2 _
            split
            · trivial
            · exact ih _

private theorem boundsCause_post (w : World F) (s : Snake F) :
    Post (w.boundsCause s) (fun _ => True) (fun e => e = .danglingPtr) := by
  have hsectors : ∀ (check : BoundBoxPos F) (ps : List SectorPtr) (cache : List SnakeId),
      Post (w.checkSectors s check ps cache) (fun _ => True) (fun e => e = .danglingPtr) := by
    intro check ps
    induction ps with
    | nil => intro cache; trivial
    | cons p rest ih =>
        intro cache
        rw [checkSectors]
        split
        · apply Post.bind (checkListed_post _ _ _ _ _)
          rintro ⟨hit, cache⟩ _
          cases hit with
          | none => exact ih _
          | some id => trivial
        · exact ih _
  unfold boundsCause
  split
  · trivial
  · exact Post.bind (hsectors _ _ _) fun _ _ => trivial

theorem checkChanged_post (w : World F) (id : SnakeId) :
    Post (w.checkChanged id)
      (fun w' => w' = w ∨ ∃ s, w.getSnake id = some s ∧ s.update.changePos = true ∧
        w' = w.store s.markDying)
      (fun e => e = .danglingPtr) := by
  unfold checkChanged deref
  cases hget : w.getSnake id with
  | none => rfl
  | some s =>
      show Post (if s.update.changePos = true then w.checkSnakeBounds s else pure w) _ _
      split
      · rename_i hpos
        unfold checkSnakeBounds
        apply Post.bind (boundsCause_post w s)
        intro cause _
        cases cause with
        | none => exact .inl rfl
        | some c => exact .inr ⟨s, rfl, hpos, rfl⟩
      · exact .inl rfl

theorem tick_rule {m : Libm F} {dt : ℕ} {w : World F} {P : World F → Prop} {Q : Fault → Prop}
    (hidle : P { w with ticks := w.ticks + dt })
    (hbusy : ∀ vfrTime, Post ({ w with ticks := w.ticks + dt }.tickSnakes m vfrTime)
      (fun w' => ∀ ticks frames, P { w' with ticks := ticks, frames := frames }) Q) :
    Post (w.tick m dt) P Q := by
  unfold tick
  dsimp only
  split
  · exact Post.bind (hbusy _) fun w' h => h _ _
  · exact hidle

/-- What no tick of the world writes. -/
def kept (w : World F) :
    (SnakeId → Option (SnakeId × Bool × ℕ × Bool)) × List SnakeId × ℕ × WorldConfig × Rng :=
  (fun id => (w.getSnake id).map Snake.ident, w.dead, w.lastSnakeId, w.config, w.rng)

private theorem ident_replace {w : World F} {s s' : Snake F} (hs : s ∈ w.snakes)
    (h : s'.ident = s.ident) (id : SnakeId) :
    ((w.snakes.replace s').find? id).map Snake.ident =
      (w.getSnake id).map Snake.ident := by
  have hid : s'.id = s.id := congrArg Prod.fst h
  unfold getSnake
  rw [Keyed.find?_replace]
  split
  · rename_i heq
    rw [← heq, hid, Keyed.find?_key hs]
    exact congrArg some h
  · rfl

theorem kept_store {w : World F} {s s' : Snake F} (hs : s ∈ w.snakes) (h : s'.ident = s.ident) :
    (w.store s').kept = w.kept :=
  Prod.ext (funext fun id => ident_replace hs h id) rfl

theorem tickAll_kept (m : Libm F) (dt : ℕ) (w : World F) :
    Post (w.tickAll m dt) (fun w' => w'.kept = w.kept)
      (fun e => e = .sectorIndex ∨ e = .divByZero) := by
  apply tickAll_rule fun _ w' => w'.kept = w.kept
  · rfl
  · intro s rest w' hs _ hk
    refine (Snake.tick_ident m dt s w'.sectors).mono (fun r hr => ?_) fun _ h => h
    rw [← hk]
    exact kept_store hs hr

private theorem checkChanged_kept (w : World F) (id : SnakeId) :
    Post (w.checkChanged id) (fun w' => w'.kept = w.kept ∧ w'.changes = w.changes ∧
      w'.sectors = w.sectors) (fun e => e = .danglingPtr) := by
  refine (checkChanged_post w id).mono ?_ fun _ h => h
  rintro w' (rfl | ⟨s, hget, -, rfl⟩)
  · exact ⟨rfl, rfl, rfl⟩
  · have hs : s ∈ w.snakes := Keyed.mem_of_find? hget
    exact ⟨kept_store hs (Snake.ident_markDying s), rfl, rfl⟩

theorem checkAll_kept (w : World F) :
    Post w.checkAll (fun w' => w'.kept = w.kept ∧ w'.changes = w.changes ∧
      w'.sectors = w.sectors) (fun e => e = .danglingPtr) := by
  unfold checkAll
  apply Post.foldlM fun _ (w' : World F) => w'.kept = w.kept ∧ w'.changes = w.changes ∧
    w'.sectors = w.sectors
  · rintro id rest w' ⟨hk, hc, hs⟩
    refine (checkChanged_kept w' id).mono ?_ fun _ h => h
    rintro w'' ⟨hk', hc', hs'⟩
    exact ⟨hk'.trans hk, hc'.trans hc, hs'.trans hs⟩
  · exact ⟨rfl, rfl, rfl⟩

/-- A tick of the world keeps the snakes there are, and never dereferences an `end()` iterator. -/
theorem tick_kept (m : Libm F) (dt : ℕ) (w : World F) :
    Post (w.tick m dt) (fun w' => w'.kept = w.kept) (fun e => e ≠ .endIterator) := by
  apply tick_rule
  · rfl
  · intro vfrTime
    apply Post.bind ((tickAll_kept m vfrTime _).mono (fun _ h => h) ?_)
    · intro w₁ hk
      refine (checkAll_kept w₁).mono (fun w₂ h ticks frames => ?_) ?_
      · exact h.1.trans hk
      · rintro e rfl
        simp
    · rintro e (rfl | rfl) <;> simp

end World

end Slither
