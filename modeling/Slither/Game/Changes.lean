import Slither.Game.Frame

/-!
# Change reports

Between two ticks a living snake has none of the bits set that a tick may report, so the last test
of `Snake::Tick` never takes a fresh report for an old one.
-/

set_option linter.unusedSectionVars false

namespace Slither

open Framework

variable {F : Type} [Field F] [LinearOrder F] [FloorRing F]

namespace Snake

/-- Food and length changes are waiting only together with a movement. -/
def Tidy (s : Snake F) : Prop := s.update.changePos = false → s.eaten = [] ∧ s.spawn = []

/-- Nothing waits to be announced. -/
structure Quiet (s : Snake F) : Prop where
  pos : s.update.changePos = false
  angle : s.update.changeAngle = false
  speed : s.update.changeSpeed = false
  dying : s.update.changeDying = false
  eaten : s.eaten = []
  spawn : s.spawn = []

theorem Quiet.tidy {s : Snake F} (h : s.Quiet) : s.Tidy := fun _ => ⟨h.eaten, h.spawn⟩

theorem Quiet.of_same {s s' : Snake F} (h : s.Quiet) (hkept : s'.kept = s.kept)
    (hbody : s'.body = s.body) : s'.Quiet := by
  simp only [kept, Changes.announced, body, Prod.mk.injEq] at hkept hbody
  obtain ⟨-, -, -, hpos, hangle, hspeed, hdying, -⟩ := hkept
  obtain ⟨-, -, -, heaten, hspawn⟩ := hbody
  exact ⟨hpos.trans h.pos, hangle.trans h.angle, hspeed.trans h.speed, hdying.trans h.dying,
    heaten.trans h.eaten, hspawn.trans h.spawn⟩

/-- The bits `Tick` sets for a snake that is neither dying nor dead. -/
def written (m : Libm F) (dt : ℕ) (s : Snake F) (ss : SectorSeq) : Exec Changes :=
  if s.update.changeDying || s.update.changeDead then .ok ∅
  else Advanced.changes <$> s.advance m dt ss

theorem report_changed {a : Advanced F} (hpos : a.snake.update.changePos = false)
    (hangle : a.snake.update.changeAngle = false) (hspeed : a.snake.update.changeSpeed = false)
    (hwangle : a.changes.changeWangle = false) (hfullness : a.changes.changeFullness = false)
    (hdying : a.changes.changeDying = false) (hdead : a.changes.changeDead = false) :
    (report a).changed = decide (a.changes ≠ ∅) := by
  have hdistinct : a.changes ≠ ∅ → a.changes ≠ a.snake.update := by
    intro hne heq
    apply hne
    rw [← heq] at hpos hangle hspeed
    generalize a.changes = c at *
    obtain ⟨_, _, _, _, _, _, _⟩ := c
    simp only at hpos hangle hspeed hwangle hfullness hdying hdead
    subst hpos hangle hspeed hwangle hfullness hdying hdead
    rfl
  unfold report
  by_cases h : a.changes ≠ ∅
  · rw [if_pos ⟨h, hdistinct h⟩]
    simp [h]
  · rw [if_neg fun hc => h hc.1]
    simp [h]

/-- What a tick of a snake that was dead or quiet leaves behind. -/
structure Reports (s : Snake F) (c : Changes) (r : Ticked F) : Prop where
  changed : r.changed = decide (c ≠ ∅)
  still : r.changed = false → r.snake.update.changeDead = true ∨ r.snake.Quiet
  dead : r.snake.update.changeDead = s.update.changeDead
  dying : s.update.changeDead = false → r.snake.update.changeDying = false
  pos : s.update.changeDead = false → r.snake.update.changePos = c.changePos
  tidy : s.update.changeDead = false → r.snake.Tidy
  id : r.snake.id = s.id

theorem tick_reports (m : Libm F) (dt : ℕ) {s : Snake F} (ss : SectorSeq)
    (hs : s.update.changeDead = true ∨ s.Quiet) :
    Post (s.tick m dt ss)
      (fun r => ∃ c, s.written m dt ss = .ok c ∧ s.Reports c r)
      (fun _ => True) := by
  unfold tick written
  split
  · rename_i hend
    have hdead : s.update.changeDead = true := by
      rcases hs with hdead | hquiet
      · exact hdead
      · simpa [hquiet.dying] using hend
    exact ⟨∅, rfl, ⟨rfl, fun _ => .inl hdead, rfl, by simp [hdead], by simp [hdead],
      by simp [hdead], rfl⟩⟩
  · rename_i hlive
    simp only [Bool.or_eq_true, not_or, Bool.not_eq_true] at hlive
    have hquiet : s.Quiet := by
      rcases hs with hdead | hquiet
      · rw [hlive.2] at hdead
        cases hdead
      · exact hquiet
    have hpost := advance_post m dt s ss
    cases hadv : s.advance m dt ss with
    | error e => trivial
    | ok a =>
        obtain ⟨hkept, hstill, hwangle, hfullness, hdying, hdead⟩ := hpost.of_ok hadv
        have hk := hkept
        simp only [kept, Changes.announced, Prod.mk.injEq] at hk
        obtain ⟨hid, -, -, hpos, hangle, hspeed, hdying', hdead'⟩ := hk
        rw [hquiet.pos] at hpos
        rw [hquiet.angle] at hangle
        rw [hquiet.speed] at hspeed
        rw [hquiet.dying] at hdying'
        have hchanged := report_changed hpos hangle hspeed hwangle hfullness hdying hdead
        have hbody : a.changes.changePos = false → a.snake.eaten = [] ∧ a.snake.spawn = [] := by
          intro h
          have hb := (hstill h).1
          simp only [body, Prod.mk.injEq] at hb
          exact ⟨hb.2.2.2.1.trans hquiet.eaten, hb.2.2.2.2.trans hquiet.spawn⟩
        refine ⟨a.changes, rfl, ?_⟩
        show s.Reports a.changes (report a)
        by_cases hc : a.changes = ∅
        · have hrep : report a = { snake := a.snake, ss := a.ss, changed := false } :=
            if_neg fun h => h.1 hc
          have hnone : a.changes.changePos = false := by rw [hc]; rfl
          rw [hrep] at hchanged ⊢
          obtain ⟨heaten, hspawn⟩ := hbody hnone
          exact ⟨hchanged, fun _ => .inr ⟨hpos, hangle, hspeed, hdying', heaten, hspawn⟩, hdead',
            fun _ => hdying', fun _ => hpos.trans hnone.symm, fun _ _ => ⟨heaten, hspawn⟩, hid⟩
        · have hrep : report a = { snake := { a.snake with
              update := a.snake.update ∪ a.changes }, ss := a.ss, changed := true } := by
            unfold report at hchanged ⊢
            split at hchanged
            · rename_i h
              rw [if_pos h]
            · simp [hc] at hchanged
          rw [hrep] at hchanged ⊢
          have hpos' : (a.snake.update ∪ a.changes).changePos = a.changes.changePos := by
            simp [hpos]
          refine ⟨hchanged, fun h => (by cases h), ?_, fun _ => ?_, fun _ => hpos', fun _ h => ?_,
            hid⟩
          · simpa [hdead] using hdead'
          · simpa [hdying] using hdying'
          · exact hbody (hpos'.symm.trans h)

theorem written_ne_empty {m : Libm F} {dt : ℕ} {s : Snake F} {ss : SectorSeq} {c : Changes}
    (h : s.written m dt ss = .ok c) :
    c ≠ ∅ ↔ c.changePos = true ∨ c.changeAngle = true ∨ c.changeSpeed = true := by
  have hbits : c.changeWangle = false ∧ c.changeFullness = false ∧ c.changeDying = false ∧
      c.changeDead = false := by
    unfold written at h
    split at h
    · cases h
      exact ⟨rfl, rfl, rfl, rfl⟩
    · have hpost := advance_post m dt s ss
      cases hadv : s.advance m dt ss with
      | error e =>
          rw [hadv] at h
          cases h
      | ok a =>
          rw [hadv] at h
          cases h
          exact (hpost.of_ok hadv).2.2
  obtain ⟨pos, angle, wangle, speed, fullness, dying, dead⟩ := c
  obtain ⟨rfl, rfl, rfl, rfl⟩ := hbits
  cases pos <;> cases angle <;> cases speed <;> decide

end Snake

namespace World

/-- Every living snake is quiet, except for those in `ids`. -/
def QuietExcept (ids : List SnakeId) (w : World F) : Prop :=
  ∀ s ∈ w.snakes, s.update.changeDead = true ∨ s.Tidy ∧ (s.id ∈ ids ∨ s.Quiet)

/-- The state of the world between two events. -/
structure Quiet (w : World F) : Prop where
  changes : w.changes = []
  snakes : ∀ s ∈ w.snakes, s.update.changeDead = true ∨ s.Quiet

theorem QuietExcept.store {ids ids' : List SnakeId} {w : World F} {s : Snake F}
    (h : w.QuietExcept ids) (hids : ∀ id ∈ ids, id = s.id ∨ id ∈ ids')
    (hs : s.update.changeDead = true ∨ s.Tidy ∧ (s.id ∈ ids' ∨ s.Quiet)) :
    (w.store s).QuietExcept ids' := by
  intro t ht
  rcases Keyed.mem_replace.mp ht with ⟨ht, hne⟩ | ⟨rfl, -⟩
  · rcases h t ht with hdead | ⟨htidy, hin | hquiet⟩
    · exact .inl hdead
    · rcases hids t.id hin with heq | hin'
      · exact absurd heq hne
      · exact .inr ⟨htidy, .inl hin'⟩
    · exact .inr ⟨htidy, .inr hquiet⟩
  · exact hs

/-- The loop invariant of the ticks: `rest` are the snakes still to be ticked. -/
structure Reporting (rest : List (Snake F)) (w : World F) : Prop where
  quiet : w.QuietExcept w.changes
  living : ∀ s ∈ w.snakes, s.update.changeDead = true ∨ s.update.changeDying = false
  later : ∀ id ∈ w.changes, ∀ t ∈ rest, t.id ≠ id
  listed : ∀ id ∈ w.changes, (w.getSnake id).isSome
  once : w.changes.Nodup

theorem Quiet.reporting {w : World F} (h : w.Quiet) (rest : List (Snake F)) :
    w.Reporting rest where
  quiet s hs := (h.snakes s hs).imp id fun hq => ⟨hq.tidy, .inr hq⟩
  living s hs := (h.snakes s hs).imp id fun hq => hq.dying
  later id hid := by rw [h.changes] at hid; cases hid
  listed id hid := by rw [h.changes] at hid; cases hid
  once := by rw [h.changes]; exact List.nodup_nil

theorem Reporting.next {w : World F} {s : Snake F} {rest : List (Snake F)}
    (h : w.Reporting (s :: rest)) (hs : s ∈ w.snakes) : s.update.changeDead = true ∨ s.Quiet := by
  rcases h.quiet s hs with hdead | ⟨-, hin | hquiet⟩
  · exact .inl hdead
  · exact absurd rfl (h.later s.id hin s (List.mem_cons_self ..))
  · exact .inr hquiet

theorem Reporting.ticked {w : World F} {s : Snake F} {rest : List (Snake F)} {r : Snake.Ticked F}
    {c : Changes} (h : w.Reporting (s :: rest)) (hs : s ∈ w.snakes)
    (hne : ∀ t ∈ rest, t.id ≠ s.id) (hr : s.Reports c r) : (w.ticked s r).Reporting rest := by
  have hmem : ∀ id ∈ w.changes, id ∈ (w.ticked s r).changes := by
    intro id hid
    simp only [World.ticked]
    split
    · exact List.mem_append_left _ hid
    · exact hid
  have hnotin : s.id ∉ w.changes := fun hin => h.later s.id hin s (List.mem_cons_self ..) rfl
  have hsome : ∀ id, (w.getSnake id).isSome → ((w.ticked s r).getSnake id).isSome := by
    intro id hid
    show ((w.snakes.replace r.snake).find? id).isSome
    rw [Keyed.find?_replace]
    split
    · rw [Option.isSome_map]
      exact hid
    · exact hid
  refine ⟨?_, fun t ht => ?_, fun id hid t ht => ?_, fun id hid => ?_, ?_⟩
  · refine h.quiet.store (s := r.snake) (fun id hid => .inr (hmem id hid)) ?_
    rw [hr.dead]
    cases hdead : s.update.changeDead with
    | true => exact .inl rfl
    | false =>
        refine .inr ⟨hr.tidy hdead, ?_⟩
        cases hc : r.changed with
        | true =>
            refine .inl ?_
            simp [World.ticked, hc, hr.id]
        | false =>
            rcases hr.still hc with h' | h'
            · rw [hr.dead, hdead] at h'
              cases h'
            · exact .inr h'
  · rcases Keyed.mem_replace.mp ht with ⟨ht, -⟩ | ⟨rfl, -⟩
    · exact h.living t ht
    · rw [hr.dead]
      cases hdead : s.update.changeDead with
      | true => exact .inl rfl
      | false => exact .inr (hr.dying hdead)
  · simp only [World.ticked] at hid
    split at hid
    · rcases List.mem_append.mp hid with hid | hid
      · exact h.later id hid t (List.mem_cons_of_mem _ ht)
      · rw [List.mem_singleton.mp hid]
        exact hne t ht
    · exact h.later id hid t (List.mem_cons_of_mem _ ht)
  · apply hsome
    simp only [World.ticked] at hid
    split at hid
    · rcases List.mem_append.mp hid with hid | hid
      · exact h.listed id hid
      · rw [List.mem_singleton.mp hid, getSnake, Keyed.find?_key hs]
        rfl
    · exact h.listed id hid
  · simp only [World.ticked]
    split
    · rw [List.nodup_append]
      exact ⟨h.once, by simp, fun a ha b hb => by
        rw [List.mem_singleton.mp hb]
        rintro rfl
        exact hnotin ha⟩
    · exact h.once

/-- After the ticks every living snake is quiet or listed, and listed once. -/
theorem tickAll_reporting {m : Libm F} {dt : ℕ} {w : World F} (h : w.Quiet) :
    Post (w.tickAll m dt) (Reporting []) (fun _ => True) := by
  apply tickAll_rule Reporting
  · exact h.reporting _
  · intro s rest w' hs hne hw'
    exact (Snake.tick_reports m dt w'.sectors (hw'.next hs)).mono
      (fun r ⟨c, _, hr⟩ => hw'.ticked hs hne hr) fun _ h => h

private theorem foldlM_tickSnake_others (m : Libm F) (dt : ℕ) (xs : List (Snake F)) (w : World F)
    (id : SnakeId) (hne : ∀ s ∈ xs, s.id ≠ id) :
    Post (xs.foldlM (tickSnake m dt) w)
      (fun w' => w'.getSnake id = w.getSnake id ∧ (id ∈ w'.changes ↔ id ∈ w.changes))
      (fun _ => True) := by
  refine (Post.foldlM (fun rest (w' : World F) => (∀ s ∈ rest, s.id ≠ id) ∧
    w'.getSnake id = w.getSnake id ∧ (id ∈ w'.changes ↔ id ∈ w.changes)) ?_ xs w
    ⟨hne, rfl, Iff.rfl⟩).mono (fun _ h => h.2) fun _ h => h
  rintro s rest w' ⟨hrest, hget, hin⟩
  have hs := hrest s (List.mem_cons_self ..)
  unfold tickSnake
  apply Post.bind ((Snake.tick_id m dt s w'.sectors).mono (fun _ h => h) fun _ _ => trivial)
  intro r hid
  refine ⟨fun t ht => hrest t (List.mem_cons_of_mem _ ht), ?_, ?_⟩
  · refine Eq.trans ?_ hget
    exact Keyed.find?_replace_ne _ (by rw [hid]; exact hs)
  · refine Iff.trans ?_ hin
    simp only [World.ticked]
    split
    · simp [Ne.symm hs]
    · rfl

/-- `w'` is the world when the loop over the snakes of `w` has come to `s`. -/
def Turn (m : Libm F) (dt : ℕ) (w : World F) (s : Snake F) (w' : World F) : Prop :=
  ∃ before after, w.snakes.entries = before ++ s :: after ∧
    before.foldlM (tickSnake m dt) w = .ok w'

/-- The snakes the second loop hands to `CheckSnakeBounds`. -/
def checked (w : World F) : List SnakeId :=
  w.changes.filter fun id => (w.getSnake id).any fun s => s.update.changePos

private theorem exists_turn {m : Libm F} {dt : ℕ} {w w₁ : World F} {s : Snake F} (hs : s ∈ w.snakes)
    (hall : w.tickAll m dt = .ok w₁) : ∃ w', w.Turn m dt s w' := by
  obtain ⟨before, after, hentries⟩ := List.append_of_mem hs
  rw [tickAll, hentries, List.foldlM_append] at hall
  obtain ⟨w', hbefore, -⟩ := bind_eq_ok.mp hall
  exact ⟨w', before, after, hentries, hbefore⟩

private theorem turn_ticked {m : Libm F} {dt : ℕ} {w w₁ w' : World F} {s : Snake F}
    (hall : w.tickAll m dt = .ok w₁) (hturn : w.Turn m dt s w') :
    s ∈ w.snakes ∧ ∃ r, s.tick m dt w'.sectors = .ok r ∧ r.snake.id = s.id ∧
      w₁.getSnake s.id = some r.snake ∧
      (s.id ∈ w₁.changes ↔ r.changed = true ∨ s.id ∈ w.changes) := by
  obtain ⟨before, after, hentries, hbefore⟩ := hturn
  have hnodup := w.snakes.nodup
  rw [hentries, List.map_append, List.map_cons, List.nodup_append, List.nodup_cons] at hnodup
  obtain ⟨-, ⟨hafter, -⟩, hcross⟩ := hnodup
  have hs : s ∈ w.snakes := by
    rw [Keyed.mem_def, hentries]
    simp
  rw [tickAll, hentries, List.foldlM_append, hbefore] at hall
  replace hall : (s :: after).foldlM (tickSnake m dt) w' = .ok w₁ := hall
  rw [List.foldlM_cons] at hall
  obtain ⟨w₂, htick, hrest⟩ := bind_eq_ok.mp hall
  obtain ⟨r, hr, hw₂⟩ := bind_eq_ok.mp htick
  cases hw₂
  obtain ⟨hget, hin⟩ := (foldlM_tickSnake_others m dt before w s.id fun t ht heq =>
    hcross _ (List.mem_map_of_mem ht) _ (List.mem_cons_self ..) heq).of_ok hbefore
  obtain ⟨hget₁, hin₁⟩ := (foldlM_tickSnake_others m dt after _ s.id fun t ht heq =>
    hafter (heq ▸ List.mem_map_of_mem ht)).of_ok hrest
  have hid : r.snake.id = s.id := (Snake.tick_id m dt s w'.sectors).of_ok hr
  have hget' : w'.snakes.find? s.id = some s := hget.trans (Keyed.find?_key hs)
  refine ⟨hs, r, hr, hid, ?_, ?_⟩
  · rw [hget₁]
    show (w'.snakes.replace r.snake).find? s.id = _
    rw [Keyed.find?_replace, if_pos hid, hget']
    rfl
  · rw [hin₁, ← hin]
    simp only [World.ticked]
    cases r.changed <;> simp

theorem exists_ticked {m : Libm F} {dt : ℕ} {w w₁ : World F} {s : Snake F}
    (hall : w.tickAll m dt = .ok w₁) (hs : s ∈ w₁.snakes) :
    ∃ s₀ ∈ w.snakes, s₀.id = s.id ∧ ∃ ss r, s₀.tick m dt ss = .ok r ∧ r.snake = s ∧
      (s.id ∈ w₁.changes ↔ r.changed = true ∨ s.id ∈ w.changes) := by
  have hget := congrFun (congrArg Prod.fst ((tickAll_kept m dt w).of_ok hall)) s.id
  simp only [kept, getSnake, Keyed.find?_key hs, Option.map_some] at hget
  obtain ⟨s₀, hfind, -⟩ := Option.map_eq_some_iff.mp hget.symm
  have hs₀ : s₀ ∈ w.snakes := Keyed.mem_of_find? hfind
  have hid : s₀.id = s.id := Keyed.key_of_find? hfind
  obtain ⟨w', hturn⟩ := exists_turn hs₀ hall
  obtain ⟨-, r, hr, -, hsnake, hlisted⟩ := turn_ticked hall hturn
  rw [hid] at hsnake hlisted
  exact ⟨s₀, hs₀, hid, w'.sectors, r, hr,
    Option.some.inj (hsnake.symm.trans (Keyed.find?_key hs)), hlisted⟩

theorem turn_reports {m : Libm F} {dt : ℕ} {w w₁ w' : World F} {s : Snake F} (h : w.Quiet)
    (hall : w.tickAll m dt = .ok w₁) (hturn : w.Turn m dt s w') :
    ∃ c r, s.written m dt w'.sectors = .ok c ∧ s.tick m dt w'.sectors = .ok r ∧
      r.changed = decide (c ≠ ∅) ∧ (s.id ∈ w₁.changes ↔ c ≠ ∅) ∧
      (s.id ∈ w₁.checked ↔ c.changePos = true) := by
  obtain ⟨hs, r, hr, -, hsnake, hin⟩ := turn_ticked hall hturn
  obtain ⟨c, hc, hrep⟩ := (Snake.tick_reports m dt w'.sectors (h.snakes s hs)).of_ok hr
  have hlisted : s.id ∈ w₁.changes ↔ c ≠ ∅ := by
    rw [hin, h.changes, hrep.changed, decide_eq_true_eq]
    simp
  refine ⟨c, r, hc, hr, hrep.changed, hlisted, ?_⟩
  rw [checked, List.mem_filter, hlisted, hsnake, Option.any_some]
  cases hdead : s.update.changeDead with
  | true =>
      have hnone : c = ∅ := by
        simp only [Snake.written, hdead, Bool.or_true, if_true, Except.ok.injEq] at hc
        exact hc.symm
      rw [hnone]
      simp [EmptyCollection.emptyCollection]
  | false =>
      rw [hrep.pos hdead]
      constructor
      · exact fun hb => hb.2
      · intro hpos
        refine ⟨?_, hpos⟩
        rintro rfl
        cases hpos

theorem checkAll_eq {w : World F} (h : ∀ id ∈ w.changes, (w.getSnake id).isSome) :
    w.checkAll = w.checked.foldlM (fun w id => w.deref id >>= w.checkSnakeBounds) w := by
  let moved : World F → SnakeId → Option Bool := fun w id =>
    (w.getSnake id).map fun s => s.update.changePos
  have hloop : ∀ (ids : List SnakeId) (w' : World F), moved w' = moved w →
      (∀ id ∈ ids, (w.getSnake id).isSome) →
      ids.foldlM checkChanged w' =
        (ids.filter fun id => (w.getSnake id).any fun s => s.update.changePos).foldlM
          (fun w id => w.deref id >>= w.checkSnakeBounds) w' := by
    intro ids
    induction ids with
    | nil => intros; rfl
    | cons id ids ih =>
        intro w' hmoved hsome
        obtain ⟨s, hs⟩ := Option.isSome_iff_exists.mp (hsome id (List.mem_cons_self ..))
        have hrest := fun j hj => hsome j (List.mem_cons_of_mem _ hj)
        have hid := congrFun hmoved id
        simp only [moved, hs, Option.map_some] at hid
        obtain ⟨s', hs', hpos⟩ := Option.map_eq_some_iff.mp hid
        have hderef : w'.deref id = .ok s' := by
          unfold deref
          rw [hs']
        rw [List.foldlM_cons, checkChanged, hderef]
        cases hp : s.update.changePos with
        | false =>
            rw [List.filter_cons_of_neg (by simp [hs, hp])]
            show (if s'.update.changePos = true then _ else _) >>= _ = _
            rw [hpos, hp]
            exact ih w' hmoved hrest
        | true =>
            rw [List.filter_cons_of_pos (by simp [hs, hp]), List.foldlM_cons, hderef]
            show (if s'.update.changePos = true then _ else _) >>= _ = _
            rw [hpos, hp, if_pos rfl]
            show w'.checkSnakeBounds s' >>= _ = w'.checkSnakeBounds s' >>= _
            cases hcheck : w'.checkSnakeBounds s' with
            | error e => rfl
            | ok w'' =>
                refine ih w'' ?_ hrest
                rw [← hmoved]
                have hpost := (checkChanged_post w' id).of_ok (a := w'') (by
                  rw [checkChanged, hderef]
                  show (if s'.update.changePos = true then _ else _) = _
                  rw [hpos, hp, if_pos rfl, hcheck])
                rcases hpost with rfl | ⟨t, ht, -, rfl⟩
                · rfl
                · rw [hs'] at ht
                  cases ht
                  funext j
                  have hkey : s'.id = id := Keyed.key_of_find? hs'
                  simp only [moved, getSnake, store]
                  rw [Keyed.find?_replace]
                  show Option.map _ (if s'.id = j then _ else _) = _
                  split
                  · rename_i hj
                    have hfind : w'.snakes.find? j = some s' := by
                      rw [← hj, hkey]
                      exact hs'
                    rw [hfind]
                    simp [Snake.markDying]
                  · rfl
  exact hloop w.changes w rfl h

private theorem checkAll_quietExcept {w : World F} (h : w.QuietExcept w.changes) :
    Post w.checkAll (fun w' => w'.QuietExcept w'.changes) (fun _ => True) := by
  unfold checkAll
  refine (Post.foldlM (fun ids (w' : World F) => w'.changes = w.changes ∧
    (∀ id ∈ ids, id ∈ w.changes) ∧ w'.QuietExcept w.changes) ?_ _ _ ⟨rfl, fun _ h => h, h⟩).mono
    (fun w' h => by rw [h.1]; exact h.2.2) fun _ h => h
  rintro id rest w' ⟨hchanges, hin, hq⟩
  refine (checkChanged_post w' id).mono ?_ fun _ _ => trivial
  rintro w'' (rfl | ⟨s, hget, hpos, rfl⟩)
  · exact ⟨hchanges, fun j hj => hin j (List.mem_cons_of_mem _ hj), hq⟩
  · refine ⟨hchanges, fun j hj => hin j (List.mem_cons_of_mem _ hj), ?_⟩
    have hid : s.id = id := Keyed.key_of_find? hget
    refine hq.store (fun j hj => .inr hj) (.inr ⟨?_, .inl ?_⟩)
    · intro h
      simp [Snake.markDying, hpos] at h
    · show s.id ∈ _
      rw [hid]
      exact hin id (List.mem_cons_self ..)

theorem foldlM_checkChanged_each (ids : List SnakeId) (w : World F) :
    Post (ids.foldlM checkChanged w) (fun w' => ∀ id s', w'.getSnake id = some s' →
      ∃ s, w.getSnake id = some s ∧ (s' = s ∨ s' = s.markDying)) (fun _ => True) := by
  refine Post.foldlM (fun _ (w' : World F) => ∀ id s', w'.getSnake id = some s' →
    ∃ s, w.getSnake id = some s ∧ (s' = s ∨ s' = s.markDying)) ?_ _ _ fun id s' hs' =>
      ⟨s', hs', .inl rfl⟩
  intro id rest w' hw'
  refine (checkChanged_post w' id).mono ?_ fun _ _ => trivial
  rintro w'' (rfl | ⟨t, hget, -, rfl⟩)
  · exact hw'
  · intro j s' hs'
    replace hs' : (w'.snakes.replace t.markDying).find? j = some s' := hs'
    rw [Keyed.find?_replace] at hs'
    split at hs'
    · rename_i heq
      obtain ⟨-, -, rfl⟩ := Option.map_eq_some_iff.mp hs'
      have htid : t.id = id := Keyed.key_of_find? hget
      replace heq : t.id = j := heq
      obtain ⟨s, hs, rfl | rfl⟩ := hw' j t (by rw [← heq, htid]; exact hget)
      · exact ⟨t, hs, .inr rfl⟩
      · refine ⟨s, hs, .inr ?_⟩
        have hor : ∀ u : Changes, (u ∪ { changeDying := true }) ∪ { changeDying := true } =
            u ∪ { changeDying := true } := by
          rintro ⟨_, _, _, _, _, _, _⟩
          simp [Union.union, Changes.union]
        simp [Snake.markDying, hor]
    · exact hw' j s' hs'

/-- A tick of the world ticks every snake at most once, and lists those whose tick is reported. -/
theorem tick_each (m : Libm F) (dt : ℕ) (w : World F) :
    Post (w.tick m dt) (fun w' => ∀ s', s' ∈ w'.snakes → s' ∈ w.snakes ∨
      ∃ s ∈ w.snakes, ∃ vfrTime ss r, s.tick m vfrTime ss = .ok r ∧ r.snake.id = s.id ∧
        (s' = r.snake ∨ s' = r.snake.markDying) ∧ (r.changed = true → s.id ∈ w'.changes))
      (fun _ => True) := by
  apply tick_rule
  · exact fun s' hs' => .inl hs'
  · intro vfrTime
    unfold tickSnakes
    cases hall : ({ w with ticks := w.ticks + dt } : World F).tickAll m vfrTime with
    | error e => trivial
    | ok w₁ =>
        show Post w₁.checkAll _ _
        refine ((foldlM_checkChanged_each w₁.changes w₁).and ((checkAll_kept w₁).mono (fun _ h => h)
          fun _ _ => trivial)).mono ?_ fun _ _ => trivial
        rintro w₂ ⟨heach, -, hchanges, -⟩ ticks frames s' hs'
        obtain ⟨s₁, hget₁, hmark⟩ := heach s'.id s' (Keyed.find?_key hs')
        obtain ⟨s, hs, hid, ss, r, hr, hsame, hin⟩ := exists_ticked
          (w := { w with ticks := w.ticks + dt }) hall (Keyed.mem_of_find? hget₁)
        refine .inr ⟨s, hs, vfrTime, ss, r, hr, (congrArg Snake.id hsame).trans hid.symm,
          by rw [hsame]; exact hmark, ?_⟩
        intro hchanged
        show s.id ∈ w₂.changes
        rw [hchanges, hid]
        exact hin.mpr (.inl hchanged)

theorem tick_quietExcept {m : Libm F} {dt : ℕ} {w : World F} (h : w.Quiet) :
    Post (w.tick m dt) (fun w' => w'.QuietExcept w'.changes) (fun _ => True) := by
  apply tick_rule
  · exact (h.reporting []).quiet
  · intro vfrTime
    have hq : ({ w with ticks := w.ticks + dt } : World F).Quiet := ⟨h.changes, h.snakes⟩
    exact Post.bind (tickAll_reporting hq) fun w₁ hw₁ =>
      (checkAll_quietExcept hw₁.quiet).mono (fun w₂ hw₂ ticks frames => hw₂) fun _ h => h

end World

end Slither
