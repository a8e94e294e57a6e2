import Slither.Game.Bounds
import Slither.Game.Registry

/-!
# Collisions

The second loop of `TickSnakes` only marks snakes, and a mark changes neither a body nor a circle.
So each snake is judged as in the world before the loop, in whatever order they come.
-/

set_option linter.unusedSectionVars false

namespace Slither

open Framework

variable {F : Type} [Field F] [LinearOrder F] [FloorRing F]

namespace World

/-- Every pointer the second loop follows leads to a snake. -/
structure Live (w : World F) : Prop where
  changes : ∀ id ∈ w.changes, ∃ s, w.getSnake id = some s
  listed : ∀ p, ∀ id ∈ (w.sectors.cell p).snakes, ∃ s, w.getSnake id = some s

/-- The snake has moved, and its head is outside or meets a snake listed around it. -/
def Caught (w : World F) (s : Snake F) : Prop :=
  s.update.changePos = true ∧
    (s.Outside ∨ ∃ p ∈ w.examined s, ∃ id ∈ (w.sectors.cell p).snakes, w.Meets s s.headCircle id)

private theorem boundsCause_caught {w : World F} (h : w.Live) (s : Snake F) :
    ∃ cause, w.boundsCause s = .ok cause ∧
      (s.update.changePos = true → (cause.isSome ↔ w.Caught s)) := by
  have hspec := w.boundsCause_spec s
  cases hcause : w.boundsCause s with
  | error e =>
      rw [hcause] at hspec
      obtain ⟨p, id, hid, hnone⟩ := hspec
      obtain ⟨d, hd⟩ := h.listed p id hid
      rw [hnone] at hd
      cases hd
  | ok cause =>
      rw [hcause] at hspec
      refine ⟨cause, rfl, fun hpos => ?_⟩
      match cause, hspec with
      | some .border, hout => exact iff_of_true rfl ⟨hpos, .inl hout⟩
      | some (.snake id), ⟨_, hmeets, p, hp, hid⟩ =>
          exact iff_of_true rfl ⟨hpos, .inr ⟨p, hp, id, hid, hmeets⟩⟩
      | none, ⟨hin, hmiss⟩ =>
          refine iff_of_false Bool.false_ne_true ?_
          rintro ⟨-, hout | ⟨p, hp, id, hid, hmeets⟩⟩
          · exact hin hout
          · exact hmiss p hp id hid hmeets

/-- `t` is `s` after the second loop has come to the snakes `ids`, in the world `w` before it. -/
structure Judged (w : World F) (ids : List SnakeId) (s t : Snake F) : Prop where
  caught : s.id ∈ ids ∧ w.Caught s → t = s.markDying
  spared : ¬ (s.id ∈ ids ∧ w.Caught s) → t = s

/-- The world `w'` in the second loop, after `ids`. -/
structure Judging (w : World F) (ids : List SnakeId) (w' : World F) : Prop where
  sectors : w'.sectors = w.sectors
  missing : ∀ id, w.getSnake id = none → w'.getSnake id = none
  present : ∀ id s, w.getSnake id = some s → ∃ t, w'.getSnake id = some t ∧ w.Judged ids s t

private theorem Judged.eq_or {w : World F} {ids : List SnakeId} {s t : Snake F}
    (h : w.Judged ids s t) :
    t = s ∨ t = s.markDying := by
  by_cases hc : s.id ∈ ids ∧ w.Caught s
  · exact .inr (h.caught hc)
  · exact .inl (h.spared hc)

private theorem markDying_markDying (s : Snake F) : s.markDying.markDying = s.markDying := by
  have hor : ∀ u : Changes, (u ∪ { changeDying := true }) ∪ { changeDying := true } =
      u ∪ { changeDying := true } := by
    rintro ⟨_, _, _, _, _, _, _⟩
    simp [Union.union, Changes.union]
  simp [Snake.markDying, hor]

private theorem intersect_of_judged {w : World F} {ids : List SnakeId} {s t : Snake F}
    (h : w.Judged ids s t) (foe : BoundBoxPos F) : t.intersect foe = s.intersect foe := by
  rcases h.eq_or with rfl | rfl
  · rfl
  · exact Snake.intersect_congr (s := s) (t := s.markDying) rfl rfl foe

private theorem caught_of_eq {w : World F} {s t : Snake F} (ht : t = s ∨ t = s.markDying) :
    w.Caught t ↔ w.Caught s := by
  rcases ht with rfl | rfl
  · rfl
  · have hpos : s.markDying.update.changePos = s.update.changePos := Bool.or_false _
    unfold Caught
    rw [hpos]
    rfl

namespace Judging

variable {w w' : World F} {ids : List SnakeId}

private theorem start (w : World F) : w.Judging [] w where
  sectors := rfl
  missing _ h := h
  present _ s h := ⟨s, h, ⟨fun hc => absurd hc.1 List.not_mem_nil, fun _ => rfl⟩⟩

private theorem live (h : w.Judging ids w') (hlive : w.Live) (hchanges : w'.changes = w.changes) :
    w'.Live := by
  have hsome : ∀ id, (∃ s, w.getSnake id = some s) → ∃ t, w'.getSnake id = some t := by
    rintro id ⟨s, hs⟩
    obtain ⟨t, ht, -⟩ := h.present id s hs
    exact ⟨t, ht⟩
  constructor
  · intro id hid
    exact hsome id (hlive.changes id (hchanges ▸ hid))
  · intro p id hid
    exact hsome id (hlive.listed p id (h.sectors ▸ hid))

private theorem meets_iff (h : w.Judging ids w') (s : Snake F) (check : BoundBoxPos F)
    (id : SnakeId) :
    w'.Meets s check id ↔ w.Meets s check id := by
  refine and_congr_right fun _ => ⟨?_, ?_⟩
  · rintro ⟨t, ht, hhit⟩
    cases hget : w.getSnake id with
    | none =>
        rw [h.missing id hget] at ht
        cases ht
    | some d =>
        obtain ⟨t', ht', hj⟩ := h.present id d hget
        cases ht.symm.trans ht'
        exact ⟨d, rfl, (intersect_of_judged hj check).symm.trans hhit⟩
  · rintro ⟨d, hd, hhit⟩
    obtain ⟨t, ht, hj⟩ := h.present id d hd
    exact ⟨t, ht, (intersect_of_judged hj check).trans hhit⟩

private theorem caught_iff (h : w.Judging ids w') (s : Snake F) : w'.Caught s ↔ w.Caught s := by
  unfold Caught examined
  rw [h.sectors]
  simp only [h.meets_iff]

private theorem skip (h : w.Judging ids w') {id : SnakeId} {s : Snake F}
    (hs : w.getSnake id = some s) (hfree : ¬ w.Caught s) : w.Judging (ids ++ [id]) w' where
  sectors := h.sectors
  missing := h.missing
  present j u hu := by
    obtain ⟨t, ht, hj⟩ := h.present j u hu
    refine ⟨t, ht, fun hc => hj.caught ⟨?_, hc.2⟩, fun hc => hj.spared fun hc' => hc ?_⟩
    · rcases List.mem_append.mp hc.1 with hin | hin
      · exact hin
      · -- it would be the one just judged
        have hid : j = id := (Keyed.key_of_find? hu).symm.trans (List.mem_singleton.mp hin)
        rw [hid, hs] at hu
        cases hu
        exact absurd hc.2 hfree
    · exact ⟨List.mem_append_left _ hc'.1, hc'.2⟩

private theorem mark (h : w.Judging ids w') {id : SnakeId} {s t : Snake F}
    (hs : w.getSnake id = some s) (ht : w'.getSnake id = some t)
    (hcaught : w.Caught s) : w.Judging (ids ++ [id]) (w'.store t.markDying) := by
  have hid : t.id = id := Keyed.key_of_find? ht
  have hget : ∀ j, (w'.store t.markDying).getSnake j =
      if id = j then some t.markDying else w'.getSnake j := by
    intro j
    refine (Keyed.find?_replace w'.snakes t.markDying j).trans ?_
    show (if t.id = j then _ else _) = _
    rw [hid]
    split
    · rename_i hj
      have hfind : w'.snakes.find? j = some t := hj ▸ ht
      rw [hfind]
      rfl
    · rfl
  constructor
  · exact h.sectors
  · intro j hj
    rw [hget, if_neg]
    · exact h.missing j hj
    · rintro rfl
      rw [hj] at hs
      cases hs
  · intro j u hu
    rw [hget]
    by_cases hj : id = j
    · subst hj
      cases hs.symm.trans hu
      obtain ⟨t', ht', hjudged⟩ := h.present id s hs
      cases ht.symm.trans ht'
      have hmark : t.markDying = s.markDying := by
        rcases hjudged.eq_or with rfl | rfl
        · rfl
        · exact markDying_markDying s
      refine ⟨_, if_pos rfl, fun _ => hmark, fun hc => absurd ⟨?_, hcaught⟩ hc⟩
      exact List.mem_append_right _ (List.mem_singleton.mpr (Keyed.key_of_find? hs))
    · rw [if_neg hj]
      obtain ⟨t', ht', hjudged⟩ := h.present j u hu
      have huid : u.id = j := Keyed.key_of_find? hu
      have hmem : u.id ∈ ids ++ [id] ↔ u.id ∈ ids := by
        rw [List.mem_append, List.mem_singleton, huid]
        exact or_iff_left fun h => hj h.symm
      exact ⟨t', ht', fun hc => hjudged.caught ⟨hmem.mp hc.1, hc.2⟩,
        fun hc => hjudged.spared fun hc' => hc ⟨hmem.mpr hc'.1, hc'.2⟩⟩

private theorem check (h : w.Judging ids w') (hlive : w'.Live) {id : SnakeId}
    (hid : id ∈ w'.changes) :
    ∃ w'', w'.checkChanged id = .ok w'' ∧ w.Judging (ids ++ [id]) w'' ∧
      w''.changes = w'.changes := by
  obtain ⟨t, ht⟩ := hlive.changes id hid
  obtain ⟨s, hs⟩ : ∃ s, w.getSnake id = some s := by
    cases hget : w.getSnake id with
    | none =>
        rw [h.missing id hget] at ht
        cases ht
    | some s => exact ⟨s, rfl⟩
  obtain ⟨t', ht', hjudged⟩ := h.present id s hs
  cases ht.symm.trans ht'
  have hcaught : w'.Caught t ↔ w.Caught s := (h.caught_iff t).trans (caught_of_eq hjudged.eq_or)
  have hround : w'.checkChanged id =
      if t.update.changePos = true then w'.checkSnakeBounds t else .ok w' := by
    unfold checkChanged deref
    rw [ht]
    rfl
  rw [hround]
  split
  · rename_i hpos
    obtain ⟨cause, hcause, hiff⟩ := boundsCause_caught hlive t
    unfold checkSnakeBounds
    rw [hcause]
    cases cause with
    | some c =>
        exact ⟨_, rfl, h.mark hs ht (hcaught.mp ((hiff hpos).mp rfl)), rfl⟩
    | none =>
        refine ⟨_, rfl, h.skip hs fun hc => ?_, rfl⟩
        cases (hiff hpos).mpr (hcaught.mpr hc)
  · rename_i hpos
    exact ⟨_, rfl, h.skip hs fun hc => hpos (hcaught.mpr hc).1, rfl⟩

end Judging

theorem checkAll_judges {w : World F} (h : w.Live) :
    ∃ w', w.checkAll = .ok w' ∧ w.Judging w.changes w' := by
  have hloop : ∀ (rest : List SnakeId) (w' : World F) (done : List SnakeId),
      w.Judging done w' → w'.changes = w.changes → (∀ id ∈ rest, id ∈ w.changes) →
      ∃ w'', rest.foldlM checkChanged w' = .ok w'' ∧ w.Judging (done ++ rest) w'' := by
    intro rest
    induction rest with
    | nil =>
        intro w' done hj _ _
        exact ⟨w', rfl, (List.append_nil done).symm ▸ hj⟩
    | cons id rest ih =>
        intro w' done hj hchanges hin
        obtain ⟨hid, hrest⟩ := List.forall_mem_cons.mp hin
        obtain ⟨w₁, hround, hj₁, hchanges₁⟩ := hj.check (hj.live h hchanges) (hchanges ▸ hid)
        obtain ⟨w₂, hloop, hj₂⟩ := ih w₁ (done ++ [id]) hj₁ (hchanges₁.trans hchanges) hrest
        refine ⟨w₂, ?_, ?_⟩
        · rw [List.foldlM_cons, hround]
          exact hloop
        · rwa [List.append_assoc] at hj₂
  exact hloop w.changes w [] (.start w) rfl fun _ hid => hid

/-- The snake `id` is marked. -/
def Dying (w : World F) (id : SnakeId) : Prop :=
  ∃ s, w.getSnake id = some s ∧ s.update.changeDying = true

private theorem Judging.dying_iff {w w' : World F} {ids : List SnakeId} (h : w.Judging ids w')
    (id : SnakeId) :
    w'.Dying id ↔
      w.Dying id ∨ id ∈ ids ∧ ∃ s, w.getSnake id = some s ∧ w.Caught s := by
  unfold Dying
  cases hget : w.getSnake id with
  | none => simp [h.missing id hget]
  | some s =>
      obtain ⟨t, ht, hjudged⟩ := h.present id s hget
      obtain rfl : s.id = id := Keyed.key_of_find? hget
      simp only [ht, Option.some.injEq, exists_eq_left']
      by_cases hc : s.id ∈ ids ∧ w.Caught s
      · rw [hjudged.caught hc]
        exact iff_of_true (Bool.or_true _) (.inr hc)
      · rw [hjudged.spared hc]
        exact (or_iff_left hc).symm

/-- The same world with its lists in another order. -/
structure Reordered (w w' : World F) : Prop where
  snakes : w'.snakes.entries.Perm w.snakes.entries
  changes : w'.changes.Perm w.changes
  listed : ∀ p, (w'.sectors.cell p).snakes.Perm (w.sectors.cell p).snakes

namespace Reordered

variable {w w' : World F}

private theorem getSnake (h : w.Reordered w') (id : SnakeId) : w'.getSnake id = w.getSnake id :=
  Keyed.find?_perm h.snakes id

private theorem live (h : w.Reordered w') (hlive : w.Live) : w'.Live where
  changes id hid := by
    rw [h.getSnake]
    exact hlive.changes id (h.changes.mem_iff.mp hid)
  listed p id hid := by
    rw [h.getSnake]
    exact hlive.listed p id ((h.listed p).mem_iff.mp hid)

private theorem caught_iff (h : w.Reordered w') (s : Snake F) : w'.Caught s ↔ w.Caught s := by
  have hexamined : w'.examined s = w.examined s := by
    refine List.filter_congr fun p _ => ?_
    have hx := ((w'.sectors.coords p).1).trans ((w.sectors.coords p).1).symm
    have hy := ((w'.sectors.coords p).2).trans ((w.sectors.coords p).2).symm
    simp only [Sector.intersect, Sector.box, hx, hy]
  unfold Caught Meets
  rw [hexamined]
  simp only [h.getSnake, (h.listed _).mem_iff]

end Reordered

/-- Whatever the order of the changes, of the snakes and of the lists of the sectors, the same
snakes are dying after the second loop: those that were, and those that are listed and caught. -/
theorem collisions_unordered {w₁ w₂ : World F} (hlive : w₁.Live) (h : w₁.Reordered w₂) :
    ∃ v₁ v₂, w₁.checkAll = .ok v₁ ∧ w₂.checkAll = .ok v₂ ∧ (∀ id, v₂.Dying id ↔ v₁.Dying id) ∧
      ∀ id, v₁.Dying id ↔
        w₁.Dying id ∨ id ∈ w₁.changes ∧ ∃ s, w₁.getSnake id = some s ∧ w₁.Caught s := by
  obtain ⟨v₁, hv₁, hj₁⟩ := checkAll_judges hlive
  obtain ⟨v₂, hv₂, hj₂⟩ := checkAll_judges (h.live hlive)
  refine ⟨v₁, v₂, hv₁, hv₂, fun id => ?_, hj₁.dying_iff⟩
  rw [hj₁.dying_iff, hj₂.dying_iff]
  unfold Dying
  simp only [h.getSnake, h.caught_iff, h.changes.mem_iff]

private theorem live_of_registered {w : World F} (h : w.Registered)
    (hchanges : ∀ id ∈ w.changes, ∃ s ∈ w.snakes, s.id = id) : w.Live := by
  have hget : ∀ id, (∃ s ∈ w.snakes, s.id = id) → ∃ s, w.getSnake id = some s := by
    rintro _ ⟨s, hs, rfl⟩
    exact ⟨s, Keyed.find?_key hs⟩
  exact ⟨fun id hid => hget id (hchanges id hid), fun p id hid =>
    hget id (h.live p id ((SectorSeq.mem_snakes_iff _ _ _).mp hid))⟩

theorem tickAll_live (m : Libm F) (dt : ℕ) {w : World F} (h : w.Registered)
    (hchanges : ∀ id ∈ w.changes, ∃ s ∈ w.snakes, s.id = id) :
    Post (w.tickAll m dt) (fun w' => w'.Live) (fun e => e = .sectorIndex ∨ e = .divByZero) := by
  refine (tickAll_rule (fun _ (w' : World F) => w'.Registered ∧
    ∀ id ∈ w'.changes, ∃ s ∈ w'.snakes, s.id = id) ⟨h, hchanges⟩ ?_).mono
    (fun w' hw' => live_of_registered hw'.1 hw'.2) fun _ he => he
  rintro s rest w' hs - ⟨hreg, hin⟩
  refine (Snake.tick_reregisters m dt s w'.sectors).mono ?_ fun _ h => h
  rintro r ⟨hid, hr⟩
  have hkept : ∀ id, (∃ t ∈ w'.snakes, t.id = id) → ∃ t ∈ (w'.ticked s r).snakes, t.id = id := by
    rintro _ ⟨t, ht, rfl⟩
    by_cases heq : t.id = s.id
    · exact ⟨r.snake, Keyed.mem_replace.mpr (.inr ⟨rfl, s, hs, hid.symm⟩), hid.trans heq.symm⟩
    · exact ⟨t, Keyed.mem_replace.mpr (.inl ⟨ht, fun h => heq (h.trans hid)⟩), rfl⟩
  refine ⟨hreg.update hs hid hr rfl, fun id hid' => hkept id ?_⟩
  unfold ticked at hid'
  dsimp only at hid'
  split at hid'
  · rcases List.mem_append.mp hid' with hmem | hmem
    · exact hin id hmem
    · exact ⟨s, hs, (List.mem_singleton.mp hmem).symm⟩
  · exact hin id hid'

/-- A world of three moved snakes: the first is outside, and the other two lie in each other. -/
def crowded (changes listed : List SnakeId) : World ℚ :=
  { (blank {} Rng.zero : World ℚ) with
    snakes :=
      { entries :=
          [{ Snake.newborn Libm.axis 1 9 100 100 0 0 with update := { changePos := true } },
            { Snake.newborn Libm.axis 2 9 21700 21700 0 0 with update := { changePos := true } },
            { Snake.newborn Libm.axis 3 9 21720 21710 0 0 with update := { changePos := true } }]
        nodup := by decide }
    sectors := SectorSeq.init.modify middleSector fun sec =>
      { sec with snakes := listed }
    changes := changes }

private theorem crowded_live : (crowded [1, 2, 3] [2, 3]).Live := by
  have hget : ∀ id ∈ [1, 2, 3], ∃ s, (crowded [1, 2, 3] [2, 3]).getSnake id = some s := by
    intro id hid
    simp only [List.mem_cons, List.not_mem_nil, or_false] at hid
    rcases hid with rfl | rfl | rfl <;> exact ⟨_, rfl⟩
  refine ⟨hget, fun p id hid => hget id ?_⟩
  simp only [crowded, SectorSeq.modify, SectorSeq.cell_put] at hid
  split at hid
  · exact List.mem_cons_of_mem _ hid
  · cases hid

theorem collisions_unordered_crowded :
    ∃ v₁ v₂, (crowded [1, 2, 3] [2, 3]).checkAll = .ok v₁ ∧
      (crowded [3, 1, 2] [3, 2]).checkAll = .ok v₂ ∧
      (∀ id, v₂.Dying id ↔ v₁.Dying id) ∧ v₁.Dying 1 ∧ v₁.Dying 2 ∧ v₁.Dying 3 := by
  have hswap : (crowded [1, 2, 3] [2, 3]).Reordered (crowded [3, 1, 2] [3, 2]) := by
    refine ⟨.refl _, by decide, fun p => ?_⟩
    simp only [crowded, SectorSeq.modify, SectorSeq.cell_put]
    split
    · exact .swap 2 3 []
    · exact .refl _
  obtain ⟨v₁, v₂, hv₁, hv₂, hsame, hdying⟩ := collisions_unordered crowded_live hswap
  refine ⟨v₁, v₂, hv₁, hv₂, hsame, (hdying 1).mpr ?_, (hdying 2).mpr ?_, (hdying 3).mpr ?_⟩
  · refine .inr ⟨by decide, _, rfl, rfl, .inl ?_⟩
    unfold Snake.Outside
    decide +kernel
  · exact .inr ⟨by decide, _, rfl, rfl, .inr ⟨middleSector, by decide +kernel, 3,
      by decide +kernel, by decide, _, rfl, by decide +kernel⟩⟩
  · exact .inr ⟨by decide, _, rfl, rfl, .inr ⟨middleSector, by decide +kernel, 2,
      by decide +kernel, by decide, _, rfl, by decide +kernel⟩⟩

end World

end Slither
