import Slither.Game.Changes

/-!
# The bounds check

What `CheckSnakeBounds` finds: the border, or a snake listed in one of the sectors around the head
whose body meets the circle around the head.
-/

set_option linter.unusedSectionVars false

namespace Slither

open Framework

variable {F : Type} [Field F] [LinearOrder F] [FloorRing F]

namespace Snake

/-- The circle `CheckSnakeBounds` tests the other bodies against. -/
def headCircle (s : Snake F) : BoundBoxPos F := ⟨s.getHeadX, s.getHeadY, s.getSnakeBodyPartRadius⟩

/-- The circle that decides which of the sectors around the head are looked at. -/
def headReach (s : Snake F) : BoundBoxPos F :=
  ⟨s.getHeadX, s.getHeadY, (WorldConfig.moveStepDistance : F)⟩

/-- The head is on or outside the border. -/
def Outside (s : Snake F) : Prop :=
  s.getHead.distanceSquared (WorldConfig.gameRadius : F) (WorldConfig.gameRadius : F) ≥
    ((WorldConfig.deathRadius * WorldConfig.deathRadius : ℕ) : F)

private theorem intersectParts_congr {s t : Snake F} (hr : t.sbpr = s.sbpr) (foe : BoundBoxPos F)
    (ps : List (Body F)) : t.intersectParts foe ps = s.intersectParts foe ps := by
  induction ps with
  | nil => rfl
  | cons p ps ih =>
      cases ps with
      | nil => rfl
      | cons q ps =>
          simp only [intersectParts, getSnakeBodyPartRadius, hr, ih]

theorem intersect_congr {s t : Snake F} (hparts : t.parts = s.parts) (hr : t.sbpr = s.sbpr)
    (foe : BoundBoxPos F) : t.intersect foe = s.intersect foe := by
  simp only [intersect, hparts, intersectParts_congr hr]

end Snake

namespace World

/-- There is a snake under `id`, it is not `s`, and its body meets the circle. -/
def Meets (w : World F) (s : Snake F) (check : BoundBoxPos F) (id : SnakeId) : Prop :=
  id ≠ s.id ∧ ∃ d, w.getSnake id = some d ∧ d.intersect check = true

/-- The sectors the check looks at. -/
def examined (w : World F) (s : Snake F) : List SectorPtr :=
  (sectorsAround (sectorCoord s.getHeadX) (sectorCoord s.getHeadY) 1).filter fun p =>
    (w.sectors.cell p).intersect s.headReach

private theorem checkListed_spec (w : World F) (s : Snake F) (check : BoundBoxPos F)
    (ids cache : List SnakeId) (hcache : ∀ id ∈ cache, ¬ w.Meets s check id) :
    Post (w.checkListed s check ids cache)
      (fun r => match r.1 with
        | some id => id ∈ ids ∧ w.Meets s check id
        | none => (∀ id ∈ ids, ¬ w.Meets s check id) ∧ ∀ id ∈ r.2, ¬ w.Meets s check id)
      (fun _ => ∃ id ∈ ids, w.getSnake id = none) := by
  induction ids generalizing cache with
  | nil => exact ⟨fun id hid => absurd hid List.not_mem_nil, hcache⟩
  | cons id rest ih =>
      have hskip : ∀ cache, (∀ j ∈ cache, ¬ w.Meets s check j) → ¬ w.Meets s check id →
          Post (w.checkListed s check rest cache)
            (fun r => match r.1 with
              | some j => j ∈ id :: rest ∧ w.Meets s check j
              | none => (∀ j ∈ id :: rest, ¬ w.Meets s check j) ∧ ∀ j ∈ r.2, ¬ w.Meets s check j)
            (fun _ => ∃ j ∈ id :: rest, w.getSnake j = none) := by
        intro cache hcache hmiss
        refine (ih cache hcache).mono ?_ ?_
        · rintro ⟨hit, cache'⟩ hr
          cases hit with
          | some j => exact ⟨List.mem_cons_of_mem _ hr.1, hr.2⟩
          | none =>
              refine ⟨fun j hj => ?_, hr.2⟩
              rcases List.mem_cons.mp hj with rfl | hj
              · exact hmiss
              · exact hr.1 j hj
        · rintro _ ⟨j, hj, hnone⟩
          exact ⟨j, List.mem_cons_of_mem _ hj, hnone⟩
      rw [checkListed]
      split
      · rename_i hself
        exact hskip cache hcache fun hmeets => hmeets.1 hself
      · rename_i hself
        split
        · rename_i hin
          exact hskip cache hcache (hcache id hin)
        · unfold deref
          cases hget : w.getSnake id with
          | none => exact ⟨id, List.mem_cons_self .., hget⟩
          | some d =>
              show Post (if d.intersect check = true then _ else _) _ _
              split
              · rename_i hhit
                exact ⟨List.mem_cons_self .., hself, d, hget, hhit⟩
              · rename_i hmiss
                have hnot : ¬ w.Meets s check id := by
                  rintro ⟨-, d', hd', hhit⟩
                  rw [hget] at hd'
                  cases hd'
                  exact hmiss hhit
                refine hskip _ (fun j hj => ?_) hnot
                rcases List.mem_append.mp hj with hj | hj
                · exact hcache j hj
                · rw [List.mem_singleton.mp hj]
                  exact hnot

private theorem checkSectors_spec (w : World F) (s : Snake F) (check : BoundBoxPos F)
    (ps : List SectorPtr) (cache : List SnakeId) (hcache : ∀ id ∈ cache, ¬ w.Meets s check id) :
    Post (w.checkSectors s check ps cache)
      (fun hit => match hit with
        | some id => (∃ p ∈ ps, (w.sectors.cell p).intersect
            ⟨check.x, check.y, (WorldConfig.moveStepDistance : F)⟩ = true ∧
            id ∈ (w.sectors.cell p).snakes) ∧ w.Meets s check id
        | none => ∀ p ∈ ps, (w.sectors.cell p).intersect
            ⟨check.x, check.y, (WorldConfig.moveStepDistance : F)⟩ = true →
            ∀ id ∈ (w.sectors.cell p).snakes, ¬ w.Meets s check id)
      (fun _ => ∃ p ∈ ps, ∃ id ∈ (w.sectors.cell p).snakes, w.getSnake id = none) := by
  induction ps generalizing cache with
  | nil => exact fun p hp => absurd hp List.not_mem_nil
  | cons p rest ih =>
      have hrest : ∀ cache, (∀ id ∈ cache, ¬ w.Meets s check id) →
          ((w.sectors.cell p).intersect ⟨check.x, check.y, (WorldConfig.moveStepDistance : F)⟩ =
            true → ∀ id ∈ (w.sectors.cell p).snakes, ¬ w.Meets s check id) →
          Post (w.checkSectors s check rest cache)
            (fun hit => match hit with
              | some id => (∃ q ∈ p :: rest, (w.sectors.cell q).intersect
                  ⟨check.x, check.y, (WorldConfig.moveStepDistance : F)⟩ = true ∧
                  id ∈ (w.sectors.cell q).snakes) ∧ w.Meets s check id
              | none => ∀ q ∈ p :: rest, (w.sectors.cell q).intersect
                  ⟨check.x, check.y, (WorldConfig.moveStepDistance : F)⟩ = true →
                  ∀ id ∈ (w.sectors.cell q).snakes, ¬ w.Meets s check id)
            (fun _ => ∃ q ∈ p :: rest, ∃ id ∈ (w.sectors.cell q).snakes, w.getSnake id = none) := by
        intro cache hcache hmiss
        refine (ih cache hcache).mono ?_ ?_
        · intro hit hr
          cases hit with
          | some id =>
              obtain ⟨⟨q, hq, hin⟩, hmeets⟩ := hr
              exact ⟨⟨q, List.mem_cons_of_mem _ hq, hin⟩, hmeets⟩
          | none =>
              intro q hq
              rcases List.mem_cons.mp hq with rfl | hq
              · exact hmiss
              · exact hr q hq
        · rintro _ ⟨q, hq, hnone⟩
          exact ⟨q, List.mem_cons_of_mem _ hq, hnone⟩
      rw [checkSectors]
      split
      · rename_i hnear
        apply Post.bind ((checkListed_spec w s check (w.sectors.cell p).snakes cache hcache).mono
          (fun _ h => h) fun _ hmissing => by
            obtain ⟨id, hid, hnone⟩ := hmissing
            exact ⟨p, List.mem_cons_self .., id, hid, hnone⟩)
        rintro ⟨hit, cache'⟩ hr
        cases hit with
        | some id => exact ⟨⟨p, List.mem_cons_self .., hnear, hr.1⟩, hr.2⟩
        | none => exact hrest cache' hr.2 fun _ => hr.1
      · rename_i hfar
        exact hrest cache hcache fun hnear => absurd hnear hfar

/-- The bounds check as a whole: it fails only on a listed snake that is gone. -/
theorem boundsCause_spec (w : World F) (s : Snake F) :
    Post (w.boundsCause s)
      (fun cause => match cause with
        | some .border => s.Outside
        | some (.snake id) => ¬ s.Outside ∧ w.Meets s s.headCircle id ∧
            ∃ p ∈ w.examined s, id ∈ (w.sectors.cell p).snakes
        | none => ¬ s.Outside ∧
            ∀ p ∈ w.examined s, ∀ id ∈ (w.sectors.cell p).snakes, ¬ w.Meets s s.headCircle id)
      (fun _ => ∃ p id, id ∈ (w.sectors.cell p).snakes ∧ w.getSnake id = none) := by
  unfold boundsCause
  split
  · rename_i hout
    exact hout
  · rename_i hin
    apply Post.bind ((checkSectors_spec w s s.headCircle _ [] fun id hid =>
      absurd hid List.not_mem_nil).mono (fun _ h => h) fun _ ⟨p, _, id, hid, hnone⟩ =>
        ⟨p, id, hid, hnone⟩)
    intro hit hr
    cases hit with
    | some id =>
        obtain ⟨⟨p, hp, hnear, hid⟩, hmeets⟩ := hr
        exact ⟨hin, hmeets, p, List.mem_filter.mpr ⟨hp, hnear⟩, hid⟩
    | none =>
        refine ⟨hin, fun p hp id hid => ?_⟩
        obtain ⟨hp, hnear⟩ := List.mem_filter.mp hp
        exact hr p hp hnear id hid

end World

end Slither
