import Slither.Game.Heads

/-!
# The hull of a body's past

Every part of a body goes to a point between where its predecessor was and where its predecessor is.
So a convex set that holds the body and the ways of its head holds the body ever after.
-/

set_option linter.unusedSectionVars false

namespace Slither

open Framework

variable {F : Type} [Field F] [LinearOrder F] [FloorRing F]

namespace Snake

/-- Every part lies in `K`. -/
def BodyIn (K : Set (F × F)) (s : Snake F) : Prop := ∀ p ∈ s.parts, p.pt ∈ K

theorem BodyIn.point {K : Set (F × F)} {s : Snake F} (h : s.BodyIn K) {i : ℕ}
    (hi : i < s.parts.length) : point s.parts i ∈ K := by
  unfold Snake.point
  rw [List.getD_eq_getElem _ _ hi]
  exact h _ (List.getElem_mem hi)

theorem bodyIn_of_point {K : Set (F × F)} {s : Snake F}
    (h : ∀ i < s.parts.length, Snake.point s.parts i ∈ K) : s.BodyIn K := by
  intro p hp
  obtain ⟨i, hi, rfl⟩ := List.mem_iff_getElem.mp hp
  have hpoint := h i hi
  unfold Snake.point at hpoint
  rwa [List.getD_eq_getElem _ _ hi] at hpoint

theorem BodyIn.increase {K : Set (F × F)} {s : Snake F} (h : s.BodyIn K) (volume : ℕ) :
    (s.increaseSnake volume).BodyIn K := by
  have hsize := s.size_parts
  intro p hp
  rcases s.increaseSnake_parts volume with hparts | hparts
  · exact h p (hparts ▸ hp)
  · rw [hparts] at hp
    rcases List.mem_append.mp hp with hp | hp
    · exact h p hp
    · -- the new part is a copy of the last one
      have hlast : s.getBack ∈ s.parts := by
        unfold getBack
        rw [List.getLastD_eq_getLast?,
          List.getLast?_eq_some_getLast (List.ne_nil_of_length_pos (by omega))]
        exact List.getLast_mem _
      rw [List.mem_singleton.mp hp]
      exact h _ hlast

private theorem BodyIn.decrease {K : Set (F × F)} {s : Snake F} (h : s.BodyIn K) (ss : SectorSeq)
    (volume : ℕ) : (s.decreaseSnake ss volume).1.BodyIn K := by
  obtain ⟨k, -, hparts⟩ := s.decreaseSnake_parts ss volume
  intro p hp
  rw [hparts] at hp
  exact h p (List.mem_of_mem_take hp)

theorem BodyIn.accelerate {K : Set (F × F)} {s : Snake F} (h : s.BodyIn K) (ss : SectorSeq) :
    (s.updateAcceleration ss).1.BodyIn K := by
  unfold updateAcceleration
  split
  · split
    · exact h
    · exact h.decrease ss 33
  · exact h

variable [IsStrictOrderedRing F]

private theorem BodyIn.settled {K : Set (F × F)} (hK : Convex F K) {s : Snake F} (h : s.BodyIn K)
    (ss : SectorSeq) {newHead : Body F} (hhead : newHead.pt ∈ K) :
    (s.settled ss newHead).BodyIn K := by
  apply bodyIn_of_point
  intro i hi
  rw [length_settled] at hi
  rw [point_settled s ss newHead hi]
  exact follow_mem hK (fun i => ⟨(followCoeff_mem i).1, (followCoeff_lt_one i).le⟩) hhead
    (fun j hj => h.point hj) hi

private theorem BodyIn.tick {K : Set (F × F)} (hK : Convex F K) {m : Libm F} {dt : ℕ} {s : Snake F}
    {ss : SectorSeq} {r : Ticked F} (h : s.BodyIn K) (htick : s.tick m dt ss = .ok r)
    (hhead : (s.nextHead m dt).pt ∈ K) : r.snake.BodyIn K := by
  have hmoved : Post (s.tick m dt ss) (fun r => r.snake.BodyIn K) (fun _ => True) := by
    apply tick_body (P := fun t => t.BodyIn K)
    · intro t u hparts _ ht p hp
      exact ht p (hparts ▸ hp)
    · exact fun t f ht => ht.increase f.size
    · exact fun t ss' ht => ht.accelerate ss'
    · exact h
    · intro _ _
      have hbody : (s.poised m dt).BodyIn K := by
        intro p hp
        have hsame : (s.poised m dt).parts = s.parts := congrArg Prod.fst (s.body_steered m dt)
        exact h p (hsame ▸ hp)
      refine hbody.settled hK ss ?_
      rw [poised_movedHead]
      exact hhead
  exact hmoved.of_ok htick

end Snake

/-- The map. -/
def mapSet (F : Type) [Field F] [LinearOrder F] : Set (F × F) := {p | OnMap p}

/-- The casts of a part's coordinates keep their values: to `uint16_t`, and divided by the size of a
sector to `uint16_t` and `int16_t`. -/
structure Body.CastsExact (p : Body F) : Prop where
  x : (Math.toUint16 p.x : ℤ) = Math.trunc p.x
  y : (Math.toUint16 p.y : ℤ) = Math.trunc p.y
  sectorX : (Math.toUint16 (p.x / (WorldConfig.sectorSize : F)) : ℤ) = sectorCoord p.x
  sectorY : (Math.toUint16 (p.y / (WorldConfig.sectorSize : F)) : ℤ) = sectorCoord p.y
  range : (0 ≤ sectorCoord p.x ∧ sectorCoord p.x < 144) ∧
    0 ≤ sectorCoord p.y ∧ sectorCoord p.y < 144

variable [IsStrictOrderedRing F]

private theorem convex_mapSet : Convex F (mapSet F) := by
  have hset : mapSet F = Set.Ico (0 : F) 43200 ×ˢ Set.Ico (0 : F) 43200 := by
    ext p
    exact ⟨fun h => ⟨h.x, h.y⟩, fun h => ⟨h.1, h.2⟩⟩
  rw [hset]
  exact (convex_Ico _ _).prod (convex_Ico _ _)

private theorem Body.castsExact {p : Body F} (h : OnMap p.pt) : p.CastsExact := by
  have hcast : ∀ v : F, 0 ≤ v ∧ v < 43200 → (Math.toUint16 v : ℤ) = Math.trunc v := by
    intro v hv
    rw [Math.toUint16_eq_floor hv, Math.trunc, if_pos hv.1]
  have hquot : ∀ v : F, 0 ≤ v ∧ v < 43200 →
      0 ≤ v / (WorldConfig.sectorSize : F) ∧ v / (WorldConfig.sectorSize : F) < 144 := by
    rintro v ⟨hlo, hhi⟩
    have h300 : ((WorldConfig.sectorSize : ℕ) : F) = 300 := by norm_num
    rw [h300, div_lt_iff₀ (by norm_num)]
    exact ⟨by positivity, by linarith⟩
  have hcoord : ∀ v : F, 0 ≤ v ∧ v < 43200 → 0 ≤ sectorCoord v ∧ sectorCoord v < 144 := by
    intro v hv
    obtain ⟨hlo, hhi⟩ := hquot v hv
    unfold sectorCoord Math.trunc
    rw [if_pos hlo]
    exact ⟨Int.floor_nonneg.mpr hlo, Int.floor_lt.mpr (by exact_mod_cast hhi)⟩
  have hsector : ∀ v : F, 0 ≤ v ∧ v < 43200 →
      (Math.toUint16 (v / (WorldConfig.sectorSize : F)) : ℤ) = sectorCoord v := by
    intro v hv
    obtain ⟨hlo, hhi⟩ := hquot v hv
    exact hcast _ ⟨hlo, by linarith⟩
  exact ⟨hcast _ h.x, hcast _ h.y, hsector _ h.x, hsector _ h.y, hcoord _ h.x, hcoord _ h.y⟩

namespace BodyOp

private theorem perform_bodyIn {K : Set (F × F)} (hK : Convex F K) {s : Snake F} (h : s.BodyIn K)
    (op : BodyOp F) (hhead : (op.perform s).getHead.pt ∈ K) : (op.perform s).BodyIn K := by
  cases op with
  | move ss step => exact h.settled hK ss hhead
  | increase volume => exact h.increase volume
  | decrease ss volume => exact h.decrease ss volume

private theorem bodyIn_of_heads {K : Set (F × F)} (hK : Convex F K) {s : Snake F} (h : s.BodyIn K)
    (ops : List (BodyOp F)) (hheads : ∀ pre, pre <+: ops → (pre.foldl perform s).getHead.pt ∈ K) :
    (ops.foldl perform s).BodyIn K := by
  induction ops using List.reverseRecOn with
  | nil => exact h
  | append_singleton ops op ih =>
      have hhead := hheads _ (List.prefix_refl _)
      rw [List.foldl_append] at hhead ⊢
      refine perform_bodyIn hK (ih fun pre hpre => hheads pre ?_) op hhead
      exact hpre.trans (List.prefix_append _ _)

/-- A convex set that holds the body and every position of the head holds every part after every
step, and so after every `Tick`.  On the map, every cast of a coordinate of a part is exact. -/
theorem body_in_hull (s : Snake F) (ops : List (BodyOp F)) :
    (∀ K : Set (F × F), Convex F K → s.BodyIn K →
      ((∀ pre, pre <+: ops → (pre.foldl perform s).getHead.pt ∈ K) →
          (ops.foldl perform s).BodyIn K) ∧
        ∀ (m : Libm F) (dt : ℕ) (ss : SectorSeq) (r : Snake.Ticked F), s.tick m dt ss = .ok r →
          (s.nextHead m dt).pt ∈ K → r.snake.BodyIn K) ∧
      (s.BodyIn (mapSet F) → (∀ pre, pre <+: ops → OnMap (pre.foldl perform s).getHead.pt) →
        ∀ p ∈ (ops.foldl perform s).parts, OnMap p.pt ∧ p.CastsExact) := by
  refine ⟨fun K hK h => ⟨fun hheads => bodyIn_of_heads hK h ops hheads,
    fun m dt ss r htick hhead => h.tick hK htick hhead⟩, fun h hheads p hp => ?_⟩
  have hmap : OnMap p.pt := bodyIn_of_heads convex_mapSet h ops hheads p hp
  exact ⟨hmap, Body.castsExact hmap⟩

/-- A new snake of three parts makes a step. -/
theorem body_in_hull_newborn :
    let s : Snake ℚ := Snake.newborn Libm.axis 1 9 21600 21600 0 0
    let ops : List (BodyOp ℚ) := [.move SectorSeq.init (-42, 0)]
    ∀ p ∈ (ops.foldl perform s).parts, OnMap p.pt ∧ p.CastsExact := by
  intro s ops
  have hstart : s.BodyIn (mapSet ℚ) := by
    have hall : ∀ p ∈ s.parts, OnMap p.pt := by decide +kernel
    exact hall
  have hheads : ∀ pre, pre <+: ops → OnMap (pre.foldl perform s).getHead.pt := by
    intro pre hpre
    have hcases : pre = [] ∨ pre = ops := by
      rcases List.prefix_cons_iff.mp hpre with rfl | ⟨t, rfl, ht⟩
      · exact .inl rfl
      · rw [List.prefix_nil.mp ht]
        exact .inr rfl
    rcases hcases with rfl | rfl <;> decide +kernel
  exact (body_in_hull s ops).2 hstart hheads

end BodyOp

end Slither
