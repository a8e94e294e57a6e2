import Slither.Game.Frame

/-!
# Mass

A part weighs a hundred units of fullness.  Food is gained and acceleration is paid by operations
that carry and borrow between the two; together they keep the balance.
-/

set_option linter.unusedSectionVars false

namespace Slither

open Framework

variable {F : Type} [Field F] [LinearOrder F] [FloorRing F]

namespace Snake

def mass (s : Snake F) : ℕ := 100 * s.parts.length + s.fullness

private theorem increaseSnake_mass (s : Snake F) {volume : ℕ} (hs : s.fullness ≤ 99)
    (hvolume : volume ≤ 100) :
    (s.increaseSnake volume).fullness ≤ 99 ∧
      (s.increaseSnake volume).mass = s.mass + volume := by
  have hmod : (s.fullness + volume) % 65536 = s.fullness + volume := Nat.mod_eq_of_lt (by omega)
  unfold increaseSnake mass updateSnakeConsts
  rw [hmod]
  dsimp only
  split
  · simp only [List.length_append, List.length_singleton]
    omega
  · dsimp only
    omega

private theorem dropPart_length (st : Snake F × SectorSeq) (h : 3 < st.1.parts.length) :
    (dropPart st).1.parts.length = st.1.parts.length - 1 := by
  unfold dropPart
  rw [dif_pos h]
  dsimp only
  rw [List.length_dropLast, spawnFood_parts]

private theorem decreaseSnake_mass (s : Snake F) (ss : SectorSeq) {volume : ℕ}
    (hs : s.fullness ≤ 99) (hvolume : volume < 100) (hparts : 3 < s.parts.length) :
    (s.decreaseSnake ss volume).1.fullness ≤ 99 ∧
      (s.decreaseSnake ss volume).1.mass + volume = s.mass := by
  unfold decreaseSnake mass updateSnakeConsts
  by_cases hlack : volume > s.fullness
  · have hdiv : (volume - s.fullness) / 100 = 0 := Nat.div_eq_of_lt (by omega)
    have hmod : (volume - s.fullness) % 100 = volume - s.fullness := Nat.mod_eq_of_lt (by omega)
    have hdrop := dropPart_length (s, ss) hparts
    simp only [if_pos hlack, hdiv, hmod, Nat.add_zero, Nat.one_mod, List.range_one,
      List.foldl_cons, List.foldl_nil, hdrop]
    omega
  · simp only [if_neg hlack]
    omega

private theorem updateAcceleration_mass (s : Snake F) (ss : SectorSeq) (hs : s.fullness ≤ 99) :
    (s.updateAcceleration ss).1.fullness ≤ 99 ∧
      (s.updateAcceleration ss).1.mass +
        33 * (if s.acceleration ∧ 3 < s.parts.length then 1 else 0) = s.mass := by
  unfold updateAcceleration
  by_cases hacc : s.acceleration = true
  · rw [if_pos hacc]
    by_cases hparts : s.parts.length ≤ 3
    · rw [if_pos hparts, if_neg (fun h => absurd h.2 (by omega))]
      exact ⟨hs, rfl⟩
    · rw [if_neg hparts, if_pos ⟨hacc, by omega⟩]
      exact s.decreaseSnake_mass ss hs (by decide) (by omega)
  · rw [if_neg hacc, if_neg fun h => hacc h.1]
    exact ⟨hs, rfl⟩

private theorem moveBody_mass (m : Libm F) (moveDist : F) (s : Snake F) (ss : SectorSeq) :
    (s.moveBody m moveDist ss).1.mass = s.mass ∧
      (s.moveBody m moveDist ss).1.parts.length = s.parts.length := by
  have hlen : (s.moveBody m moveDist ss).1.parts.length = s.parts.length := by
    have hsize := s.size_parts
    show (s.movedHead m moveDist :: (s.moveLoops ss (s.movedHead m moveDist)).done).length = _
    rw [List.length_cons, length_moveLoops, List.length_tail]
    omega
  refine ⟨?_, hlen⟩
  unfold mass
  rw [hlen]
  rfl

end Snake

/-- What can happen to the mass of a snake. -/
inductive MassOp (F : Type)
  /-- `on_food_eaten`. -/
  | eat (f : Food)
  /-- The player turns the acceleration on or off. -/
  | accelerate (on : Bool)
  /-- A movement step by `dist`, apart from the food eaten on the way. -/
  | move (dist : F)

namespace MassOp

def perform (m : Libm F) (st : Snake F × SectorSeq) : MassOp F → Snake F × SectorSeq
  | eat f => (st.1.onFoodEaten f, st.2)
  | accelerate on => ({ st.1 with acceleration := on }, st.2)
  | move dist =>
      let (s, ss) := st.1.moveBody m dist st.2
      s.updateAcceleration ss

/-- What is eaten. -/
def gain : MassOp F → ℕ
  | eat f => f.size
  | _ => 0

/-- How often `DecreaseSnake(33)` is called. -/
def decreases (s : Snake F) : MassOp F → ℕ
  | move _ => if s.acceleration ∧ 3 < s.parts.length then 1 else 0
  | _ => 0

/-- The operations in 16 bits have the results they have without a bound. -/
def NoWrap (s : Snake F) : MassOp F → Prop
  | eat f => (s.fullness + f.size) % 65536 = s.fullness + f.size
  | accelerate _ => True
  | move _ => s.acceleration = true → 3 < s.parts.length →
      (33 > s.fullness → (1 + (33 - s.fullness) / 100) % 65536 = 1 + (33 - s.fullness) / 100) ∧
        (33 - s.fullness) % 100 ≤ 100

private theorem perform_mass (m : Libm F) (st : Snake F × SectorSeq) (op : MassOp F)
    (hs : st.1.fullness ≤ 99) (hop : op.gain ≤ 100) :
    (op.perform m st).1.fullness ≤ 99 ∧
      (op.perform m st).1.mass + 33 * op.decreases st.1 = st.1.mass + op.gain := by
  cases op with
  | eat f => exact st.1.increaseSnake_mass hs hop
  | accelerate on => exact ⟨hs, rfl⟩
  | move dist =>
      obtain ⟨hmove, hlen⟩ := st.1.moveBody_mass m dist st.2
      obtain ⟨hfull, hmass⟩ :=
        (st.1.moveBody m dist st.2).1.updateAcceleration_mass (st.1.moveBody m dist st.2).2 hs
      refine ⟨hfull, ?_⟩
      rw [hmove, hlen] at hmass
      exact hmass

private theorem noWrap_of_le (s : Snake F) (op : MassOp F) (hs : s.fullness ≤ 99)
    (hop : op.gain ≤ 100) :
    op.NoWrap s := by
  cases op with
  | eat f => exact Nat.mod_eq_of_lt (by simp only [gain] at hop; omega)
  | accelerate on => trivial
  | move dist => exact fun _ _ => ⟨fun _ => Nat.mod_eq_of_lt (by omega), by omega⟩

/-- The sums over a run of what is eaten and of the calls of `DecreaseSnake`. -/
def totals (m : Libm F) (st : Snake F × SectorSeq) : List (MassOp F) → ℕ × ℕ
  | [] => (0, 0)
  | op :: ops =>
      let (eaten, calls) := totals m (op.perform m st) ops
      (op.gain + eaten, op.decreases st.1 + calls)

private theorem run_mass (m : Libm F) (ops : List (MassOp F)) (st : Snake F × SectorSeq)
    (hs : st.1.fullness ≤ 99) (hops : ∀ op ∈ ops, op.gain ≤ 100) :
    (ops.foldl (perform m) st).1.fullness ≤ 99 ∧
      (ops.foldl (perform m) st).1.mass + 33 * (totals m st ops).2 = st.1.mass + (totals m st ops).1 := by
  induction ops generalizing st with
  | nil => exact ⟨hs, rfl⟩
  | cons op ops ih =>
      obtain ⟨hop, hrest⟩ := List.forall_mem_cons.mp hops
      obtain ⟨hfull, hmass⟩ := perform_mass m st op hs hop
      obtain ⟨hlast, htotal⟩ := ih _ hfull hrest
      refine ⟨hlast, ?_⟩
      simp only [List.foldl_cons, totals] at htotal ⊢
      omega

end MassOp

namespace World

private theorem createSnake_fullness (m : Libm F) (w : World F) :
    Post (w.createSnake m) (fun r => r.1.fullness = 0) (fun _ => True) :=
  (createSnake_post m w).mono
    (by rintro _ ⟨skin, x, y, angle, body, rng, rfl⟩; rfl) fun _ _ => trivial

/-- Whatever a new snake eats and however it accelerates, its mass is what it had, plus what it ate,
less 33 for every loss. -/
theorem mass_conserved (m : Libm F) {w w' : World F} {s : Snake F}
    (hcreate : w.createSnake m = .ok (s, w')) (ss : SectorSeq) (ops : List (MassOp F))
    (hops : ∀ op ∈ ops, op.gain ≤ 100) :
    let t := (ops.foldl (MassOp.perform m) (s, ss)).1
    3 ≤ t.parts.length ∧ t.fullness ≤ 99 ∧
      100 * t.parts.length + t.fullness + 33 * (MassOp.totals m (s, ss) ops).2 =
        100 * s.parts.length + s.fullness + (MassOp.totals m (s, ss) ops).1 ∧
      ∀ op : MassOp F, op.gain ≤ 100 → op.NoWrap t := by
  have hzero : s.fullness = 0 := (createSnake_fullness m w).of_ok hcreate
  obtain ⟨hfull, hmass⟩ := MassOp.run_mass m ops (s, ss) (by rw [hzero]; omega) hops
  exact ⟨Snake.size_parts _, hfull, hmass, fun op hop => op.noWrap_of_le _ hfull hop⟩

theorem mass_conserved_boost :
    ∃ (s : Snake ℚ) (w : World ℚ), (blank {} Rng.zero).createSnake Libm.axis = .ok (s, w) ∧
      let ops : List (MassOp ℚ) := [.accelerate true, .move 42, .eat ⟨0, 0, 100, 0⟩]
      let t := (ops.foldl (MassOp.perform Libm.axis) (s, w.sectors)).1
      3 ≤ t.parts.length ∧ t.fullness ≤ 99 ∧
        100 * t.parts.length + t.fullness + 33 * (MassOp.totals Libm.axis (s, w.sectors) ops).2 =
          100 * s.parts.length + s.fullness +
            (MassOp.totals Libm.axis (s, w.sectors) ops).1 ∧
        ∀ op : MassOp ℚ, op.gain ≤ 100 → op.NoWrap t := by
  obtain ⟨s, w, hcreate⟩ : ∃ (s : Snake ℚ) (w : World ℚ),
      (blank {} Rng.zero).createSnake Libm.axis = .ok (s, w) := ⟨_, _, rfl⟩
  refine ⟨s, w, hcreate, mass_conserved Libm.axis hcreate w.sectors _ fun op hop => ?_⟩
  simp only [List.mem_cons, List.not_mem_nil, or_false] at hop
  rcases hop with rfl | rfl | rfl <;> decide

end World

end Slither
