import Slither.Framework.CutWalk
import Slither.Game.Hull

/-!
# Laying out a new body

`CreateSnake` walks from the head to the tail in a straight line and cuts the position to 16 bits
after every step.  The lengths come from the configuration unchecked: an average length of zero is a
division by zero, and a long body leaves the map.
-/

set_option linter.unusedSectionVars false

namespace Slither

open Framework

variable {F : Type} [Field F] [LinearOrder F] [FloorRing F]

namespace Placing

/-- The next position, before it is cut. -/
def ahead (dx dy : F) (st : Placing F) (dist : F) : F × F :=
  ((st.x : F) + dx * dist, (st.y : F) + dy * dist)

/-- All positions on the way, before they are cut. -/
def trail (dx dy : F) : Placing F → List F → List (F × F)
  | _, [] => []
  | st, d :: ds => st.ahead dx dy d :: trail dx dy (st.step dx dy d) ds

end Placing

section Order

variable [IsStrictOrderedRing F]

namespace Placing

variable {dx dy : F} {ds : List F}

private theorem trail_onMap_walks (st : Placing F) :
    (∀ q ∈ trail dx dy st ds, OnMap q) ↔
      (∀ v ∈ cutWalk dx st.x ds, 0 ≤ v ∧ v < 43200) ∧
        ∀ v ∈ cutWalk dy st.y ds, 0 ≤ v ∧ v < 43200 := by
  induction ds generalizing st with
  | nil => simp [trail, cutWalk]
  | cons d ds ih =>
      have hx : (((st.x : ℤ)) : F) + dx * d = (st.ahead dx dy d).1 := by
        rw [Int.cast_natCast]
        rfl
      have hy : (((st.y : ℤ)) : F) + dy * d = (st.ahead dx dy d).2 := by
        rw [Int.cast_natCast]
        rfl
      rw [trail, cutWalk, cutWalk, List.forall_mem_cons, List.forall_mem_cons,
        List.forall_mem_cons, ih, hx, hy]
      by_cases hmap : OnMap (st.ahead dx dy d)
      · have hcutx : ((st.step dx dy d).x : ℤ) = ⌊(st.ahead dx dy d).1⌋ :=
          Math.toUint16_eq_floor hmap.x
        have hcuty : ((st.step dx dy d).y : ℤ) = ⌊(st.ahead dx dy d).2⌋ :=
          Math.toUint16_eq_floor hmap.y
        rw [hcutx, hcuty, and_iff_right hmap, and_iff_right hmap.x, and_iff_right hmap.y]
      · refine iff_of_false (fun h => hmap h.1) fun h => hmap ⟨h.1.1, h.2.1⟩

private theorem trail_onMap_iff (hds : ∀ d ∈ ds, 0 ≤ d) {st : Placing F} (hx : st.x < 43200)
    (hy : st.y < 43200) :
    (∀ q ∈ trail dx dy st ds, OnMap q) ↔
      (0 ≤ cutWalkEnd dx st.x ds ∧ cutWalkEnd dx st.x ds < 43200) ∧
        0 ≤ cutWalkEnd dy st.y ds ∧ cutWalkEnd dy st.y ds < 43200 := by
  have hwalk : ∀ (c : F) (x : ℕ), x < 43200 →
      ((∀ v ∈ cutWalk c x ds, 0 ≤ v ∧ v < 43200) ↔
        0 ≤ cutWalkEnd c x ds ∧ cutWalkEnd c x ds < 43200) := by
    intro c x hlt
    exact_mod_cast cutWalk_mem_iff hds 43200 (c := c) (x := x) ⟨by omega, by omega⟩
  rw [trail_onMap_walks, hwalk dx st.x hx, hwalk dy st.y hy]

private theorem parts_onMap {st : Placing F} (hparts : ∀ p ∈ st.parts, OnMap p.pt)
    (hx : st.x < 43200) (hy : st.y < 43200) (htrail : ∀ q ∈ trail dx dy st ds, OnMap q) :
    ∀ p ∈ (ds.foldl (Placing.step dx dy) st).parts, OnMap p.pt := by
  induction ds generalizing st with
  | nil => exact hparts
  | cons d ds ih =>
      obtain ⟨hnext, hrest⟩ := List.forall_mem_cons.mp htrail
      refine ih (fun p hp => ?_) (Snake.toUint16_bounds hnext.x).2.2
        (Snake.toUint16_bounds hnext.y).2.2 hrest
      rcases List.mem_append.mp hp with hp | hp
      · exact hparts p hp
      · rw [List.mem_singleton.mp hp]
        have hcast : ∀ n : ℕ, n < 43200 → 0 ≤ (n : F) ∧ (n : F) < 43200 := fun n hn =>
          ⟨Nat.cast_nonneg n, by exact_mod_cast hn⟩
        exact ⟨hcast _ hx, hcast _ hy⟩

end Placing

end Order

namespace World

/-- The draws of `CreateSnake` after the skin: direction, distance and length. -/
def drawnTurn (w : World F) : F := ((w.rng 1 : ℕ) : F) / (randMax : F)

def drawnAway (w : World F) : ℕ := w.rng 2 % 5000

def drawnLength (w : World F) : ℕ := w.rng 3 % w.config.snakeAverageLength

/-- The direction in which the head lies from the middle of the map. -/
def drawnAngle (m : Libm F) (w : World F) : F := Math.f2pi m * w.drawnTurn

/-- The position of the head before it is cut. -/
def drawnHead (m : Libm F) (w : World F) : F × F :=
  ((WorldConfig.gameRadius : F) + (1000 + (w.drawnAway : F)) * m.cosf (w.drawnAngle m),
    (WorldConfig.gameRadius : F) + (1000 + (w.drawnAway : F)) * m.sinf (w.drawnAngle m))

/-- The direction in which the body is laid out. -/
def layoutAngle (m : Libm F) (w : World F) : F := Math.normalizeAngle m (w.drawnAngle m + m.fPi)

/-- The number of parts. -/
def layoutLength (w : World F) : ℕ := 3 + max w.config.snakeMinLength w.drawnLength

/-- Every intermediate position of `CreateSnake` before it is cut. -/
def layout (m : Libm F) (w : World F) : List (F × F) :=
  w.drawnHead m ::
    Placing.trail (m.cosf (w.layoutAngle m)) (m.sinf (w.layoutAngle m))
      ⟨[], Math.toUint16 (w.drawnHead m).1, Math.toUint16 (w.drawnHead m).2⟩
      (placingSteps w.layoutLength)

private theorem createSnake_eq (m : Libm F) (w : World F) :
    w.createSnake m =
      if w.config.snakeAverageLength = 0 then .error .divByZero
      else
        let s := w.born m (9 + w.rng 0 % 13) w.drawnTurn w.drawnAway w.drawnLength
        .ok ((s.initBoxNewSectors w.sectors).1,
          { w with
            lastSnakeId := (w.lastSnakeId + 1) % 65536
            sectors := (s.initBoxNewSectors w.sectors).2, rng := w.rng.skip 4 }) := by
  unfold createSnake Rng.nextBase
  by_cases havg : w.config.snakeAverageLength = 0
  · simp only [havg, if_true]
    rfl
  · simp only [havg, if_false]
    rfl

/-- The creation of a snake: no remainder by zero, the number of parts, and everything on the
map. -/
structure CreationSafe (m : Libm F) (w : World F) : Prop where
  creates : ∃ s w', w.createSnake m = .ok (s, w') ∧ s.parts.length = w.layoutLength ∧
    ∀ p ∈ s.parts, OnMap p.pt
  onMap : ∀ q ∈ w.layout m, OnMap q

/-- Where the walk along an axis ends that starts at `x`, for a body of `len` parts. -/
def layoutEnd (c : F) (x len : ℕ) : ℤ :=
  x + (min len 7 : ℕ) * ⌊c * 42⌋ + (len - 7 : ℕ) * ⌊c * 24⌋

/-- The configuration and the draws are good for a snake: there is a length to draw, and the laying
out of the body ends on the map. -/
structure Admits (m : Libm F) (w : World F) : Prop where
  average : w.config.snakeAverageLength ≠ 0
  x : 0 ≤ layoutEnd (m.cosf (w.layoutAngle m)) (Math.toUint16 (w.drawnHead m).1) w.layoutLength ∧
    layoutEnd (m.cosf (w.layoutAngle m)) (Math.toUint16 (w.drawnHead m).1) w.layoutLength < 43200
  y : 0 ≤ layoutEnd (m.sinf (w.layoutAngle m)) (Math.toUint16 (w.drawnHead m).2) w.layoutLength ∧
    layoutEnd (m.sinf (w.layoutAngle m)) (Math.toUint16 (w.drawnHead m).2) w.layoutLength < 43200

variable [IsStrictOrderedRing F]

private theorem placingSteps_nonneg (len : ℕ) : ∀ d ∈ (placingSteps len : List F), 0 ≤ d := by
  intro d hd
  unfold placingSteps at hd
  rcases List.mem_append.mp hd with hd | hd
  · rw [List.eq_of_mem_replicate hd]
    exact Nat.cast_nonneg _
  · rw [List.eq_of_mem_replicate hd]
    norm_num [Snake.tailStepDistance]

private theorem cutWalkEnd_placingSteps (c : F) (x len : ℕ) :
    cutWalkEnd c x (placingSteps len) = layoutEnd c x len := by
  unfold cutWalkEnd placingSteps layoutEnd
  simp only [List.map_append, List.map_replicate, List.sum_append, List.sum_replicate,
    nsmul_eq_mul, Snake.partsSkipCount, Snake.partsStartMoveCount, WorldConfig.moveStepDistance,
    Snake.tailStepDistance, Nat.reduceAdd, Nat.cast_ofNat, add_assoc]

private theorem drawnHead_onMap {m : Libm F} (hm : m.Unit) (w : World F) : OnMap
    (w.drawnHead m) := by
  have haway : w.drawnAway < 5000 := Nat.mod_lt _ (by norm_num)
  obtain ⟨hx, hx'⟩ := startCoord_bounds haway (hm.abs_cosf_le (w.drawnAngle m))
  obtain ⟨hy, hy'⟩ := startCoord_bounds haway (hm.abs_sinf_le (w.drawnAngle m))
  have hlo : (0 : F) ≤ 15601 := by norm_num
  have hhi : (27599 : F) < 43200 := by norm_num
  exact ⟨⟨hlo.trans hx, hx'.trans_lt hhi⟩, hlo.trans hy, hy'.trans_lt hhi⟩

private theorem layout_onMap_iff {m : Libm F} (hm : m.Unit) {w : World F}
    (havg : w.config.snakeAverageLength ≠ 0) :
    (∀ q ∈ w.layout m, OnMap q) ↔ w.Admits m := by
  have hhead := drawnHead_onMap hm w
  unfold layout
  rw [List.forall_mem_cons, and_iff_right hhead,
    Placing.trail_onMap_iff (placingSteps_nonneg _) (Snake.toUint16_bounds hhead.x).2.2
      (Snake.toUint16_bounds hhead.y).2.2,
    cutWalkEnd_placingSteps, cutWalkEnd_placingSteps]
  exact ⟨fun h => ⟨havg, h.1, h.2⟩, fun h => ⟨h.x, h.y⟩⟩

private theorem creationSafe_iff {m : Libm F} (hm : m.Unit) (w : World F) :
    w.CreationSafe m ↔ w.Admits m := by
  by_cases havg : w.config.snakeAverageLength = 0
  · refine iff_of_false ?_ fun h => h.average havg
    rintro ⟨⟨s, w', hcreate, -⟩, -⟩
    rw [createSnake_eq, if_pos havg] at hcreate
    cases hcreate
  · rw [← layout_onMap_iff hm havg]
    refine ⟨fun h => h.onMap, fun hlayout => ⟨?_, hlayout⟩⟩
    have hcreate := w.createSnake_eq m
    rw [if_neg havg] at hcreate
    refine ⟨_, _, hcreate, length_placeParts _ _ _ _ _, ?_⟩
    have hhead := drawnHead_onMap hm w
    exact Placing.parts_onMap (fun p hp => absurd hp List.not_mem_nil)
      (Snake.toUint16_bounds hhead.x).2.2 (Snake.toUint16_bounds hhead.y).2.2
      (List.forall_mem_cons.mp hlayout).2

/-- Every snake that `Init` creates is created safely: each in the world that the ones before it have
left. -/
def InitSafe (m : Libm F) (config : WorldConfig) (rng : Rng) : Prop :=
  ∀ k < config.bots, ∃ w,
    (blank config rng).initFood.spawnNumSnakes m k = .ok w ∧ w.CreationSafe m

/-- The world `Init` creates its `k`-th snake in, as far as its draws go. -/
def afterSpawns (k : ℕ) (w : World F) : World F := { w with rng := w.rng.skip (4 * k) }

@[simp] theorem afterSpawns_config (k : ℕ) (w : World F) : (afterSpawns k w).config = w.config :=
  rfl

@[simp] theorem afterSpawns_rng (k : ℕ) (w : World F) :
    (afterSpawns k w).rng = w.rng.skip (4 * k) := rfl

private theorem admits_of_same {m : Libm F} {w w' : World F} (hconfig : w'.config = w.config)
    (hrng : w'.rng = w.rng) : w'.Admits m ↔ w.Admits m := by
  have hlength : w'.layoutLength = w.layoutLength := by
    unfold layoutLength drawnLength
    rw [hconfig, hrng]
  have hangle : w'.drawnAngle m = w.drawnAngle m := by
    unfold drawnAngle drawnTurn
    rw [hrng]
  have hhead : w'.drawnHead m = w.drawnHead m := by
    unfold drawnHead drawnAway
    rw [hangle, hrng]
  have hlayout : w'.layoutAngle m = w.layoutAngle m := by
    unfold layoutAngle
    rw [hangle]
  constructor
  · rintro ⟨havg, hx, hy⟩
    rw [hhead, hlayout, hlength] at hx hy
    exact ⟨hconfig ▸ havg, hx, hy⟩
  · rintro ⟨havg, hx, hy⟩
    rw [← hhead, ← hlayout, ← hlength] at hx hy
    exact ⟨hconfig.symm ▸ havg, hx, hy⟩

private theorem spawnBot_config (m : Libm F) (w : World F) :
    Post (w.spawnBot m) (fun w' => w'.config = w.config) (fun e => e = .divByZero) := by
  refine Post.bind (R := fun r => r.2.config = w.config) ?_ fun _ hr => by exact hr
  refine Post.bind (createSnake_post m w) ?_
  rintro r ⟨skin, x, y, angle, body, rng, rfl⟩
  rfl

theorem spawnNumSnakes_config (m : Libm F) (w : World F) (k : ℕ) :
    Post (w.spawnNumSnakes m k) (fun w' => w'.config = w.config)
      (fun e => e = .divByZero) :=
  Post.foldlM (fun _ (w' : World F) => w'.config = w.config)
    (fun _ _ w' hw' => (spawnBot_config m w').mono (fun _ h => h.trans hw') fun _ h => h) _ _ rfl

theorem spawnNumSnakes_ok (m : Libm F) {w : World F} (havg : w.config.snakeAverageLength ≠ 0)
    (k : ℕ) : ∃ w', w.spawnNumSnakes m k = .ok w' ∧ w'.config = w.config ∧
      w'.rng = w.rng.skip (4 * k) := by
  induction k with
  | zero => exact ⟨w, rfl, rfl, rfl⟩
  | succ k ih =>
      obtain ⟨w₁, hspawn, hconfig, hrng⟩ := ih
      have havg₁ : w₁.config.snakeAverageLength ≠ 0 := hconfig ▸ havg
      have hcreate := w₁.createSnake_eq m
      rw [if_neg havg₁] at hcreate
      have hbot : ∃ w₂, w₁.spawnBot m = .ok w₂ ∧ w₂.config = w₁.config ∧
          w₂.rng = w₁.rng.skip 4 := by
        unfold spawnBot create createSnakeBot
        rw [if_pos rfl, hcreate]
        exact ⟨_, rfl, rfl, rfl⟩
      obtain ⟨w₂, hlast, hconfig₂, hrng₂⟩ := hbot
      refine ⟨w₂, ?_, hconfig₂.trans hconfig, ?_⟩
      · unfold spawnNumSnakes at hspawn ⊢
        rw [List.range_succ, List.foldlM_append, hspawn]
        show (w₁.spawnBot m >>= fun w => pure w) = _
        rw [hlast]
        rfl
      · rw [hrng₂, hrng]
        funext n
        show w.rng (n + 4 + 4 * k) = w.rng (n + 4 * (k + 1))
        congr 1
        omega

private theorem admits_of_short {m : Libm F} (hm : m.Unit) {w : World F}
    (havg : w.config.snakeAverageLength ≠ 0) (hlen : w.layoutLength ≤ 644) : w.Admits m := by
  have hend : ∀ (c : F) (x : ℕ), |c| ≤ 1 → 15601 ≤ x → x ≤ 27599 →
      0 ≤ layoutEnd c x w.layoutLength ∧ layoutEnd c x w.layoutLength < 43200 := by
    intro c x hc hlo hhi
    obtain ⟨hneg, hpos⟩ := abs_le.mp hc
    have h42 : -42 ≤ ⌊c * 42⌋ ∧ ⌊c * 42⌋ ≤ 42 :=
      ⟨Int.le_floor.mpr (by push_cast; linarith), Int.floor_le_iff.mpr (by push_cast; linarith)⟩
    have h24 : -24 ≤ ⌊c * 24⌋ ∧ ⌊c * 24⌋ ≤ 24 :=
      ⟨Int.le_floor.mpr (by push_cast; linarith), Int.floor_le_iff.mpr (by push_cast; linarith)⟩
    unfold layoutEnd
    have hfirst : ((min w.layoutLength 7 : ℕ) : ℤ) ≤ 7 := by
      exact_mod_cast min_le_right _ _
    have hrest : ((w.layoutLength - 7 : ℕ) : ℤ) ≤ 637 := by
      exact_mod_cast Nat.sub_le_sub_right hlen 7
    constructor <;> nlinarith
  have hcut : ∀ v : F, 15601 ≤ v ∧ v ≤ 27599 →
      15601 ≤ Math.toUint16 v ∧ Math.toUint16 v ≤ 27599 := by
    intro v hv
    have hfloor := Math.toUint16_eq_floor (v := v) ⟨by linarith, by linarith⟩
    have hlo : 15601 ≤ ⌊v⌋ := Int.le_floor.mpr (by exact_mod_cast hv.1)
    have hhi : ⌊v⌋ ≤ 27599 := Int.floor_le_iff.mpr (by push_cast; linarith)
    omega
  have haway : w.drawnAway < 5000 := Nat.mod_lt _ (by norm_num)
  obtain ⟨hx, hx'⟩ := hcut _ (startCoord_bounds haway (hm.abs_cosf_le (w.drawnAngle m)))
  obtain ⟨hy, hy'⟩ := hcut _ (startCoord_bounds haway (hm.abs_sinf_le (w.drawnAngle m)))
  exact ⟨havg, hend _ _ (hm.abs_cosf_le _) hx hx', hend _ _ (hm.abs_sinf_le _) hy hy'⟩

/-- A creation is safe exactly if there is a length to draw and the laying out of the body ends on
the map, and so is every creation of `Init`.  Up to 644 parts always end there. -/
theorem creation_safe_iff {m : Libm F} (hm : m.Unit) :
    (∀ w : World F, w.CreationSafe m ↔ w.Admits m) ∧
      (∀ (config : WorldConfig) (rng : Rng), InitSafe m config rng ↔
        ∀ k < config.bots, (afterSpawns k (blank config rng).initFood : World F).Admits m) ∧
      ∀ w : World F, w.config.snakeAverageLength ≠ 0 → w.layoutLength ≤ 644 →
        w.CreationSafe m := by
  refine ⟨creationSafe_iff hm, fun config rng => forall₂_congr fun k hk => ?_, fun w havg hlen =>
    (creationSafe_iff hm w).mpr (admits_of_short hm havg hlen)⟩
  have hconfig : ((blank config rng).initFood : World F).config = config := rfl
  by_cases havg : config.snakeAverageLength = 0
  · refine iff_of_false ?_ fun h => h.average havg
    rintro ⟨w, hspawn, hsafe⟩
    have hcfg : w.config = config :=
      ((spawnNumSnakes_config m _ k).of_ok hspawn).trans hconfig
    exact ((creationSafe_iff hm w).mp hsafe).average (hcfg ▸ havg)
  · obtain ⟨w, hspawn, hcfg, hrng⟩ := spawnNumSnakes_ok m (w := (blank config rng).initFood)
      (by rwa [hconfig]) k
    have hsame : w.Admits m ↔ (afterSpawns k (blank config rng).initFood).Admits m :=
      admits_of_same (by rw [afterSpawns_config, hcfg]) (by rw [afterSpawns_rng, hrng])
    rw [← hsame, ← creationSafe_iff hm]
    constructor
    · rintro ⟨w', hspawn', hsafe⟩
      cases hspawn.symm.trans hspawn'
      exact hsafe
    · exact fun hsafe => ⟨w, hspawn, hsafe⟩

/-- The defaults of the configuration are good. -/
theorem creation_safe_blank : (blank {} Rng.zero : World ℚ).CreationSafe Libm.axis :=
  ((creation_safe_iff Libm.axis_unit).1 _).mpr
    ⟨by decide, by decide +kernel, by decide +kernel⟩

/-- `ParseCommandLine` takes any 16-bit lengths.  An average length of zero is a division by zero, and
a minimal length of 65535 leads the body off the map. -/
theorem creation_unsafe :
    (∃ e, (blank { snakeAverageLength := 0 } Rng.zero : World ℚ).createSnake Libm.axis = .error e) ∧
      (∃ q ∈ (blank { snakeMinLength := 65535 } Rng.zero : World ℚ).layout Libm.axis, ¬ OnMap q) ∧
        ¬ ∀ (config : WorldConfig) (rng : Rng) (m : Libm ℚ), m.Unit →
          config.snakeAverageLength < 65536 → config.snakeMinLength < 65536 →
            (blank config rng).CreationSafe m := by
  have hzero : (blank { snakeAverageLength := 0 } Rng.zero : World ℚ).createSnake Libm.axis =
      .error .divByZero := by
    rw [createSnake_eq]
    rfl
  refine ⟨⟨_, hzero⟩, ?_, fun h => ?_⟩
  · have hnot : ¬ (blank { snakeMinLength := 65535 } Rng.zero : World ℚ).Admits Libm.axis := by
      intro h
      have hx := h.x
      revert hx
      decide +kernel
    rw [← layout_onMap_iff Libm.axis_unit (by decide)] at hnot
    push Not at hnot
    exact hnot
  · obtain ⟨⟨s, w', hcreate, -⟩, -⟩ :=
      h { snakeAverageLength := 0 } Rng.zero Libm.axis Libm.axis_unit (by decide) (by decide)
    rw [hzero] at hcreate
    cases hcreate

end World

end Slither
