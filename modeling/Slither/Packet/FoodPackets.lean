import Slither.Game.Constants
import Slither.Game.FoodAccounts
import Slither.Packet.Decoding

/-!
# Food on the wire

The size of a food goes out as five times itself in one byte, so the sizes the game chooses decide
whether a food comes back.
-/

set_option linter.unusedSectionVars false

namespace Slither

open Framework

variable {F : Type} [Field F] [LinearOrder F] [FloorRing F]

/-- The layout of `p_food.h`: the byte is `value`, and `value / 5 -> Size`. -/
def FoodCode.food (c : FoodCode) : Food where
  x := c.x
  y := c.y
  size := c.size / 5
  color := c.color

/-- The foods of a packet, after its header. -/
def readFoodPacket (packet : List UInt8) : Option (List Food) :=
  (Wire.readFoods (packet.drop 3)).map fun food => food.map FoodCode.food

namespace Food

/-- The members fit their types. -/
def Fits (f : Food) : Prop := f.x < 2 ^ 16 ∧ f.y < 2 ^ 16 ∧ f.size < 2 ^ 8 ∧ f.color < 2 ^ 8

private theorem wire_food_eq_iff {f : Food} (h : f.Fits) : f.wire.food = f ↔ f.size ≤ 51 := by
  obtain ⟨hx, hy, hsize, hcolor⟩ := h
  obtain ⟨x, y, size, color⟩ := f
  simp only [wire, FoodCode.food, Food.mk.injEq, Nat.mod_eq_of_lt hx, Nat.mod_eq_of_lt hy,
    Nat.mod_eq_of_lt hcolor, true_and, and_true] at hsize ⊢
  omega

end Food

/-- The foods come back from the packet of the list, and each from a packet of its own. -/
structure FoodRoundTrip (m : Libm F) (food : List Food) : Prop where
  set : ∀ t, readFoodPacket ((OutPacket.setFood food : OutPacket F).encode m t) = some food
  spawn : ∀ f ∈ food, ∀ t,
    readFoodPacket ((OutPacket.spawnFood f : OutPacket F).encode m t) = some [f]
  add : ∀ f ∈ food, ∀ t,
    readFoodPacket ((OutPacket.addFood f : OutPacket F).encode m t) = some [f]

private theorem readFoodPacket_write (header : List UInt8) (hlen : header.length = 3)
    (food : List Food) :
    readFoodPacket (header ++ food.flatMap writeFood) =
      some (food.map fun f => f.wire.food) := by
  rw [readFoodPacket, ← hlen, List.drop_left, Wire.readFoods_write, Option.map_some, List.map_map]
  rfl

private theorem foodRoundTrip_iff (m : Libm F) (food : List Food) :
    FoodRoundTrip m food ↔ ∀ f ∈ food, f.wire.food = f := by
  have hone : ∀ f : Food, writeFood f = [f].flatMap writeFood := fun f => by
    rw [List.flatMap_singleton]
  have hset : ∀ t, readFoodPacket ((OutPacket.setFood food : OutPacket F).encode m t) =
      some (food.map fun f => f.wire.food) := fun t => readFoodPacket_write _ rfl food
  constructor
  · intro h
    have hmap : (food.map fun f => f.wire.food) = food.map id := by
      rw [List.map_id]
      exact Option.some.inj ((hset 0).symm.trans (h.set 0))
    exact List.map_inj_left.mp hmap
  · intro h
    have hread : ∀ f ∈ food, ∀ header : List UInt8, header.length = 3 →
        readFoodPacket (header ++ writeFood f) = some [f] := by
      intro f hf header hlen
      rw [hone f, readFoodPacket_write header hlen [f], List.map_singleton, h f hf]
    have hmap : (food.map fun f => f.wire.food) = food :=
      (List.map_congr_left h).trans (List.map_id' food)
    exact ⟨fun t => by rw [hset, hmap], fun f hf t => hread f hf _ rfl,
      fun f hf t => hread f hf _ rfl⟩

/-- The foods the game creates, by the three functions that do. -/
inductive Created (F : Type) [Field F] [LinearOrder F] [FloorRing F] : Food → Prop
  | initFood {config : WorldConfig} {rng : Rng} {p : SectorPtr} {f : Food}
      (hf : f ∈ ((World.blank config rng : World F).initFood.sectors.cell p).food) : Created F f
  | decreaseSnake {s : Snake F} {ss : SectorSeq} {volume : ℕ} {spawn : List Food} {f : Food}
      (hskin : s.skin < 2 ^ 8) (h : (s.decreaseSnake ss volume).1.spawn = s.spawn ++ spawn)
      (hf : f ∈ spawn) : Created F f
  | onDeadFoodSpawn {s : Snake F} {ss : SectorSeq} {rng : Rng}
      {r : Snake F × SectorSeq × Rng} {spawn : List Food} {f : Food}
      (hsc : s.sc = Snake.partScale s.parts.length) (hrun : s.onDeadFoodSpawn ss rng = .ok r)
      (h : r.1.spawn = s.spawn ++ spawn) (hf : f ∈ spawn) : Created F f

section Producers

private theorem SectorSeq.coords_lt (ss : SectorSeq) (p : SectorPtr) :
    (ss.cell p).x < 144 ∧ (ss.cell p).y < 144 := by
  have hp : p.1 < 144 * 144 := p.2
  rw [(ss.coords p).1, (ss.coords p).2]
  simp only [WorldConfig.sectorCountAlongEdge]
  omega

private theorem World.initialFood_fits (sec : Sector) (rng : Rng) (hx : sec.x < 144)
    (hy : sec.y < 144) :
    (World.initialFood sec rng).1.Fits ∧ (World.initialFood sec rng).1.size ≤ 10 := by
  simp only [World.initialFood, Rng.nextMod, Food.Fits, WorldConfig.sectorSize]
  omega

private theorem World.initFood_fits (config : WorldConfig) (rng : Rng) (p : SectorPtr) :
    ∀ f ∈ ((World.blank config rng : World F).initFood.sectors.cell p).food,
      f.Fits ∧ f.size ≤ 10 := by
  have hsector : ∀ (st : SectorSeq × Rng) (p : SectorPtr),
      (∀ q, ∀ f ∈ (st.1.cell q).food, f.Fits ∧ f.size ≤ 10) →
      ∀ q, ∀ f ∈ ((initSectorFood F st p).1.cell q).food, f.Fits ∧ f.size ≤ 10 := by
    intro st p h q
    have hrounds := foldl_inv (f := fun (r : Sector × Rng) (_ : ℕ) =>
        (r.1.insert (initialFood (st.1.cell p) r.2).1, (initialFood (st.1.cell p) r.2).2))
      (fun _ r => ∀ f ∈ r.1.food, f.Fits ∧ f.size ≤ 10)
      (fun _ _ r hr f hf => by
        rcases List.mem_cons.mp ((Sector.insert_perm _ _).mem_iff.mp hf) with rfl | hf
        · exact initialFood_fits _ _ (st.1.coords_lt p).1 (st.1.coords_lt p).2
        · exact hr f hf)
      (List.range (foodDensity F (st.1.cell p))) (st.1.cell p, st.2) (h p)
    unfold initSectorFood
    dsimp only
    rw [SectorSeq.cell_put]
    split
    · intro f hf
      exact hrounds f ((List.perm_insertionSort _ _).mem_iff.mp hf)
    · exact h q
  have hall := foldl_inv (f := initSectorFood F)
    (fun _ (st : SectorSeq × Rng) => ∀ q, ∀ f ∈ (st.1.cell q).food, f.Fits ∧ f.size ≤ 10)
    (fun p _ st h => hsector st p h)
  unfold World.initFood
  generalize List.finRange sectorLen = ps
  exact hall ps _ (fun _ _ hf => absurd hf List.not_mem_nil) p

/-- What a snake drops is as large as a part, whatever the color. -/
def Food.Dropped (skin : ℕ) (f : Food) : Prop :=
  f.x < 2 ^ 16 ∧ f.y < 2 ^ 16 ∧ f.size = 100 ∧ f.color = skin

/-- A snake that has spawned `spawn` and nothing else, all of it from parts it has lost. -/
def Drops (s t : Snake F) : Prop :=
  t.skin = s.skin ∧ ∃ spawn, t.spawn = s.spawn ++ spawn ∧ ∀ f ∈ spawn, f.Dropped s.skin

namespace Snake

private theorem spawnFood_drops {s st : Snake F} (h : Drops s st) (ss : SectorSeq) {f : Food}
    (hf : f.Dropped s.skin) : Drops s (st.spawnFood ss f).1 := by
  obtain ⟨hskin, spawn, hspawn, hall⟩ := h
  unfold spawnFood
  dsimp only
  split
  · refine ⟨hskin, spawn ++ [f], ?_, ?_⟩
    · exact (congrArg (· ++ [f]) hspawn).trans (List.append_assoc _ _ _)
    · intro g hg
      rcases List.mem_append.mp hg with hg | hg
      · exact hall g hg
      · rw [List.mem_singleton.mp hg]
        exact hf
  · exact ⟨hskin, spawn, hspawn, hall⟩

private theorem dropPart_drops {s : Snake F} {st : Snake F × SectorSeq} (h : Drops s st.1) :
    Drops s (dropPart st).1 := by
  unfold dropPart
  split
  · exact spawnFood_drops h st.2 ⟨Math.toUint16_lt _, Math.toUint16_lt _, rfl, h.1⟩
  · exact h

private theorem decreaseSnake_drops (s : Snake F) (ss : SectorSeq) (volume : ℕ) :
    Drops s (s.decreaseSnake ss volume).1 := by
  have hnone : Drops s s := ⟨rfl, [], (List.append_nil _).symm, fun _ hf => nomatch hf⟩
  unfold decreaseSnake
  dsimp only [updateSnakeConsts]
  split
  · exact foldl_inv (fun _ (st : Snake F × SectorSeq) => Drops s st.1)
      (fun _ _ _ h => dropPart_drops h) _ (s, ss) hnone
  · exact hnone

variable [IsStrictOrderedRing F]

private theorem onDeadFoodSpawn_fits (s : Snake F) (ss : SectorSeq) (rng : Rng)
    (hsc : s.sc = partScale s.parts.length) :
    Post (s.onDeadFoodSpawn ss rng)
      (fun r => ∃ spawn, r.1.spawn = s.spawn ++ spawn ∧ ∀ f ∈ spawn, f.Fits ∧ f.size ≤ 50)
      (fun _ => True) := by
  -- a part turns into at least two foods, so none is larger than 50
  have hcount : 2 ≤ Math.toSize (s.sc * 2) :=
    (deadFoodCount_mem (by rw [hsc]; exact partScale_bounds _)).1
  let I (st : Snake F × SectorSeq × Rng) : Prop :=
    ∃ spawn, st.1.spawn = s.spawn ++ spawn ∧ ∀ f ∈ spawn, f.Fits ∧ f.size ≤ 50
  have hnone : I (s, ss, rng) := ⟨[], (List.append_nil _).symm, fun _ hf => nomatch hf⟩
  unfold onDeadFoodSpawn
  dsimp only
  apply Post.bind (R := fun size => size ≤ 50)
  · unfold divide
    split
    · trivial
    · exact Nat.div_le_of_le_mul (by omega)
  intro size hsize
  refine Post.foldlM (fun _ st => I st) (fun pt _ st hst => ?_) _ _ hnone
  split
  · refine Post.foldlM (fun _ st => I st) (fun _ _ st hst => ?_) _ _ hst
    obtain ⟨spawn, hspawn, hall⟩ := hst
    refine Post.bind (R := fun _ => True) (by unfold SectorSeq.getSector; split <;> trivial)
      fun p _ => ⟨spawn ++ [(s.deadFood (size % 256) pt st.2.2).1], ?_, ?_⟩
    · exact (congrArg (· ++ [_]) hspawn).trans (List.append_assoc _ _ _)
    · intro f hf
      rcases List.mem_append.mp hf with hf | hf
      · exact hall f hf
      · rw [List.mem_singleton.mp hf]
        simp only [deadFood, Food.Fits]
        exact ⟨⟨Math.toUint16_lt _, Math.toUint16_lt _, by omega, Math.toUint8_lt _⟩, by omega⟩
  · exact hst

end Snake

private theorem Created.fits [IsStrictOrderedRing F] {f : Food} (h : Created F f) : f.Fits := by
  cases h with
  | initFood hf => exact (World.initFood_fits (F := F) _ _ _ _ hf).1
  | @decreaseSnake s ss volume _ _ hskin h hf =>
      obtain ⟨-, spawn, hspawn, hall⟩ := s.decreaseSnake_drops ss volume
      rw [List.append_cancel_left (h.symm.trans hspawn)] at hf
      obtain ⟨hx, hy, hsize, hcolor⟩ := hall _ hf
      exact ⟨hx, hy, by omega, hcolor ▸ hskin⟩
  | onDeadFoodSpawn hsc hrun h hf =>
      obtain ⟨spawn, hspawn, hall⟩ := (Snake.onDeadFoodSpawn_fits _ _ _ hsc).of_ok hrun
      rw [List.append_cancel_left (h.symm.trans hspawn)] at hf
      exact (hall _ hf).1

end Producers

/-- The foods of the game come back from their packets exactly if none of them is larger than 51. -/
theorem food_returns_iff [IsStrictOrderedRing F] (m : Libm F) {food : List Food}
    (h : ∀ f ∈ food, Created F f) : FoodRoundTrip m food ↔ ∀ f ∈ food, f.size ≤ 51 := by
  rw [foodRoundTrip_iff]
  exact forall₂_congr fun f hf => Food.wire_food_eq_iff (h f hf).fits

/-- A snake of four parts, in the sectors around it. -/
def fourParts : Snake ℚ × SectorSeq :=
  (Snake.newborn Libm.axis 1 9 21600 21600 0 1).initBoxNewSectors SectorSeq.init

/-- The food of its last part. -/
def fourthPart : Food := ⟨21726, 21600, 100, 9⟩

private theorem fourParts_drops :
    (fourParts.1.decreaseSnake fourParts.2 33).1.spawn = fourParts.1.spawn ++ [fourthPart] := by
  decide +kernel

private theorem fourthPart_created : Created ℚ fourthPart :=
  .decreaseSnake (by decide) fourParts_drops List.mem_cons_self

theorem food_returns_iff_fourthPart :
    FoodRoundTrip Libm.axis [fourthPart] ↔ ∀ f ∈ [fourthPart], f.size ≤ 51 :=
  food_returns_iff Libm.axis fun _ hf => List.mem_singleton.mp hf ▸ fourthPart_created

/-- The part that `DecreaseSnake` takes off comes back as food of size 48. -/
theorem food_shrinks :
    Created ℚ fourthPart ∧
      readFoodPacket ((OutPacket.spawnFood fourthPart : OutPacket ℚ).encode Libm.axis 0) =
        some [{ fourthPart with size := 48 }] ∧
      ¬ FoodRoundTrip Libm.axis [fourthPart] := by
  refine ⟨fourthPart_created, by decide +kernel, ?_⟩
  rw [foodRoundTrip_iff]
  decide

end Slither
