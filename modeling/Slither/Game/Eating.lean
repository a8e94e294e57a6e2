import Slither.Framework.Scan
import Slither.Game.Mass

/-!
# Eating

`UpdateEatenFood` splits the food of the head's sector at the head and eats its way to both sides,
until it meets food it does not reach.
-/

set_option linter.unusedSectionVars false

namespace Slither

open Framework

variable {F : Type} [Field F] [LinearOrder F] [FloorRing F]

namespace Snake

/-- The head, cut to integers. -/
def headCell (s : Snake F) : ℕ × ℕ := (Math.toUint16 s.getHeadX, Math.toUint16 s.getHeadY)

/-- The radius within which food is eaten. -/
def eatingRadius (s : Snake F) : ℕ :=
  Math.toUint16 (14 + s.getSnakeBodyPartRadius + (WorldConfig.moveStepDistance : F))

/-- The food lies within reach of the head. -/
def reaches (s : Snake F) (f : Food) : Bool :=
  decide (Math.distanceSquaredInt f.x f.y s.headCell.1 s.headCell.2 ≤
    (s.eatingRadius * s.eatingRadius : ℤ))

private theorem eaten_onFoodEaten (s : Snake F) (f : Food) : (s.onFoodEaten f).eaten = s.eaten ++
    [f] := by
  simp only [onFoodEaten, increaseSnake, updateSnakeConsts]
  split <;> rfl

private theorem eatLeft_spec (close : Food → Bool) (i : ℕ) (s : Snake F) (sec : Sector)
    (hi : i ≤ sec.food.length) :
    let r := eatLeft close i s sec
    let left := sec.food.take i
    r.2.1.food = left.rdropWhile close ++ sec.food.drop i ∧
      r.2.2 = (left.rdropWhile close).length ∧
      r.1.eaten = s.eaten ++ (left.rtakeWhile close).reverse := by
  induction i generalizing s sec with
  | zero => simp [eatLeft, List.rdropWhile_nil, List.rtakeWhile_nil]
  | succ i ih =>
      have hget : sec.food[i]? = some sec.food[i] := List.getElem?_eq_getElem hi
      have htake : sec.food.take (i + 1) = sec.food.take i ++ [sec.food[i]] := by
        rw [List.take_append_getElem]
      simp only [eatLeft, hget]
      by_cases hclose : close sec.food[i] = true
      · rw [if_pos hclose]
        have hremove : (sec.remove i).food = sec.food.take i ++ sec.food.drop (i + 1) :=
          List.eraseIdx_eq_take_drop_succ sec.food i
        have hlen : (sec.food.take i).length = i := by
          rw [List.length_take]
          omega
        have hleft : (sec.remove i).food.take i = sec.food.take i := by
          rw [hremove, List.take_left' hlen]
        have hright : (sec.remove i).food.drop i = sec.food.drop (i + 1) := by
          rw [hremove, List.drop_left' hlen]
        obtain ⟨hfood, hcount, heaten⟩ := ih (s.onFoodEaten sec.food[i]) (sec.remove i) (by
          rw [hremove, List.length_append, hlen]
          omega)
        rw [hleft] at hfood hcount heaten
        rw [hright] at hfood
        rw [htake, List.rdropWhile_concat_pos _ _ _ hclose, List.rtakeWhile_concat_pos _ _ _ hclose]
        refine ⟨hfood, hcount, ?_⟩
        rw [heaten, eaten_onFoodEaten]
        simp
      · rw [if_neg hclose, htake, List.rdropWhile_concat_neg _ _ _ hclose,
          List.rtakeWhile_concat_neg _ _ _ hclose, ← htake]
        refine ⟨(List.take_append_drop _ _).symm, ?_, ?_⟩
        · rw [List.length_take]
          dsimp only
          omega
        · simp

private theorem eatRight_spec (close : Food → Bool) (i fuel : ℕ) (s : Snake F) (sec : Sector)
    (hfuel : fuel = sec.food.length - i) :
    let r := eatRight close i fuel s sec
    r.2.food = sec.food.take i ++ (sec.food.drop i).dropWhile close ∧
      r.1.eaten = s.eaten ++ (sec.food.drop i).takeWhile close := by
  induction fuel generalizing s sec with
  | zero =>
      have hnil : sec.food.drop i = [] := List.drop_eq_nil_of_le (by omega)
      have hall : sec.food.take i = sec.food := List.take_of_length_le (by omega)
      simp [eatRight, hnil, hall]
  | succ fuel ih =>
      have hi : i < sec.food.length := by omega
      have hget : sec.food[i]? = some sec.food[i] := List.getElem?_eq_getElem hi
      have hdrop : sec.food.drop i = sec.food[i] :: sec.food.drop (i + 1) :=
        List.drop_eq_getElem_cons hi
      simp only [eatRight, hget]
      by_cases hclose : close sec.food[i] = true
      · rw [if_pos hclose]
        have hremove : (sec.remove i).food = sec.food.take i ++ sec.food.drop (i + 1) :=
          List.eraseIdx_eq_take_drop_succ sec.food i
        have hlen : (sec.food.take i).length = i := by
          rw [List.length_take]
          omega
        have hleft : (sec.remove i).food.take i = sec.food.take i := by
          rw [hremove, List.take_left' hlen]
        have hright : (sec.remove i).food.drop i = sec.food.drop (i + 1) := by
          rw [hremove, List.drop_left' hlen]
        obtain ⟨hfood, heaten⟩ := ih (s.onFoodEaten sec.food[i]) (sec.remove i) (by
          rw [hremove, List.length_append, hlen, List.length_drop]
          omega)
        rw [hleft, hright] at hfood
        rw [hright] at heaten
        rw [hdrop, List.dropWhile_cons_of_pos hclose, List.takeWhile_cons_of_pos hclose]
        refine ⟨hfood, ?_⟩
        rw [heaten, eaten_onFoodEaten, List.append_assoc, List.singleton_append]
      · rw [if_neg hclose, hdrop, List.dropWhile_cons_of_neg hclose,
          List.takeWhile_cons_of_neg hclose, ← hdrop]
        exact ⟨(List.take_append_drop _ _).symm, (List.append_nil _).symm⟩

/-- The food left of the split point, and the food right of it. -/
def foodSides (s : Snake F) (sec : Sector) : List Food × List Food :=
  sec.food.splitAt (sec.findClosestFood s.headCell.1)

/-- Food between the split point and food within reach is within reach as well. -/
def ReachUnbroken (s : Snake F) (sec : Sector) : Prop :=
  ((s.foodSides sec).1.Pairwise fun f g => s.reaches f = true → s.reaches g = true) ∧
    (s.foodSides sec).2.Pairwise fun f g => s.reaches g = true → s.reaches f = true

/-- From a list of food to another one exactly the food within reach is gone, and eaten once. -/
def EatsExactly (s s' : Snake F) (food food' : List Food) : Prop :=
  food' = food.filter (fun f => !s.reaches f) ∧
    ∃ l, s'.eaten = s.eaten ++ l ∧ l.Perm (food.filter s.reaches)

private theorem foodSides_append (s : Snake F) (sec : Sector) :
    (s.foodSides sec).1 ++ (s.foodSides sec).2 = sec.food := by
  rw [foodSides, List.splitAt_eq]
  exact List.take_append_drop _ _

private theorem eatAround_spec (close : Food → Bool) (i : ℕ) (s : Snake F) (sec : Sector)
    (hi : i ≤ sec.food.length) :
    let l := eatLeft close i s sec
    let r := eatRight close l.2.2 (l.2.1.food.length - l.2.2) l.1 l.2.1
    r.2.food = (sec.food.take i).rdropWhile close ++ (sec.food.drop i).dropWhile close ∧
      r.1.eaten = s.eaten ++
        (((sec.food.take i).rtakeWhile close).reverse ++ (sec.food.drop i).takeWhile close) := by
  obtain ⟨hfood, hcount, heaten⟩ := eatLeft_spec close i s sec hi
  dsimp only at hfood hcount heaten ⊢
  generalize eatLeft close i s sec = l at hfood hcount heaten ⊢
  obtain ⟨hlast, hall⟩ := eatRight_spec close l.2.2 _ l.1 l.2.1 rfl
  rw [hlast, hall, hfood, hcount, heaten, List.take_left, List.drop_left, List.append_assoc]
  exact ⟨rfl, rfl⟩

private theorem updateEatenFood_spec (s : Snake F) (ss : SectorSeq) {p : SectorPtr}
    (hp : SectorSeq.getSector (s.headCell.1 / WorldConfig.sectorSize)
      (s.headCell.2 / WorldConfig.sectorSize) = .ok p) :
    ∃ s' ss', s.updateEatenFood ss = .ok (s', ss') ∧
      (ss'.cell p).food = (s.foodSides (ss.cell p)).1.rdropWhile s.reaches ++
        (s.foodSides (ss.cell p)).2.dropWhile s.reaches ∧
      s'.eaten = s.eaten ++ (((s.foodSides (ss.cell p)).1.rtakeWhile s.reaches).reverse ++
        (s.foodSides (ss.cell p)).2.takeWhile s.reaches) := by
  have hsplit : (ss.cell p).findClosestFood s.headCell.1 ≤ (ss.cell p).food.length :=
    lowerBound_le _ _
  have hspec := eatAround_spec s.reaches _ s (ss.cell p) hsplit
  rw [foodSides, List.splitAt_eq]
  generalize hl : eatLeft s.reaches ((ss.cell p).findClosestFood s.headCell.1) s (ss.cell p) = l
    at hspec
  refine ⟨(eatRight s.reaches l.2.2 (l.2.1.food.length - l.2.2) l.1 l.2.1).1,
    ss.put p (eatRight s.reaches l.2.2 (l.2.1.food.length - l.2.2) l.1 l.2.1).2, ?_, ?_, hspec.2⟩
  · unfold updateEatenFood
    simp only [headCell] at hp
    simp only [hp]
    rw [← hl]
    rfl
  · rw [SectorSeq.cell_put, if_pos rfl]
    exact hspec.1

private theorem getSector_headCell (s : Snake F) (hx : 0 ≤ s.getHeadX ∧ s.getHeadX < 43200)
    (hy : 0 ≤ s.getHeadY ∧ s.getHeadY < 43200) :
    ∃ p, SectorSeq.getSector (s.headCell.1 / WorldConfig.sectorSize)
      (s.headCell.2 / WorldConfig.sectorSize) = .ok p := by
  have hcoord : ∀ v : F, 0 ≤ v ∧ v < 43200 → Math.toUint16 v < 43200 := by
    rintro v ⟨hlo, hhi⟩
    have hfloor : ⌊v⌋ < 43200 := Int.floor_lt.mpr (by exact_mod_cast hhi)
    have hnonneg : 0 ≤ ⌊v⌋ := Int.floor_nonneg.mpr hlo
    rw [Math.toUint16, Math.trunc, if_pos hlo, Int.emod_eq_of_lt hnonneg (by omega)]
    omega
  have hcx := hcoord _ hx
  have hcy := hcoord _ hy
  refine ⟨_, dif_pos ?_⟩
  simp only [SectorSeq.getIndex, headCell, sectorLen, WorldConfig.sectorCountAlongEdge,
    WorldConfig.sectorSize]
  omega

/-- Eating takes exactly the food of the head's sector that is within reach, whatever the list is,
if and only if no food out of reach lies between some of it and the split point. -/
theorem eating_exact_iff (s : Snake F) (ss : SectorSeq)
    (hx : 0 ≤ s.getHeadX ∧ s.getHeadX < 43200) (hy : 0 ≤ s.getHeadY ∧ s.getHeadY < 43200) :
    ∃ p s' ss', SectorSeq.getSector (s.headCell.1 / WorldConfig.sectorSize)
        (s.headCell.2 / WorldConfig.sectorSize) = .ok p ∧
      s.updateEatenFood ss = .ok (s', ss') ∧
      (EatsExactly s s' (ss.cell p).food (ss'.cell p).food ↔ s.ReachUnbroken (ss.cell p)) := by
  obtain ⟨p, hp⟩ := s.getSector_headCell hx hy
  obtain ⟨s', ss', heat, hfood, heaten⟩ := s.updateEatenFood_spec ss hp
  refine ⟨p, s', ss', hp, heat, ?_⟩
  have hiff := scan_eq_filter_iff s.reaches (s.foodSides (ss.cell p)).1
    (s.foodSides (ss.cell p)).2
  unfold EatsExactly ReachUnbroken
  rw [← hiff, hfood, foodSides_append]
  refine and_iff_left_of_imp fun heq => ⟨_, heaten, ?_⟩
  rw [← s.foodSides_append (ss.cell p)] at heq ⊢
  exact scan_perm_filter heq

/-- A snake of three parts in the middle of the map. -/
def centred : Snake ℚ := Snake.newborn Libm.axis 1 9 21600 21600 0 0

/-- The head's sector with the given food. -/
def tableOf (food : List Food) : SectorSeq :=
  SectorSeq.init.modify middleSector fun sec => { sec with food := food }

/-- Food on both sides of the head, of which the outer pieces are out of reach. -/
def spread : List Food :=
  [⟨21310, 21700, 5, 1⟩, ⟨21560, 21600, 2, 2⟩, ⟨21590, 21640, 1, 3⟩, ⟨21610, 21600, 1, 4⟩,
    ⟨21640, 21630, 3, 5⟩, ⟨21650, 21800, 1, 6⟩, ⟨21800, 21600, 1, 7⟩]

theorem eating_exact_iff_spread :
    ∃ s' ss', centred.updateEatenFood (tableOf spread) = .ok (s', ss') ∧
      EatsExactly centred s' spread (ss'.cell middleSector).food ∧
      spread.countP centred.reaches = 4 := by
  obtain ⟨p, s', ss', hp, heat, hiff⟩ :=
    eating_exact_iff centred (tableOf spread) (by decide +kernel) (by decide +kernel)
  have hsector : SectorSeq.getSector (centred.headCell.1 / WorldConfig.sectorSize)
      (centred.headCell.2 / WorldConfig.sectorSize) = .ok middleSector := by
    decide +kernel
  rw [hsector] at hp
  cases hp
  have hunbroken : centred.ReachUnbroken ((tableOf spread).cell middleSector) := by
    unfold ReachUnbroken
    decide +kernel
  exact ⟨s', ss', heat, hiff.mpr hunbroken, by decide +kernel⟩

/-- Food out of reach hides food that is ten units away. -/
theorem food_hidden :
    ∃ p s' ss', SectorSeq.getSector (centred.headCell.1 / WorldConfig.sectorSize)
        (centred.headCell.2 / WorldConfig.sectorSize) = .ok p ∧
      centred.updateEatenFood (tableOf [⟨21605, 21800, 1, 0⟩, ⟨21610, 21600, 1, 0⟩]) =
        .ok (s', ss') ∧
      ¬ EatsExactly centred s'
        ((tableOf [⟨21605, 21800, 1, 0⟩, ⟨21610, 21600, 1, 0⟩]).cell p).food
        (ss'.cell p).food := by
  obtain ⟨p, hp⟩ := centred.getSector_headCell (by decide +kernel) (by decide +kernel)
  obtain ⟨s', ss', heat, hfood, -⟩ :=
    centred.updateEatenFood_spec (tableOf [⟨21605, 21800, 1, 0⟩, ⟨21610, 21600, 1, 0⟩]) hp
  refine ⟨p, s', ss', hp, heat, fun h => ?_⟩
  have hsector : SectorSeq.getSector (centred.headCell.1 / WorldConfig.sectorSize)
      (centred.headCell.2 / WorldConfig.sectorSize) = .ok middleSector := by
    decide +kernel
  rw [hsector] at hp
  cases hp
  have hkept := hfood.symm.trans h.1
  have hfalse : ¬ (centred.foodSides ((tableOf [⟨21605, 21800, 1, 0⟩, ⟨21610, 21600, 1, 0⟩]).cell
      middleSector)).1.rdropWhile centred.reaches ++
        (centred.foodSides ((tableOf [⟨21605, 21800, 1, 0⟩, ⟨21610, 21600, 1, 0⟩]).cell
          middleSector)).2.dropWhile centred.reaches =
      ((tableOf [⟨21605, 21800, 1, 0⟩, ⟨21610, 21600, 1, 0⟩]).cell
        middleSector).food.filter fun f => !centred.reaches f := by
    decide +kernel
  exact hfalse hkept

end Snake

end Slither
