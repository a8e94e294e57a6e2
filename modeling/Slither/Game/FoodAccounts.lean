import Slither.Game.Creation
import Slither.Game.FoodStore
import Slither.Game.Registry

/-!
# The food of the world

The food in the sectors against the food announced so far and the food the snakes have still to
announce.  `InitFood` fills the sectors in order and in place.
-/

set_option linter.unusedSectionVars false

namespace Slither

open Framework Snake

variable {F : Type} [Field F] [LinearOrder F] [FloorRing F]

namespace Snake

def eatenFood (s : Snake F) : Multiset Food := s.eaten

def spawnedFood (s : Snake F) : Multiset Food := s.spawn

/-- Nothing waits to be announced about food. -/
def FoodClear (s : Snake F) : Prop := s.eaten = [] ∧ s.spawn = []

theorem Quiet.foodClear {s : Snake F} (h : s.Quiet) : s.FoodClear := ⟨h.eaten, h.spawn⟩

theorem FoodClear.shares {s : Snake F} (h : s.FoodClear) :
    s.eatenFood = 0 ∧ s.spawnedFood = 0 :=
  ⟨congrArg _ h.1, congrArg _ h.2⟩

end Snake

namespace World

/-- The food on the map and all food announced as eaten, with what the snakes have eaten since,
against the food placed, with what they have dropped since. -/
structure Accounts (eaten placed : Multiset Food) (w : World F) : Prop where
  sorted : w.sectors.Sorted
  clear : ∀ s ∈ w.snakes, s.update.changeDead = true → s.FoodClear
  balance : w.sectors.food + eaten + w.snakes.total Snake.eatenFood =
    placed + w.snakes.total Snake.spawnedFood

namespace Accounts

variable {eaten placed : Multiset Food} {w w' : World F} {s s' : Snake F}

theorem of_same (h : w.Accounts eaten placed) (hsectors : w.sectors.SameFood w'.sectors)
    (hsnakes : w'.snakes.entries.Perm w.snakes.entries) : w'.Accounts eaten placed where
  sorted p := by
    unfold Sector.Sorted
    rw [hsectors p]
    exact h.sorted p
  clear s hs := h.clear s (hsnakes.mem_iff.mp hs)
  balance := by
    have hfood : w'.sectors.food = w.sectors.food :=
      Finset.sum_congr rfl fun p _ => by rw [hsectors p]
    rw [hfood, Keyed.total_perm hsnakes, Keyed.total_perm hsnakes]
    exact h.balance

theorem start {ss : SectorSeq} (hfood : ss.SameFood w.sectors)
    (hclear : ∀ s ∈ w.snakes, s.FoodClear) (hsorted : ss.Sorted) : w.Accounts 0 ss.food where
  sorted p := by
    unfold Sector.Sorted
    rw [hfood p]
    exact hsorted p
  clear s hs _ := hclear s hs
  balance := by
    have hsame : w.sectors.food = ss.food := Finset.sum_congr rfl fun p _ => by rw [hfood p]
    rw [hsame, Keyed.total_eq_zero fun s hs => (hclear s hs).shares.1,
      Keyed.total_eq_zero fun s hs => (hclear s hs).shares.2, add_zero]

theorem feed (h : w.Accounts eaten placed) (s' : Snake F) (hs : s ∈ w.snakes) (hid : s'.id = s.id)
    (hclear : s'.update.changeDead = true → s'.FoodClear)
    (hsnakes : w'.snakes = w.snakes.replace s')
    (hfood : Balanced s w.sectors s' w'.sectors) : w'.Accounts eaten placed where
  sorted := hfood.sorted h.sorted
  clear t ht := by
    rw [hsnakes] at ht
    rcases Keyed.mem_replace.mp ht with ⟨ht, -⟩ | ⟨rfl, -⟩
    · exact h.clear t ht
    · exact hclear
  balance := by
    obtain ⟨e, d, he, hd, hmoved⟩ := hfood.balance
    have heaten : w'.snakes.total Snake.eatenFood = w.snakes.total Snake.eatenFood + (e : Multiset Food) := by
      have hrep := Keyed.total_replace hs hid Snake.eatenFood
      rw [← hsnakes, show s'.eatenFood = s.eatenFood + (e : Multiset Food) by
        rw [Snake.eatenFood, he, ← Multiset.coe_add]; rfl, add_comm s.eatenFood, ← add_assoc] at hrep
      exact add_right_cancel hrep
    have hspawn : w'.snakes.total Snake.spawnedFood =
        w.snakes.total Snake.spawnedFood + (d : Multiset Food) := by
      have hrep := Keyed.total_replace hs hid Snake.spawnedFood
      rw [← hsnakes, show s'.spawnedFood = s.spawnedFood + (d : Multiset Food) by
        rw [Snake.spawnedFood, hd, ← Multiset.coe_add]; rfl, add_comm s.spawnedFood,
        ← add_assoc] at hrep
      exact add_right_cancel hrep
    calc w'.sectors.food + eaten + w'.snakes.total Snake.eatenFood
        = (w'.sectors.food + (e : Multiset Food)) + eaten + w.snakes.total Snake.eatenFood := by
          rw [heaten]; abel
      _ = (w.sectors.food + eaten + w.snakes.total Snake.eatenFood) + (d : Multiset Food) := by
          rw [hmoved]; abel
      _ = placed + w'.snakes.total Snake.spawnedFood := by
          rw [h.balance, hspawn]; abel

theorem announce {e d : Multiset Food} (h : w.Accounts eaten placed) (s' : Snake F) (hs : s ∈ w.snakes)
    (hid : s'.id = s.id) (hclear : s'.update.changeDead = true → s'.FoodClear)
    (hsnakes : w'.snakes = w.snakes.replace s') (hsectors : w'.sectors = w.sectors)
    (heaten : s.eatenFood = s'.eatenFood + e) (hspawn : s.spawnedFood = s'.spawnedFood + d) :
    w'.Accounts (eaten + e) (placed + d) where
  sorted := hsectors ▸ h.sorted
  clear t ht := by
    rw [hsnakes] at ht
    rcases Keyed.mem_replace.mp ht with ⟨ht, -⟩ | ⟨rfl, -⟩
    · exact h.clear t ht
    · exact hclear
  balance := by
    have he : w'.snakes.total Snake.eatenFood + e = w.snakes.total Snake.eatenFood := by
      have hrep := Keyed.total_replace hs hid Snake.eatenFood
      rw [← hsnakes, heaten, add_comm s'.eatenFood, ← add_assoc] at hrep
      exact add_right_cancel hrep
    have hd : w'.snakes.total Snake.spawnedFood + d = w.snakes.total Snake.spawnedFood := by
      have hrep := Keyed.total_replace hs hid Snake.spawnedFood
      rw [← hsnakes, hspawn, add_comm s'.spawnedFood, ← add_assoc] at hrep
      exact add_right_cancel hrep
    calc w'.sectors.food + (eaten + e) + w'.snakes.total Snake.eatenFood
        = w.sectors.food + eaten + w.snakes.total Snake.eatenFood := by
          rw [hsectors, ← he]; abel
      _ = placed + (w'.snakes.total Snake.spawnedFood + d) := by rw [h.balance, hd]
      _ = placed + d + w'.snakes.total Snake.spawnedFood := by abel

theorem add (h : w.Accounts eaten placed) (hs : s.FoodClear) :
    (w.addSnake s).Accounts eaten placed := by
  cases hget : w.snakes.find? s.id with
  | some t =>
      have hsame : w.snakes.insert s = w.snakes := by
        unfold Keyed.insert
        simp [hget]
      unfold addSnake
      rw [hsame]
      exact h
  | none =>
      refine ⟨h.sorted, fun t ht hdead => ?_, ?_⟩
      · rcases Keyed.mem_of_mem_insert ht with ht | rfl
        · exact h.clear t ht hdead
        · exact hs
      · show _ + (w.snakes.insert s).total _ = _ + (w.snakes.insert s).total _
        rw [Keyed.total_insert hget, Keyed.total_insert hget, hs.shares.1, hs.shares.2, add_zero,
          add_zero]
        exact h.balance

theorem remove (h : w.Accounts eaten placed) {id : SnakeId}
    (hclear : ∀ s ∈ w.snakes, s.id = id → s.FoodClear) : (w.removeSnake id).Accounts eaten placed := by
  unfold removeSnake
  dsimp only
  split
  · rename_i s hs
    have hsectors : w.sectors.SameFood (s.sbb.sectors.foldl
        (fun ss p => ss.modify p fun sec => sec.removeSnake id) w.sectors) :=
      foldl_inv (fun _ (ss : SectorSeq) => w.sectors.SameFood ss)
        (fun p _ ss hss => hss.trans (.modify ss p (fun sec => sec.removeSnake id) fun _ => rfl))
        _ _ fun _ => rfl
    refine of_same (w := { w with snakes := w.snakes.erase id })
      ⟨h.sorted, fun t ht => h.clear t (Keyed.mem_erase.mp ht).1, ?_⟩ hsectors (.refl _)
    show _ + (w.snakes.erase id).total _ = _ + (w.snakes.erase id).total _
    rw [Keyed.total_erase fun t ht hid => (hclear t ht hid).shares.1,
      Keyed.total_erase fun t ht hid => (hclear t ht hid).shares.2]
    exact h.balance
  · exact of_same h (fun _ => rfl) (.refl _)

private theorem tickAll (m : Libm F) (dt : ℕ) (h : w.Accounts eaten placed) :
    Post (w.tickAll m dt) (fun w' => w'.Accounts eaten placed) (fun _ => True) := by
  apply tickAll_rule fun _ (w' : World F) => w'.Accounts eaten placed
  · exact h
  · intro s rest w' hs _ hw'
    cases hdead : s.update.changeDead with
    | true =>
        have htick : s.tick m dt w'.sectors = .ok ⟨s, w'.sectors, false⟩ := by
          unfold Snake.tick
          rw [hdead, Bool.or_true, if_pos rfl]
          rfl
        rw [htick]
        exact hw'.feed s hs rfl (hw'.clear s hs) rfl (.of_same rfl rfl fun _ => rfl)
    | false =>
        refine ((tick_feeds m dt s w'.sectors).and (tick_ident m dt s w'.sectors)).mono
          (fun r ⟨hfeeds, hident⟩ => ?_) fun _ _ => trivial
        simp only [ident, Prod.mk.injEq] at hident
        refine hw'.feed _ hs hident.1 (fun hr => ?_) rfl hfeeds.toBalanced
        rw [hident.2.2.2, hdead] at hr
        cases hr

private theorem checkAll (h : w.Accounts eaten placed) :
    Post w.checkAll (fun w' => w'.Accounts eaten placed) (fun _ => True) := by
  refine Post.foldlM (fun _ (w' : World F) => w'.Accounts eaten placed) ?_ _ _ h
  intro id rest w' hw'
  refine (checkChanged_post w' id).mono ?_ fun _ _ => trivial
  rintro w'' (rfl | ⟨s, hget, -, rfl⟩)
  · exact hw'
  · have hs : s ∈ w'.snakes := Keyed.mem_of_find? hget
    refine hw'.feed s.markDying hs rfl (fun hdead => hw'.clear s hs ?_) rfl
      (.of_same rfl rfl fun _ => rfl)
    simpa [markDying] using hdead

/-- A tick of the world loses no food. -/
theorem tick (m : Libm F) (dt : ℕ) (h : w.Accounts eaten placed) :
    Post (w.tick m dt) (fun w' => w'.Accounts eaten placed) (fun _ => True) := by
  apply tick_rule
  · exact h.of_same (fun _ => rfl) (.refl _)
  · intro vfrTime
    have h' : ({ w with ticks := w.ticks + dt } : World F).Accounts eaten placed :=
      h.of_same (fun _ => rfl) (.refl _)
    apply Post.bind (h'.tickAll m vfrTime)
    intro w₁ h₁
    exact h₁.checkAll.mono (fun w₂ h₂ _ _ => h₂.of_same (fun _ => rfl) (.refl _)) fun _ h => h

end Accounts

private theorem initBoxNewSectors_sameFood (s : Snake F) (ss : SectorSeq) :
    ss.SameFood (s.initBoxNewSectors ss).2 := by
  unfold Snake.initBoxNewSectors
  dsimp only
  refine foldl_inv (fun _ (st : SnakeBoundBox F × SectorSeq) => ss.SameFood st.2)
    (fun i _ st h => h.trans (SnakeBoundBox.updateBoxNewSectors_sameFood _ _ _ _ _ _ _)) _ _ ?_
  exact SnakeBoundBox.updateBoxNewSectors_sameFood _ _ _ _ _ _ _

theorem create_sameFood (m : Libm F) (bot : Bool) (w : World F) :
    Post (w.create m bot) (fun r => w.sectors.SameFood r.2.sectors ∧ r.2.snakes = w.snakes)
      (fun e => e = .divByZero) := by
  have hplain : Post (w.createSnake m)
      (fun r => w.sectors.SameFood r.2.sectors ∧ r.2.snakes = w.snakes)
      (fun e => e = .divByZero) := by
    refine (createSnake_post m w).mono ?_ fun _ h => h
    rintro _ ⟨skin, x, y, angle, body, rng, rfl⟩
    exact ⟨initBoxNewSectors_sameFood _ _, rfl⟩
  unfold create
  split
  · exact Post.bind hplain fun r h => h
  · exact hplain

theorem init_sorted : SectorSeq.init.Sorted := fun _ => List.Pairwise.nil

theorem init_placed : SectorSeq.init.Placed := fun _ _ hf => absurd hf List.not_mem_nil

private theorem initSectorFood_stocks (st : SectorSeq × Rng) (p : SectorPtr) (hs : st.1.Sorted)
    (hp : st.1.Placed) :
    (initSectorFood F st p).1.Sorted ∧ (initSectorFood F st p).1.Placed := by
  have hround : ∀ f ∈ ((List.range (foodDensity F (st.1.cell p))).foldl
      (fun (r : Sector × Rng) _ => (r.1.insert (initialFood (st.1.cell p) r.2).1,
        (initialFood (st.1.cell p) r.2).2)) (st.1.cell p, st.2)).1.food,
      f.x / WorldConfig.sectorSize = (st.1.cell p).x ∧
        f.y / WorldConfig.sectorSize = (st.1.cell p).y := by
    refine foldl_inv (fun _ (r : Sector × Rng) => ∀ f ∈ r.1.food,
      f.x / WorldConfig.sectorSize = (st.1.cell p).x ∧
        f.y / WorldConfig.sectorSize = (st.1.cell p).y) ?_ _ _ (hp p)
    intro _ _ r hr f hf
    rcases List.mem_cons.mp ((Sector.insert_perm _ _).mem_iff.mp hf) with rfl | hf
    · have hx := Nat.mod_lt (r.2.next).1 (show 0 < WorldConfig.sectorSize by decide)
      have hy := Nat.mod_lt (r.2.next).2.next.1 (show 0 < WorldConfig.sectorSize by decide)
      simp only [initialFood, Rng.nextMod, WorldConfig.sectorSize] at hx hy ⊢
      constructor <;> omega
    · exact hr f hf
  unfold initSectorFood
  dsimp only
  refine ⟨SectorSeq.sorted_put hs p ?_, SectorSeq.placed_put hp p fun f hf => hround f ?_⟩
  · exact List.pairwise_insertionSort _ _
  · exact (List.perm_insertionSort _ _).mem_iff.mp hf

theorem initFood_stocks {w : World F} (h : w.sectors.Sorted ∧ w.sectors.Placed) :
    w.initFood.sectors.Sorted ∧ w.initFood.sectors.Placed := by
  have hall := foldl_inv (fun _ (st : SectorSeq × Rng) => st.1.Sorted ∧ st.1.Placed)
    (fun p _ st h => initSectorFood_stocks (F := F) st p h.1 h.2)
  unfold initFood
  generalize List.finRange sectorLen = ps
  exact hall ps (w.sectors, w.rng) h

theorem init_food (m : Libm F) (config : WorldConfig) (rng : Rng) :
    Post (World.init m config rng)
      (fun w => (blank config rng : World F).initFood.sectors.SameFood w.sectors ∧
        ∀ s ∈ w.snakes, s.Fresh)
      (fun e => e = .divByZero) := by
  have hfood : Post (World.init m config rng)
      (fun w => (blank config rng : World F).initFood.sectors.SameFood w.sectors)
      (fun e => e = .divByZero) := by
    apply init_rule
    · exact fun _ => rfl
    · intro w hw
      unfold spawnBot
      apply Post.bind (create_sameFood m true w)
      exact fun r hr => hw.trans hr.1
  exact ((init_initial m config rng).and hfood).mono
    (fun w h => ⟨h.2, fun s hs => (h.1.fresh s hs).1⟩) fun _ h => h.1

end World

end Slither
