import Slither.Game.Changes
import Slither.Game.Registration

/-!
# Food

The food of a sector is sorted by `x`.  A snake that eats or drops food writes the same food to a
list of its own, so what leaves the sectors and what enters them can be read off the snake.
-/

set_option linter.unusedSectionVars false

namespace Slither

open Framework

variable {F : Type} [Field F] [LinearOrder F] [FloorRing F]

private theorem sum_add_replaced {ι M : Type*} [Fintype ι] [DecidableEq ι] [AddCommMonoid M]
    {f g : ι → M} (p : ι) (h : ∀ q, q ≠ p → g q = f q) : ∑ q, g q + f p = ∑ q, f q + g p := by
  rw [← Finset.add_sum_erase _ _ (Finset.mem_univ p), ← Finset.add_sum_erase _ f (Finset.mem_univ p),
    Finset.sum_congr rfl fun q hq => h q (Finset.ne_of_mem_erase hq)]
  abel

namespace Sector

/-- The order `FindClosestFood` relies on. -/
def Sorted (sec : Sector) : Prop := sec.food.Pairwise fun a b => a.x ≤ b.x

theorem partitionedBy_foodBefore {food : List Food} (h : food.Pairwise fun a b => a.x ≤ b.x)
    (fx : ℕ) : PartitionedBy (foodBefore fx) food := by
  apply h.imp
  intro a b hab hb
  simp only [foodBefore, decide_eq_true_eq] at hb ⊢
  omega

theorem insert_perm (sec : Sector) (f : Food) : (sec.insert f).food.Perm (f :: sec.food) :=
  insertAtLowerBound_perm _ f sec.food

private theorem insert_sorted {sec : Sector} (h : sec.Sorted) (f : Food) :
    (sec.insert f).Sorted := by
  apply insertAtLowerBound_pairwise (partitionedBy_foodBefore h f.x) h
  · intro b _ hb
    exact (of_decide_eq_true hb).le
  · intro b _ hb
    exact not_lt.mp (of_decide_eq_false hb)

private theorem remove_perm {sec : Sector} {i : ℕ} {f : Food} (h : sec.food[i]? = some f) :
    sec.food.Perm (f :: (sec.remove i).food) := by
  obtain ⟨hi, rfl⟩ := List.getElem?_eq_some_iff.mp h
  exact (List.getElem_cons_eraseIdx_perm hi).symm

end Sector

namespace SectorSeq

/-- All the food on the map. -/
def food (ss : SectorSeq) : Multiset Food := ∑ p, ((ss.cell p).food : Multiset Food)

def Sorted (ss : SectorSeq) : Prop := ∀ p, (ss.cell p).Sorted

/-- Every food lies in the sector of its own coordinates. -/
def Placed (ss : SectorSeq) : Prop :=
  ∀ p, ∀ f ∈ (ss.cell p).food,
    f.x / WorldConfig.sectorSize = (ss.cell p).x ∧ f.y / WorldConfig.sectorSize = (ss.cell p).y

private theorem food_put (ss : SectorSeq) (p : SectorPtr) (sec : Sector) :
    (ss.put p sec).food + ((ss.cell p).food : Multiset Food) = ss.food + (sec.food : Multiset Food) := by
  have h := sum_add_replaced (f := fun q => ((ss.cell q).food : Multiset Food))
    (g := fun q => (((ss.put p sec).cell q).food : Multiset Food)) p fun q hq => by
      rw [cell_put, if_neg hq]
  simpa [food, cell_put] using h

private theorem food_insert (ss : SectorSeq) (p : SectorPtr) (f : Food) :
    (ss.modify p fun sec => sec.insert f).food = ss.food + {f} := by
  have hput := food_put ss p ((ss.cell p).insert f)
  have hperm : (((ss.cell p).insert f).food : Multiset Food) =
      {f} + ((ss.cell p).food : Multiset Food) :=
    Multiset.coe_eq_coe.mpr (Sector.insert_perm (ss.cell p) f)
  rw [hperm, ← add_assoc] at hput
  exact add_right_cancel hput

theorem sorted_put {ss : SectorSeq} (h : ss.Sorted) (p : SectorPtr) {sec : Sector}
    (hsec : sec.Sorted) : (ss.put p sec).Sorted := by
  intro q
  rw [cell_put]
  split
  · exact hsec
  · exact h q

theorem placed_put {ss : SectorSeq} (h : ss.Placed) (p : SectorPtr) {sec : Sector}
    (hsec : ∀ f ∈ sec.food, f.x / WorldConfig.sectorSize = (ss.cell p).x ∧
      f.y / WorldConfig.sectorSize = (ss.cell p).y) : (ss.put p sec).Placed := by
  intro q f hf
  rw [cell_put] at hf ⊢
  split at hf
  · rename_i hq
    rw [if_pos hq]
    exact hsec f hf
  · rename_i hq
    rw [if_neg hq]
    exact h q f hf

/-- The food of every sector is the same. -/
def SameFood (ss ss' : SectorSeq) : Prop := ∀ p, (ss'.cell p).food = (ss.cell p).food

theorem SameFood.modify (ss : SectorSeq) (p : SectorPtr) (f : Sector → Sector)
    (hf : ∀ sec, (f sec).food = sec.food) : ss.SameFood (ss.modify p f) := by
  intro q
  rw [food_modify]
  split
  · rename_i hq
    rw [hq, hf]
  · rfl

theorem SameFood.trans {ss₁ ss₂ ss₃ : SectorSeq} (h : ss₁.SameFood ss₂) (h' : ss₂.SameFood ss₃) :
    ss₁.SameFood ss₃ := fun p => (h' p).trans (h p)

end SectorSeq

/-- A snake and the sectors change together: what the snake has eaten has left the sectors, what it
has dropped has entered them, and the order is kept. -/
structure Balanced (s : Snake F) (ss : SectorSeq) (s' : Snake F) (ss' : SectorSeq) : Prop where
  balance : ∃ eaten spawn, s'.eaten = s.eaten ++ eaten ∧ s'.spawn = s.spawn ++ spawn ∧
    ss'.food + (eaten : Multiset Food) = ss.food + (spawn : Multiset Food)
  sorted : ss.Sorted → ss'.Sorted

/-- Besides, the food is in the right place afterwards. -/
structure Feeds (s : Snake F) (ss : SectorSeq) (s' : Snake F) (ss' : SectorSeq) : Prop
    extends Balanced s ss s' ss' where
  placed : ss.Placed → ss'.Placed

namespace Balanced

variable {s s' s'' : Snake F} {ss ss' ss'' : SectorSeq}

theorem of_same (heaten : s'.eaten = s.eaten) (hspawn : s'.spawn = s.spawn)
    (hfood : ss.SameFood ss') : Balanced s ss s' ss' where
  balance := by
    refine ⟨[], [], by simp [heaten], by simp [hspawn], ?_⟩
    have heq : ss'.food = ss.food := Finset.sum_congr rfl fun p _ => by rw [hfood p]
    rw [heq]
  sorted h p := by
    unfold Sector.Sorted
    rw [hfood p]
    exact h p

private theorem trans (h : Balanced s ss s' ss') (h' : Balanced s' ss' s'' ss'') :
    Balanced s ss s'' ss'' where
  balance := by
    obtain ⟨eaten, spawn, heaten, hspawn, hfood⟩ := h.balance
    obtain ⟨eaten', spawn', heaten', hspawn', hfood'⟩ := h'.balance
    refine ⟨eaten ++ eaten', spawn ++ spawn', by rw [heaten', heaten, List.append_assoc],
      by rw [hspawn', hspawn, List.append_assoc], ?_⟩
    calc ss''.food + ((eaten ++ eaten' : List Food) : Multiset Food)
        = (ss''.food + (eaten' : Multiset Food)) + (eaten : Multiset Food) := by
          rw [← Multiset.coe_add]; abel
      _ = (ss'.food + (eaten : Multiset Food)) + (spawn' : Multiset Food) := by rw [hfood']; abel
      _ = ss.food + ((spawn ++ spawn' : List Food) : Multiset Food) := by
          rw [hfood, ← Multiset.coe_add]; abel
  sorted hs := h'.sorted (h.sorted hs)

private theorem insert (s : Snake F) (ss : SectorSeq) (p : SectorPtr) (f : Food) :
    Balanced s ss { s with spawn := s.spawn ++ [f] } (ss.modify p fun sec => sec.insert f) where
  balance := by
    refine ⟨[], [f], (List.append_nil _).symm, rfl, ?_⟩
    rw [Multiset.coe_nil, add_zero, Multiset.coe_singleton]
    exact SectorSeq.food_insert ss p f
  sorted hs := SectorSeq.sorted_put hs p (Sector.insert_sorted (hs p) f)

end Balanced

namespace Feeds

variable {s s' s'' : Snake F} {ss ss' ss'' : SectorSeq}

private theorem of_same (heaten : s'.eaten = s.eaten) (hspawn : s'.spawn = s.spawn)
    (hfood : ss.SameFood ss') : Feeds s ss s' ss' where
  toBalanced := .of_same heaten hspawn hfood
  placed h p f hf := by
    rw [hfood p] at hf
    rw [(ss'.coords p).1, (ss'.coords p).2, ← (ss.coords p).1, ← (ss.coords p).2]
    exact h p f hf

private theorem refl (s : Snake F) (ss : SectorSeq) :
    Feeds s ss s ss := .of_same rfl rfl fun _ => rfl

private theorem trans (h : Feeds s ss s' ss') (h' : Feeds s' ss' s'' ss'') :
    Feeds s ss s'' ss'' where
  toBalanced := h.toBalanced.trans h'.toBalanced
  placed hs := h'.placed (h.placed hs)

end Feeds

namespace SectorSeq

private theorem placed_insert (ss : SectorSeq) (p : SectorPtr) (f : Food) :
    (ss.modify p fun sec => sec.insert f).Placed ↔ ss.Placed ∧
      f.x / WorldConfig.sectorSize = (ss.cell p).x ∧
      f.y / WorldConfig.sectorSize = (ss.cell p).y := by
  have hmem : ∀ q g, g ∈ ((ss.modify p fun sec => sec.insert f).cell q).food ↔
      g ∈ (ss.cell q).food ∨ q = p ∧ g = f := by
    intro q g
    rw [food_modify]
    split
    · rename_i hq
      subst hq
      rw [(Sector.insert_perm (ss.cell q) f).mem_iff, List.mem_cons]
      tauto
    · rename_i hq
      simp [hq]
  have hcoords : ∀ q, ((ss.modify p fun sec => sec.insert f).cell q).x = (ss.cell q).x ∧
      ((ss.modify p fun sec => sec.insert f).cell q).y = (ss.cell q).y := by
    intro q
    exact ⟨(coords _ q).1.trans (ss.coords q).1.symm, (coords _ q).2.trans (ss.coords q).2.symm⟩
  constructor
  · intro h
    refine ⟨fun q g hg => ?_, ?_⟩
    · rw [← (hcoords q).1, ← (hcoords q).2]
      exact h q g ((hmem q g).mpr (.inl hg))
    · rw [← (hcoords p).1, ← (hcoords p).2]
      exact h p f ((hmem p f).mpr (.inr ⟨rfl, rfl⟩))
  · rintro ⟨h, hf⟩ q g hg
    rw [(hcoords q).1, (hcoords q).2]
    rcases (hmem q g).mp hg with hg | ⟨rfl, rfl⟩
    · exact h q g hg
    · exact hf

end SectorSeq

namespace SnakeBoundBox

open SectorSeq

private theorem updateNewSector_sameFood (box : BoundBoxPos F) (st : SnakeBoundBox F × SectorSeq)
    (p : SectorPtr) : st.2.SameFood (updateNewSector box st p).2 := by
  unfold updateNewSector
  split
  · exact .modify _ _ (fun sec => sec.pushSnake st.1.id) fun _ => rfl
  · exact fun _ => rfl

theorem updateBoxNewSectors_sameFood (b : SnakeBoundBox F) (ss : SectorSeq)
    (bbR newX newY oldX oldY : F) :
    ss.SameFood (b.updateBoxNewSectors ss bbR newX newY oldX oldY).2 := by
  simp only [updateBoxNewSectors]
  split
  · exact fun _ => rfl
  · exact foldl_inv (fun _ (st : SnakeBoundBox F × SectorSeq) => ss.SameFood st.2)
      (fun p _ st h => h.trans (updateNewSector_sameFood _ st p)) _ (b, ss) fun _ => rfl

private theorem updateBoxOldSectors_sameFood (b : SnakeBoundBox F) (ss : SectorSeq) :
    ss.SameFood (b.updateBoxOldSectors ss).2 := by
  obtain ⟨dropped, -, -, hdrop⟩ := swapRemoveLoop_filter
    (fun p => (ss.cell p).intersect b.toBoundBoxPos)
    (fun ss p => ss.modify p fun sec => sec.removeSnake b.id) b.sectors ss
  show ss.SameFood (swapRemoveLoop _ _ _ _ _ _).2
  rw [hdrop]
  exact foldl_inv (fun _ (ss' : SectorSeq) => ss.SameFood ss')
    (fun p _ ss' h => h.trans (.modify ss' p (fun sec => sec.removeSnake b.id) fun _ => rfl)) _ ss fun _ => rfl

end SnakeBoundBox

/-- A part whose body turns into food: not in the outermost sectors. -/
def Body.inland (pt : Body F) : Bool :=
  let edge := WorldConfig.sectorCountAlongEdge
  let sx := Math.toUint16 (pt.x / (WorldConfig.sectorSize : F))
  let sy := Math.toUint16 (pt.y / (WorldConfig.sectorSize : F))
  decide (sx > 0 ∧ sx < edge - 1 ∧ sy > 0 ∧ sy < edge - 1)

namespace Snake

open SnakeBoundBox SectorSeq

private theorem moveTail_sameFood (st : MoveLoop F) (old : Body F) :
    st.ss.SameFood (moveTail st old).ss := by
  simp only [moveTail, MoveLoop.push]
  split
  · exact updateBoxNewSectors_sameFood _ _ _ _ _ _ _
  · exact fun _ => rfl

private theorem moveParts_sameFood (head newHead : Body F) (rest : List (Body F))
    (sbb : SnakeBoundBox F)
    (ss : SectorSeq) : ss.SameFood (moveParts head newHead rest sbb ss).ss := by
  apply foldl_inv (fun _ (st : MoveLoop F) => ss.SameFood st.ss)
    (fun old _ st h => h.trans (moveTail_sameFood st old))
  have hmid := fun xs (st : MoveLoop F) => (foldl_sbb_ss (f := moveIntermediate)
    (fun _ _ => rfl) xs st).2
  have hfirst := fun xs (st : MoveLoop F) => (foldl_sbb_ss (f := moveSkip) (fun _ _ => rfl) xs st).2
  dsimp only
  rw [hmid]
  dsimp only
  rw [hfirst]
  exact fun _ => rfl

private theorem moveBody_feeds (m : Libm F) (moveDist : F) (s : Snake F) (ss : SectorSeq) :
    Feeds s ss (s.moveBody m moveDist ss).1 (s.moveBody m moveDist ss).2 := by
  have hhead : ss.SameFood (s.enterHead ss (s.movedHead m moveDist)).2 :=
    updateBoxNewSectors_sameFood _ _ _ _ _ _ _
  have hloops := hhead.trans (moveParts_sameFood s.getHead (s.movedHead m moveDist)
    s.parts.tail (s.enterHead ss (s.movedHead m moveDist)).1 _)
  exact .of_same rfl rfl (hloops.trans (updateBoxOldSectors_sameFood _ _))

/-- What the snake has eaten is what has left the sector. -/
def Eats (s : Snake F) (sec : Sector) (s' : Snake F) (sec' : Sector) : Prop :=
  ∃ eaten, s'.eaten = s.eaten ++ eaten ∧ s'.spawn = s.spawn ∧
    sec.food.Perm (eaten ++ sec'.food) ∧ sec'.food.Sublist sec.food

private theorem Eats.refl (s : Snake F) (sec : Sector) : Eats s sec s sec :=
  ⟨[], (List.append_nil _).symm, rfl, .refl _, .refl _⟩

private theorem Eats.cons {s s' : Snake F} {sec sec' : Sector} {i : ℕ} {f : Food}
    (hf : sec.food[i]? = some f) (h : Eats (s.onFoodEaten f) (sec.remove i) s' sec') :
    Eats s sec s' sec' := by
  obtain ⟨eaten, heaten, hspawn, hperm, hsub⟩ := h
  have hfood : (s.onFoodEaten f).eaten = s.eaten ++ [f] ∧ (s.onFoodEaten f).spawn = s.spawn := by
    simp only [onFoodEaten, increaseSnake, updateSnakeConsts]
    split <;> exact ⟨rfl, rfl⟩
  refine ⟨f :: eaten, ?_, hspawn.trans hfood.2, ?_, hsub.trans (List.eraseIdx_sublist ..)⟩
  · rw [heaten, hfood.1, List.append_assoc]
    rfl
  · exact (Sector.remove_perm hf).trans (hperm.cons f)

private theorem eatLeft_eats (close : Food → Bool) (i : ℕ) (s : Snake F) (sec : Sector) :
    Eats s sec (eatLeft close i s sec).1 (eatLeft close i s sec).2.1 := by
  induction i generalizing s sec with
  | zero => exact .refl s sec
  | succ i ih =>
      rw [eatLeft]
      cases hf : sec.food[i]? with
      | none => exact .refl s sec
      | some f =>
          dsimp only
          split
          · exact (ih _ _).cons hf
          · exact .refl s sec

private theorem eatRight_eats (close : Food → Bool) (i fuel : ℕ) (s : Snake F) (sec : Sector) :
    Eats s sec (eatRight close i fuel s sec).1 (eatRight close i fuel s sec).2 := by
  induction fuel generalizing s sec with
  | zero => exact .refl s sec
  | succ fuel ih =>
      rw [eatRight]
      cases hf : sec.food[i]? with
      | none => exact .refl s sec
      | some f =>
          dsimp only
          split
          · exact (ih _ _).cons hf
          · exact .refl s sec

private theorem Eats.feeds {s s' : Snake F} {ss : SectorSeq} {p : SectorPtr} {sec : Sector}
    (h : Eats s (ss.cell p) s' sec) : Feeds s ss s' (ss.put p sec) := by
  obtain ⟨eaten, heaten, hspawn, hperm, hsub⟩ := h
  refine ⟨⟨⟨eaten, [], heaten, hspawn.trans (List.append_nil _).symm, ?_⟩, fun hs => ?_⟩, fun hp => ?_⟩
  · have hput := food_put ss p sec
    rw [Multiset.coe_eq_coe.mpr hperm, ← Multiset.coe_add, ← add_assoc] at hput
    rw [Multiset.coe_nil, add_zero]
    exact add_right_cancel hput
  · exact sorted_put hs p ((hs p).sublist hsub)
  · exact placed_put hp p fun f hf => hp p f (hsub.mem hf)

private theorem Eats.trans {s₁ s₂ s₃ : Snake F} {sec₁ sec₂ sec₃ : Sector} (h : Eats s₁ sec₁ s₂ sec₂)
    (h' : Eats s₂ sec₂ s₃ sec₃) : Eats s₁ sec₁ s₃ sec₃ := by
  obtain ⟨eaten, heaten, hspawn, hperm, hsub⟩ := h
  obtain ⟨eaten', heaten', hspawn', hperm', hsub'⟩ := h'
  refine ⟨eaten ++ eaten', by rw [heaten', heaten, List.append_assoc], hspawn'.trans hspawn, ?_,
    hsub'.trans hsub⟩
  rw [List.append_assoc]
  exact hperm.trans (hperm'.append_left eaten)

private theorem updateEatenFood_feeds (s : Snake F) (ss : SectorSeq) :
    Post (s.updateEatenFood ss) (fun r => Feeds s ss r.1 r.2) (fun e => e = .sectorIndex) := by
  refine (updateEatenFood_post s ss).mono ?_ fun _ h => h
  rintro r ⟨p, close, i₀, fuel, rfl⟩
  exact ((eatLeft_eats close i₀ s (ss.cell p)).trans (eatRight_eats close _ fuel _ _)).feeds

private theorem spawnFood_feeds (s : Snake F) (ss : SectorSeq) (f : Food) :
    Feeds s ss (s.spawnFood ss f).1 (s.spawnFood ss f).2 := by
  simp only [spawnFood]
  split
  · rename_i p hfind
    have hp := List.find?_some hfind
    rw [decide_eq_true_eq] at hp
    exact ⟨.insert s ss p f, fun h => (placed_insert ss p f).mpr ⟨h, hp.1.symm, hp.2.symm⟩⟩
  · exact .refl s ss

private theorem dropPart_feeds (st : Snake F × SectorSeq) :
    Feeds st.1 st.2 (dropPart st).1 (dropPart st).2 := by
  simp only [dropPart]
  split
  · exact (spawnFood_feeds _ _ _).trans (.of_same rfl rfl fun _ => rfl)
  · exact .refl _ _

private theorem decreaseSnake_feeds (s : Snake F) (ss : SectorSeq) (volume : ℕ) :
    Feeds s ss (s.decreaseSnake ss volume).1 (s.decreaseSnake ss volume).2 := by
  simp only [decreaseSnake, updateSnakeConsts]
  split
  · have hdrops := foldl_inv (fun _ (st : Snake F × SectorSeq) => Feeds s ss st.1 st.2)
      (fun _ _ st h => h.trans (dropPart_feeds st))
      (List.range ((1 + (volume - s.fullness) / 100) % 65536)) (s, ss) (.refl _ _)
    exact hdrops.trans (.of_same rfl rfl fun _ => rfl)
  · exact .of_same rfl rfl fun _ => rfl

private theorem updateAcceleration_feeds (s : Snake F) (ss : SectorSeq) :
    Feeds s ss (s.updateAcceleration ss).1 (s.updateAcceleration ss).2 := by
  simp only [updateAcceleration]
  split
  · split
    · exact .of_same rfl rfl fun _ => rfl
    · exact decreaseSnake_feeds s ss 33
  · exact .refl _ _

private theorem updateSpeed_feeds (framesTicks : ℕ) (s : Snake F) (ss : SectorSeq) :
    Feeds s ss (s.updateSpeed framesTicks).1 ss := by
  obtain ⟨speed, hspeed⟩ := s.updateSpeed_eq framesTicks
  rw [hspeed]
  exact .of_same rfl rfl fun _ => rfl

private theorem moveFrames_feeds (m : Libm F) (framesTicks : ℕ) (s : Snake F) (ss : SectorSeq) :
    Post (s.moveFrames m framesTicks ss) (fun r => Feeds s ss r.snake r.ss)
      (fun e => e = .sectorIndex) := by
  apply Post.bind (updateEatenFood_feeds _ _)
  intro t ht
  have hacc := updateAcceleration_feeds t.1 t.2
  have hspeed := updateSpeed_feeds framesTicks (t.1.updateAcceleration t.2).1
    (t.1.updateAcceleration t.2).2
  exact ((((moveBody_feeds m _ s ss).trans ht).trans hacc).trans hspeed).trans
    (.of_same rfl rfl fun _ => rfl)

private theorem tickMovement_feeds (m : Libm F) (dt : ℕ) (s : Snake F) (ss : SectorSeq) :
    Post (s.tickMovement m dt ss) (fun r => Feeds s ss r.snake r.ss)
      (fun e => e = .sectorIndex ∨ e = .divByZero) := by
  have hclock : Feeds s ss { s with movTicks := s.movTicks + dt } ss := .of_same rfl rfl fun _ => rfl
  apply tickMovement_rule
  · exact hclock
  · exact fun framesTicks => (moveFrames_feeds m framesTicks _ ss).mono
      (fun _ h => hclock.trans h) fun _ h => .inl h
  · exact .inr rfl

/-- A tick accounts for the food the snake eats and drops. -/
theorem tick_feeds (m : Libm F) (dt : ℕ) (s : Snake F) (ss : SectorSeq) :
    Post (s.tick m dt ss) (fun r => Feeds s ss r.snake r.ss)
      (fun e => e = .sectorIndex ∨ e = .divByZero) := by
  unfold tick
  split
  · exact .refl s ss
  have hbody := (body_tickRotation m dt (s.tickBot m dt)).trans (body_tickBot m dt s)
  simp only [body, Prod.mk.injEq] at hbody
  have hturn : Feeds s ss ((s.tickBot m dt).tickRotation m dt).1 ss :=
    .of_same hbody.2.2.2.1 hbody.2.2.2.2 fun _ => rfl
  have hadvance : Post (s.advance m dt ss) (fun a => Feeds s ss a.snake a.ss)
      (fun e => e = .sectorIndex ∨ e = .divByZero) := by
    apply advance_rule
    exact (tickMovement_feeds m dt _ ss).mono (fun _ h => hturn.trans h) fun _ h => h
  apply Post.bind hadvance
  intro a ha
  rw [post_pure]
  simp only [report]
  split
  · exact ha.trans (.of_same rfl rfl fun _ => rfl)
  · exact ha

/-- The draws for the `n` foods of one part, three for each. -/
def partDraws (n : ℕ) (pt : Body F) (rng : Rng) : List (Body F × Rng) :=
  (List.range n).map fun k => (pt, rng.skip (3 * k))

/-- The draws for the foods of all parts. -/
def bodyDraws (n : ℕ) : List (Body F) → Rng → List (Body F × Rng)
  | [], _ => []
  | pt :: rest, rng => partDraws n pt rng ++ bodyDraws n rest (rng.skip (3 * n))

/-- The food scattered around a part comes down in the part's sector. -/
def FallsHome (s : Snake F) (pt : Body F) (rng : Rng) : Prop :=
  let r := s.getSnakeBodyPartRadius
  let r2 : F := (Math.toUint16 (r * 3) : F)
  let fx : F := (rng 0 : ℕ) / (randMax : F)
  let fy : F := (rng 1 : ℕ) / (randMax : F)
  Math.toUint16 (pt.x + r - fx * r2) / WorldConfig.sectorSize =
      Math.toUint16 (pt.x / (WorldConfig.sectorSize : F)) ∧
    Math.toUint16 (pt.y + r - fy * r2) / WorldConfig.sectorSize =
      Math.toUint16 (pt.y / (WorldConfig.sectorSize : F))

/-- All the food of the dying snake comes down in the sector of the part it comes from. -/
def ScattersHome (s : Snake F) (rng : Rng) : Prop :=
  ∀ d ∈ bodyDraws (Math.toSize (s.sc * 2)) (s.parts.filter Body.inland) rng, s.FallsHome d.1 d.2

private theorem skip_succ (rng : Rng) (k : ℕ) : rng.skip (3 * (k + 1)) = (rng.skip 3).skip
    (3 * k) := by
  funext i
  exact congrArg rng (by omega)

private theorem partDraws_succ (n : ℕ) (pt : Body F) (rng : Rng) :
    partDraws (n + 1) pt rng = (pt, rng) :: partDraws n pt (rng.skip 3) := by
  simp only [partDraws, List.range_succ_eq_map, List.map_cons, List.map_map]
  exact congrArg _ (List.map_congr_left fun k _ => congrArg (Prod.mk pt) (skip_succ rng k))

/-- The state of the loops of `on_dead_food_spawn`: `draws` are still to be made, and the food is in
place in the end exactly if `home`. -/
structure Scattering (s : Snake F) (ss : SectorSeq) (home : Prop) (draws : List (Body F × Rng))
    (st : Snake F × SectorSeq × Rng) : Prop where
  snake : ∃ spawn, st.1 = { s with spawn := spawn }
  balanced : Balanced s ss st.1 st.2.1
  placed : (st.2.1.Placed ∧ ∀ d ∈ draws, s.FallsHome d.1 d.2) ↔ home

private theorem Scattering.fall {s : Snake F} {ss : SectorSeq} {home : Prop}
    {draws : List (Body F × Rng)}
    {st : Snake F × SectorSeq × Rng} {pt : Body F} {p : SectorPtr} (foodSize : ℕ)
    (h : Scattering s ss home ((pt, st.2.2) :: draws) st)
    (hx : (st.2.1.cell p).x = Math.toUint16 (pt.x / (WorldConfig.sectorSize : F)))
    (hy : (st.2.1.cell p).y = Math.toUint16 (pt.y / (WorldConfig.sectorSize : F))) :
    Scattering s ss home draws
      ({ st.1 with spawn := st.1.spawn ++ [(s.deadFood foodSize pt st.2.2).1] },
        st.2.1.modify p fun sec => sec.insert (s.deadFood foodSize pt st.2.2).1,
        (s.deadFood foodSize pt st.2.2).2) where
  snake := by
    obtain ⟨spawn, hspawn⟩ := h.snake
    exact ⟨_, by rw [hspawn]⟩
  balanced := h.balanced.trans (.insert _ _ _ _)
  placed := by
    rw [← h.placed, SectorSeq.placed_insert, hx, hy, List.forall_mem_cons, and_assoc]
    rfl

private theorem getSector_inland {pt : Body F} (h : pt.inland = true) (ss : SectorSeq) :
    Post (SectorSeq.getSector (Math.toUint16 (pt.x / (WorldConfig.sectorSize : F)))
        (Math.toUint16 (pt.y / (WorldConfig.sectorSize : F))))
      (fun p => (ss.cell p).x = Math.toUint16 (pt.x / (WorldConfig.sectorSize : F)) ∧
        (ss.cell p).y = Math.toUint16 (pt.y / (WorldConfig.sectorSize : F)))
      (fun e => e ≠ .endIterator) := by
  have hin := of_decide_eq_true h
  unfold SectorSeq.getSector
  split
  · rw [post_ok, (ss.coords _).1, (ss.coords _).2]
    simp only [SectorSeq.getIndex, WorldConfig.sectorCountAlongEdge] at hin ⊢
    omega
  · exact nofun

/-- A dying snake turns into food that it notes, and the food is in place exactly if it was and all
of the new food comes down in its part's sector. -/
theorem onDeadFoodSpawn_scatters (s : Snake F) (ss : SectorSeq) (rng : Rng) :
    Post (s.onDeadFoodSpawn ss rng)
      (fun r => (∃ spawn, r.1 = { s with spawn := spawn }) ∧ Balanced s ss r.1 r.2.1 ∧
        (r.2.1.Placed ↔ ss.Placed ∧ s.ScattersHome rng))
      (fun e => e ≠ .endIterator) := by
  unfold onDeadFoodSpawn
  apply Post.bind (R := fun _ => True)
  · unfold divide
    split
    · exact nofun
    · trivial
  intro foodSize _
  let n := Math.toSize (s.sc * 2)
  refine (Post.foldlM (fun rest (st : Snake F × SectorSeq × Rng) =>
    Scattering s ss (ss.Placed ∧ s.ScattersHome rng)
      (bodyDraws n (rest.filter Body.inland) st.2.2) st) ?_ _ _
    ⟨⟨s.spawn, rfl⟩, .of_same rfl rfl fun _ => rfl, Iff.rfl⟩).mono
    (fun r hr => ⟨hr.snake, hr.balanced, ?_⟩) fun _ h => h
  · intro pt rest st hst
    dsimp only
    split
    · rename_i hin
      have hinland : pt.inland = true := decide_eq_true hin
      rw [List.filter_cons_of_pos hinland] at hst
      -- the rounds of the inner loop still to come draw for the same part
      refine (Post.foldlM (fun rounds (st : Snake F × SectorSeq × Rng) =>
        Scattering s ss (ss.Placed ∧ s.ScattersHome rng)
          (partDraws rounds.length pt st.2.2 ++
            bodyDraws n (rest.filter Body.inland) (st.2.2.skip (3 * rounds.length))) st) ?_ _ _
        ?_).mono (fun r hr => hr) fun _ h => h
      · intro _ rounds st hst
        apply Post.bind (getSector_inland hinland st.2.1)
        rintro p ⟨hx, hy⟩
        rw [List.length_cons, partDraws_succ, skip_succ] at hst
        exact hst.fall (foodSize % 256) hx hy
      · rw [List.length_range]
        exact hst
    · rename_i hin
      have hedge : ¬ pt.inland = true := fun h => hin (of_decide_eq_true h)
      rw [List.filter_cons_of_neg hedge] at hst
      exact hst
  · rw [← hr.placed]
    simp [bodyDraws]

end Snake

end Slither
