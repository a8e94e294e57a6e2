import Slither.Game.Frame

/-!
# New snakes and new worlds

What a snake looks like when it has just been created, and what the world looks like when `Init`
has created the bots.
-/

set_option linter.unusedSectionVars false

namespace Slither

open Framework

variable {F : Type} [Field F] [LinearOrder F] [FloorRing F]

/-- Nothing has happened to the snake yet, and the clients are told its true length. -/
structure Snake.Fresh (s : Snake F) : Prop where
  update : s.update = ∅
  eaten : s.eaten = []
  spawn : s.spawn = []
  length : s.clientPartsIndex = s.parts.length

/-- A sector after `InitFood` when every draw is zero: its foods all lie in its corner. -/
def Sector.stocked (F : Type) [Field F] [LinearOrder F] [FloorRing F] (sec : Sector) : Sector :=
  { sec with
    food := List.replicate (World.foodDensity F sec)
      { x := sec.x * WorldConfig.sectorSize, y := sec.y * WorldConfig.sectorSize, size := 1
        color := 0 } }

/-- The grid after `InitFood` when every draw is zero. -/
def SectorSeq.stocked (F : Type) [Field F] [LinearOrder F] [FloorRing F] : SectorSeq where
  cell p := (SectorSeq.init.cell p).stocked F
  coords _ := ⟨rfl, rfl⟩

private theorem Sector.insert_replicate (sec : Sector) (n : ℕ) (f : Food) :
    { sec with food := List.replicate n f }.insert f =
      { sec with food := List.replicate (n + 1) f } := by
  have hfood : insertAtLowerBound (Sector.foodBefore f.x) f (List.replicate n f) =
      List.replicate (n + 1) f := List.perm_replicate.mp (insertAtLowerBound_perm _ f _)
  simp only [Sector.insert, hfood]

private theorem Sector.sort_replicate (sec : Sector) (n : ℕ) (f : Food) :
    { sec with food := List.replicate n f }.sort = { sec with food := List.replicate n f } := by
  have hfood : (List.replicate n f).insertionSort (fun a b => a.x ≤ b.x) = List.replicate n f :=
    List.perm_replicate.mp (List.perm_insertionSort _ _)
  simp only [Sector.sort, hfood]

namespace World

theorem create_fresh (m : Libm F) (bot : Bool) (w : World F) :
    Post (w.create m bot)
      (fun r => r.1.Fresh ∧ r.1.bot = bot ∧ r.2.snakes = w.snakes ∧ r.2.dead = w.dead ∧
        r.2.changes = w.changes)
      (fun e => e = .divByZero) := by
  have hplain := createSnake_post m w
  unfold create createSnakeBot
  cases bot with
  | true =>
      refine Post.bind hplain ?_
      rintro _ ⟨skin, x, y, angle, body, rng, rfl⟩
      exact ⟨⟨rfl, rfl, rfl, rfl⟩, rfl, rfl, rfl, rfl⟩
  | false =>
      refine hplain.mono ?_ fun _ h => h
      rintro _ ⟨skin, x, y, angle, body, rng, rfl⟩
      exact ⟨⟨rfl, rfl, rfl, rfl⟩, rfl, rfl, rfl, rfl⟩

private theorem initialFood_zero (sec : Sector) :
    initialFood sec Rng.zero =
      ({ x := sec.x * WorldConfig.sectorSize, y := sec.y * WorldConfig.sectorSize, size := 1
         color := 0 }, Rng.zero) := by
  have hdraw : ∀ base, Rng.zero.nextMod base = (0, Rng.zero) := by
    intro base
    have hzero : (Rng.zero 0 : ℕ) = 0 := Fin.val_zero _
    unfold Rng.nextMod Rng.next
    rw [hzero, Nat.zero_mod]
    exact congrArg (Prod.mk 0) (funext fun _ => rfl)
  simp only [initialFood, hdraw, Nat.add_zero]

private theorem initSectorFood_zero (ss : SectorSeq) (p : SectorPtr)
    (hp : ss.cell p = SectorSeq.init.cell p) :
    initSectorFood F (ss, Rng.zero) p = (ss.put p ((SectorSeq.init.cell p).stocked F), Rng.zero) := by
  let sec := SectorSeq.init.cell p
  let f : Food :=
    { x := sec.x * WorldConfig.sectorSize, y := sec.y * WorldConfig.sectorSize, size := 1
      color := 0 }
  have hfold : ∀ n : ℕ, (List.range n).foldl (fun (st : Sector × Rng) _ =>
      (st.1.insert (initialFood sec st.2).1, (initialFood sec st.2).2)) (sec, Rng.zero) =
        ({ sec with food := List.replicate n f }, Rng.zero) := by
    intro n
    induction n with
    | zero => rfl
    | succ n ih =>
        rw [List.range_succ, List.foldl_append, ih, List.foldl_cons, List.foldl_nil,
          initialFood_zero, Sector.insert_replicate sec n f]
  unfold initSectorFood
  dsimp only
  rw [hp, hfold]
  exact congrArg (fun s => (ss.put p s, Rng.zero)) (Sector.sort_replicate sec _ f)

theorem initFood_zero (config : WorldConfig) :
    (blank config Rng.zero : World F).initFood =
      { (blank config Rng.zero : World F) with sectors := SectorSeq.stocked F } := by
  have hall : ∀ q : SectorPtr, q ∈ List.finRange sectorLen := List.mem_finRange
  have hone : (List.finRange sectorLen).Nodup := List.nodup_finRange sectorLen
  unfold initFood
  generalize List.finRange sectorLen = ps at hall hone
  have hfill := foldl_inv (f := initSectorFood F)
    (fun rest (st : SectorSeq × Rng) => rest.Nodup ∧ st.2 = Rng.zero ∧ ∀ q, st.1.cell q =
      if q ∈ rest then SectorSeq.init.cell q else (SectorSeq.init.cell q).stocked F)
    ?_ ps (SectorSeq.init, Rng.zero) ⟨hone, rfl, fun q => by rw [if_pos (hall q)]⟩
  · obtain ⟨-, hrng, hcell⟩ := hfill
    have hsectors : (ps.foldl (initSectorFood F) (SectorSeq.init, Rng.zero)).1 =
        SectorSeq.stocked F := by
      ext1
      funext q
      rw [hcell, if_neg List.not_mem_nil]
      rfl
    simp only [blank, hsectors, hrng]
  · rintro p rest ⟨ss, rng⟩ ⟨hnodup, rfl, hcell⟩
    rw [List.nodup_cons] at hnodup
    have hp := hcell p
    rw [if_pos (List.mem_cons_self ..)] at hp
    rw [initSectorFood_zero ss p hp]
    refine ⟨hnodup.2, rfl, fun q => ?_⟩
    rw [SectorSeq.cell_put]
    by_cases hq : q = p
    · subst hq
      rw [if_pos rfl, if_neg hnodup.1, hp]
      rfl
    · rw [if_neg hq, hcell]
      simp [hq]

/-- `Init` spawns the bots one after the other. -/
theorem init_rule {m : Libm F} {config : WorldConfig} {rng : Rng} {I : World F → Prop}
    {Q : Fault → Prop} (hblank : I (blank config rng).initFood)
    (hspawn : ∀ w, I w → Post (w.spawnBot m) I Q) : Post (World.init m config rng) I Q :=
  Post.foldlM (fun _ w => I w) (fun _ _ w hw => hspawn w hw) _ _ hblank

/-- A world just after `Init`. -/
structure Initial (w : World F) : Prop where
  fresh : ∀ s ∈ w.snakes, s.Fresh ∧ s.bot = true
  dead : w.dead = []
  changes : w.changes = []

theorem init_initial (m : Libm F) (config : WorldConfig) (rng : Rng) :
    Post (World.init m config rng) Initial (fun e => e = .divByZero) := by
  apply init_rule
  · exact ⟨fun s hs => absurd hs (List.not_mem_nil), rfl, rfl⟩
  · intro w hw
    unfold spawnBot
    apply Post.bind (create_fresh m true w)
    rintro ⟨s, w'⟩ ⟨hfresh, hbot, hsnakes, hdead, hchanges⟩
    refine ⟨fun t ht => ?_, hdead.trans hw.dead, hchanges.trans hw.changes⟩
    rw [addSnake, hsnakes] at ht
    rcases Keyed.mem_of_mem_insert ht with ht | rfl
    · exact hw.fresh t ht
    · exact ⟨hfresh, hbot⟩

end World

end Slither
