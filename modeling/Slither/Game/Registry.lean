import Slither.Framework.Transition
import Slither.Game.Registration

/-!
# The registry of snakes

World-level agreement between the map of snakes and the sectors, and the ids that key both.  Ids
come from a 16-bit counter: up to 65535 snakes they are fresh, and the next one gets id zero.
-/

set_option linter.unusedSectionVars false

namespace Slither

open Framework SnakeBoundBox

variable {F : Type} [Field F] [LinearOrder F] [FloorRing F]

private theorem initBoxNewSectors_reregisters (s : Snake F) (ss : SectorSeq) :
    (s.initBoxNewSectors ss).1.id = s.id ∧
    Reregisters s.sbb ss (s.initBoxNewSectors ss).1.sbb (s.initBoxNewSectors ss).2 := by
  refine ⟨rfl, ?_⟩
  exact foldl_inv (fun _ (st : SnakeBoundBox F × SectorSeq) => Reregisters s.sbb ss st.1 st.2)
    (fun i _ st h => h.trans (updateBoxNewSectors_reregisters _ _ _ _ _ _ _)) _ _
    (updateBoxNewSectors_reregisters _ _ _ _ _ _ _)

namespace World

/-- The snakes and the sectors agree, and every listed snake is in the world. -/
structure Registered (w : World F) : Prop where
  boxId : ∀ s ∈ w.snakes, s.sbb.id = s.id
  consistent : ∀ s ∈ w.snakes, s.sbb.Consistent w.sectors
  live : ∀ p id, 0 < w.sectors.listings p id → ∃ s ∈ w.snakes, s.id = id

namespace Registered

variable {w : World F}

theorem of_eq {w' : World F} (h : w.Registered)
    (hsnakes : ∀ s, s ∈ w'.snakes ↔ s ∈ w.snakes) (hsectors : w'.sectors = w.sectors) :
    w'.Registered where
  boxId s hs := h.boxId s ((hsnakes s).mp hs)
  consistent s hs := hsectors ▸ h.consistent s ((hsnakes s).mp hs)
  live p id hp := by
    obtain ⟨s, hs, hid⟩ := h.live p id (hsectors ▸ hp)
    exact ⟨s, (hsnakes s).mpr hs, hid⟩

private theorem of_reorders {w' : World F} (h : w.Registered) (hr : Reorders w w') :
    w'.Registered := by
  obtain ⟨snakes, hperm, rfl⟩ := hr
  exact h.of_eq (fun s => hperm.mem_iff) rfl

theorem update {w' : World F} {s s' : Snake F} (h : w.Registered) (hs : s ∈ w.snakes)
    (hid : s'.id = s.id) (hreg : Reregisters s.sbb w.sectors s'.sbb w'.sectors)
    (hsnakes : w'.snakes = w.snakes.replace s') : w'.Registered := by
  have hbox : s'.sbb.id = s'.id := hreg.id_eq.trans ((h.boxId s hs).trans hid.symm)
  have hmem : ∀ t, t ∈ w'.snakes ↔ (t ∈ w.snakes ∧ t.id ≠ s'.id) ∨ t = s' := by
    intro t
    rw [hsnakes, Keyed.mem_replace]
    exact or_congr_right (and_iff_left ⟨s, hs, hid.symm⟩)
  have hothers : ∀ p j, j ≠ s'.id → w'.sectors.listings p j = w.sectors.listings p j := by
    intro p j hj
    refine hreg.others (h.consistent s hs) p j fun hj' => hj ?_
    rw [hj', h.boxId s hs, hid]
  refine ⟨fun t ht => ?_, fun t ht => ?_, fun p id hp => ?_⟩
  · rcases (hmem t).mp ht with ⟨ht, -⟩ | rfl
    · exact h.boxId t ht
    · exact hbox
  · rcases (hmem t).mp ht with ⟨ht, hne⟩ | rfl
    · have hc := h.consistent t ht
      refine ⟨hc.sorted, fun p => ?_⟩
      rw [hothers p _ (h.boxId t ht ▸ hne), hc.listed]
    · exact hreg.consistent (h.consistent s hs)
  · by_cases hj : id = s'.id
    · exact ⟨s', (hmem s').mpr (.inr rfl), hj.symm⟩
    · rw [hothers p id hj] at hp
      obtain ⟨t, ht, rfl⟩ := h.live p id hp
      exact ⟨t, (hmem t).mpr (.inl ⟨ht, hj⟩), rfl⟩

private theorem store {s s' : Snake F} (h : w.Registered) (hs : s ∈ w.snakes) (hid : s'.id = s.id)
    (hsbb : s'.sbb = s.sbb) : (w.store s').Registered :=
  h.update hs hid (hsbb ▸ .refl _ _) rfl

private theorem add {s₀ s : Snake F} {ss : SectorSeq} {w' : World F} (h : w.Registered)
    (hfresh : w.getSnake s₀.id = none) (hbox : s₀.sbb.id = s₀.id) (hnil : s₀.sbb.sectors = [])
    (hid : s.id = s₀.id) (hreg : Reregisters s₀.sbb w.sectors s.sbb ss)
    (hsnakes : w'.snakes = w.snakes.insert s) (hsectors : w'.sectors = ss) :
    w'.Registered := by
  have hne : ∀ t ∈ w.snakes, t.id ≠ s₀.id := Keyed.find?_eq_none.mp hfresh
  have hzero : ∀ p, w.sectors.listings p s₀.id = 0 := by
    intro p
    by_contra hp
    obtain ⟨t, ht, hteq⟩ := h.live p _ (Nat.pos_of_ne_zero hp)
    exact hne t ht hteq
  have hc₀ : s₀.sbb.Consistent w.sectors :=
    ⟨hnil ▸ List.Pairwise.nil, fun p => by rw [hbox, hzero, hnil]; simp⟩
  have hmem : ∀ t, t ∈ w'.snakes ↔ t ∈ w.snakes ∨ t = s := by
    intro t
    rw [hsnakes]
    exact Keyed.mem_insert (show w.snakes.find? s.id = none from hid ▸ hfresh)
  have hothers : ∀ p j, j ≠ s₀.id → w'.sectors.listings p j = w.sectors.listings p j := by
    intro p j hj
    rw [hsectors]
    exact hreg.others hc₀ p j (hbox ▸ hj)
  refine ⟨fun t ht => ?_, fun t ht => ?_, fun p id hp => ?_⟩
  · rcases (hmem t).mp ht with ht | rfl
    · exact h.boxId t ht
    · rw [hreg.id_eq, hbox, hid]
  · rcases (hmem t).mp ht with ht | rfl
    · have hc := h.consistent t ht
      refine ⟨hc.sorted, fun p => ?_⟩
      rw [hothers p _ (h.boxId t ht ▸ hne t ht), hc.listed]
    · exact hsectors ▸ hreg.consistent hc₀
  · by_cases hj : id = s₀.id
    · exact ⟨s, (hmem s).mpr (.inr rfl), hid.trans hj.symm⟩
    · rw [hothers p id hj] at hp
      obtain ⟨t, ht, htid⟩ := h.live p id hp
      exact ⟨t, (hmem t).mpr (.inl ht), htid⟩

private theorem listings_removeSnake (h : w.Registered) (id : SnakeId) (p : SectorPtr)
    (j : SnakeId) :
    (w.removeSnake id).sectors.listings p j = if j = id then 0 else w.sectors.listings p j := by
  unfold World.removeSnake
  dsimp only
  cases hget : (w.flushChangesOf id).getSnake id with
  | none =>
      have hnone : ∀ t ∈ w.snakes, t.id ≠ id := Keyed.find?_eq_none.mp hget
      show w.sectors.listings p j = _
      split
      · subst j
        by_contra hp
        obtain ⟨t, ht, hteq⟩ := h.live p _ (Nat.pos_of_ne_zero hp)
        exact hnone t ht hteq
      · rfl
  | some s =>
      have hs : s ∈ w.snakes := Keyed.mem_of_find? hget
      have hsid : s.id = id := Keyed.key_of_find? hget
      show (s.sbb.sectors.foldl _ w.sectors).listings p j = _
      rw [SectorSeq.listings_foldl_removeSnake]
      by_cases hj : j = id
      · subst j
        have hc := (h.consistent s hs).listed p
        rw [h.boxId s hs, hsid] at hc
        by_cases hp : p ∈ s.sbb.sectors <;> simp [hp, hc]
      · simp [hj]

theorem mem_removeSnake (w : World F) (id : SnakeId) (t : Snake F) :
    t ∈ (w.removeSnake id).snakes ↔ t ∈ w.snakes ∧ t.id ≠ id := by
  unfold World.removeSnake
  dsimp only
  cases hget : (w.flushChangesOf id).getSnake id with
  | none =>
      have hnone : ∀ t ∈ w.snakes, t.id ≠ id := Keyed.find?_eq_none.mp hget
      exact ⟨fun ht => ⟨ht, hnone t ht⟩, And.left⟩
  | some s => exact Keyed.mem_erase

theorem remove (h : w.Registered) (id : SnakeId) : (w.removeSnake id).Registered where
  boxId t ht := h.boxId t ((mem_removeSnake w id t).mp ht).1
  consistent t ht := by
    obtain ⟨ht, hne⟩ := (mem_removeSnake w id t).mp ht
    have hc := h.consistent t ht
    refine ⟨hc.sorted, fun p => ?_⟩
    rw [h.listings_removeSnake, h.boxId t ht, if_neg hne, ← h.boxId t ht, hc.listed]
  live p j hp := by
    rw [h.listings_removeSnake] at hp
    split at hp
    · omega
    · rename_i hj
      obtain ⟨t, ht, rfl⟩ := h.live p j hp
      exact ⟨t, (mem_removeSnake w id t).mpr ⟨ht, hj⟩, rfl⟩

private theorem tickAll (m : Libm F) (dt : ℕ) (h : w.Registered) :
    Post (w.tickAll m dt) (fun w' => w'.Registered)
      (fun e => e = .sectorIndex ∨ e = .divByZero) := by
  apply tickAll_rule fun _ w' => w'.Registered
  · exact h
  · intro s rest w' hs _ hreg
    refine (Snake.tick_reregisters m dt s w'.sectors).mono ?_ fun _ h => h
    rintro r ⟨hid, hr⟩
    exact hreg.update hs hid hr rfl

private theorem checkAll (h : w.Registered) :
    Post w.checkAll (fun w' => w'.Registered) (fun e => e = .danglingPtr) := by
  unfold World.checkAll
  apply Post.foldlM fun _ (w' : World F) => w'.Registered
  · intro id rest w' hreg
    refine (checkChanged_post w' id).mono ?_ fun _ h => h
    rintro w'' (rfl | ⟨s, hget, -, rfl⟩)
    · exact hreg
    · exact hreg.store (Keyed.mem_of_find? hget) rfl rfl
  · exact h

theorem tick (m : Libm F) (dt : ℕ) (h : w.Registered) :
    Post (w.tick m dt) (fun w' => w'.Registered) (fun _ => True) := by
  apply tick_rule
  · exact h.of_eq (fun _ => Iff.rfl) rfl
  · intro vfrTime
    have h' : ({ w with ticks := w.ticks + dt } : World F).Registered :=
      h.of_eq (fun _ => Iff.rfl) rfl
    apply Post.bind ((h'.tickAll m vfrTime).mono (fun _ h => h) fun _ _ => trivial)
    intro w₁ h₁
    exact h₁.checkAll.mono (fun w₂ h₂ ticks frames => h₂.of_eq (fun _ => Iff.rfl) rfl)
      fun _ _ => trivial

end Registered

theorem getSnake_removeSnake (w : World F) (id j : SnakeId) :
    (w.removeSnake id).getSnake j = if j = id then none else w.getSnake j := by
  split
  · rename_i h
    subst h
    exact Keyed.find?_eq_none.mpr fun t ht => ((Registered.mem_removeSnake w j t).mp ht).2
  · rename_i h
    ext t
    simp only [getSnake, Keyed.find?_eq_some, Registered.mem_removeSnake]
    constructor
    · exact fun ht => ⟨ht.1.1, ht.2⟩
    · rintro ⟨ht, rfl⟩
      exact ⟨⟨ht, h⟩, rfl⟩

/-- The id the next snake gets. -/
def nextId (w : World F) : SnakeId := (w.lastSnakeId + 1) % 65536

/-- What `CreateSnake` and `CreateSnakeBot` have in common, seen from the registry. -/
theorem create_post (m : Libm F) (bot : Bool) (w : World F) :
    Post (w.create m bot)
      (fun r => ∃ s₀ : Snake F, s₀.id = w.nextId ∧ s₀.sbb.id = s₀.id ∧ s₀.sbb.sectors = [] ∧
        r.1.id = s₀.id ∧ Reregisters s₀.sbb w.sectors r.1.sbb r.2.sectors ∧
        r.2.snakes = w.snakes ∧ r.2.lastSnakeId = w.nextId ∧ r.2.config = w.config)
      (fun e => e = .divByZero) := by
  have hplain : Post (w.createSnake m)
      (fun r => ∃ s₀ : Snake F, s₀.id = w.nextId ∧ s₀.sbb.id = s₀.id ∧ s₀.sbb.sectors = [] ∧
        r.1.id = s₀.id ∧ Reregisters s₀.sbb w.sectors r.1.sbb r.2.sectors ∧
        r.2.snakes = w.snakes ∧ r.2.lastSnakeId = w.nextId ∧ r.2.config = w.config)
      (fun e => e = .divByZero) := by
    refine (createSnake_post m w).mono ?_ fun _ h => h
    rintro _ ⟨skin, x, y, angle, body, rng, rfl⟩
    exact ⟨Snake.newborn m w.nextId skin x y angle body, rfl, rfl, rfl, rfl,
      (initBoxNewSectors_reregisters _ w.sectors).2, rfl, rfl, rfl⟩
  unfold create
  split
  · exact Post.bind hplain fun r h => h
  · exact hplain

/-- The counter stands at `n` and every id is one it has given. -/
structure Numbered (w : World F) (n : ℕ) : Prop where
  last : w.lastSnakeId = n
  range : ∀ s ∈ w.snakes, 0 < s.id ∧ s.id ≤ n

theorem Numbered.nextId_eq {w : World F} {n : ℕ} (h : w.Numbered n) (hn : n + 1 ≤ 65535) :
    w.nextId = n + 1 := by
  rw [nextId, h.last]
  exact Nat.mod_eq_of_lt (by omega)

theorem Numbered.fresh {w : World F} {n : ℕ} (h : w.Numbered n) (hn : n + 1 ≤ 65535) :
    w.getSnake w.nextId = none := by
  refine Keyed.find?_eq_none.mpr fun s hs heq => ?_
  have hrange := h.range s hs
  rw [h.nextId_eq hn] at heq
  grind

theorem ids_of_kept {w w' : World F} (h : w'.kept = w.kept) {s' : Snake F}
    (hs' : s' ∈ w'.snakes) : ∃ s ∈ w.snakes, s.ident = s'.ident := by
  have hget := congrFun (congrArg Prod.fst h) s'.id
  have hfind : w'.getSnake s'.id = some s' := Keyed.find?_key hs'
  simp only [kept, hfind, Option.map_some] at hget
  obtain ⟨s, hs, hident⟩ := Option.map_eq_some_iff.mp hget.symm
  exact ⟨s, Keyed.mem_of_find? hs, hident⟩

/-- The number of snakes an operation creates. -/
def WorldOp.creates (op : WorldOp) : ℕ := if op.isCreate then 1 else 0

/-- The step lemma of the registry. -/
theorem perform_registered {m : Libm F} {w w' : World F} (op : WorldOp) {n : ℕ}
    (hreg : w.Registered) (hnum : w.Numbered n) (hcap : n + WorldOp.creates op ≤ 65535)
    (hop : w.perform m op = .ok w') :
    w'.Registered ∧ w'.Numbered (n + WorldOp.creates op) := by
  cases op with
  | create bot =>
      obtain ⟨⟨s, w₁⟩, hcreate, hadd⟩ := bind_eq_ok.mp hop
      obtain ⟨s₀, hid₀, hbox, hnil, hid, hr, hsnakes, hlast, -⟩ := (create_post m bot w).of_ok hcreate
      cases hadd
      have hn : n + 1 ≤ 65535 := hcap
      have hfresh : w.getSnake s₀.id = none := hid₀ ▸ hnum.fresh hn
      have hins : (w₁.addSnake s).snakes = w.snakes.insert s := by rw [addSnake, hsnakes]
      refine ⟨hreg.add hfresh hbox hnil hid hr hins rfl, ?_, fun t ht => ?_⟩
      · show w₁.lastSnakeId = n + 1
        rw [hlast, hnum.nextId_eq hn]
      · show 0 < t.id ∧ t.id ≤ n + 1
        rw [hins] at ht
        have hnone : w.snakes.find? s.id = none := by rw [hid]; exact hfresh
        rcases (Keyed.mem_insert hnone).mp ht with ht | rfl
        · have hrange := hnum.range t ht
          grind
        · rw [hid, hid₀, hnum.nextId_eq hn]
          exact ⟨Nat.succ_pos n, le_rfl⟩
  | tick dt =>
      refine ⟨(hreg.tick m dt).of_ok hop, ?_, fun t ht => ?_⟩
      · have hkept := (tick_kept m dt w).of_ok hop
        exact (congrArg (fun k => k.2.2.1) hkept).trans hnum.last
      · obtain ⟨s, hs, hident⟩ := ids_of_kept ((tick_kept m dt w).of_ok hop) ht
        have hid : s.id = t.id := congrArg Prod.fst hident
        exact hid ▸ hnum.range s hs
  | remove id =>
      cases hop
      refine ⟨hreg.remove id, ?_, fun t ht => ?_⟩
      · show (w.removeSnake id).lastSnakeId = n
        rw [← hnum.last]
        unfold removeSnake
        dsimp only
        split <;> rfl
      · exact hnum.range t ((Registered.mem_removeSnake w id t).mp ht).1

private theorem snakes_initFood (w : World F) (p : SectorPtr) :
    (w.initFood.sectors.cell p).snakes = (w.sectors.cell p).snakes := by
  have hround : ∀ (st : SectorSeq × Rng) (q : SectorPtr),
      (fun p => ((initSectorFood F st q).1.cell p).snakes) = fun p => (st.1.cell p).snakes := by
    intro st q
    have hfold := Snake.foldl_keeps (fun st : Sector × Rng => st.1.snakes)
      (f := fun (r : Sector × Rng) (_ : ℕ) =>
        (r.1.insert (initialFood (st.1.cell q) r.2).1, (initialFood (st.1.cell q) r.2).2))
      (fun _ _ => rfl) (List.range (foodDensity F (st.1.cell q))) (st.1.cell q, st.2)
    funext p
    exact Snake.snakes_put st.1 q (Sector.sort _) hfold p
  have hall := Snake.foldl_keeps (fun st : SectorSeq × Rng => fun p => (st.1.cell p).snakes) hround
  unfold initFood
  generalize List.finRange sectorLen = ps
  exact congrFun (hall ps (w.sectors, w.rng)) p

private theorem blank_registered (config : WorldConfig) (rng : Rng) :
    (blank config rng : World F).initFood.Registered ∧
      (blank config rng : World F).initFood.Numbered 0 := by
  have hnone : ∀ s : Snake F, s ∉ (blank config rng : World F).initFood.snakes :=
    fun s hs => by cases hs
  refine ⟨⟨fun s hs => absurd hs (hnone s), fun s hs => absurd hs (hnone s), fun p id hp => ?_⟩,
    ⟨rfl, fun s hs => absurd hs (hnone s)⟩⟩
  rw [SectorSeq.listings, snakes_initFood] at hp
  simp [blank, SectorSeq.init] at hp

private theorem init_run {m : Libm F} {config : WorldConfig} {rng : Rng} {w : World F}
    (h : World.init m config rng = .ok w) :
    Run (fun w op w' => w.perform m op = .ok w') (blank config rng).initFood
      (List.replicate config.bots (.create true)) w := by
  have hspawn : ∀ (count : ℕ) (w₀ w : World F), w₀.spawnNumSnakes m count = .ok w →
      Run (fun w op w' => w.perform m op = .ok w') w₀ (List.replicate count (.create true)) w := by
    intro count
    induction count with
    | zero =>
        intro w₀ w h
        cases h
        exact .nil
    | succ count ih =>
        intro w₀ w h
        rw [spawnNumSnakes, List.range_succ, List.foldlM_append] at h
        obtain ⟨w₁, h₁, h₂⟩ := bind_eq_ok.mp h
        rw [List.replicate_succ']
        refine .snoc (ih w₀ w₁ h₁) ?_
        simpa [spawnBot, perform] using h₂
  exact hspawn _ _ _ h

/-- The number of snakes a list of operations creates. -/
def createdBy (ops : List WorldOp) : ℕ := ops.countP WorldOp.isCreate

private theorem createdBy_snoc (ops : List WorldOp) (op : WorldOp) :
    createdBy (ops ++ [op]) = createdBy ops + WorldOp.creates op := by
  simp [createdBy, WorldOp.creates, List.countP_append, List.countP_singleton]

/-- The run lemma of the registry. -/
private theorem run_registered {m : Libm F} {w₀ w : World F} {ops : List WorldOp} {n : ℕ}
    (hreg : w₀.Registered) (hnum : w₀.Numbered n) (hrun : Run (Step m) w₀ ops w)
    (hcap : n + createdBy ops ≤ 65535) : w.Registered ∧ w.Numbered (n + createdBy ops) := by
  induction hrun with
  | nil => exact ⟨hreg, hnum⟩
  | snoc _ hlast ih =>
      obtain ⟨mid, ⟨snakes, hperm, rfl⟩, hop⟩ := hlast
      rw [createdBy_snoc, ← Nat.add_assoc] at hcap ⊢
      obtain ⟨hr, hn⟩ := ih (by omega)
      exact perform_registered _ (hr.of_reorders ⟨snakes, hperm, rfl⟩)
        ⟨hn.last, fun s hs => hn.range s (hperm.mem_iff.mp hs)⟩ hcap hop

private theorem run_of_perform {m : Libm F} {w₀ w : World F} {ops : List WorldOp}
    (h : Run (fun w op w' => w.perform m op = .ok w') w₀ ops w) : Run (Step m) w₀ ops w :=
  h.mono fun t _ _ ht => ⟨t, ⟨t.snakes, .refl _, rfl⟩, ht⟩

theorem init_registered {m : Libm F} {config : WorldConfig} {rng : Rng} {w : World F}
    (h : World.init m config rng = .ok w) (hbots : config.bots ≤ 65535) :
    w.Registered ∧ w.Numbered config.bots := by
  obtain ⟨hreg, hnum⟩ := blank_registered (F := F) config rng
  have hcount : createdBy (List.replicate config.bots (.create true)) = config.bots := by
    simp [createdBy, List.countP_replicate, WorldOp.isCreate]
  have hrun := run_registered hreg hnum (run_of_perform (init_run h)) (by omega)
  simpa [hcount] using hrun

private theorem run_gone {m : Libm F} {w₀ w : World F} {ops : List WorldOp} {n : ℕ} {id : SnakeId}
    (hreg : w₀.Registered) (hnum : w₀.Numbered n) (hrun : Run (Step m) w₀ ops w)
    (hcap : n + createdBy ops ≤ 65535) (hid : id ≤ n) (hgone : w₀.getSnake id = none) :
    w.getSnake id = none := by
  induction hrun with
  | nil => exact hgone
  | @snoc es t u e hrun hlast ih =>
      rw [createdBy_snoc, ← Nat.add_assoc] at hcap
      have hn := (run_registered hreg hnum hrun (by omega)).2
      have hnone := ih (by omega)
      obtain ⟨mid, ⟨snakes, hperm, rfl⟩, hop⟩ := hlast
      have hmid : ({ t with snakes := snakes } : World F).getSnake id = none := by
        rw [getSnake, Keyed.find?_perm hperm]
        exact hnone
      cases e with
      | create bot =>
          obtain ⟨⟨s, w₁⟩, hcreate, hadd⟩ := bind_eq_ok.mp hop
          obtain ⟨s₀, hid₀, -, -, hsid, -, hsnakes, -, -⟩ := (create_post m bot _).of_ok hcreate
          have hnext := hn.nextId_eq hcap
          have hne : s.id ≠ id := by
            rw [hsid, hid₀]
            intro heq
            have hnext' : t.nextId = id := heq
            grind
          cases hadd
          rw [getSnake, addSnake, hsnakes]
          cases hdup : snakes.find? s.id with
          | some s' => rw [Keyed.insert_of_some hdup]; exact hmid
          | none => rw [Keyed.find?_insert hdup, if_neg hne]; exact hmid
      | tick dt =>
          have hkept := (tick_kept m dt _).of_ok hop
          have hget := congrFun (congrArg Prod.fst hkept) id
          simpa [kept, hmid] using hget
      | remove j =>
          cases hop
          refine Keyed.find?_eq_none.mpr fun s hs => ?_
          exact Keyed.find?_eq_none.mp hmid s ((Registered.mem_removeSnake _ j s).mp hs).1

theorem config_removeSnake (w : World F) (id : SnakeId) :
    (w.removeSnake id).config = w.config ∧ (w.removeSnake id).lastSnakeId = w.lastSnakeId := by
  unfold removeSnake
  dsimp only
  split <;> exact ⟨rfl, rfl⟩

theorem create_ok (m : Libm F) (bot : Bool) (w : World F)
    (h : w.config.snakeAverageLength ≠ 0) : ∃ r, w.create m bot = .ok r := by
  have hplain : ∃ r, w.createSnake m = .ok r := by
    unfold createSnake Rng.nextBase
    simp only [if_neg h]
    exact ⟨_, rfl⟩
  obtain ⟨r, hr⟩ := hplain
  unfold create createSnakeBot
  rw [hr]
  cases bot with
  | true => exact ⟨_, rfl⟩
  | false => exact ⟨_, rfl⟩

private theorem exists_run (m : Libm F) (w₀ : World F) (h : w₀.config.snakeAverageLength ≠ 0)
    (ops : List WorldOp) (hops : ∀ op ∈ ops, op.isTick = false) :
    ∃ w, w.config = w₀.config ∧ Run (fun w op w' => w.perform m op = .ok w') w₀ ops w := by
  induction ops using List.reverseRecOn with
  | nil => exact ⟨w₀, rfl, .nil⟩
  | append_singleton ops op ih =>
      obtain ⟨w, hconfig, hrun⟩ := ih fun op' hop' => hops op' (List.mem_append_left _ hop')
      cases op with
      | create bot =>
          obtain ⟨r, hr⟩ := create_ok m bot w (hconfig ▸ h)
          obtain ⟨s₀, -, -, -, -, -, -, -, hc⟩ := (create_post m bot w).of_ok hr
          refine ⟨r.2.addSnake r.1, hc.trans hconfig, .snoc hrun ?_⟩
          simp only [perform, hr]
          rfl
      | tick dt => exact absurd (hops (.tick dt) (by simp)) (by simp [WorldOp.isTick])
      | remove id => exact ⟨w.removeSnake id, (config_removeSnake w id).1.trans hconfig,
          .snoc hrun rfl⟩

/-- Sector registration is a two-way bijection in every reachable world. -/
theorem sectors_registered (m : Libm F) (config : WorldConfig) (rng : Rng) {w₀ w : World F}
    {ops : List WorldOp} (hinit : World.init m config rng = .ok w₀)
    (hrun : Run (Step m) w₀ ops w) (hcap : config.bots + createdBy ops ≤ 65535) :
    (∀ s ∈ w.snakes, s.sbb.sectors.Pairwise (· < ·) ∧
      ∀ p, (p ∈ s.sbb.sectors ↔ s.id ∈ (w.sectors.cell p).snakes) ∧
        s.sbb.sectors.count p ≤ 1 ∧ (w.sectors.cell p).snakes.count s.id ≤ 1) ∧
    ∀ s ∈ w.snakes, ∀ w₁ ops' w₂, Step m w (.remove s.id) w₁ → Run (Step m) w₁ ops' w₂ →
      config.bots + createdBy (ops ++ ops') ≤ 65535 →
      ∀ p, s.id ∉ (w₂.sectors.cell p).snakes := by
  obtain ⟨hreg₀, hnum₀⟩ := init_registered hinit (by omega)
  obtain ⟨hreg, hnum⟩ := run_registered hreg₀ hnum₀ hrun hcap
  refine ⟨fun s hs => ?_, fun s hs w₁ ops' w₂ hremove hrest hcap' p hp => ?_⟩
  · have hc := hreg.consistent s hs
    refine ⟨hc.sorted, fun p => ?_⟩
    have hcount := hc.listed p
    rw [hreg.boxId s hs] at hcount
    have hnodup : s.sbb.sectors.Nodup := hc.sorted.imp fun h => h.ne
    refine ⟨?_, List.nodup_iff_count_le_one.mp hnodup p, ?_⟩
    · rw [SectorSeq.mem_snakes_iff, hcount]
      by_cases hp : p ∈ s.sbb.sectors <;> simp [hp]
    · show w.sectors.listings p s.id ≤ 1
      rw [hcount]
      split <;> omega
  · -- the removed snake's id is not given out again, so it is not the id of a live snake
    obtain ⟨mid, ⟨snakes, hperm, rfl⟩, hop⟩ := hremove
    have hmid : ({ w with snakes := snakes } : World F).Registered :=
      hreg.of_reorders ⟨snakes, hperm, rfl⟩
    have hnum' : ({ w with snakes := snakes } : World F).Numbered (config.bots + createdBy ops) :=
      ⟨hnum.last, fun t ht => hnum.range t (hperm.mem_iff.mp ht)⟩
    obtain ⟨hreg₁, hnum₁⟩ := perform_registered (.remove s.id) hmid hnum' hcap hop
    have hsum : createdBy (ops ++ ops') = createdBy ops + createdBy ops' := List.countP_append ..
    have hzero : WorldOp.creates (.remove s.id) = 0 := rfl
    rw [hzero, Nat.add_zero] at hnum₁
    cases hop
    have hgone : (({ w with snakes := snakes } : World F).removeSnake s.id).getSnake s.id = none :=
      Keyed.find?_eq_none.mpr fun t ht => ((Registered.mem_removeSnake _ s.id t).mp ht).2
    have hcap₂ : config.bots + createdBy ops + createdBy ops' ≤ 65535 := by omega
    have hreg₂ := (run_registered hreg₁ hnum₁ hrest hcap₂).1
    obtain ⟨t, ht, htid⟩ := hreg₂.live p s.id ((SectorSeq.mem_snakes_iff _ _ _).mp hp)
    have hnone := run_gone hreg₁ hnum₁ hrest hcap₂ (hnum.range s hs).2 hgone
    exact Keyed.find?_eq_none.mp hnone t ht htid

theorem sectors_registered_pair :
    ∃ w₀ w : World ℚ, World.init Libm.axis {} Rng.zero = .ok w₀ ∧
      Run (Step Libm.axis) w₀ [.create false, .create true, .remove 1, .create false] w ∧
      ∀ s ∈ w.snakes, s.sbb.sectors.Pairwise (· < ·) := by
  obtain ⟨w, -, hrun⟩ := exists_run Libm.axis (blank {} Rng.zero : World ℚ).initFood (by decide)
    [.create false, .create true, .remove 1, .create false] (by decide)
  exact ⟨_, w, rfl, run_of_perform hrun, fun s hs =>
    ((sectors_registered Libm.axis {} Rng.zero rfl (run_of_perform hrun) (by decide)).1 s hs).1⟩

/-- What the ids have to give: a created snake is stored under an id that is not zero and not
taken, and a removal unregisters exactly the snake it removes. -/
def FreshStep (m : Libm F) (w : World F) : WorldOp → Prop
  | .create bot => ∀ s w', w.create m bot = .ok (s, w') →
      s.id ≠ 0 ∧ w.getSnake s.id = none ∧ (w'.addSnake s).getSnake s.id = some s
  | .tick _ => True
  | .remove id => ∀ p,
      (∀ s, w.getSnake id = some s →
        w.sectors.listings p id = if p ∈ s.sbb.sectors then 1 else 0) ∧
      ∀ j, j ≠ id → (w.removeSnake id).getSnake j = w.getSnake j ∧
        (w.removeSnake id).sectors.listings p j = w.sectors.listings p j

private theorem freshStep_of_registered {m : Libm F} {w : World F} {op : WorldOp} {n : ℕ}
    (hreg : w.Registered) (hnum : w.Numbered n) (hcap : n + WorldOp.creates op ≤ 65535) :
    w.FreshStep m op := by
  cases op with
  | create bot =>
      intro s w' hcreate
      obtain ⟨s₀, hid₀, -, -, hid, -, hsnakes, -, -⟩ := (create_post m bot w).of_ok hcreate
      have hn : n + 1 ≤ 65535 := hcap
      have hnext : s.id = w.nextId := hid.trans hid₀
      have hfresh : w.getSnake s.id = none := hnext ▸ hnum.fresh hn
      refine ⟨by rw [hnext, hnum.nextId_eq hn]; exact Nat.succ_ne_zero n, hfresh, ?_⟩
      rw [getSnake, addSnake, hsnakes]
      rw [Keyed.find?_insert hfresh, if_pos rfl]
  | tick dt => trivial
  | remove id =>
      intro p
      refine ⟨fun s hs => ?_, fun j hj => ⟨?_, ?_⟩⟩
      · have hmem : s ∈ w.snakes := Keyed.mem_of_find? hs
        have hid : s.id = id := Keyed.key_of_find? hs
        rw [← hid, ← hreg.boxId s hmem]
        exact (hreg.consistent s hmem).listed p
      · ext t
        simp only [getSnake, Keyed.find?_eq_some, Registered.mem_removeSnake]
        constructor
        · exact fun h => ⟨h.1.1, h.2⟩
        · rintro ⟨ht, rfl⟩
          exact ⟨⟨ht, hj⟩, rfl⟩
      · rw [hreg.listings_removeSnake, if_neg hj]

private theorem createdBy_le_of_fresh {m : Libm F} (w₀ : World F) {w : World F} {ops : List WorldOp}
    (hlast₀ : w₀.lastSnakeId = 0)
    (hfresh : Run (fun w op w' => w.perform m op = .ok w' ∧ w.FreshStep m op) w₀ ops w) :
    createdBy ops ≤ 65535 := by
  refine (hfresh.invariant (I := fun es w => createdBy es ≤ 65535 ∧ w.lastSnakeId = createdBy es)
    ⟨Nat.zero_le _, hlast₀⟩ ?_).1
  rintro es t op u ⟨hcap, hlast⟩ ⟨hop, hsound⟩
  rw [createdBy_snoc]
  cases op with
  | create bot =>
      obtain ⟨⟨s, w₁⟩, hcreate, hadd⟩ := bind_eq_ok.mp hop
      obtain ⟨s₀, hid₀, -, -, hid, -, -, hlast₁, -⟩ := (create_post m bot t).of_ok hcreate
      have hne : (createdBy es + 1) % 65536 ≠ 0 := by
        have hid' : s.id = (t.lastSnakeId + 1) % 65536 := hid.trans hid₀
        rw [← hlast, ← hid']
        exact (hsound s w₁ hcreate).1
      have hnext : w₁.lastSnakeId = (createdBy es + 1) % 65536 := by rw [hlast₁, nextId, hlast]
      cases hadd
      have hle : createdBy es + 1 ≤ 65535 := by omega
      exact ⟨hle, hnext.trans (Nat.mod_eq_of_lt (by omega))⟩
  | tick dt =>
      have hkept := congrArg (fun k => k.2.2.1) ((tick_kept m dt t).of_ok hop)
      exact ⟨hcap, hkept.trans hlast⟩
  | remove id =>
      cases hop
      exact ⟨hcap, (config_removeSnake t id).2.trans hlast⟩

/-- The ids do what they have to in a run exactly as long as the 16-bit counter has not wrapped. -/
theorem snake_ids_fresh_iff (m : Libm F) (config : WorldConfig) (rng : Rng) {ops : List WorldOp}
    {w : World F}
    (hrun : Run (fun w op w' => w.perform m op = .ok w') (blank config rng).initFood ops w) :
    Run (fun w op w' => w.perform m op = .ok w' ∧ w.FreshStep m op)
      (blank config rng).initFood ops w ↔ createdBy ops ≤ 65535 := by
  obtain ⟨hreg, hnum⟩ := blank_registered (F := F) config rng
  constructor
  · exact createdBy_le_of_fresh _ rfl
  · intro hcap
    induction hrun with
    | nil => exact .nil
    | snoc hbefore hlast ih =>
        rw [createdBy_snoc] at hcap
        obtain ⟨hr, hn⟩ := run_registered hreg hnum (run_of_perform hbefore) (by omega)
        exact .snoc (ih (by omega)) ⟨hlast, freshStep_of_registered hr hn (by omega)⟩

theorem snake_ids_fresh_iff_short :
    ∃ w : World ℚ, Run (fun w op w' => w.perform Libm.axis op = .ok w' ∧ w.FreshStep Libm.axis op)
      (blank {} Rng.zero).initFood [.create false, .create true, .remove 1] w := by
  obtain ⟨w, -, hrun⟩ := exists_run Libm.axis (blank {} Rng.zero : World ℚ).initFood (by decide)
    [.create false, .create true, .remove 1] (by decide)
  exact ⟨w, (snake_ids_fresh_iff Libm.axis {} Rng.zero hrun).mpr (by decide)⟩

/-- Create a snake and remove it again, `n` times. -/
def churn : ℕ → List WorldOp
  | 0 => []
  | n + 1 => churn n ++ [.create false] ++ [.remove (n + 1)]

private theorem createdBy_churn (n : ℕ) : createdBy (churn n) = n := by
  induction n with
  | zero => rfl
  | succ n ih => simp only [churn, createdBy_snoc, ih, WorldOp.creates, WorldOp.isCreate]; rfl

private theorem exists_run_churn (m : Libm F) (w₀ : World F)
    (hlen : w₀.config.snakeAverageLength ≠ 0)
    (hlast₀ : w₀.lastSnakeId = 0) (hnone : w₀.snakes.entries = []) (n : ℕ) (hn : n ≤ 65535) :
    ∃ w, w.config = w₀.config ∧ w.lastSnakeId = n ∧ w.snakes.entries = [] ∧
      Run (fun w op w' => w.perform m op = .ok w' ∧ w'.snakes.entries.length ≤ 1)
        w₀ (churn n) w := by
  induction n with
  | zero => exact ⟨w₀, rfl, hlast₀, hnone, .nil⟩
  | succ n ih =>
      obtain ⟨w, hconfig, hlast, hempty, hrun⟩ := ih (by omega)
      obtain ⟨⟨s, w₁⟩, hr⟩ := create_ok m false w (hconfig ▸ hlen)
      obtain ⟨s₀, hid₀, -, -, hid, -, hsnakes, hlast₁, hc⟩ := (create_post m false w).of_ok hr
      have hnext : w.nextId = n + 1 := by
        rw [nextId, hlast]
        exact Nat.mod_eq_of_lt (by omega)
      have hsid : s.id = n + 1 := (hid.trans hid₀).trans hnext
      have hfind : w.snakes.find? s.id = none := by
        rw [Keyed.find?, hempty]
        rfl
      have hadd : (w₁.addSnake s).snakes.entries = [s] := by
        rw [addSnake, hsnakes]
        show (w.snakes.insert s).entries = [s]
        rw [Keyed.entries_insert hfind, hempty, List.nil_append]
      have hremoved : ((w₁.addSnake s).removeSnake (n + 1)).snakes.entries = [] := by
        refine List.eq_nil_iff_forall_not_mem.mpr fun t ht => ?_
        obtain ⟨hmem, hne⟩ := (Registered.mem_removeSnake _ _ t).mp ht
        rw [Keyed.mem_def, hadd, List.mem_singleton] at hmem
        exact hne (hmem ▸ hsid)
      obtain ⟨hc', hl'⟩ := config_removeSnake (w₁.addSnake s) (n + 1)
      refine ⟨(w₁.addSnake s).removeSnake (n + 1), hc'.trans (hc.trans hconfig),
        hl'.trans (hlast₁.trans hnext), hremoved, ?_⟩
      refine .snoc (.snoc hrun (t := w) (u := w₁.addSnake s) ⟨?_, ?_⟩) ⟨rfl, ?_⟩
      · simp only [perform, hr]
        rfl
      · rw [hadd]
        rfl
      · rw [hremoved]
        exact Nat.zero_le 1

/-- The 65536th snake gets id zero, however few snakes are alive. -/
theorem snake_id_wraps :
    ∃ w : World ℚ,
      Run (fun w op w' => w.perform Libm.axis op = .ok w' ∧ w'.snakes.entries.length ≤ 1)
        (blank {} Rng.zero).initFood (churn 65535 ++ [.create false]) w ∧
      ¬ Run (fun w op w' => w.perform Libm.axis op = .ok w' ∧ w.FreshStep Libm.axis op)
        (blank {} Rng.zero).initFood (churn 65535 ++ [.create false]) w := by
  obtain ⟨w, hconfig, hlast, hempty, hrun⟩ := exists_run_churn Libm.axis
    (blank {} Rng.zero : World ℚ).initFood (by decide) rfl rfl 65535 le_rfl
  obtain ⟨⟨s, w₁⟩, hr⟩ := create_ok Libm.axis false w (by rw [hconfig]; decide)
  obtain ⟨s₀, -, -, -, -, -, hsnakes, -, -⟩ := (create_post Libm.axis false w).of_ok hr
  refine ⟨w₁.addSnake s, .snoc hrun ⟨?_, ?_⟩, fun hfresh => ?_⟩
  · simp only [perform, hr]
    rfl
  · have hfind : w.snakes.find? s.id = none := by
      rw [Keyed.find?, hempty]
      rfl
    rw [addSnake, hsnakes]
    show (w.snakes.insert s).entries.length ≤ 1
    rw [Keyed.entries_insert hfind, hempty]
    rfl
  · have hle := createdBy_le_of_fresh (blank {} Rng.zero : World ℚ).initFood rfl hfresh
    rw [createdBy_snoc, createdBy_churn] at hle
    exact absurd hle (by decide)

end World

end Slither
