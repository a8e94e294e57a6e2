import Slither.Game.Constants
import Slither.Game.Grid
import Slither.Game.Spacing
import Slither.Game.Windows

/-!
# The filter before the exact test

The scan looks at a pair of parts only if its second part is within 84 of the foe.  Whether that
loses a hit depends on how far the exact test reaches, which grows with both bodies.
-/

set_option linter.unusedSectionVars false

namespace Slither

open Framework

variable {F : Type} [Field F] [LinearOrder F] [FloorRing F]

namespace Body

/-- The filter: the part is within two steps of the foe. -/
def weak (foe : BoundBoxPos F) (iter : Body F) : Bool :=
  Math.intersectCircle iter.x iter.y foe.x foe.y ((WorldConfig.moveStepDistance * 2 : ℕ) : F)

/-- The exact test: one of the two parts or the point half way between them is near enough. -/
def touching (r : F) (foe : BoundBoxPos F) (prev iter : Body F) : Bool :=
  Math.intersectCircle iter.x iter.y foe.x foe.y (foe.r + r) ||
    Math.intersectCircle prev.x prev.y foe.x foe.y (foe.r + r) ||
    Math.intersectCircle (iter.x + (prev.x - iter.x) / 2) (iter.y + (prev.y - iter.y) / 2)
      foe.x foe.y (foe.r + r)

theorem meets_eq (r : F) (foe : BoundBoxPos F) (prev iter : Body F) :
    meets r foe prev iter = (weak foe iter && touching r foe prev iter) := rfl

/-- The scan agrees with the exact test of all pairs exactly when, if a pair passes, some pair that
passes also gets through the filter. -/
private theorem linearScan_agrees_iff (r : F) (foe : BoundBoxPos F) (ps : List (Body F)) :
    linearScan r foe ps = anyNeighbours (touching r foe) ps ↔
      ∀ k, PassAt (touching r foe) ps k →
        ∃ j, PassAt (fun prev iter => weak foe iter && touching r foe prev iter) ps j := by
  have hscan : linearScan r foe ps = true ↔
      ∃ j, PassAt (fun prev iter => weak foe iter && touching r foe prev iter) ps j :=
    anyNeighbours_iff _ ps
  rw [Bool.eq_iff_iff, hscan, anyNeighbours_iff]
  constructor
  · exact fun hiff k hk => hiff.mpr ⟨k, hk⟩
  · intro h
    refine ⟨?_, fun ⟨k, hk⟩ => h k hk⟩
    rintro ⟨j, prev, iter, hprev, hiter, hpass⟩
    exact ⟨j, prev, iter, hprev, hiter, (Bool.and_eq_true_iff.mp hpass).2⟩

/-- Consecutive parts are at most 42 apart. -/
def StepSpaced (ps : List (Body F)) : Prop :=
  ∀ k a b, ps[k]? = some a → ps[k + 1]? = some b → Within 42 (b.pt - a.pt)

theorem intersectCircle_iff (cx cy px py r : F) :
    Math.intersectCircle cx cy px py r = true ↔ normSq ((cx, cy) - (px, py)) ≤ r * r :=
  decide_eq_true_iff

variable [IsStrictOrderedRing F]

private theorem weak_of_touching {r : F} {foe : BoundBoxPos F} {prev iter : Body F}
    (hpos : 0 ≤ foe.r + r) (hreach : foe.r + r ≤ 42) (hgap : Within 42 (iter.pt - prev.pt))
    (h : touching r foe prev iter = true) : weak foe iter = true := by
  have hfilter : ((WorldConfig.moveStepDistance * 2 : ℕ) : F) = 84 := by norm_num
  have hnear : ∀ {q : F × F} {d : F}, Within d (iter.pt - q) → d ≤ 42 →
      normSq (q - (foe.x, foe.y)) ≤ (foe.r + r) * (foe.r + r) →
      Within 84 (iter.pt - (foe.x, foe.y)) := by
    intro q d hq hd hclose
    have hfoe : Within (foe.r + r) (q - (foe.x, foe.y)) := ⟨hpos, hclose⟩
    have hsum := (hq.add hfoe).mono (show d + (foe.r + r) ≤ 84 by linarith)
    rwa [sub_add_sub_cancel] at hsum
  have hself : Within 0 (iter.pt - iter.pt) := by
    rw [sub_self]
    exact .zero le_rfl
  have hhalf : Within 21 (iter.pt -
      (iter.x + (prev.x - iter.x) / 2, iter.y + (prev.y - iter.y) / 2)) := by
    have hmid := hgap.smul (show (0 : F) ≤ 1 / 2 by norm_num)
    have hpoint : iter.pt - (iter.x + (prev.x - iter.x) / 2, iter.y + (prev.y - iter.y) / 2) =
        (1 / 2 : F) • (iter.pt - prev.pt) := by
      ext <;> simp only [Body.pt, Prod.fst_sub, Prod.snd_sub, Prod.smul_fst, Prod.smul_snd,
        smul_eq_mul] <;> ring
    rw [hpoint]
    exact hmid.mono (by norm_num)
  have hwithin : Within 84 (iter.pt - (foe.x, foe.y)) := by
    unfold touching at h
    rw [Bool.or_eq_true, Bool.or_eq_true, intersectCircle_iff, intersectCircle_iff,
      intersectCircle_iff] at h
    rcases h with (h | h) | h
    · exact hnear hself (by norm_num) h
    · exact hnear hgap le_rfl h
    · exact hnear hhalf (by norm_num) h
  unfold weak
  rw [intersectCircle_iff, hfilter]
  exact hwithin.normSq_le

private theorem linearScan_eq_of_reach {r : F} {foe : BoundBoxPos F} {ps : List (Body F)}
    (hpos : 0 ≤ foe.r + r) (hreach : foe.r + r ≤ 42) (hps : StepSpaced ps) :
    linearScan r foe ps = anyNeighbours (touching r foe) ps := by
  rw [linearScan_agrees_iff]
  rintro k ⟨prev, iter, hprev, hiter, hpass⟩
  have hweak := weak_of_touching hpos hreach (hps k prev iter hprev hiter) hpass
  exact ⟨k, prev, iter, hprev, hiter, Bool.and_eq_true_iff.mpr ⟨hweak, hpass⟩⟩

private theorem linearScan_loses {r : F} (foe : BoundBoxPos F) (hreach : 42 < foe.r + r) :
    ∃ ps : List (Body F), StepSpaced ps ∧
      linearScan r foe ps ≠ anyNeighbours (touching r foe) ps := by
  let prev : Body F := ⟨foe.x + (foe.r + r), foe.y⟩
  let iter : Body F := ⟨foe.x + (foe.r + r) + 42, foe.y⟩
  have hspaced : StepSpaced [prev, iter] := by
    intro k a b ha hb
    have hk : k = 0 := by
      have hlt := (List.getElem?_eq_some_iff.mp hb).1
      simp only [List.length_cons, List.length_nil] at hlt
      omega
    subst hk
    cases ha
    cases hb
    refine ⟨by norm_num, le_of_eq ?_⟩
    simp only [prev, iter, normSq, Body.pt, Prod.fst_sub, Prod.snd_sub]
    ring
  have hpass : touching r foe prev iter = true := by
    unfold touching
    rw [Bool.or_eq_true, Bool.or_eq_true, intersectCircle_iff, intersectCircle_iff]
    refine .inl (.inr (le_of_eq ?_))
    simp only [prev, normSq, Prod.fst_sub, Prod.snd_sub]
    ring
  have hmiss : weak foe iter = false := by
    have hfilter : ((WorldConfig.moveStepDistance * 2 : ℕ) : F) = 84 := by norm_num
    unfold weak
    rw [← Bool.not_eq_true, intersectCircle_iff, hfilter, not_le]
    simp only [iter, normSq, Prod.fst_sub, Prod.snd_sub]
    nlinarith only [hreach]
  refine ⟨[prev, iter], hspaced, ?_⟩
  have hall : anyNeighbours (touching r foe) [prev, iter] = true := by
    rw [anyNeighbours, hpass]
    rfl
  have hscan : linearScan r foe [prev, iter] = false := by
    unfold linearScan
    rw [anyNeighbours, meets_eq, hmiss]
    rfl
  rw [hall, hscan]
  exact Bool.false_ne_true

/-- The filter loses no hit on any body whose parts are at most 42 apart exactly when the radii add
up to at most 42, and on a given body exactly when some pair that passes gets through. -/
theorem prefilter_exact_iff (n k : ℕ) :
    ((∀ (foe : BoundBoxPos F) (ps : List (Body F)), foe.r = Snake.bodyPartRadius k →
        StepSpaced ps → linearScan (Snake.bodyPartRadius n) foe ps =
          anyNeighbours (touching (Snake.bodyPartRadius n) foe) ps) ↔
      Snake.bodyPartRadius k + Snake.bodyPartRadius n ≤ (42 : F)) ∧
    ∀ (foe : BoundBoxPos F) (ps : List (Body F)),
      (linearScan (Snake.bodyPartRadius n) foe ps =
          anyNeighbours (touching (Snake.bodyPartRadius n) foe) ps ↔
        ∀ i, PassAt (touching (Snake.bodyPartRadius n) foe) ps i →
          ∃ j, PassAt (fun prev iter => weak foe iter &&
            touching (Snake.bodyPartRadius n) foe prev iter) ps j) := by
  have hradius : ∀ i : ℕ, (0 : F) ≤ Snake.bodyPartRadius i := by
    intro i
    have hscale := (Snake.partScale_bounds (F := F) i).1
    unfold Snake.bodyPartRadius
    linarith
  refine ⟨⟨fun h => ?_, fun hreach foe ps hr hps => ?_⟩, fun foe ps =>
    linearScan_agrees_iff _ foe ps⟩
  · by_contra hlarge
    obtain ⟨ps, hps, hlost⟩ := linearScan_loses
      ⟨0, 0, Snake.bodyPartRadius k⟩ (not_le.mp hlarge)
    exact hlost (h _ ps rfl hps)
  · refine linearScan_eq_of_reach (add_nonneg ?_ (hradius n)) ?_ hps
    · rw [hr]
      exact hradius k
    · rwa [hr]

/-- Two snakes of three parts are small enough: a part that touches is not passed over. -/
theorem prefilter_exact_iff_newborn :
    linearScan (Snake.bodyPartRadius 3) ⟨0, 0, Snake.bodyPartRadius 3⟩ [(⟨20, 0⟩ : Body ℚ), ⟨62, 0⟩] =
      anyNeighbours (touching (Snake.bodyPartRadius 3) ⟨0, 0, Snake.bodyPartRadius 3⟩)
        [(⟨20, 0⟩ : Body ℚ), ⟨62, 0⟩] := by
  have hspaced : StepSpaced [(⟨20, 0⟩ : Body ℚ), ⟨62, 0⟩] := by
    intro i a b ha hb
    have hi : i = 0 := by
      have hlt := (List.getElem?_eq_some_iff.mp hb).1
      simp only [List.length_cons, List.length_nil] at hlt
      omega
    subst hi
    cases ha
    cases hb
    exact ⟨by norm_num, by norm_num [normSq, Body.pt]⟩
  exact (prefilter_exact_iff 3 3).1.mpr (by decide +kernel) _ _ rfl hspaced

/-- Two snakes of 58 parts reach further than the filter allows for. -/
theorem prefilter_loses :
    ¬ ∀ (n k : ℕ) (foe : BoundBoxPos ℚ) (ps : List (Body ℚ)), foe.r = Snake.bodyPartRadius k →
      StepSpaced ps → linearScan (Snake.bodyPartRadius n) foe ps =
        anyNeighbours (touching (Snake.bodyPartRadius n) foe) ps := by
  intro h
  have hspaced : StepSpaced [(⟨43, 0⟩ : Body ℚ), ⟨85, 0⟩] := by
    intro i a b ha hb
    have hi : i = 0 := by
      have hlt := (List.getElem?_eq_some_iff.mp hb).1
      simp only [List.length_cons, List.length_nil] at hlt
      omega
    subst hi
    cases ha
    cases hb
    exact ⟨by norm_num, by norm_num [normSq, Body.pt]⟩
  have hagree := h 58 58 ⟨0, 0, Snake.bodyPartRadius 58⟩ _ rfl hspaced
  have hscan : linearScan (Snake.bodyPartRadius 58) ⟨0, 0, Snake.bodyPartRadius 58⟩
      [(⟨43, 0⟩ : Body ℚ), ⟨85, 0⟩] = false := by decide +kernel
  have hall : anyNeighbours (touching (Snake.bodyPartRadius 58) ⟨0, 0, Snake.bodyPartRadius 58⟩)
      [(⟨43, 0⟩ : Body ℚ), ⟨85, 0⟩] = true := by decide +kernel
  rw [hscan, hall] at hagree
  cases hagree

end Body

end Slither
