import Slither.Framework.Keyed

/-!
# Events that commute

Events carry keys, and two events under different keys can change places.  Then the outcome of a
list of events depends only on what the list holds under each key.
-/

namespace Slither.Framework

variable {σ ε κ : Type*}

/-- In the states `I`, events under different keys can be handled in either order, up to `r`. -/
structure Commuting (key : ε → κ) (f : σ → ε → σ) (I : σ → Prop) (r : σ → σ → Prop) : Prop where
  equiv : Equivalence r
  keeps : ∀ s e, I s → I (f s e)
  congr : ∀ s t e, I s → I t → r s t → r (f s e) (f t e)
  comm : ∀ s a b, I s → key a ≠ key b → r (f (f s a) b) (f (f s b) a)

namespace Commuting

variable {key : ε → κ} {f : σ → ε → σ} {I : σ → Prop} {r : σ → σ → Prop}

theorem foldl_keeps (h : Commuting key f I r) (es : List ε) {s : σ} (hs : I s) :
    I (es.foldl f s) := by
  induction es generalizing s with
  | nil => exact hs
  | cons e es ih => exact ih (h.keeps s e hs)

private theorem foldl_congr (h : Commuting key f I r) (es : List ε) {s t : σ} (hs : I s) (ht : I t)
    (hst : r s t) : r (es.foldl f s) (es.foldl f t) := by
  induction es generalizing s t with
  | nil => exact hst
  | cons e es ih => exact ih (h.keeps s e hs) (h.keeps t e ht) (h.congr s t e hs ht hst)

private theorem foldl_front (h : Commuting key f I r) {before : List ε} {a : ε} (after : List ε)
    (hne : ∀ b ∈ before, key b ≠ key a) {s : σ} (hs : I s) :
    r ((before ++ a :: after).foldl f s) ((before ++ after).foldl f (f s a)) := by
  induction before generalizing s with
  | nil => exact h.equiv.refl _
  | cons b before ih =>
      have hb : key b ≠ key a := hne b (List.mem_cons_self ..)
      have hfront := ih (fun c hc => hne c (List.mem_cons_of_mem _ hc)) (h.keeps s b hs)
      apply h.equiv.trans hfront
      apply h.foldl_congr
      · exact h.keeps _ a (h.keeps s b hs)
      · exact h.keeps _ b (h.keeps s a hs)
      · exact h.comm s b a hs hb

variable [DecidableEq κ]

private theorem filter_rest {a : ε} {as before after : List ε} (hne : ∀ b ∈ before, key b ≠ key a)
    (hsame : ∀ k, (a :: as).filter (fun e => key e = k) =
      (before ++ a :: after).filter fun e => key e = k) (k : κ) :
    as.filter (fun e => key e = k) = (before ++ after).filter fun e => key e = k := by
  have hk := hsame k
  rw [List.filter_append] at hk ⊢
  by_cases hka : key a = k
  · have hnone : before.filter (fun e => key e = k) = [] := by
      rw [List.filter_eq_nil_iff]
      intro b hb
      have hbk : key b ≠ k := hka ▸ hne b hb
      simpa using hbk
    rw [hnone, List.filter_cons_of_pos (by simpa using hka),
      List.filter_cons_of_pos (by simpa using hka)] at hk
    rw [hnone]
    exact (List.cons.inj hk).2
  · rw [List.filter_cons_of_neg (by simpa using hka),
      List.filter_cons_of_neg (by simpa using hka)] at hk
    exact hk

/-- Two lists that hold the same events under each key lead to the same outcome. -/
theorem foldl_of_filter (h : Commuting key f I r) {as bs : List ε}
    (hsame : ∀ k, as.filter (fun e => key e = k) = bs.filter fun e => key e = k) {s t : σ}
    (hs : I s) (ht : I t) (hst : r s t) : r (as.foldl f s) (bs.foldl f t) := by
  induction as generalizing bs s t with
  | nil =>
      cases bs with
      | nil => exact hst
      | cons b bs =>
          have hb := hsame (key b)
          rw [List.filter_cons_of_pos (by simp)] at hb
          cases hb
  | cons a as ih =>
      have ha := hsame (key a)
      rw [List.filter_cons_of_pos (by simp)] at ha
      obtain ⟨before, after, rfl, hbefore, -, -⟩ := List.filter_eq_cons_iff.mp ha.symm
      have hne : ∀ b ∈ before, key b ≠ key a := fun b hb => by simpa using hbefore b hb
      have hrest := ih (filter_rest hne hsame) (h.keeps s a hs) (h.keeps t a ht)
        (h.congr s t a hs ht hst)
      exact h.equiv.trans hrest (h.equiv.symm (h.foldl_front after hne ht))

end Commuting

namespace Keyed

variable {α : Type*} [DecidableEq κ] {key : α → κ}

theorem replace_comm (m : Keyed key) {a b : α} (h : key a ≠ key b) :
    (m.replace a).replace b = (m.replace b).replace a := by
  ext1
  simp only [replace, List.map_map]
  apply List.map_congr_left
  intro c _
  by_cases ha : key c = key a
  · have hb : key c ≠ key b := fun hb => h (ha.symm.trans hb)
    simp [ha, h]
  · by_cases hb : key c = key b
    · simp [hb, Ne.symm h]
    · simp [ha, hb]

end Keyed

end Slither.Framework
