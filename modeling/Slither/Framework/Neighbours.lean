import Mathlib

/-!
# Scans over neighbours

A scan that tests every element of a list together with the one before it, and what becomes of it
when only some stretches of the list are scanned.
-/

namespace Slither.Framework

variable {α : Type*}

/-- Some element passes the test together with the one before it. -/
def anyNeighbours (p : α → α → Bool) : List α → Bool
  | a :: b :: l => p a b || anyNeighbours p (b :: l)
  | _ => false

/-- The elements at `k` and `k + 1` are there and pass the test. -/
def PassAt (p : α → α → Bool) (l : List α) (k : ℕ) : Prop :=
  ∃ a b, l[k]? = some a ∧ l[k + 1]? = some b ∧ p a b = true

private theorem passAt_succ (p : α → α → Bool) (a : α) (l : List α) (k : ℕ) :
    PassAt p (a :: l) (k + 1) ↔ PassAt p l k := by
  simp only [PassAt, List.getElem?_cons_succ]

theorem anyNeighbours_iff (p : α → α → Bool) (l : List α) :
    anyNeighbours p l = true ↔ ∃ k, PassAt p l k := by
  induction l with
  | nil =>
      refine iff_of_false Bool.false_ne_true ?_
      rintro ⟨k, a, b, ha, -⟩
      cases ha
  | cons a l ih =>
      cases l with
      | nil =>
          refine iff_of_false Bool.false_ne_true ?_
          rintro ⟨k, _, b, -, hb, -⟩
          cases hb
      | cons b l =>
          rw [anyNeighbours, Bool.or_eq_true, ih]
          constructor
          · rintro (hp | ⟨k, hk⟩)
            · exact ⟨0, a, b, rfl, rfl, hp⟩
            · exact ⟨k + 1, (passAt_succ p a (b :: l) k).mpr hk⟩
          · rintro ⟨k, hk⟩
            cases k with
            | zero =>
                obtain ⟨_, _, ha, hb, hp⟩ := hk
                cases ha
                cases hb
                exact .inl hp
            | succ k => exact .inr ⟨k, (passAt_succ p a (b :: l) k).mp hk⟩

private theorem passAt_take (p : α → α → Bool) (l : List α) (n k : ℕ) :
    PassAt p (l.take n) k ↔ k + 1 < n ∧ PassAt p l k := by
  unfold PassAt
  by_cases hk : k + 1 < n
  · rw [List.getElem?_take_of_lt (by omega), List.getElem?_take_of_lt hk]
    exact (and_iff_right hk).symm
  · refine iff_of_false ?_ fun h => hk h.1
    rintro ⟨a, b, -, hb, -⟩
    rw [List.getElem?_take_eq_none (by omega)] at hb
    cases hb

private theorem passAt_drop (p : α → α → Bool) (l : List α) (i k : ℕ) :
    PassAt p (l.drop i) k ↔ PassAt p l (i + k) := by
  simp only [PassAt, List.getElem?_drop, Nat.add_assoc]

/-- A stretch of the list, which is scanned only if it is open. -/
structure Window where
  start : ℕ
  size : ℕ
  isOpen : Bool

namespace Window

/-- Both elements lie in the stretch. -/
def Holds (w : Window) (k : ℕ) : Prop := w.start ≤ k ∧ k + 1 < w.start + w.size

def scan (p : α → α → Bool) (l : List α) (w : Window) : Bool :=
  w.isOpen && anyNeighbours p ((l.drop w.start).take w.size)

theorem scan_iff (p : α → α → Bool) (l : List α) (w : Window) :
    w.scan p l = true ↔ w.isOpen = true ∧ ∃ k, w.Holds k ∧ PassAt p l k := by
  rw [scan, Bool.and_eq_true, anyNeighbours_iff]
  refine and_congr_right fun _ => ⟨?_, ?_⟩
  · rintro ⟨k, hk⟩
    rw [passAt_take, passAt_drop] at hk
    exact ⟨w.start + k, ⟨by omega, by omega⟩, hk.2⟩
  · rintro ⟨k, ⟨hstart, hend⟩, hk⟩
    refine ⟨k - w.start, ?_⟩
    rw [passAt_take, passAt_drop, Nat.add_sub_cancel' hstart]
    exact ⟨by omega, hk⟩

/-- The windows together find what the scan of the whole list finds exactly when, if neighbours
pass the test anywhere, some that do lie in an open window. -/
theorem scan_agrees_iff (p : α → α → Bool) (l : List α) (ws : List Window) :
    ws.any (scan p l) = anyNeighbours p l ↔
      ∀ k, PassAt p l k → ∃ j, PassAt p l j ∧ ∃ w ∈ ws, w.isOpen = true ∧ w.Holds j := by
  have hfound : ws.any (scan p l) = true ↔
      ∃ j, PassAt p l j ∧ ∃ w ∈ ws, w.isOpen = true ∧ w.Holds j := by
    rw [List.any_eq_true]
    constructor
    · rintro ⟨w, hw, hscan⟩
      obtain ⟨hopen, k, hk, hpass⟩ := (w.scan_iff p l).mp hscan
      exact ⟨k, hpass, w, hw, hopen, hk⟩
    · rintro ⟨k, hpass, w, hw, hopen, hk⟩
      exact ⟨w, hw, (w.scan_iff p l).mpr ⟨hopen, k, hk, hpass⟩⟩
  rw [Bool.eq_iff_iff, hfound, anyNeighbours_iff]
  constructor
  · intro hiff k hk
    exact hiff.mpr ⟨k, hk⟩
  · intro h
    refine ⟨?_, ?_⟩
    · rintro ⟨j, hj, -⟩
      exact ⟨j, hj⟩
    · rintro ⟨k, hk⟩
      exact h k hk

end Window

end Slither.Framework
