import Slither.Framework.Neighbours
import Slither.Game.Bounds

/-!
# The windows of the exact test

`Intersect` does not scan a long body as a whole.  It scans one stretch at the head and one around
every twelfth part from the thirteenth on, each only if its middle part is near the foe.
-/

set_option linter.unusedSectionVars false

namespace Slither

open Framework

variable {F : Type} [Field F] [LinearOrder F] [FloorRing F]

namespace Body

/-- The test of the scan for a part `iter` and the part `prev` before it, on a body whose parts
have the radius `r`. -/
def meets (r : F) (foe : BoundBoxPos F) (prev iter : Body F) : Bool :=
  Math.intersectCircle iter.x iter.y foe.x foe.y ((WorldConfig.moveStepDistance * 2 : ℕ) : F) &&
    (Math.intersectCircle iter.x iter.y foe.x foe.y (foe.r + r) ||
      Math.intersectCircle prev.x prev.y foe.x foe.y (foe.r + r) ||
      Math.intersectCircle (iter.x + (prev.x - iter.x) / 2) (iter.y + (prev.y - iter.y) / 2)
        foe.x foe.y (foe.r + r))

/-- The test that opens a window: part `i` is within half a sector of the foe. -/
def near (foe : BoundBoxPos F) (parts : List (Body F)) (i : ℕ) : Bool :=
  Math.intersectCircle (parts.getD i ⟨0, 0⟩).x (parts.getD i ⟨0, 0⟩).y foe.x foe.y
    ((WorldConfig.sectorSize / 2 : ℕ) : F)

/-- `Intersect(foe, prev, iter, end)` over a whole body. -/
def linearScan (r : F) (foe : BoundBoxPos F) (parts : List (Body F)) : Bool :=
  anyNeighbours (meets r foe) parts

def headWindow (foe : BoundBoxPos F) (parts : List (Body F)) : Window :=
  { start := 0, size := 9, isOpen := near foe parts 3 }

/-- The window around part `i` of the tail. -/
def tailWindow (foe : BoundBoxPos F) (parts : List (Body F)) (i : ℕ) : Window :=
  { start := i - Snake.tailStepHalf, size := 2 * Snake.tailStepHalf, isOpen := near foe parts i }

/-- The middles of the tail windows of a body of `len` parts. -/
def middles (len : ℕ) : List ℕ :=
  List.range' (7 + Snake.tailStepHalf)
    ((len - (7 + Snake.tailStepHalf) + (Snake.tailStep - 1)) / Snake.tailStep) Snake.tailStep

def windows (foe : BoundBoxPos F) (parts : List (Body F)) : List Window :=
  headWindow foe parts :: (middles parts.length).map (tailWindow foe parts)

/-- `Intersect(foe)` on the two fields it reads, so also for bodies shorter than a snake's. -/
def windowedScan (r : F) (foe : BoundBoxPos F) (parts : List (Body F)) : Bool :=
  if parts.length ≤ Snake.headSize + Snake.tailStep then linearScan r foe parts
  else (windows foe parts).any (Window.scan (meets r foe) parts)

end Body

namespace Snake

private theorem intersectParts_eq (s : Snake F) (foe : BoundBoxPos F) (ps : List (Body F)) :
    s.intersectParts foe ps = Body.linearScan s.sbpr foe ps := by
  unfold Body.linearScan
  induction ps with
  | nil => rfl
  | cons p ps ih =>
      cases ps with
      | nil => rfl
      | cons q ps =>
          rw [intersectParts, anyNeighbours, ih]
          rfl

theorem intersect_eq (s : Snake F) (foe : BoundBoxPos F) :
    s.intersect foe = Body.windowedScan s.sbpr foe s.parts := by
  unfold intersect Body.windowedScan
  dsimp only
  split
  · exact s.intersectParts_eq foe s.parts
  · simp only [intersectParts_eq]
    rw [Body.windows, List.any_cons, List.any_map]
    rfl

end Snake

namespace Body

private theorem mem_middles (len i : ℕ) : i ∈ middles len ↔ i < len ∧ ∃ j, i = 13 + 12 * j := by
  have hrange : i ∈ middles len ↔ ∃ j < (len - 13 + 11) / 12, i = 13 + 12 * j :=
    List.mem_range'
  rw [hrange]
  constructor
  · rintro ⟨j, hj, rfl⟩
    exact ⟨by omega, j, rfl⟩
  · rintro ⟨hlt, j, rfl⟩
    exact ⟨j, by omega, rfl⟩

/-- The parts `k` and `k + 1` lie in a window that is open: among the first nine parts with part 3
near the foe, or among the six parts before part 13, 25, … and the five after, with that part near
the foe. -/
def Seen (foe : BoundBoxPos F) (parts : List (Body F)) (k : ℕ) : Prop :=
  k < 8 ∧ near foe parts 3 = true ∨
    ∃ j, 13 + 12 * j < parts.length ∧ 7 + 12 * j ≤ k ∧ k < 18 + 12 * j ∧
      near foe parts (13 + 12 * j) = true

private theorem seen_iff (foe : BoundBoxPos F) (parts : List (Body F)) (k : ℕ) :
    Seen foe parts k ↔ ∃ w ∈ windows foe parts, w.isOpen = true ∧ w.Holds k := by
  unfold Seen windows
  simp only [List.mem_cons, exists_eq_or_imp, List.mem_map, mem_middles]
  refine or_congr ?_ ?_
  · constructor
    · rintro ⟨hk, hnear⟩
      exact ⟨hnear, Nat.zero_le k, show k + 1 < 0 + 9 by omega⟩
    · rintro ⟨hnear, -, hk⟩
      exact ⟨show k < 8 by
        have : k + 1 < 0 + 9 := hk
        omega, hnear⟩
  · constructor
    · rintro ⟨j, hlt, hlo, hhi, hnear⟩
      refine ⟨_, ⟨13 + 12 * j, ⟨hlt, j, rfl⟩, rfl⟩, hnear, ?_, ?_⟩
      · show 13 + 12 * j - 6 ≤ k
        omega
      · show k + 1 < 13 + 12 * j - 6 + 12
        omega
    · rintro ⟨_, ⟨_, ⟨hlt, j, rfl⟩, rfl⟩, hnear, hlo, hhi⟩
      have hlo' : 13 + 12 * j - 6 ≤ k := hlo
      have hhi' : k + 1 < 13 + 12 * j - 6 + 12 := hhi
      exact ⟨j, hlt, by omega, by omega, hnear⟩

/-- The windows find what the scan of the whole body finds exactly when the body is short, or when
the foe, if it meets the body at all, meets it somewhere in an open window. -/
theorem windows_agree_iff (r : F) (foe : BoundBoxPos F) (parts : List (Body F)) :
    windowedScan r foe parts = linearScan r foe parts ↔
      parts.length ≤ 20 ∨ ∀ k, PassAt (meets r foe) parts k →
        ∃ j, PassAt (meets r foe) parts j ∧ Seen foe parts j := by
  unfold windowedScan
  split
  · rename_i hshort
    exact iff_of_true rfl (.inl hshort)
  · rename_i hlong
    have hlen : ¬ parts.length ≤ 20 := hlong
    rw [linearScan, Window.scan_agrees_iff, or_iff_right hlen]
    simp only [seen_iff]

/-- Consecutive parts are at most 42 apart up to part 7, and at most 24 from there on. -/
def Close (parts : List (Body F)) : Prop :=
  ∀ k a b, parts[k]? = some a → parts[k + 1]? = some b →
    Math.distanceSquared a.x a.y b.x b.y ≤ if k < 7 then 42 * 42 else 24 * 24

/-- A straight body of 21 parts. -/
def straight : List (Body ℚ) :=
  (List.range 21).map fun k => ⟨if k ≤ 7 then 42 * k else 126 + 24 * k, 0⟩

private theorem straight_close : Close straight := by
  intro k a b ha hb
  have hk : k < 20 := by
    obtain ⟨hlen, -⟩ := List.getElem?_eq_some_iff.mp hb
    have hlen' : k + 1 < 21 := hlen
    omega
  have hall : ∀ k < 20, ∀ a ∈ straight[k]?, ∀ b ∈ straight[k + 1]?,
      Math.distanceSquared a.x a.y b.x b.y ≤ if k < 7 then 42 * 42 else 24 * 24 := by
    decide +kernel
  exact hall k hk a ha b hb

/-- The first tail window ends at part 18, and the next one would start at part 19 only on a body
of more than 25 parts.  The foe touches part 20. -/
theorem windows_disagree :
    ¬ ∀ (parts : List (Body ℚ)) (foe : BoundBoxPos ℚ) (n : ℕ), 2 ≤ parts.length → Close parts →
      foe.r = Snake.bodyPartRadius n →
        windowedScan (Snake.bodyPartRadius parts.length) foe parts =
          linearScan (Snake.bodyPartRadius parts.length) foe parts := by
  intro h
  have hagree := h straight ⟨636, 0, Snake.bodyPartRadius 3⟩ 3 (by decide) straight_close rfl
  have hmiss : windowedScan (Snake.bodyPartRadius straight.length)
      ⟨636, 0, Snake.bodyPartRadius 3⟩ straight = false := by decide +kernel
  have hhit : linearScan (Snake.bodyPartRadius straight.length)
      ⟨636, 0, Snake.bodyPartRadius 3⟩ straight = true := by decide +kernel
  rw [hmiss, hhit] at hagree
  cases hagree

end Body

end Slither
