import Slither.Framework.Follow
import Slither.Game.World

/-!
# Spacing of the body

The three loops of `Tick` move the body as a chain that follows its head.  What the step of the head
bounds, the gaps between the parts never exceed.
-/

set_option linter.unusedSectionVars false

namespace Slither

open Framework

variable {F : Type} [Field F] [LinearOrder F] [FloorRing F]

def Body.pt (p : Body F) : F × F := (p.x, p.y)

namespace Snake

/-- The point of part `i`. -/
def point (parts : List (Body F)) (i : ℕ) : F × F := (parts.getD i ⟨0, 0⟩).pt

/-- The share by which `Tick` pulls part `i` on. -/
def followCoeff (i : ℕ) : F :=
  if i < partsSkipCount then 0
  else if i < partsSkipCount + partsStartMoveCount then
    snakeTailK * ((i + 1 - partsSkipCount : ℕ) : F) / (partsStartMoveCount : F)
  else snakeTailK

/-- What part `i` may be away from its predecessor after a step of length `d`. -/
def followGap (d : F) (i : ℕ) : F := (1 - followCoeff i) * d

private theorem pt_pull (k : F) (prev last : Body F) :
    (pull k prev last).pt = blend k prev.pt last.pt := rfl

theorem point_cons_succ (head : Body F) (rest : List (Body F)) (i : ℕ) :
    point (head :: rest) (i + 1) = point rest i := rfl

private theorem point_append_left (xs ys : List (Body F)) {i : ℕ} (h : i < xs.length) :
    point (xs ++ ys) i = point xs i := by
  rw [point, point, List.getD_append _ _ _ _ h]

private theorem point_append_length (xs : List (Body F)) (p : Body F) :
    point (xs ++ [p]) xs.length = p.pt := by
  rw [point, List.getD_append_right _ _ _ _ le_rfl, Nat.sub_self]
  rfl

private theorem point_take (xs : List (Body F)) {i k : ℕ} (h : i < k) :
    point (xs.take k) i = point xs i := by
  rw [point, point, List.getD_eq_getElem?_getD, List.getD_eq_getElem?_getD,
    List.getElem?_take_of_lt h]

/-- The loops between two parts: `rem` is left for the current one and `later` for the next ones,
and the parts that are done are where the chain has them. -/
structure Following (head : Body F) (parts rem later : List (Body F)) (st : MoveLoop F) : Prop where
  pending : rem ++ later = parts.tail.drop st.done.length
  prev : st.prev.pt = point parts st.done.length
  last : st.last.pt = follow followCoeff head.pt (point parts) st.done.length
  moved : ∀ i < st.done.length,
    point st.done i = follow followCoeff head.pt (point parts) (i + 1)
  bbx : st.bbx = ((head :: st.done).map Body.x).sum
  bby : st.bby = ((head :: st.done).map Body.y).sum

namespace Following

variable {head : Body F} {parts rem later : List (Body F)} {old : Body F} {st : MoveLoop F}

private theorem push (h : Following head parts (old :: rem) later st) {p : Body F}
    (hp : p = pull (followCoeff (st.done.length + 1)) st.prev st.last) :
    Following head parts rem later (st.push p old) := by
  have hlen : (st.done ++ [p]).length = st.done.length + 1 := by simp
  have hpt : p.pt = follow followCoeff head.pt (point parts) (st.done.length + 1) := by
    rw [hp, pt_pull, h.prev, h.last]
    rfl
  have hsum : ∀ f : Body F → F, ((head :: (st.done ++ [p])).map f).sum =
      ((head :: st.done).map f).sum + f p := by
    intro f
    rw [← List.cons_append, List.map_append, List.sum_append, List.map_singleton,
      List.sum_singleton]
  constructor
  · show rem ++ later = parts.tail.drop (st.done ++ [p]).length
    rw [hlen, ← List.drop_drop, ← h.pending]
    rfl
  · have hget : parts.tail[st.done.length]? = some old := by
      rw [← List.head?_drop, ← h.pending]
      rfl
    show old.pt = point parts (st.done ++ [p]).length
    rw [hlen, point, List.getD_eq_getElem?_getD, ← List.getElem?_tail, hget]
    rfl
  · show p.pt = follow followCoeff head.pt (point parts) (st.done ++ [p]).length
    rw [hlen, hpt]
  · intro i hi
    rcases Nat.lt_succ_iff_lt_or_eq.mp (hlen ▸ hi : i < st.done.length + 1) with hi | rfl
    · exact (point_append_left _ _ hi).trans (h.moved i hi)
    · exact (point_append_length _ _).trans hpt
  · exact (congrArg (· + p.x) h.bbx).trans (hsum Body.x).symm
  · exact (congrArg (· + p.y) h.bby).trans (hsum Body.y).symm

private theorem of_eq {st' : MoveLoop F} (h : Following head parts rem later st)
    (hdone : st'.done = st.done) (hprev : st'.prev = st.prev) (hlast : st'.last = st.last)
    (hbbx : st'.bbx = st.bbx) (hbby : st'.bby = st.bby) :
    Following head parts rem later st' := by
  obtain ⟨done, prev, last, bbx, bby, i, j, sbb, ss⟩ := st'
  subst hdone hprev hlast hbbx hbby
  exact ⟨h.pending, h.prev, h.last, h.moved, h.bbx, h.bby⟩

private theorem skip (h : Following head parts (old :: rem) later st)
    (hi : st.done.length + 1 < 3) :
    Following head parts rem later (moveSkip st old) := by
  refine h.push ?_
  have hzero : (followCoeff (st.done.length + 1) : F) = 0 := if_pos hi
  simp [hzero, pull, Body.offset]

private theorem intermediate (h : Following head parts (old :: rem) later st)
    (hlo : st.done.length = st.j + 2) (hhi : st.j < 4) :
    Following head parts rem later (moveIntermediate st old) := by
  have hcoeff : (followCoeff (st.done.length + 1) : F) =
      snakeTailK * ((st.j + 1 : ℕ) : F) / (partsStartMoveCount : F) := by
    unfold followCoeff
    rw [hlo, if_neg (by simp only [partsSkipCount]; omega),
      if_pos (by simp only [partsSkipCount, partsStartMoveCount]; omega)]
    congr 4
  have hnext : Following head parts (old :: rem) later { st with j := st.j + 1 } :=
    h.of_eq rfl rfl rfl rfl rfl
  exact hnext.push (by rw [← hcoeff])

theorem tail (h : Following head parts (old :: rem) later st) (hi : 6 ≤ st.done.length) :
    Following head parts rem later (moveTail st old) := by
  have hcoeff : (followCoeff (st.done.length + 1) : F) = snakeTailK := by
    unfold followCoeff
    rw [if_neg (by simp only [partsSkipCount]; omega),
      if_neg (by simp only [partsSkipCount, partsStartMoveCount]; omega)]
  unfold moveTail
  dsimp only
  split
  · apply push
    · exact h.of_eq rfl rfl rfl rfl rfl
    · rw [hcoeff]
  · exact h.push (by rw [hcoeff])

end Following

/-- The loops before the tail. -/
def beforeTail (head newHead : Body F) (rest : List (Body F)) (sbb : SnakeBoundBox F)
    (ss : SectorSeq) : MoveLoop F :=
  let st : MoveLoop F :=
    { done := [], prev := head, last := newHead, bbx := newHead.x, bby := newHead.y
      i := 1, j := 0, sbb := sbb, ss := ss }
  let st := (rest.take (partsSkipCount - 1)).foldl moveSkip st
  let rest := rest.drop (partsSkipCount - 1)
  { (rest.take partsStartMoveCount).foldl moveIntermediate { st with j := 0 } with j := 0 }

theorem moveParts_eq (head newHead : Body F) (rest : List (Body F)) (sbb : SnakeBoundBox F)
    (ss : SectorSeq) :
    moveParts head newHead rest sbb ss =
      ((rest.drop 2).drop 4).foldl moveTail (beforeTail head newHead rest sbb ss) := rfl

section Loops

variable {head : Body F} {parts : List (Body F)} (newHead : Body F) (sbb : SnakeBoundBox F)
  (ss : SectorSeq)

private theorem skip_following (h3 : 3 ≤ parts.length) (hhead : point parts 0 = head.pt) :
    let st := (parts.tail.take 2).foldl moveSkip
      { done := [], prev := head, last := newHead, bbx := newHead.x, bby := newHead.y
        i := 1, j := 0, sbb := sbb, ss := ss }
    Following newHead parts [] (parts.tail.drop 2) st ∧ st.done.length = 2 ∧ st.i = 3 ∧
      st.sbb = sbb ∧ st.ss = ss := by
  intro st
  have hlen : parts.tail.length = parts.length - 1 := List.length_tail
  have hstart : Following newHead parts (parts.tail.take 2) (parts.tail.drop 2)
      { done := [], prev := head, last := newHead, bbx := newHead.x, bby := newHead.y
        i := 1, j := 0, sbb := sbb, ss := ss } :=
    ⟨List.take_append_drop _ _, hhead.symm, rfl, fun i hi => absurd hi (Nat.not_lt_zero i),
      (List.sum_singleton).symm, (List.sum_singleton).symm⟩
  have hloop : Following newHead parts [] (parts.tail.drop 2) st ∧
      st.done.length + ([] : List (Body F)).length ≤ 2 ∧ st.i = st.done.length + 1 ∧
        st.sbb = sbb ∧ st.ss = ss := foldl_inv (f := moveSkip)
    (fun rem st => Following newHead parts rem (parts.tail.drop 2) st ∧
      st.done.length + rem.length ≤ 2 ∧ st.i = st.done.length + 1 ∧ st.sbb = sbb ∧ st.ss = ss)
    (fun old rem st h => ⟨h.1.skip (by have := h.2.1; simp only [List.length_cons] at this; omega),
      by simpa [moveSkip, MoveLoop.push, Nat.add_assoc, Nat.add_comm 1] using h.2.1,
      by simpa [moveSkip, MoveLoop.push] using h.2.2.1, h.2.2.2⟩)
    _ _ ⟨hstart, by simp, rfl, rfl, rfl⟩
  clear_value st
  obtain ⟨hfollow, hle, hi, hsbb, hss⟩ := hloop
  have htwo : st.done.length = 2 := by
    have hpending := congrArg List.length hfollow.pending
    simp only [List.nil_append, List.length_drop, List.length_nil] at hpending hle
    omega
  exact ⟨hfollow, htwo, by omega, hsbb, hss⟩

theorem beforeTail_following (h3 : 3 ≤ parts.length) (hhead : point parts 0 = head.pt) :
    let st := beforeTail head newHead parts.tail sbb ss
    Following newHead parts ((parts.tail.drop 2).drop 4) [] st ∧
      ((parts.tail.drop 2).drop 4 = [] ∨ st.done.length = 6) ∧ st.done.length ≤ 6 ∧ st.j = 0 ∧
        st.i = st.done.length + 1 ∧ st.sbb = sbb ∧ st.ss = ss := by
  obtain ⟨hskip, htwo, hthree, hsbb, hss⟩ := skip_following newHead sbb ss h3 hhead
  unfold beforeTail
  dsimp only [partsSkipCount, partsStartMoveCount, Nat.reduceSub]
  generalize (parts.tail.take 2).foldl moveSkip _ = st at hskip htwo hthree hsbb hss ⊢
  have hmiddle : Following newHead parts ((parts.tail.drop 2).take 4) ((parts.tail.drop 2).drop 4)
      { st with j := 0 } := by
    refine (⟨?_, hskip.prev, hskip.last, hskip.moved, hskip.bbx, hskip.bby⟩ :
      Following newHead parts _ _ { st with j := 0 })
    rw [List.take_append_drop]
    exact hskip.pending
  obtain ⟨hfollow, hj, hle, hi, hsbb, hss⟩ := foldl_inv (f := moveIntermediate)
    (fun rem st => Following newHead parts rem ((parts.tail.drop 2).drop 4) st ∧
      st.done.length = st.j + 2 ∧ st.j + rem.length ≤ 4 ∧ st.i = st.done.length + 1 ∧
        st.sbb = sbb ∧ st.ss = ss)
    (fun old rem st h => ⟨h.1.intermediate h.2.1
        (by have := h.2.2.1; simp only [List.length_cons] at this; omega),
      by simp [moveIntermediate, MoveLoop.push, h.2.1],
      by simpa [moveIntermediate, MoveLoop.push, Nat.add_assoc, Nat.add_comm 1] using h.2.2.1,
      by simpa [moveIntermediate, MoveLoop.push] using h.2.2.2.1, h.2.2.2.2⟩)
    _ _ ⟨hmiddle, htwo, by simp, by simpa [htwo] using hthree, hsbb, hss⟩
  generalize ((parts.tail.drop 2).take 4).foldl moveIntermediate _ = st
    at hfollow hj hle hi hsbb hss ⊢
  have hpending := congrArg List.length hfollow.pending
  simp only [List.nil_append, List.length_drop, List.length_nil] at hpending hle
  refine ⟨(⟨?_, hfollow.prev, hfollow.last, hfollow.moved, hfollow.bbx, hfollow.bby⟩ :
    Following newHead parts _ _ { st with j := 0 }), ?_, ?_, rfl, hi, hsbb, hss⟩
  · rw [List.append_nil]
    exact hfollow.pending
  · refine or_iff_not_imp_left.mpr fun hne => ?_
    have hpos := List.length_pos_of_ne_nil hne
    simp only [List.length_drop] at hpos
    show st.done.length = 6
    omega
  · show st.done.length ≤ 6
    omega

end Loops

/-- The loops move the body as a chain. -/
private theorem moveParts_following (head newHead : Body F) (parts : List (Body F))
    (h3 : 3 ≤ parts.length)
    (hhead : point parts 0 = head.pt) (sbb : SnakeBoundBox F) (ss : SectorSeq) :
    Following newHead parts [] [] (moveParts head newHead parts.tail sbb ss) := by
  obtain ⟨hstart, hsix, -⟩ := beforeTail_following newHead sbb ss h3 hhead
  rw [moveParts_eq]
  refine (foldl_inv (f := moveTail)
    (fun rem st => Following newHead parts rem [] st ∧ (rem = [] ∨ 6 ≤ st.done.length)) ?_
    _ _ ⟨hstart, hsix.imp_right ge_of_eq⟩).1
  rintro old rem st ⟨h, hrem | hsix⟩
  · cases hrem
  · exact ⟨h.tail hsix, .inr (by rw [length_moveTail]; omega)⟩

theorem point_zero (s : Snake F) : point s.parts 0 = s.getHead.pt := by
  unfold point getHead
  cases s.parts <;> rfl

theorem moveLoops_following (s : Snake F) (ss : SectorSeq) (newHead : Body F) :
    Following newHead s.parts [] [] (s.moveLoops ss newHead) :=
  moveParts_following _ _ _ s.size_parts s.point_zero _ _

theorem length_settled (s : Snake F) (ss : SectorSeq) (newHead : Body F) :
    (s.settled ss newHead).parts.length = s.parts.length := by
  have hsize := s.size_parts
  show (newHead :: (s.moveLoops ss newHead).done).length = _
  rw [List.length_cons, length_moveLoops, List.length_tail]
  omega

theorem point_settled (s : Snake F) (ss : SectorSeq) (newHead : Body F) {i : ℕ}
    (hi : i < s.parts.length) :
    point (s.settled ss newHead).parts i =
      follow followCoeff newHead.pt (point s.parts) i := by
  cases i with
  | zero => rfl
  | succ i =>
      refine (s.moveLoops_following ss newHead).moved i ?_
      rw [length_moveLoops, List.length_tail]
      omega

/-- The gaps between the parts of a snake. -/
def SpacedBy (gap : ℕ → F) (s : Snake F) : Prop := Spaced gap s.parts.length (point s.parts)

theorem decreaseSnake_parts (s : Snake F) (ss : SectorSeq) (volume : ℕ) :
    ∃ k ≤ s.parts.length, (s.decreaseSnake ss volume).1.parts = s.parts.take k := by
  have hdrop : ∀ st : Snake F × SectorSeq,
      (∃ k ≤ s.parts.length, st.1.parts = s.parts.take k) →
      ∃ k ≤ s.parts.length, (dropPart st).1.parts = s.parts.take k := by
    rintro st ⟨k, hk, hparts⟩
    unfold dropPart
    split
    · refine ⟨k - 1, by omega, ?_⟩
      show (st.1.spawnFood st.2 _).1.parts.dropLast = _
      rw [spawnFood_parts, hparts, List.dropLast_eq_take, List.take_take, List.length_take]
      congr 1
      omega
    · exact ⟨k, hk, hparts⟩
  have hself : ∃ k ≤ s.parts.length, s.parts = s.parts.take k :=
    ⟨_, le_rfl, (List.take_length).symm⟩
  unfold decreaseSnake
  dsimp only [updateSnakeConsts]
  split
  · exact foldl_inv (fun _ (st : Snake F × SectorSeq) =>
      ∃ k ≤ s.parts.length, st.1.parts = s.parts.take k) (fun _ _ st h => hdrop st h) _ (s, ss) hself
  · exact hself

private theorem SpacedBy.decrease {gap : ℕ → F} {s : Snake F} (h : s.SpacedBy gap) (ss : SectorSeq)
    (volume : ℕ) : (s.decreaseSnake ss volume).1.SpacedBy gap := by
  obtain ⟨k, hk, hparts⟩ := s.decreaseSnake_parts ss volume
  unfold SpacedBy
  rw [hparts, List.length_take_of_le hk]
  exact (Spaced.mono h hk).congr fun i hi => point_take s.parts hi

section Order

variable [IsStrictOrderedRing F]

private theorem SpacedBy.increase {gap : ℕ → F} {s : Snake F} (h : s.SpacedBy gap)
    (hgap : ∀ i, 0 ≤ gap i) (volume : ℕ) : (s.increaseSnake volume).SpacedBy gap := by
  unfold increaseSnake
  dsimp only
  split
  · have hsize := s.size_parts
    have hlast : point (s.parts ++ [s.getBack]) s.parts.length =
        point s.parts (s.parts.length - 1) := by
      rw [point_append_length, point, getBack, List.getLastD_eq_getLast?, List.getD_eq_getElem?_getD,
        List.getLast?_eq_getElem?]
    show Spaced gap (s.parts ++ [s.getBack]).length (point (s.parts ++ [s.getBack]))
    rw [List.length_append, List.length_singleton]
    exact Spaced.succ h hgap (fun i hi => point_append_left _ _ hi) hlast
  · exact h

theorem followCoeff_mem (i : ℕ) : (0 : F) ≤ followCoeff i ∧ (followCoeff i : F) ≤ snakeTailK := by
  unfold followCoeff snakeTailK partsStartMoveCount
  split
  · constructor <;> norm_num
  · split
    · have hi : ((i + 1 - partsSkipCount : ℕ) : F) ≤ 4 := by
        have : i + 1 - partsSkipCount ≤ 4 := by simp only [partsSkipCount] at *; omega
        exact_mod_cast this
      have hpos : (0 : F) ≤ ((i + 1 - partsSkipCount : ℕ) : F) := Nat.cast_nonneg _
      constructor
      · positivity
      · push_cast
        linarith
    · constructor <;> norm_num

theorem followCoeff_lt_one (i : ℕ) : (followCoeff i : F) < 1 :=
  (followCoeff_mem i).2.trans_lt (by norm_num [snakeTailK])

theorem followCoeff_mono : Monotone (followCoeff : ℕ → F) := by
  refine monotone_nat_of_le_succ fun i => ?_
  by_cases hi : i + 1 < 7
  · have hcases : i = 0 ∨ i = 1 ∨ i = 2 ∨ i = 3 ∨ i = 4 ∨ i = 5 := by omega
    rcases hcases with rfl | rfl | rfl | rfl | rfl | rfl <;>
      norm_num [followCoeff, snakeTailK, partsSkipCount, partsStartMoveCount]
  · have hlast : (followCoeff (i + 1) : F) = snakeTailK := by
      unfold followCoeff
      rw [if_neg (by simp only [partsSkipCount]; omega),
        if_neg (by simp only [partsSkipCount, partsStartMoveCount]; omega)]
    rw [hlast]
    exact (followCoeff_mem i).2

private theorem followGap_nonneg {d : F} (hd : 0 ≤ d) (i : ℕ) : 0 ≤ followGap d i :=
  mul_nonneg (sub_nonneg.mpr (followCoeff_lt_one i).le) hd

end Order

end Snake

/-- What changes the body of a snake. -/
inductive BodyOp (F : Type)
  /-- A move of the head by a step, and of the body behind it. -/
  | move (ss : SectorSeq) (step : F × F)
  /-- `IncreaseSnake`. -/
  | increase (volume : ℕ)
  /-- `DecreaseSnake`. -/
  | decrease (ss : SectorSeq) (volume : ℕ)

namespace BodyOp

def perform (s : Snake F) : BodyOp F → Snake F
  | move ss step =>
      let newHead := s.getHead.offset step.1 step.2
      ((s.settled ss newHead).leaveSectors (s.moveLoops ss newHead).ss).1
  | increase volume => s.increaseSnake volume
  | decrease ss volume => (s.decreaseSnake ss volume).1

/-- The step of the head is no longer than `d`. -/
def StepWithin (d : F) : BodyOp F → Prop
  | move _ step => Within d step
  | _ => True

private theorem perform_moveBody (m : Libm F) (moveDist : F) (s : Snake F) (ss : SectorSeq) :
    perform s (.move ss (m.cosf s.angle * moveDist, m.sinf s.angle * moveDist)) =
      (s.moveBody m moveDist ss).1 := rfl

private theorem offset_sub (p : Body F) (step : F × F) :
    (p.offset step.1 step.2).pt - p.pt = step := by
  ext <;> simp [Body.pt, Body.offset]

variable [IsStrictOrderedRing F] {d : F} {s : Snake F} {op : BodyOp F}

private theorem perform_spaced {gap : ℕ → F} (hgap : ∀ i, 0 ≤ gap i)
    (hfollow : ∀ {head : F × F} {n : ℕ} {P : ℕ → F × F}, Within d (head - P 0) → Spaced gap n P →
      Spaced gap n (follow Snake.followCoeff head P))
    (hop : op.StepWithin d) (h : s.SpacedBy gap) : (op.perform s).SpacedBy gap := by
  cases op with
  | move ss step =>
      have hstep : Within d ((s.getHead.offset step.1 step.2).pt - Snake.point s.parts 0) := by
        rw [s.point_zero, offset_sub]
        exact hop
      unfold Snake.SpacedBy at h
      rw [← s.length_settled ss (s.getHead.offset step.1 step.2)] at h
      refine (hfollow hstep h).congr fun i hi => s.point_settled ss _ ?_
      rwa [s.length_settled] at hi
  | increase volume => exact h.increase hgap volume
  | decrease ss volume => exact h.decrease ss volume

private theorem perform_spaced_le (hop : op.StepWithin d) (hd : 0 ≤ d)
    (h : s.SpacedBy fun _ => d) : (op.perform s).SpacedBy fun _ => d :=
  perform_spaced (fun _ => hd)
    (follow_spaced_le (fun i => ⟨(Snake.followCoeff_mem i).1, Snake.followCoeff_lt_one i⟩)
      Snake.followCoeff_mono rfl) hop h

private theorem perform_spaced_profile (hop : op.StepWithin d) (hd : 0 ≤ d)
    (h : s.SpacedBy (Snake.followGap d)) : (op.perform s).SpacedBy (Snake.followGap d) :=
  perform_spaced (Snake.followGap_nonneg hd)
    (follow_spaced_profile fun i =>
      ⟨(Snake.followCoeff_mem i).1, (Snake.followCoeff_lt_one i).le⟩) hop h

private theorem foldl_spaced {gap : ℕ → F}
    (hperform : ∀ {s : Snake F} {op : BodyOp F}, op.StepWithin d → s.SpacedBy gap →
      (op.perform s).SpacedBy gap)
    {ops : List (BodyOp F)} (hops : ∀ op ∈ ops, op.StepWithin d) (h : s.SpacedBy gap) :
    (ops.foldl perform s).SpacedBy gap := by
  induction ops generalizing s with
  | nil => exact h
  | cons op ops ih =>
      obtain ⟨hop, hrest⟩ := List.forall_mem_cons.mp hops
      exact ih hrest (hperform hop h)

/-- A bound on every step of the head bounds the gaps of the body at any time, and the gaps that
such steps leave behind are kept as well.  A movement frame of `Tick` is such a step. -/
theorem spacing_bounded (hd : 0 < d) (s : Snake F) (ops : List (BodyOp F))
    (hops : ∀ op ∈ ops, op.StepWithin d) :
    ((s.SpacedBy fun _ => d) → (ops.foldl perform s).SpacedBy fun _ => d) ∧
      (s.SpacedBy (Snake.followGap d) → (ops.foldl perform s).SpacedBy (Snake.followGap d)) ∧
      ∀ (m : Libm F) (moveDist : F) (ss : SectorSeq),
        Within d (m.cosf s.angle * moveDist, m.sinf s.angle * moveDist) →
        ((s.SpacedBy fun _ => d) → (s.moveBody m moveDist ss).1.SpacedBy fun _ => d) ∧
          (s.SpacedBy (Snake.followGap d) →
            (s.moveBody m moveDist ss).1.SpacedBy (Snake.followGap d)) := by
  refine ⟨foldl_spaced (fun hop h => perform_spaced_le hop hd.le h) hops,
    foldl_spaced (fun hop h => perform_spaced_profile hop hd.le h) hops,
    fun m moveDist ss hstep => ?_⟩
  rw [← perform_moveBody]
  exact ⟨perform_spaced_le hstep hd.le, perform_spaced_profile hstep hd.le⟩

/-- A step of a new snake of three parts, which then grows and shrinks. -/
theorem spacing_bounded_newborn :
    let s : Snake ℚ := Snake.newborn Libm.axis 1 9 21600 21600 0 0
    let ops : List (BodyOp ℚ) :=
      [.move SectorSeq.init (-42, 0), .increase 100, .decrease SectorSeq.init 33]
    (ops.foldl perform s).SpacedBy fun _ => 42 := by
  intro s ops
  have hops : ∀ op ∈ ops, op.StepWithin 42 := by
    intro op hop
    simp only [ops, List.mem_cons, List.not_mem_nil, or_false] at hop
    rcases hop with rfl | rfl | rfl
    · exact ⟨by norm_num, by norm_num [normSq]⟩
    · trivial
    · trivial
  have hspaced : s.SpacedBy fun _ => 42 := by
    intro i hi
    have hcases : i = 0 ∨ i = 1 := by
      have hlen : s.parts.length = 3 := by decide +kernel
      omega
    rcases hcases with rfl | rfl <;> exact ⟨by decide +kernel, by decide +kernel⟩
  exact (spacing_bounded (by norm_num) s ops hops).1 hspaced

end BodyOp

end Slither
