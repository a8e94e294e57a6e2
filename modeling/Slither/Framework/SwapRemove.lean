import Slither.Framework.Post

/-!
# Filtering a vector in place by swapping with the last element

The loop looks at one slot at a time.  A dropped element is overwritten by the last one and the
slot is looked at again, so the loop filters the vector but does not keep its order; sorting
afterwards restores it.
-/

namespace Slither.Framework

variable {α σ : Type*}

/-- Overwrite slot `i` by the last element and shrink; false when slot `i` was the last one. -/
def removeUnsorted (xs : List α) (i : ℕ) : List α × Bool :=
  if i + 1 ≠ xs.length then
    match xs.getLast? with
    | some z => ((xs.set i z).dropLast, true)
    | none => (xs, true)
  else (xs.dropLast, false)

/-- The removal loop from slot `i`, reporting every dropped element to `onDrop`. -/
def swapRemoveLoop (keep : α → Bool) (onDrop : σ → α → σ) :
    ℕ → ℕ → List α → σ → List α × σ
  | 0, _, xs, st => (xs, st)
  | fuel + 1, i, xs, st =>
      match xs[i]? with
      | none => (xs, st)
      | some a =>
          if keep a then swapRemoveLoop keep onDrop fuel (i + 1) xs st
          else
            match removeUnsorted xs i with
            | (ys, true) => swapRemoveLoop keep onDrop fuel i ys (onDrop st a)
            | (ys, false) => (ys, onDrop st a)

private theorem removeUnsorted_length {xs ys : List α} {i : ℕ} {more : Bool} (h : 0 < xs.length)
    (hremove : removeUnsorted xs i = (ys, more)) : ys.length + 1 = xs.length := by
  unfold removeUnsorted at hremove
  split at hremove
  · rw [List.getLast?_eq_some_getLast (List.ne_nil_of_length_pos h)] at hremove
    cases hremove
    rw [List.length_dropLast, List.length_set]
    omega
  · cases hremove
    rw [List.length_dropLast]
    omega

private theorem removeUnsorted_last (pre : List α) (a : α) :
    removeUnsorted (pre ++ [a]) pre.length = (pre, false) := by
  simp [removeUnsorted]

private theorem removeUnsorted_swap (pre mid : List α) (a z : α) :
    removeUnsorted (pre ++ a :: (mid ++ [z])) pre.length = (pre ++ z :: mid, true) := by
  have hlen : pre.length + 1 ≠ (pre ++ a :: (mid ++ [z])).length := by
    simp
  have hlast : (pre ++ a :: (mid ++ [z])).getLast? = some z := by
    rw [show pre ++ a :: (mid ++ [z]) = (pre ++ a :: mid) ++ [z] by simp]
    exact List.getLast?_concat ..
  rw [removeUnsorted, if_pos hlen, hlast]
  have hset : (pre ++ a :: (mid ++ [z])).set pre.length z = (pre ++ z :: mid) ++ [z] := by
    simp
  simp only [hset, List.dropLast_concat]

private theorem swapRemoveLoop_spec (keep : α → Bool) (onDrop : σ → α → σ)
    (fuel : ℕ) (pre rest : List α) (st : σ) (hfuel : rest.length ≤ fuel) :
    ∃ dropped : List α,
      dropped.Perm (rest.filter fun a => !keep a) ∧
      (swapRemoveLoop keep onDrop fuel pre.length (pre ++ rest) st).1.Perm
        (pre ++ rest.filter keep) ∧
      (swapRemoveLoop keep onDrop fuel pre.length (pre ++ rest) st).2 =
        dropped.foldl onDrop st := by
  induction fuel generalizing pre rest st with
  | zero =>
      have hnil : rest = [] := List.length_eq_zero_iff.mp (by omega)
      subst hnil
      exact ⟨[], by simp, by simp [swapRemoveLoop], rfl⟩
  | succ fuel ih =>
      cases rest with
      | nil => exact ⟨[], by simp, by simp [swapRemoveLoop], by simp [swapRemoveLoop]⟩
      | cons a rest =>
          have hget : (pre ++ a :: rest)[pre.length]? = some a := by simp
          by_cases ha : keep a = true
          · have hstep : swapRemoveLoop keep onDrop (fuel + 1) pre.length (pre ++ a :: rest) st =
                swapRemoveLoop keep onDrop fuel (pre ++ [a]).length ((pre ++ [a]) ++ rest) st := by
              simp [swapRemoveLoop, ha]
            obtain ⟨dropped, hd, hperm, hst⟩ := ih (pre ++ [a]) rest st (by simpa using hfuel)
            rw [hstep]
            exact ⟨dropped, by simpa [ha] using hd, by simpa [ha] using hperm, hst⟩
          · rcases List.eq_nil_or_concat rest with rfl | ⟨mid, z, rfl⟩
            · have hstep : swapRemoveLoop keep onDrop (fuel + 1) pre.length (pre ++ [a]) st =
                  (pre, onDrop st a) := by
                simp [swapRemoveLoop, ha, removeUnsorted_last]
              rw [hstep]
              exact ⟨[a], by simp [ha], by simp [ha], rfl⟩
            · rw [List.concat_eq_append] at hfuel hget ⊢
              have hstep : swapRemoveLoop keep onDrop (fuel + 1) pre.length
                    (pre ++ a :: (mid ++ [z])) st =
                  swapRemoveLoop keep onDrop fuel pre.length (pre ++ z :: mid) (onDrop st a) := by
                simp only [swapRemoveLoop, hget, ha, Bool.false_eq_true, if_false,
                  removeUnsorted_swap]
              have hmove : (z :: mid).Perm (mid ++ [z]) := (List.perm_append_singleton z mid).symm
              obtain ⟨dropped, hd, hperm, hst⟩ := ih pre (z :: mid) (onDrop st a) (by
                simp only [List.length_cons, List.length_append, List.length_nil] at hfuel ⊢
                omega)
              rw [hstep]
              refine ⟨a :: dropped, ?_, ?_, hst⟩
              · rw [List.filter_cons_of_pos (by simp [ha])]
                exact List.Perm.cons a (hd.trans (hmove.filter _))
              · rw [List.filter_cons_of_neg ha]
                exact hperm.trans (List.Perm.append_left pre (hmove.filter _))

/-- The whole loop keeps exactly the elements to keep and reports each dropped one once. -/
theorem swapRemoveLoop_filter (keep : α → Bool) (onDrop : σ → α → σ) (xs : List α) (st : σ) :
    ∃ dropped : List α,
      dropped.Perm (xs.filter fun a => !keep a) ∧
      (swapRemoveLoop keep onDrop xs.length 0 xs st).1.Perm (xs.filter keep) ∧
      (swapRemoveLoop keep onDrop xs.length 0 xs st).2 = dropped.foldl onDrop st := by
  simpa using swapRemoveLoop_spec keep onDrop xs.length [] xs st le_rfl

/-- A complete run of the loop, which stops by itself: at the end of the vector, or after dropping
its last element. -/
inductive SwapRemoveRun (keep : α → Bool) (onDrop : σ → α → σ) :
    ℕ → List α → σ → List α → σ → Prop
  | atEnd {i : ℕ} {xs : List α} {st : σ} (hget : xs[i]? = none) :
      SwapRemoveRun keep onDrop i xs st xs st
  | keeps {i : ℕ} {xs ys : List α} {st st' : σ} {a : α} (hget : xs[i]? = some a)
      (hkeep : keep a = true) (hrest : SwapRemoveRun keep onDrop (i + 1) xs st ys st') :
      SwapRemoveRun keep onDrop i xs st ys st'
  | swaps {i : ℕ} {xs ys zs : List α} {st st' : σ} {a : α} (hget : xs[i]? = some a)
      (hdrop : keep a = false) (hremove : removeUnsorted xs i = (ys, true))
      (hrest : SwapRemoveRun keep onDrop i ys (onDrop st a) zs st') :
      SwapRemoveRun keep onDrop i xs st zs st'
  | dropsLast {i : ℕ} {xs ys : List α} {st : σ} {a : α} (hget : xs[i]? = some a)
      (hdrop : keep a = false) (hremove : removeUnsorted xs i = (ys, false)) :
      SwapRemoveRun keep onDrop i xs st ys (onDrop st a)

/-- The number of elements is enough fuel: the loop terminates. -/
private theorem swapRemoveLoop_terminates (keep : α → Bool) (onDrop : σ → α → σ) (fuel i : ℕ)
    (xs : List α) (st : σ) (hfuel : xs.length ≤ i + fuel) :
    SwapRemoveRun keep onDrop i xs st (swapRemoveLoop keep onDrop fuel i xs st).1
      (swapRemoveLoop keep onDrop fuel i xs st).2 := by
  induction fuel generalizing i xs st with
  | zero => exact .atEnd (List.getElem?_eq_none (by omega))
  | succ fuel ih =>
      cases hget : xs[i]? with
      | none =>
          simp only [swapRemoveLoop, hget]
          exact .atEnd hget
      | some a =>
          cases hkeep : keep a with
          | true =>
              simp only [swapRemoveLoop, hget, hkeep, if_true]
              exact .keeps hget hkeep (ih (i + 1) xs st (by omega))
          | false =>
              obtain ⟨hi, -⟩ := List.getElem?_eq_some_iff.mp hget
              simp only [swapRemoveLoop, hget, hkeep, Bool.false_eq_true, if_false]
              cases hremove : removeUnsorted xs i with
              | mk ys more =>
                  cases more with
                  | false => exact .dropsLast hget hkeep hremove
                  | true =>
                      refine .swaps hget hkeep hremove (ih i ys (onDrop st a) ?_)
                      have hlen := removeUnsorted_length (by omega) hremove
                      omega

/-- The elements the loop reports, in order. -/
def swapRemoved (keep : α → Bool) (xs : List α) : List α :=
  (swapRemoveLoop keep (fun log a => log ++ [a]) xs.length 0 xs []).2

private theorem swapRemoveLoop_log (keep : α → Bool) (onDrop : σ → α → σ) (fuel i : ℕ) (xs : List α)
    (st : σ) (log : List α) :
    ∃ dropped, (swapRemoveLoop keep (fun log a => log ++ [a]) fuel i xs log).2 = log ++ dropped ∧
      (swapRemoveLoop keep onDrop fuel i xs st).2 = dropped.foldl onDrop st := by
  induction fuel generalizing i xs st log with
  | zero => exact ⟨[], (List.append_nil _).symm, rfl⟩
  | succ fuel ih =>
      cases hget : xs[i]? with
      | none =>
          simp only [swapRemoveLoop, hget]
          exact ⟨[], (List.append_nil _).symm, rfl⟩
      | some a =>
          cases hkeep : keep a with
          | true =>
              simp only [swapRemoveLoop, hget, hkeep, if_true]
              exact ih (i + 1) xs st log
          | false =>
              simp only [swapRemoveLoop, hget, hkeep, Bool.false_eq_true, if_false]
              cases removeUnsorted xs i with
              | mk ys more =>
                  cases more with
                  | false => exact ⟨[a], rfl, rfl⟩
                  | true =>
                      obtain ⟨dropped, hlog, hst⟩ := ih i ys (onDrop st a) (log ++ [a])
                      exact ⟨a :: dropped, by simpa using hlog, hst⟩

private theorem swapRemoveLoop_foldl (keep : α → Bool) (onDrop : σ → α → σ) (xs : List α) (st : σ) :
    (swapRemoveLoop keep onDrop xs.length 0 xs st).2 = (swapRemoved keep xs).foldl onDrop st := by
  obtain ⟨dropped, hlog, hst⟩ := swapRemoveLoop_log keep onDrop xs.length 0 xs st []
  rw [hst]
  exact congrArg (List.foldl onDrop st) hlog.symm

private theorem swapRemoved_perm (keep : α → Bool) (xs : List α) :
    (swapRemoved keep xs).Perm (xs.filter fun a => !keep a) := by
  obtain ⟨dropped, hperm, -, hlog⟩ := swapRemoveLoop_filter keep (fun log a => log ++ [a]) xs []
  have hself : ∀ (ys log : List α), ys.foldl (fun log a => log ++ [a]) log = log ++ ys := by
    intro ys
    induction ys with
    | nil => exact fun log => (List.append_nil log).symm
    | cons y ys ih => exact fun log => (ih _).trans (by simp)
  rw [hself, List.nil_append] at hlog
  unfold swapRemoved
  rw [hlog]
  exact hperm

private theorem eq_of_perm_of_sorted [LinearOrder α] {xs ys : List α} (h : xs.Perm ys)
    (hx : xs.Pairwise (· < ·)) (hy : ys.Pairwise (· < ·)) : xs = ys :=
  h.eq_of_pairwise (fun _ _ _ _ hab hba => absurd hab hba.not_gt) hx hy

private theorem sort_sorted [LinearOrder α] {xs : List α} (hn : xs.Nodup) :
    (xs.insertionSort (· ≤ ·)).Pairwise (· < ·) := by
  have hle := List.pairwise_insertionSort (· ≤ ·) xs
  have hnd : (xs.insertionSort (· ≤ ·)).Nodup :=
    (List.perm_insertionSort (· ≤ ·) xs).nodup_iff.mpr hn
  exact (hle.and hnd).imp fun h => lt_of_le_of_ne h.1 h.2

/-- The loop followed by a sort that is skipped when nothing was dropped. -/
def swapRemoveSorted [LinearOrder α] (keep : α → Bool) (onDrop : σ → α → σ) (xs : List α)
    (st : σ) : List α × σ :=
  let r := swapRemoveLoop keep onDrop xs.length 0 xs st
  (if xs.length ≠ r.1.length then r.1.insertionSort (· ≤ ·) else r.1, r.2)

/-- On a strictly sorted vector the loop and the sort together are a filter. -/
theorem swapRemoveSorted_eq_filter [LinearOrder α] (keep : α → Bool) (onDrop : σ → α → σ)
    {xs : List α} (hs : xs.Pairwise (· < ·)) (st : σ) :
    (swapRemoveSorted keep onDrop xs st).1 = xs.filter keep ∧
    ∃ dropped : List α, dropped.Perm (xs.filter fun a => !keep a) ∧
      (swapRemoveSorted keep onDrop xs st).2 = dropped.foldl onDrop st := by
  obtain ⟨dropped, hd, hperm, hst⟩ := swapRemoveLoop_filter keep onDrop xs st
  refine ⟨?_, dropped, hd, hst⟩
  have hfs : (xs.filter keep).Pairwise (· < ·) := hs.filter keep
  dsimp only [swapRemoveSorted]
  by_cases hlen : xs.length ≠ (swapRemoveLoop keep onDrop xs.length 0 xs st).1.length
  · rw [if_pos hlen]
    apply eq_of_perm_of_sorted _ (sort_sorted _) hfs
    · exact (List.perm_insertionSort (· ≤ ·) _).trans hperm
    · exact hperm.nodup_iff.mpr (hfs.imp fun h => h.ne)
  · -- nothing was dropped, so the loop never swapped and the order is the old one
    rw [if_neg hlen]
    have hall : xs.filter keep = xs := by
      apply List.filter_sublist.eq_of_length
      rw [← hperm.length_eq]
      omega
    have hkeep : ∀ a ∈ xs, keep a = true := fun a ha => (List.mem_filter.mp (hall ▸ ha)).2
    rw [hall]
    have hid : ∀ (fuel : ℕ) (i : ℕ), swapRemoveLoop keep onDrop fuel i xs st = (xs, st) := by
      intro fuel
      induction fuel with
      | zero => intro i; rfl
      | succ fuel ih =>
          intro i
          rw [swapRemoveLoop]
          cases hget : xs[i]? with
          | none => rfl
          | some a => simp [hkeep a (List.mem_of_getElem? hget), ih]
    rw [hid]

/-- What the loop and the sort make of a vector `xs`: a complete run of the loop, the filtered vector
in its order, and every dropped element reported once. -/
structure SwapFiltered [LinearOrder α] (keep : α → Bool) (onDrop : σ → α → σ) (xs : List α) (st : σ)
    (ys : List α) (st' : σ) : Prop where
  run : ∃ zs, SwapRemoveRun keep onDrop 0 xs st zs st' ∧
    ys = if xs.length ≠ zs.length then zs.insertionSort (· ≤ ·) else zs
  sorted : ys.Pairwise (· < ·)
  filter : ys = xs.filter keep
  reports : st' = (swapRemoved keep xs).foldl onDrop st
  once : (swapRemoved keep xs).Nodup
  dropped : ∀ a, a ∈ swapRemoved keep xs ↔ a ∈ xs ∧ keep a = false

theorem swapRemoveSorted_filtered [LinearOrder α] (keep : α → Bool) (onDrop : σ → α → σ)
    {xs : List α} (hs : xs.Pairwise (· < ·)) (st : σ) :
    SwapFiltered keep onDrop xs st (swapRemoveSorted keep onDrop xs st).1
      (swapRemoveSorted keep onDrop xs st).2 := by
  have hfilter := (swapRemoveSorted_eq_filter keep onDrop hs st).1
  have hperm := swapRemoved_perm keep xs
  have hnodup : xs.Nodup := hs.imp fun h => h.ne
  refine ⟨⟨_, swapRemoveLoop_terminates keep onDrop xs.length 0 xs st (by omega), rfl⟩, ?_, hfilter,
    swapRemoveLoop_foldl keep onDrop xs st, ?_, fun a => ?_⟩
  · rw [hfilter]
    exact hs.filter keep
  · exact hperm.nodup_iff.mpr (hnodup.filter _)
  · rw [hperm.mem_iff, List.mem_filter, Bool.not_eq_true']

end Slither.Framework
