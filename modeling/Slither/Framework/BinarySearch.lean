import Slither.Framework.Post

/-!
# Binary search by halving

`lowerBound p xs` is the library search on a range partitioned by `p`: the first position whose
element fails `p`, found by halving.  On a list that is not partitioned the result is whatever the
probes happen to give, so every use has to establish the partition.
-/

namespace Slither.Framework

variable {α : Type*}

/-- Halve the range of `count` elements from `first`; `fuel` bounds the number of probes. -/
def lowerBoundLoop (p : α → Bool) (xs : List α) : ℕ → ℕ → ℕ → ℕ
  | 0, first, _ => first
  | fuel + 1, first, count =>
      if count = 0 then first
      else
        let step := count / 2
        match xs[first + step]? with
        | none => first
        | some a =>
            if p a then lowerBoundLoop p xs fuel (first + step + 1) (count - (step + 1))
            else lowerBoundLoop p xs fuel first step

def lowerBound (p : α → Bool) (xs : List α) : ℕ :=
  lowerBoundLoop p xs xs.length 0 xs.length

/-- Elements satisfying `p` come before those failing it. -/
def PartitionedBy (p : α → Bool) (xs : List α) : Prop :=
  xs.Pairwise fun a b => p b = true → p a = true

private theorem partitioned_getElem {p : α → Bool} {xs : List α} (hp : PartitionedBy p xs)
    {i j : ℕ} {a b : α} (hij : i ≤ j) (ha : xs[i]? = some a) (hb : xs[j]? = some b)
    (hpb : p b = true) : p a = true := by
  obtain ⟨hi, rfl⟩ := List.getElem?_eq_some_iff.mp ha
  obtain ⟨hj, rfl⟩ := List.getElem?_eq_some_iff.mp hb
  rcases Nat.eq_or_lt_of_le hij with rfl | hlt
  · exact hpb
  · exact List.pairwise_iff_getElem.mp hp i j hi hj hlt hpb

/-- The position reached separates the elements satisfying `p` from the others. -/
def Separates (p : α → Bool) (xs : List α) (k : ℕ) : Prop :=
  k ≤ xs.length ∧ ∀ i a, xs[i]? = some a → (p a = true ↔ i < k)

private theorem lowerBoundLoop_separates {p : α → Bool} {xs : List α} (hp : PartitionedBy p xs)
    (fuel first count : ℕ) (hfuel : count ≤ fuel) (hlen : first + count ≤ xs.length)
    (hlow : ∀ i a, xs[i]? = some a → i < first → p a = true)
    (hhigh : ∀ i a, xs[i]? = some a → first + count ≤ i → p a = false) :
    Separates p xs (lowerBoundLoop p xs fuel first count) := by
  have hdone : count = 0 → Separates p xs first := by
    intro h0
    refine ⟨by omega, fun i a ha => ⟨fun hpa => ?_, hlow i a ha⟩⟩
    by_contra hi
    have hpf := hhigh i a ha (by omega)
    rw [hpa] at hpf
    cases hpf
  induction fuel generalizing first count with
  | zero => exact hdone (by omega)
  | succ fuel ih =>
      rw [lowerBoundLoop]
      by_cases h0 : count = 0
      · rw [if_pos h0]
        exact hdone h0
      · rw [if_neg h0]
        have hmid : first + count / 2 < xs.length := by omega
        obtain ⟨a, ha⟩ : ∃ a, xs[first + count / 2]? = some a :=
          ⟨_, List.getElem?_eq_getElem hmid⟩
        simp only [ha]
        by_cases hpa : p a = true
        · rw [if_pos hpa]
          have hlow' : ∀ i b, xs[i]? = some b → i < first + count / 2 + 1 → p b = true :=
            fun i b hb hi => partitioned_getElem hp (by omega) hb ha hpa
          have hhigh' : ∀ i b, xs[i]? = some b →
              first + count / 2 + 1 + (count - (count / 2 + 1)) ≤ i → p b = false :=
            fun i b hb hi => hhigh i b hb (by omega)
          refine ih _ _ (by omega) (by omega) hlow' hhigh' fun hz => ?_
          refine ⟨by omega, fun i b hb => ⟨fun hpb => ?_, hlow' i b hb⟩⟩
          by_contra hi
          have hpf := hhigh' i b hb (by omega)
          rw [hpb] at hpf
          cases hpf
        · rw [if_neg hpa]
          have hhigh' : ∀ i b, xs[i]? = some b → first + count / 2 ≤ i → p b = false := by
            intro i b hb hi
            by_contra hne
            exact hpa (partitioned_getElem hp hi ha hb (by simpa using hne))
          refine ih _ _ (by omega) (by omega) hlow hhigh' fun hz => ?_
          refine ⟨by omega, fun i b hb => ⟨fun hpb => ?_, hlow i b hb⟩⟩
          by_contra hi
          have hpf := hhigh' i b hb (by omega)
          rw [hpb] at hpf
          cases hpf

theorem lowerBound_separates {p : α → Bool} {xs : List α} (hp : PartitionedBy p xs) :
    Separates p xs (lowerBound p xs) := by
  apply lowerBoundLoop_separates hp _ _ _ le_rfl (by omega)
  · intro i a _ hi
    omega
  · intro i a ha hi
    obtain ⟨h, -⟩ := List.getElem?_eq_some_iff.mp ha
    omega

private theorem lowerBoundLoop_le (p : α → Bool) (xs : List α) (fuel first count : ℕ) :
    lowerBoundLoop p xs fuel first count ≤ first + count := by
  induction fuel generalizing first count with
  | zero => exact Nat.le_add_right _ _
  | succ fuel ih =>
      rw [lowerBoundLoop]
      split
      · omega
      · dsimp only
        split
        · omega
        · split
          · exact (ih _ _).trans (by omega)
          · exact (ih _ _).trans (by omega)

theorem lowerBound_le (p : α → Bool) (xs : List α) : lowerBound p xs ≤ xs.length := by
  have h := lowerBoundLoop_le p xs xs.length 0 xs.length
  rwa [Nat.zero_add] at h

private theorem Separates.of_mem_take {p : α → Bool} {xs : List α} {k : ℕ} (h : Separates p xs k)
    {a : α} (ha : a ∈ xs.take k) : p a = true := by
  obtain ⟨i, hi, rfl⟩ := List.mem_take_iff_getElem.mp ha
  exact (h.2 i _ (List.getElem?_eq_getElem (by omega))).mpr (by omega)

private theorem Separates.of_mem_drop {p : α → Bool} {xs : List α} {k : ℕ} (h : Separates p xs k)
    {a : α} (ha : a ∈ xs.drop k) : p a = false := by
  obtain ⟨i, hi, rfl⟩ := List.mem_drop_iff_getElem.mp ha
  by_contra hne
  have hlt := (h.2 (k + i) _ (List.getElem?_eq_getElem (by omega))).mp (by simpa using hne)
  omega

/-- Insert in front of the position found, or append when the search ran off the end. -/
def insertAtLowerBound (p : α → Bool) (a : α) (xs : List α) : List α :=
  let i := lowerBound p xs
  if i < xs.length then xs.insertIdx i a else xs ++ [a]

private theorem insertIdx_eq_take_drop (xs : List α) (i : ℕ) (a : α) (hi : i ≤ xs.length) :
    xs.insertIdx i a = xs.take i ++ a :: xs.drop i := by
  induction i generalizing xs with
  | zero => simp
  | succ i ih =>
      cases xs with
      | nil => simp at hi
      | cons b bs => simp [ih bs (by simpa using hi)]

private theorem insertAtLowerBound_eq {p : α → Bool} {xs : List α} (hp : PartitionedBy p xs)
    (a : α) :
    insertAtLowerBound p a xs =
      xs.take (lowerBound p xs) ++ a :: xs.drop (lowerBound p xs) := by
  have hle := (lowerBound_separates hp).1
  unfold insertAtLowerBound
  by_cases hlt : lowerBound p xs < xs.length
  · simp only [hlt, if_true]
    exact insertIdx_eq_take_drop xs _ a hle
  · have heq : lowerBound p xs = xs.length := by omega
    simp [heq]

theorem insertAtLowerBound_perm (p : α → Bool) (a : α) (xs : List α) :
    (insertAtLowerBound p a xs).Perm (a :: xs) := by
  unfold insertAtLowerBound
  dsimp only
  split
  · rename_i hlt
    exact List.perm_insertIdx a xs hlt.le
  · exact List.perm_append_singleton a xs

theorem insertAtLowerBound_pairwise {R : α → α → Prop} {p : α → Bool} {xs : List α} {a : α}
    (hp : PartitionedBy p xs) (hR : xs.Pairwise R)
    (hbefore : ∀ b ∈ xs, p b = true → R b a) (hafter : ∀ b ∈ xs, p b = false → R a b) :
    (insertAtLowerBound p a xs).Pairwise R := by
  rw [insertAtLowerBound_eq hp]
  have hsep := lowerBound_separates hp
  have hsplit : (xs.take (lowerBound p xs) ++ xs.drop (lowerBound p xs)).Pairwise R := by
    rw [List.take_append_drop]
    exact hR
  obtain ⟨htake, hdrop, hcross⟩ := List.pairwise_append.mp hsplit
  rw [List.pairwise_append, List.pairwise_cons]
  refine ⟨htake, ⟨fun b hb => ?_, hdrop⟩, fun b hb c hc => ?_⟩
  · exact hafter b (List.mem_of_mem_drop hb) (hsep.of_mem_drop hb)
  · rcases List.mem_cons.mp hc with rfl | hc
    · exact hbefore b (List.mem_of_mem_take hb) (hsep.of_mem_take hb)
    · exact hcross b hb c hc

/-- Membership test by binary search: the element found is not above `a`. -/
def binarySearch [LinearOrder α] (xs : List α) (a : α) : Bool :=
  match xs[lowerBound (fun b => decide (b < a)) xs]? with
  | none => false
  | some b => decide (¬ a < b)

private theorem partitionedBy_lt [LinearOrder α] {xs : List α} (hs : xs.Pairwise (· < ·)) (a : α) :
    PartitionedBy (fun b => decide (b < a)) xs := by
  apply hs.imp
  intro b c hbc hc
  simp only [decide_eq_true_eq] at hc ⊢
  exact hbc.trans hc

theorem binarySearch_iff [LinearOrder α] {xs : List α} (hs : xs.Pairwise (· < ·)) (a : α) :
    binarySearch xs a = true ↔ a ∈ xs := by
  have hsep := lowerBound_separates (partitionedBy_lt hs a)
  unfold binarySearch
  constructor
  · intro h
    cases hget : xs[lowerBound (fun b => decide (b < a)) xs]? with
    | none => simp [hget] at h
    | some b =>
        simp only [hget, decide_eq_true_eq] at h
        have hnot : ¬ b < a := by
          intro hlt
          have hk := (hsep.2 _ b hget).mp (by simpa using hlt)
          omega
        rw [← le_antisymm (not_lt.mp h) (not_lt.mp hnot)]
        exact List.mem_of_getElem? hget
  · intro hmem
    obtain ⟨i, hi⟩ := List.getElem?_of_mem hmem
    have hki : lowerBound (fun b => decide (b < a)) xs ≤ i := by
      by_contra hlt
      have hb := (hsep.2 i a hi).mpr (by omega)
      simp at hb
    obtain ⟨hlen, -⟩ := List.getElem?_eq_some_iff.mp hi
    rw [List.getElem?_eq_getElem (by omega : lowerBound (fun b => decide (b < a)) xs < xs.length)]
    simp only [decide_eq_true_eq, not_lt]
    rcases Nat.eq_or_lt_of_le hki with heq | hlt
    · rw [(List.getElem?_eq_some_iff.mp (heq ▸ hi)).2]
    · have hsorted := List.pairwise_iff_getElem.mp hs _ i (by omega) hlen hlt
      rw [(List.getElem?_eq_some_iff.mp hi).2] at hsorted
      exact hsorted.le

/-- Inserting an absent element keeps a list strictly sorted. -/
theorem insertAtLowerBound_sorted [LinearOrder α] {xs : List α} {a : α}
    (hs : xs.Pairwise (· < ·)) (ha : a ∉ xs) :
    (insertAtLowerBound (fun b => decide (b < a)) a xs).Pairwise (· < ·) := by
  apply insertAtLowerBound_pairwise (partitionedBy_lt hs a) hs
  · intro b _ hb
    simpa using hb
  · intro b hmem hb
    have hle : a ≤ b := by simpa using hb
    exact lt_of_le_of_ne hle fun heq => ha (heq ▸ hmem)

end Slither.Framework
