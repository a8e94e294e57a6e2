import Mathlib

/-!
# Scans that stop at the first miss

Dropping from one end of a list as long as a test holds leaves no element that passes the test
exactly when the elements that pass it lie together at that end.
-/

namespace Slither.Framework

variable {α : Type*}

private theorem forall_dropWhile_iff (p : α → Bool) (xs : List α) :
    (∀ a ∈ xs.dropWhile p, p a = false) ↔ xs.Pairwise fun a b => p b = true → p a = true := by
  induction xs with
  | nil => simp
  | cons x xs ih =>
      cases hx : p x with
      | true =>
          rw [List.dropWhile_cons_of_pos hx, ih, List.pairwise_cons]
          exact (and_iff_right fun _ _ _ => hx).symm
      | false =>
          rw [List.dropWhile_cons_of_neg (by simp [hx]), List.forall_mem_cons, List.pairwise_cons]
          constructor
          · rintro ⟨-, hall⟩
            refine ⟨fun b hb hpb => ?_, List.pairwise_of_forall_mem_list fun a _ b hb hpb => ?_⟩
            · rw [hall b hb] at hpb
              cases hpb
            · rw [hall b hb] at hpb
              cases hpb
          · rintro ⟨hfirst, -⟩
            refine ⟨hx, fun b hb => ?_⟩
            by_contra hpb
            have hpx := hfirst b hb (by simpa using hpb)
            rw [hx] at hpx
            cases hpx

private theorem forall_rdropWhile_iff (p : α → Bool) (xs : List α) :
    (∀ a ∈ xs.rdropWhile p, p a = false) ↔ xs.Pairwise fun a b => p a = true → p b = true := by
  have h := forall_dropWhile_iff p xs.reverse
  rw [List.pairwise_reverse] at h
  rw [← h, List.rdropWhile]
  simp only [List.mem_reverse]

/-- Scanning away from a split point to both sides removes all that pass a test, and nothing else,
exactly when these lie together around the split point. -/
theorem scan_eq_filter_iff (p : α → Bool) (xs ys : List α) :
    xs.rdropWhile p ++ ys.dropWhile p = (xs ++ ys).filter (fun a => !p a) ↔
      (xs.Pairwise fun a b => p a = true → p b = true) ∧
        ys.Pairwise fun a b => p b = true → p a = true := by
  have hleft : xs.filter (fun a => !p a) = (xs.rdropWhile p).filter fun a => !p a := by
    have hnil : (xs.rtakeWhile p).filter (fun a => !p a) = [] :=
      List.filter_eq_nil_iff.mpr fun a ha => by simp [List.mem_rtakeWhile_imp ha]
    conv_lhs => rw [← List.rdropWhile_append_rtakeWhile (p := p) (l := xs)]
    rw [List.filter_append, hnil, List.append_nil]
  have hright : ys.filter (fun a => !p a) = (ys.dropWhile p).filter fun a => !p a := by
    have hnil : (ys.takeWhile p).filter (fun a => !p a) = [] :=
      List.filter_eq_nil_iff.mpr fun a ha => by simp [List.mem_takeWhile_imp ha]
    conv_lhs => rw [← List.takeWhile_append_dropWhile (p := p) (l := ys)]
    rw [List.filter_append, hnil, List.nil_append]
  rw [List.filter_append, hleft, hright, ← List.filter_append, eq_comm, List.filter_eq_self,
    List.forall_mem_append, ← forall_rdropWhile_iff, ← forall_dropWhile_iff]
  simp only [Bool.not_eq_eq_eq_not, Bool.not_true]

theorem scan_perm_filter {p : α → Bool} {xs ys : List α}
    (h : xs.rdropWhile p ++ ys.dropWhile p = (xs ++ ys).filter fun a => !p a) :
    ((xs.rtakeWhile p).reverse ++ ys.takeWhile p).Perm ((xs ++ ys).filter p) := by
  rw [scan_eq_filter_iff, ← forall_rdropWhile_iff, ← forall_dropWhile_iff] at h
  have hleft : xs.filter p = xs.rtakeWhile p := by
    conv_lhs => rw [← List.rdropWhile_append_rtakeWhile (p := p) (l := xs)]
    have hnil : (xs.rdropWhile p).filter p = [] :=
      List.filter_eq_nil_iff.mpr fun a ha => by simp [h.1 a ha]
    rw [List.filter_append, hnil, List.nil_append, List.filter_eq_self]
    exact fun a ha => List.mem_rtakeWhile_imp ha
  have hright : ys.filter p = ys.takeWhile p := by
    conv_lhs => rw [← List.takeWhile_append_dropWhile (p := p) (l := ys)]
    have hnil : (ys.dropWhile p).filter p = [] :=
      List.filter_eq_nil_iff.mpr fun a ha => by simp [h.2 a ha]
    rw [List.filter_append, hnil, List.append_nil, List.filter_eq_self]
    exact fun a ha => List.mem_takeWhile_imp ha
  rw [List.filter_append, hleft, hright]
  exact (List.reverse_perm _).append_right _

end Slither.Framework
