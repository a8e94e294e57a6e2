import Mathlib

/-!
# Machines and their specifications

A machine performs an operation and replies, or gets stuck.  Its specification always answers.  A
machine refines its specification on a list of operations when it never gets stuck and gives the
specified replies, with the specified state in view after each of them.
-/

namespace Slither.Framework

variable {σ τ ω ρ : Type*}

/-- Operations in order, with their replies. -/
def performAll (step : σ → ω → Option (σ × ρ)) (s : σ) : List ω → Option (σ × List ρ)
  | [] => some (s, [])
  | op :: ops =>
      match step s op with
      | none => none
      | some (s, r) => (performAll step s ops).map fun (s, rs) => (s, r :: rs)

def answerAll (spec : τ → ω → τ × ρ) (q : τ) : List ω → τ × List ρ
  | [] => (q, [])
  | op :: ops =>
      let (q, r) := spec q op
      let (q, rs) := answerAll spec q ops
      (q, r :: rs)

/-- After every part of the list, the replies and the state in view are the specified ones. -/
def Refines (step : σ → ω → Option (σ × ρ)) (spec : τ → ω → τ × ρ) (view : σ → τ) (s : σ)
    (ops : List ω) : Prop :=
  ∀ part, part <+: ops →
    ∃ t rs, performAll step s part = some (t, rs) ∧ answerAll spec (view s) part = (view t, rs)

/-- Every operation of the list meets the condition in the state it is performed in. -/
def AllMeet (step : σ → ω → Option (σ × ρ)) (cond : σ → ω → Prop) (s : σ) (ops : List ω) : Prop :=
  ∀ part op, part ++ [op] <+: ops →
    ∀ t rs, performAll step s part = some (t, rs) → cond t op

variable {step : σ → ω → Option (σ × ρ)} {spec : τ → ω → τ × ρ} {view : σ → τ}
  {cond : σ → ω → Prop}

private theorem performAll_cons_of_some {s t : σ} {op : ω} {r : ρ} (h : step s op = some (t, r))
    (ops : List ω) :
    performAll step s (op :: ops) =
      (performAll step t ops).map fun u => (u.1, r :: u.2) := by
  simp [performAll, h]

private theorem refines_cons {s : σ} {op : ω} {ops : List ω} :
    Refines step spec view s (op :: ops) ↔
      ∃ t r, step s op = some (t, r) ∧ spec (view s) op = (view t, r) ∧
        Refines step spec view t ops := by
  constructor
  · intro h
    obtain ⟨t, rs, hone, hans⟩ := h [op] (List.cons_prefix_cons.mpr ⟨rfl, List.nil_prefix⟩)
    cases hstep : step s op with
    | none => simp [performAll, hstep] at hone
    | some u =>
        obtain ⟨t', r⟩ := u
        simp only [performAll, hstep, Option.map_some, Option.some.injEq, Prod.mk.injEq] at hone
        obtain ⟨rfl, rfl⟩ := hone
        have hspec : spec (view s) op = (view t', r) := by
          simpa [answerAll, Prod.ext_iff] using hans
        refine ⟨t', r, rfl, hspec, fun part hpart => ?_⟩
        obtain ⟨u, rs, hrun, hall⟩ := h (op :: part) (List.cons_prefix_cons.mpr ⟨rfl, hpart⟩)
        rw [performAll_cons_of_some hstep] at hrun
        obtain ⟨⟨u', rs'⟩, hrest, heq⟩ := Option.map_eq_some_iff.mp hrun
        cases heq
        refine ⟨_, _, hrest, ?_⟩
        simpa [answerAll, hspec, Prod.ext_iff] using hall
  · rintro ⟨t, r, hstep, hspec, h⟩ part hpart
    cases part with
    | nil => exact ⟨s, [], rfl, rfl⟩
    | cons op' part =>
        obtain ⟨rfl, hsub⟩ := List.cons_prefix_cons.mp hpart
        obtain ⟨u, rs, hrest, hall⟩ := h part hsub
        refine ⟨u, r :: rs, ?_, ?_⟩
        · rw [performAll_cons_of_some hstep, hrest]
          rfl
        · simp [answerAll, hspec, hall]

private theorem allMeet_cons {s : σ} {op : ω} {ops : List ω} :
    AllMeet step cond s (op :: ops) ↔
      cond s op ∧ ∀ t r, step s op = some (t, r) → AllMeet step cond t ops := by
  constructor
  · intro h
    have hop : [] ++ [op] <+: op :: ops := List.cons_prefix_cons.mpr ⟨rfl, List.nil_prefix⟩
    refine ⟨h [] op hop s [] rfl, fun t r hstep part op' hpart u rs hrun => ?_⟩
    refine h (op :: part) op' (List.cons_prefix_cons.mpr ⟨rfl, hpart⟩) u (r :: rs) ?_
    rw [performAll_cons_of_some hstep, hrun]
    rfl
  · rintro ⟨hop, h⟩ part op' hpart u rs hrun
    cases part with
    | nil =>
        obtain ⟨rfl, -⟩ := List.cons_prefix_cons.mp hpart
        cases hrun
        exact hop
    | cons op'' part =>
        obtain ⟨rfl, hsub⟩ := List.cons_prefix_cons.mp hpart
        cases hstep : step s op'' with
        | none => simp [performAll, hstep] at hrun
        | some v =>
            rw [performAll_cons_of_some hstep] at hrun
            obtain ⟨⟨u', rs'⟩, hrest, heq⟩ := Option.map_eq_some_iff.mp hrun
            cases heq
            exact h _ _ hstep part op' hsub _ _ hrest

/-- If one operation is performed as specified exactly under a condition, then a machine refines
its specification exactly on the lists whose operations all meet the condition. -/
theorem refines_iff_allMeet
    (h : ∀ s op, cond s op ↔ ∃ t r, step s op = some (t, r) ∧ spec (view s) op = (view t, r))
    (s : σ) (ops : List ω) : Refines step spec view s ops ↔ AllMeet step cond s ops := by
  induction ops generalizing s with
  | nil =>
      refine iff_of_true (fun part hpart => ?_) fun part op hpart => ?_
      · rw [List.prefix_nil.mp hpart]
        exact ⟨s, [], rfl, rfl⟩
      · simp at hpart
  | cons op ops ih =>
      rw [refines_cons, allMeet_cons, h]
      constructor
      · rintro ⟨t, r, hstep, hspec, hrest⟩
        refine ⟨⟨t, r, hstep, hspec⟩, fun t' r' hstep' => ?_⟩
        rw [hstep] at hstep'
        cases hstep'
        exact (ih t).mp hrest
      · rintro ⟨⟨t, r, hstep, hspec⟩, hrest⟩
        exact ⟨t, r, hstep, hspec, (ih t).mpr (hrest t r hstep)⟩

end Slither.Framework
