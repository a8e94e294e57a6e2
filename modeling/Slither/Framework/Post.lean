import Mathlib

/-!
# Postconditions of fallible computations

`Post x P Q` reads a computation in `Except`: a normal result satisfies `P`, and an error
satisfies `Q`.  Loops are folds, and the fold rule carries an invariant that may mention the
elements still to be visited.
-/

namespace Slither.Framework

universe u v
variable {ε : Type u} {α β σ : Type v}

/-- A normal result of `x` satisfies `P` and an error of `x` satisfies `Q`. -/
def Post (x : Except ε α) (P : α → Prop) (Q : ε → Prop) : Prop :=
  match x with
  | .ok a => P a
  | .error e => Q e

@[simp] theorem post_ok (a : α) (P : α → Prop) (Q : ε → Prop) :
    Post (.ok a) P Q ↔ P a := Iff.rfl

@[simp] theorem post_pure (a : α) (P : α → Prop) (Q : ε → Prop) :
    Post (pure a : Except ε α) P Q ↔ P a := Iff.rfl

/-- The result of a computation that returned satisfies its postcondition. -/
theorem Post.of_ok {x : Except ε α} {a : α} {P : α → Prop} {Q : ε → Prop}
    (h : Post x P Q) (hx : x = .ok a) : P a := by
  subst hx
  exact h

theorem Post.of_error {x : Except ε α} {e : ε} {P : α → Prop} {Q : ε → Prop}
    (h : Post x P Q) (hx : x = .error e) : Q e := by
  subst hx
  exact h

theorem Post.exists_ok {x : Except ε α} {P : α → Prop} {Q : ε → Prop} (h : Post x P Q)
    (hQ : ∀ e, ¬ Q e) : ∃ a, x = .ok a ∧ P a := by
  cases x with
  | ok a => exact ⟨a, rfl, h⟩
  | error e => exact absurd h (hQ e)

theorem Post.intro {x : Except ε α} {P : α → Prop} {Q : ε → Prop}
    (hok : ∀ a, x = .ok a → P a) (herr : ∀ e, x = .error e → Q e) : Post x P Q := by
  cases hx : x with
  | ok a => exact hok a hx
  | error e => exact herr e hx

theorem Post.mono {x : Except ε α} {P P' : α → Prop} {Q Q' : ε → Prop}
    (h : Post x P Q) (hP : ∀ a, P a → P' a) (hQ : ∀ e, Q e → Q' e) : Post x P' Q' := by
  cases x with
  | ok a => exact hP a h
  | error e => exact hQ e h

theorem Post.and {x : Except ε α} {P P' : α → Prop} {Q Q' : ε → Prop}
    (h : Post x P Q) (h' : Post x P' Q') :
    Post x (fun a => P a ∧ P' a) (fun e => Q e ∧ Q' e) := by
  cases x with
  | ok a => exact ⟨h, h'⟩
  | error e => exact ⟨h, h'⟩

/-- Sequencing: the postcondition of the first step is the precondition of the second. -/
theorem Post.bind {x : Except ε α} {f : α → Except ε β} {R : α → Prop} {P : β → Prop}
    {Q : ε → Prop} (hx : Post x R Q) (hf : ∀ a, R a → Post (f a) P Q) :
    Post (x >>= f) P Q := by
  cases x with
  | ok a => exact hf a hx
  | error e => exact hx

theorem bind_eq_ok {x : Except ε α} {f : α → Except ε β} {b : β} :
    (x >>= f) = .ok b ↔ ∃ a, x = .ok a ∧ f a = .ok b := by
  cases x with
  | ok a => simp [Bind.bind, Except.bind]
  | error e => simp [Bind.bind, Except.bind]

/-- Loop rule.  The invariant is indexed by the elements still to be visited. -/
theorem Post.foldlM {f : σ → α → Except ε σ} {Q : ε → Prop} (I : List α → σ → Prop)
    (hstep : ∀ x rest s, I (x :: rest) s → Post (f s x) (I rest) Q)
    (xs : List α) (s : σ) (hs : I xs s) : Post (xs.foldlM f s) (I []) Q := by
  induction xs generalizing s with
  | nil => exact hs
  | cons x rest ih =>
      rw [List.foldlM_cons]
      exact Post.bind (hstep x rest s hs) fun t ht => ih t ht

/-- The loop rule for a loop without errors. -/
theorem foldl_inv {f : σ → α → σ} (I : List α → σ → Prop)
    (hstep : ∀ x rest s, I (x :: rest) s → I rest (f s x))
    (xs : List α) (s : σ) (hs : I xs s) : I [] (xs.foldl f s) := by
  induction xs generalizing s with
  | nil => exact hs
  | cons x rest ih => exact ih _ (hstep x rest s hs)

end Slither.Framework
