import Udhar.Lib.Run
import Mathlib.Algebra.BigOperators.Group.List.Basic

/-! # Accounts

A quantity is booked part by part: each part of a list carries an amount, and a
step replaces or appends one part. The amounts are those of any commutative
monoid, so that the same rules count money and collect documents.
-/

namespace Udhar.Lib

section Parts

variable {α M : Type*} [AddCommMonoid M] (f : α → M) {l : List α} {a : α}

theorem sum_map_append_of_zero {l m : List α} (nothing : ∀ a ∈ m, f a = 0) :
    ((l ++ m).map f).sum = (l.map f).sum := by
  rw [List.map_append, List.sum_append, List.sum_eq_zero (List.forall_mem_map.mpr nothing),
    add_zero]

/-- Replacing a part moves the difference of the two amounts. -/
theorem sum_map_set_add {i : ℕ} (found : l[i]? = some a) (b : α) :
    ((l.set i b).map f).sum + f a = (l.map f).sum + f b := by
  induction l generalizing i with
  | nil => cases found
  | cons c l ih =>
      cases i with
      | zero =>
          cases found
          simp only [List.set_cons_zero, List.map_cons, List.sum_cons]
          rw [add_right_comm, add_comm (f b), add_right_comm]
      | succ i =>
          simp only [List.set_cons_succ, List.map_cons, List.sum_cons]
          rw [add_assoc, ih found, add_assoc]

/-- Where the amounts are the same, nothing moves. -/
theorem sum_map_set_of_eq {i : ℕ} {b : α} (found : l[i]? = some a) (same : f b = f a) :
    ((l.set i b).map f).sum = (l.map f).sum := by
  induction l generalizing i with
  | nil => cases found
  | cons c l ih =>
      cases i with
      | zero =>
          cases found
          simp only [List.set_cons_zero, List.map_cons, same]
      | succ i => simp only [List.set_cons_succ, List.map_cons, List.sum_cons, ih found]

end Parts

/-- When every step writes down what its event notes, the run writes down what all its
    events note, in their order. -/
theorem run_writes {σ ε α : Type*} {step : σ → ε → Option σ} (log : σ → List α)
    {note : ε → List α} (writes : ∀ s e t, step s e = some t → log t = log s ++ note e)
    {s t : σ} {es : List ε} (played : run step s es = some t) :
    log t = log s ++ es.flatMap note := by
  induction es generalizing s with
  | nil =>
      cases played
      exact (List.append_nil _).symm
  | cons e es ih =>
      obtain ⟨u, first, rest⟩ := run_cons.mp played
      rw [ih rest, writes s e u first, List.flatMap_cons, List.append_assoc]

end Udhar.Lib
