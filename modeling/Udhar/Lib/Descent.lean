import Udhar.Lib.Run
import Mathlib.Algebra.BigOperators.Group.List.Basic
import Mathlib.Algebra.GroupWithZero.Nat

/-! # Systems that come to rest

When certain events lower a measure of the state, only finitely many of them can
follow one another; and when one of them is possible as long as the measure is not
zero, some list of them brings the system to rest.
-/

namespace Udhar.Lib

section Runs

variable {σ ε : Type*} {step : σ → ε → Option σ} {μ : σ → ℕ} {E : ε → Prop}
  (descends : ∀ s e t, E e → step s e = some t → μ t < μ s)

include descends

theorem run_length_le {s t : σ} {es : List ε} (played : run step s es = some t)
    (events : ∀ e ∈ es, E e) : es.length + μ t ≤ μ s := by
  induction es generalizing s with
  | nil =>
      cases played
      simp only [List.length_nil, Nat.zero_add, Nat.le_refl]
  | cons e es ih =>
      obtain ⟨u, first, rest⟩ := run_cons.mp played
      have lower := descends s e u (events e List.mem_cons_self) first
      have later := ih rest fun e' member => events e' (List.mem_cons_of_mem e member)
      rw [List.length_cons]
      omega

theorem exists_run_to_rest {I : σ → Prop}
    (keep : ∀ s e t, I s → step s e = some t → I t)
    (progress : ∀ s, I s → 0 < μ s → ∃ e t, E e ∧ step s e = some t)
    {s : σ} (start : I s) : ∃ es t, (∀ e ∈ es, E e) ∧ run step s es = some t ∧ μ t = 0 := by
  induction left : μ s using Nat.strong_induction_on generalizing s with
  | _ n ih =>
      rcases Nat.eq_zero_or_pos n with rfl | more
      · exact ⟨[], s, fun _ none => (nomatch none), rfl, left⟩
      · obtain ⟨e, t, event, first⟩ := progress s start (left ▸ more)
        obtain ⟨es, u, events, rest, done⟩ :=
          ih (μ t) (left ▸ descends s e t event first) (keep s e t start first) rfl
        exact ⟨e :: es, u, List.forall_mem_cons.mpr ⟨event, events⟩,
          run_cons.mpr ⟨t, first, rest⟩, done⟩

end Runs

/-! ## Measures of lists of parts -/

section Parts

variable {α : Type*} {f : α → ℕ} {l : List α} {a b : α} {i : ℕ}

theorem sum_map_set_lt (found : l[i]? = some a) (less : f b < f a) :
    ((l.set i b).map f).sum < (l.map f).sum := by
  induction l generalizing i with
  | nil => cases found
  | cons c l ih =>
      cases i with
      | zero =>
          cases found
          simpa using less
      | succ i =>
          have rest := ih found
          simpa using rest

theorem sum_map_eq_zero : (l.map f).sum = 0 ↔ ∀ a ∈ l, f a = 0 := by
  induction l with
  | nil => simp
  | cons c l ih => simp [ih]

end Parts

end Udhar.Lib
