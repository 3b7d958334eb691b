import Mathlib.Data.List.Basic

/-! # Splitting a list at a separator

`List.splitOn` cuts a list at every separator. What is known of a list of which all
pieces are known, where the pieces stand, and the part before the first separator.
-/

namespace Udhar.Lib.Split

variable {α β : Type*} {a : α} {xs ys : List α} {pieces : List (List α)}

theorem intercalate_concat (last : List α) :
    [a].intercalate (pieces ++ [last]) = (pieces.map (· ++ [a])).flatten ++ last := by
  induction pieces with
  | nil => simp
  | cons piece pieces ih =>
      have more : pieces ++ [last] ≠ [] := List.concat_ne_nil last pieces
      rw [List.cons_append, List.intercalate_cons_of_ne_nil more, ih]
      simp

/-! ## Where the pieces stand -/

/-- The pieces, each element with its position, if the first piece stands at `n`. -/
def locate : ℕ → List (List α) → List (List (α × ℕ))
  | _, [] => []
  | n, piece :: pieces => piece.zipIdx n :: locate (n + piece.length + 1) pieces

/-- Forgetting the positions leaves the pieces. -/
theorem locate_fst (n : ℕ) (pieces : List (List α)) :
    (locate n pieces).map (List.map Prod.fst) = pieces := by
  induction pieces generalizing n with
  | nil => rfl
  | cons piece pieces ih => rw [locate, List.map_cons, ih, List.zipIdx_map_fst]

variable [DecidableEq α] [DecidableEq β]

/-! ## The first separator -/

/-- What stands before the first separator. -/
def before (a : α) (xs : List α) : List α := xs.takeWhile (· ≠ a)

/-- What stands after it. -/
def after (a : α) (xs : List α) : List α := (xs.dropWhile (· ≠ a)).tail

theorem before_append (fresh : a ∉ xs) : before a (xs ++ a :: ys) = xs := by
  have passes : ∀ x ∈ xs, decide (x ≠ a) = true := by grind
  rw [before, List.takeWhile_append_of_pos passes, List.takeWhile_cons_of_neg (by simp),
    List.append_nil]

theorem after_append (fresh : a ∉ xs) : after a (xs ++ a :: ys) = ys := by
  have passes : ∀ x ∈ xs, decide (x ≠ a) = true := by grind
  rw [after, List.dropWhile_append_of_pos passes, List.dropWhile_cons_of_neg (by simp),
    List.tail_cons]

theorem before_append_after (member : a ∈ xs) : before a xs ++ a :: after a xs = xs := by
  obtain ⟨start, rest, rfl, fresh⟩ := List.eq_append_cons_of_mem member
  rw [before_append fresh, after_append fresh]

/-! ## Every separator -/

theorem splitOn_cons_self (xs : List α) : (a :: xs).splitOn a = [] :: xs.splitOn a := by
  simp [List.splitOn_cons_eq_if_modifyHead]

/-- What is not a separator joins the first piece. -/
theorem splitOn_cons_of_ne {x : α} (other : x ≠ a) (xs : List α) :
    ∃ first rest, xs.splitOn a = first :: rest ∧ (x :: xs).splitOn a = (x :: first) :: rest := by
  cases cut : xs.splitOn a with
  | nil => exact absurd cut (List.splitOn_ne_nil a xs)
  | cons first rest =>
      refine ⟨first, rest, rfl, ?_⟩
      simp [List.splitOn_cons_eq_if_modifyHead, other, cut]

/-- What holds of the separator and within the pieces holds of the whole list. -/
theorem forall_mem_of_pieces {q : α → Prop} (separator : q a)
    (each : ∀ piece ∈ xs.splitOn a, ∀ x ∈ piece, q x) : ∀ x ∈ xs, q x := by
  induction xs with
  | nil => exact fun _ none => nomatch none
  | cons x xs ih =>
      by_cases same : x = a
      · rw [same, splitOn_cons_self] at each
        rw [same]
        exact List.forall_mem_cons.mpr ⟨separator, ih (List.forall_mem_cons.mp each).2⟩
      · obtain ⟨first, rest, cut, longer⟩ := splitOn_cons_of_ne same xs
        rw [longer] at each
        rw [cut] at ih
        obtain ⟨head, tail⟩ := List.forall_mem_cons.mp each
        obtain ⟨holds, head⟩ := List.forall_mem_cons.mp head
        exact List.forall_mem_cons.mpr ⟨holds, ih (List.forall_mem_cons.mpr ⟨head, tail⟩)⟩

theorem splitOn_map {f : α → β} {b : β} (only : ∀ x, f x = b ↔ x = a) :
    (xs.map f).splitOn b = (xs.splitOn a).map (List.map f) := by
  induction xs with
  | nil => rfl
  | cons x xs ih =>
      by_cases same : x = a
      · rw [List.map_cons, (only x).mpr same, same, splitOn_cons_self, splitOn_cons_self, ih]
        rfl
      · obtain ⟨first, rest, cut, longer⟩ := splitOn_cons_of_ne same xs
        obtain ⟨first', rest', cut', longer'⟩ :=
          splitOn_cons_of_ne (mt (only x).mp same) (xs.map f)
        rw [cut', cut] at ih
        obtain ⟨rfl, rfl⟩ := List.cons.inj ih
        rw [List.map_cons, longer', longer]
        rfl

/-- To split a list with positions is to split the list and to locate its pieces. -/
theorem splitOnP_zipIdx (n : ℕ) (xs : List α) :
    (xs.zipIdx n).splitOnP (fun x => decide (x.1 = a)) = locate n (xs.splitOn a) := by
  induction xs generalizing n with
  | nil => rfl
  | cons x xs ih =>
      rw [List.zipIdx_cons, List.splitOnP_cons_eq_if_modifyHead, ih]
      by_cases same : x = a
      · rw [if_pos (by simpa using same), same, splitOn_cons_self, locate]
        rfl
      · obtain ⟨first, rest, cut, longer⟩ := splitOn_cons_of_ne same xs
        have onward : n + 1 + first.length + 1 = n + (x :: first).length + 1 := by
          rw [List.length_cons]
          omega
        rw [if_neg (by simpa using same), cut, longer, locate, locate, onward]
        rfl

end Udhar.Lib.Split
