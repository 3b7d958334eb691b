import Mathlib.Data.List.Infix

/-! # The part of a list that belongs to one owner

Several owners fill one list; its part is what one of them has put there. An
element keeps its rank: the number of elements of the owner before it is its
place in the part, however many elements others add.
-/

namespace Udhar.Lib

variable {α β κ : Type*} [DecidableEq κ] (owner : α → κ) (k : κ)

/-- The elements of one owner. -/
def part (l : List α) : List α := l.filter fun a => owner a = k

/-- The place that `l[i]` has among the elements of the owner. -/
def rank (l : List α) (i : ℕ) : ℕ := (part owner k (l.take i)).length

variable {owner k} {l m : List α} {a b : α} {i : ℕ}

@[simp] theorem part_nil : part owner k [] = [] := rfl

@[simp] theorem part_append : part owner k (l ++ m) = part owner k l ++ part owner k m :=
  List.filter_append l m

theorem part_cons_self (mine : owner a = k) : part owner k (a :: l) = a :: part owner k l :=
  List.filter_cons_of_pos (decide_eq_true mine)

theorem part_cons_of_ne (other : owner a ≠ k) : part owner k (a :: l) = part owner k l :=
  List.filter_cons_of_neg (by simpa using other)

theorem part_concat_self (mine : owner a = k) :
    part owner k (l ++ [a]) = part owner k l ++ [a] := by
  rw [part_append, part_cons_self mine, part_nil]

theorem part_concat_of_ne (other : owner a ≠ k) : part owner k (l ++ [a]) = part owner k l := by
  rw [part_append, part_cons_of_ne other, part_nil, List.append_nil]

theorem mem_part : a ∈ part owner k l ↔ a ∈ l ∧ owner a = k := by
  simp only [part, List.mem_filter, decide_eq_true_eq]

/-- The list around one of its elements. -/
theorem part_split (found : l[i]? = some a) :
    part owner k l = part owner k (l.take i) ++ part owner k (a :: l.drop (i + 1)) := by
  obtain ⟨inside, rfl⟩ := List.getElem?_eq_some_iff.mp found
  rw [← part_append, List.getElem_cons_drop, List.take_append_drop]

/-- The list with one of its elements replaced. -/
theorem part_set_split (found : l[i]? = some a) :
    part owner k (l.set i b) = part owner k (l.take i) ++ part owner k (b :: l.drop (i + 1)) := by
  have inside := (List.getElem?_eq_some_iff.mp found).1
  rw [List.set_eq_take_append_cons_drop, if_pos inside, part_append]

theorem getElem?_part (found : l[i]? = some a) (mine : owner a = k) :
    (part owner k l)[rank owner k l i]? = some a := by
  rw [part_split found, part_cons_self mine, rank, List.getElem?_append_right (Nat.le_refl _),
    Nat.sub_self, List.getElem?_cons_zero]

theorem part_set_self (found : l[i]? = some a) (mine : owner a = k) (mine' : owner b = k) :
    part owner k (l.set i b) = (part owner k l).set (rank owner k l i) b := by
  rw [part_set_split found, part_split found, part_cons_self mine, part_cons_self mine', rank,
    List.set_append_right _ _ (Nat.le_refl _), Nat.sub_self, List.set_cons_zero]

theorem part_set_of_ne (found : l[i]? = some a) (other : owner a ≠ k) (other' : owner b ≠ k) :
    part owner k (l.set i b) = part owner k l := by
  rw [part_set_split found, part_split found, part_cons_of_ne other, part_cons_of_ne other']

@[simp] theorem rank_length : rank owner k l l.length = (part owner k l).length := by
  rw [rank, List.take_length]

/-! ## Parts seen through a function

The function may change with the list, as long as it agrees on what was there. -/

section Map

variable {f g : α → β} (agree : ∀ a ∈ l, owner a = k → f a = g a)

include agree

theorem map_part_congr : (part owner k l).map f = (part owner k l).map g := by
  apply List.map_congr_left
  intro a member
  obtain ⟨inside, mine⟩ := mem_part.mp member
  exact agree a inside mine

theorem map_part_append_self (mine : ∀ a ∈ m, owner a = k) :
    (part owner k (l ++ m)).map f = (part owner k l).map g ++ m.map f := by
  have whole : part owner k m = m :=
    List.filter_eq_self.mpr fun a member => decide_eq_true (mine a member)
  rw [part_append, List.map_append, map_part_congr agree, whole]

theorem map_part_append_of_ne (other : ∀ a ∈ m, owner a ≠ k) :
    (part owner k (l ++ m)).map f = (part owner k l).map g := by
  have nothing : part owner k m = [] :=
    List.filter_eq_nil_iff.mpr fun a member => by simpa using other a member
  rw [part_append, nothing, List.append_nil, map_part_congr agree]

theorem map_part_concat_self (mine : owner a = k) :
    (part owner k (l ++ [a])).map f = (part owner k l).map g ++ [f a] :=
  map_part_append_self agree (List.forall_mem_singleton.mpr mine)

theorem map_part_concat_of_ne (other : owner a ≠ k) :
    (part owner k (l ++ [a])).map f = (part owner k l).map g :=
  map_part_append_of_ne agree (List.forall_mem_singleton.mpr other)

theorem map_part_set (found : l[i]? = some a) (mine : owner a = k) (mine' : owner b = k) :
    (part owner k (l.set i b)).map f =
      ((part owner k l).map g).set (rank owner k l i) (f b) := by
  rw [part_set_self found mine mine', List.map_set, map_part_congr agree]

theorem map_part_set_of_ne (found : l[i]? = some a) (other : owner a ≠ k) (other' : owner b ≠ k) :
    (part owner k (l.set i b)).map f = (part owner k l).map g := by
  rw [part_set_of_ne found other other', map_part_congr agree]

end Map

/-! ## Ranks that stay -/

/-- A rank is a matter of the owners alone. -/
theorem rank_eq_count : rank owner k l i = ((l.map owner).take i).count k := by
  rw [rank, part, ← List.countP_eq_length_filter, ← List.map_take, List.count, List.countP_map]
  rfl

/-- Ranks stay when the list grows and its elements keep their owners. -/
theorem rank_of_start (grown : l.map owner <+: m.map owner) (inside : i ≤ l.length) :
    rank owner k m i = rank owner k l i := by
  obtain ⟨later, grown⟩ := grown
  rw [rank_eq_count, rank_eq_count, ← grown,
    List.take_append_of_le_length (by rwa [List.length_map])]

theorem map_set_same {f : α → β} (found : l[i]? = some a) (same : f b = f a) :
    (l.set i b).map f = l.map f := by
  obtain ⟨inside, rfl⟩ := List.getElem?_eq_some_iff.mp found
  rw [List.map_set, same]
  apply List.ext_getElem
  · rw [List.length_set]
  · intro j before after
    rw [List.getElem_set]
    split
    · rename_i here
      subst here
      rw [List.getElem_map]
    · rfl

end Udhar.Lib
