import Mathlib.Computability.RegularExpressions

/-! # Regular expressions with character classes

A class matches the words of one character that passes a check. Repeated, it
matches the words of which all characters do.
-/

namespace Udhar.Lib.Regex

open RegularExpression

variable {α : Type*} {r r' : RegularExpression α} {p p' : α → Bool} {w : List α}

/-- `r+`. -/
def oneOrMore (r : RegularExpression α) : RegularExpression α := r * star r

/-- `r` matches a single character if it passes `p`, and nothing else. -/
def IsClass (r : RegularExpression α) (p : α → Bool) : Prop :=
  ∀ w, w ∈ r.matches' ↔ ∃ a, p a = true ∧ w = [a]

theorem isClass_char [DecidableEq α] (a : α) : IsClass (char a) (· = a) := by
  intro w
  rw [matches'_char]
  constructor
  · exact fun same => ⟨a, decide_eq_true rfl, same⟩
  · rintro ⟨b, same, rfl⟩
    rw [of_decide_eq_true same]
    rfl

theorem IsClass.add (left : IsClass r p) (right : IsClass r' p') :
    IsClass (r + r') fun a => p a || p' a := by
  intro w
  rw [matches'_add, Language.mem_add, left w, right w, ← exists_or]
  simp only [← or_and_right, Bool.or_eq_true]

/-- Some words that `r` matches make up a word. -/
theorem mem_oneOrMore : w ∈ (oneOrMore r).matches' ↔
    ∃ ws : List (List α), ws ≠ [] ∧ w = ws.flatten ∧ ∀ v ∈ ws, v ∈ r.matches' := by
  rw [oneOrMore, matches'_mul, matches'_star, Language.mem_mul]
  constructor
  · rintro ⟨v, first, _, rest, rfl⟩
    obtain ⟨ws, rfl, each⟩ := Language.mem_kstar.mp rest
    exact ⟨v :: ws, List.cons_ne_nil _ _, rfl, List.forall_mem_cons.mpr ⟨first, each⟩⟩
  · rintro ⟨ws, nonempty, rfl, each⟩
    cases ws with
    | nil => exact absurd rfl nonempty
    | cons v ws =>
        obtain ⟨first, rest⟩ := List.forall_mem_cons.mp each
        exact ⟨v, first, ws.flatten, Language.join_mem_kstar rest, rfl⟩

theorem mem_mul_char {a : α} : w ∈ (r * char a).matches' ↔ ∃ v ∈ r.matches', w = v ++ [a] := by
  rw [matches'_mul, matches'_char, Language.mem_mul]
  constructor
  · rintro ⟨v, matched, _, rfl, rfl⟩
    exact ⟨v, matched, rfl⟩
  · rintro ⟨v, matched, rfl⟩
    exact ⟨v, matched, [a], rfl, rfl⟩

/-- Words that `r` matches, each followed by the terminator. -/
theorem mem_oneOrMore_char {a : α} : w ∈ (oneOrMore (r * char a)).matches' ↔
    ∃ vs : List (List α), vs ≠ [] ∧ w = (vs.map (· ++ [a])).flatten ∧
      ∀ v ∈ vs, v ∈ r.matches' := by
  rw [mem_oneOrMore]
  constructor
  · rintro ⟨ws, nonempty, rfl, each⟩
    obtain ⟨vs, rfl, all⟩ : ∃ vs : List (List α), ws = vs.map (· ++ [a]) ∧
        ∀ v ∈ vs, v ∈ r.matches' := by
      clear nonempty
      induction ws with
      | nil => exact ⟨[], rfl, fun _ none => nomatch none⟩
      | cons w ws ih =>
          obtain ⟨first, rest⟩ := List.forall_mem_cons.mp each
          obtain ⟨v, matched, rfl⟩ := mem_mul_char.mp first
          obtain ⟨vs, rfl, all⟩ := ih rest
          exact ⟨v :: vs, rfl, List.forall_mem_cons.mpr ⟨matched, all⟩⟩
    exact ⟨vs, fun empty => nonempty (by rw [empty]; rfl), rfl, all⟩
  · rintro ⟨vs, nonempty, rfl, all⟩
    refine ⟨_, fun empty => nonempty (List.map_eq_nil_iff.mp empty), rfl, ?_⟩
    intro w inside
    obtain ⟨v, member, rfl⟩ := List.mem_map.mp inside
    exact mem_mul_char.mpr ⟨v, all v member, rfl⟩

/-- The words made of `n` characters of a class. -/
theorem IsClass.flatten (cls : IsClass r p) {n : ℕ} :
    (∃ ws : List (List α), w = ws.flatten ∧ ws.length = n ∧ ∀ v ∈ ws, v ∈ r.matches') ↔
      w.length = n ∧ ∀ a ∈ w, p a = true := by
  constructor
  · rintro ⟨ws, rfl, rfl, each⟩
    induction ws with
    | nil => exact ⟨rfl, fun _ none => nomatch none⟩
    | cons v ws ih =>
        obtain ⟨first, rest⟩ := List.forall_mem_cons.mp each
        obtain ⟨a, passes, rfl⟩ := (cls v).mp first
        obtain ⟨count, all⟩ := ih rest
        exact ⟨congrArg Nat.succ count, List.forall_mem_cons.mpr ⟨passes, all⟩⟩
  · rintro ⟨count, all⟩
    refine ⟨w.map ([·]), ?_, by rw [List.length_map, count], ?_⟩
    · exact (List.flatMap_singleton' w).symm
    · intro v inside
      obtain ⟨a, member, rfl⟩ := List.mem_map.mp inside
      exact (cls [a]).mpr ⟨a, all a member, rfl⟩

theorem IsClass.mem_pow (cls : IsClass r p) {n : ℕ} :
    w ∈ (r ^ n).matches' ↔ w.length = n ∧ ∀ a ∈ w, p a = true := by
  rw [matches'_pow, Language.mem_pow, cls.flatten]

theorem IsClass.mem_oneOrMore (cls : IsClass r p) :
    w ∈ (oneOrMore r).matches' ↔ w ≠ [] ∧ ∀ a ∈ w, p a = true := by
  rw [Regex.mem_oneOrMore]
  constructor
  · rintro ⟨ws, nonempty, same, each⟩
    obtain ⟨count, all⟩ := cls.flatten.mp ⟨ws, same, rfl, each⟩
    refine ⟨fun empty => nonempty ?_, all⟩
    rw [empty] at count
    exact List.length_eq_zero_iff.mp count.symm
  · rintro ⟨nonempty, all⟩
    obtain ⟨ws, same, count, each⟩ := cls.flatten.mpr ⟨rfl, all⟩
    refine ⟨ws, ?_, same, each⟩
    rintro rfl
    exact nonempty (List.length_eq_zero_iff.mp count.symm)

end Udhar.Lib.Regex
