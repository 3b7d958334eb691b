import Mathlib.Algebra.BigOperators.Group.List.Basic
import Mathlib.Data.List.Forall2
import Mathlib.Data.List.Nodup
import Mathlib.Logic.Function.Basic

/-! # Keyed collections and families of them

A collection is a list of keyed items whose keys are distinct. A document store
is a family of collections that draws every new key from one counter, so that a
new key can be proved absent without looking at the contents.
-/

namespace Udhar.Lib

/-! ## What holds of all items of a list -/

section Items

variable {α : Type*} {P : α → Prop} {l : List α} {a : α}

theorem forall_mem_concat (old : ∀ x ∈ l, P x) (new : P a) : ∀ x ∈ l ++ [a], P x :=
  List.forall_mem_append.mpr ⟨old, List.forall_mem_singleton.mpr new⟩

/-- Items that a key tells apart, and one more with a new key. -/
theorem injective_concat {β : Type*} {key : α → β}
    (old : ∀ x ∈ l, ∀ y ∈ l, key x = key y → x = y) (new : ∀ x ∈ l, key x ≠ key a) :
    ∀ x ∈ l ++ [a], ∀ y ∈ l ++ [a], key x = key y → x = y := by
  apply forall_mem_concat
  · intro x member
    exact forall_mem_concat (old x member) fun same => absurd same (new x member)
  · exact forall_mem_concat (fun y member same => absurd same.symm (new y member)) fun _ => rfl

theorem forall_mem_set {i : ℕ} (old : ∀ x ∈ l, P x) (new : P a) : ∀ x ∈ l.set i a, P x := by
  intro x member
  rcases List.mem_or_eq_of_mem_set member with inside | rfl
  · exact old x inside
  · exact new

end Items

/-- What a partial function holds once it has been set at one place. -/
theorem update_eq_some_iff {α β : Type*} [DecidableEq α] {f : α → Option β} {a x : α} {b c : β} :
    Function.update f a (some b) x = some c ↔ x = a ∧ b = c ∨ x ≠ a ∧ f x = some c := by
  by_cases here : x = a
  · subst here
    simp only [Function.update_self, Option.some.injEq, true_and, ne_eq, not_true_eq_false,
      false_and, or_false]
  · simp only [Function.update_of_ne here, here, false_and, ne_eq, not_false_eq_true, true_and,
      false_or]

/-! ## Lists whose keyed items have different keys -/

/-- No key belongs to the items at two places. -/
def KeysApart {α β : Type*} (key : α → Option β) (l : List α) : Prop :=
  ∀ (i j : ℕ) (a b : α) (k : β),
    l[i]? = some a → l[j]? = some b → key a = some k → key b = some k → i = j

namespace KeysApart

variable {α β : Type*} {key : α → Option β} {l m : List α} {a : α}

theorem nil : KeysApart key ([] : List α) := fun _ _ _ _ _ none => nomatch none

theorem append (apart : KeysApart key l) (keyless : ∀ a ∈ m, key a = none) :
    KeysApart key (l ++ m) := by
  have old : ∀ {i : ℕ} {a : α} {k : β}, (l ++ m)[i]? = some a → key a = some k →
      l[i]? = some a := by
    intro i a k found has
    rw [List.getElem?_append] at found
    split at found
    · exact found
    · rw [keyless a (List.mem_of_getElem? found)] at has
      cases has
  intro i j a b k first second has has'
  exact apart i j a b k (old first has) (old second has') has has'

theorem concat (apart : KeysApart key l) (alone : ∀ k, key a = some k → ∀ b ∈ l, key b ≠ some k) :
    KeysApart key (l ++ [a]) := by
  intro i j b c k first second has has'
  rw [List.getElem?_append] at first second
  split at first <;> split at second
  · exact apart i j b c k first second has has'
  · obtain rfl := List.mem_singleton.mp (List.mem_of_getElem? second)
    exact absurd has (alone k has' b (List.mem_of_getElem? first))
  · obtain rfl := List.mem_singleton.mp (List.mem_of_getElem? first)
    exact absurd has' (alone k has c (List.mem_of_getElem? second))
  · have here := (List.getElem?_eq_some_iff.mp first).1
    have there := (List.getElem?_eq_some_iff.mp second).1
    simp only [List.length_singleton] at here there
    omega

/-- Replacing items by items with the same keys. -/
theorem of_keys (apart : KeysApart key l) (same : ∀ i : ℕ, m[i]?.map key = l[i]?.map key) :
    KeysApart key m := by
  have old : ∀ {i : ℕ} {b : α}, m[i]? = some b → ∃ c, l[i]? = some c ∧ key c = key b := by
    intro i b found
    have here := same i
    rw [found, Option.map_some] at here
    obtain ⟨c, there, equal⟩ := Option.map_eq_some_iff.mp here.symm
    exact ⟨c, there, equal⟩
  intro i j b c k first second has has'
  obtain ⟨b₀, first, equal⟩ := old first
  obtain ⟨c₀, second, equal'⟩ := old second
  exact apart i j b₀ c₀ k first second (equal.trans has) (equal'.trans has')

theorem set {i : ℕ} (apart : KeysApart key l)
    (alone : ∀ k, key a = some k → ∀ (j : ℕ) (b : α), l[j]? = some b → key b = some k → j = i) :
    KeysApart key (l.set i a) := by
  intro x y b c k first second has has'
  rw [List.getElem?_set] at first second
  split at first <;> split at second
  · rename_i here there
    exact here.symm.trans there
  · rename_i here _
    split at first
    · obtain rfl := Option.some.inj first
      exact here.symm.trans (alone k has y c second has').symm
    · cases first
  · rename_i _ here
    split at second
    · obtain rfl := Option.some.inj second
      exact (alone k has' x b first has).trans here
    · cases second
  · exact apart x y b c k first second has has'

end KeysApart

/-! ## Lists that are built item by item, where an item may fail -/

section Built

variable {α β γ : Type*} {f : α → Option β} {g : β → Option γ} {P : α → β → Prop}

theorem mapM_bind_mapM (xs : List α) :
    (xs.mapM f).bind (List.mapM g) = xs.mapM fun x => (f x).bind g := by
  induction xs with
  | nil => rfl
  | cons x xs ih =>
      rw [List.mapM_cons, List.mapM_cons, ← ih]
      cases f x with
      | none => rfl
      | some y => cases xs.mapM f <;> cases first : g y <;> simp [first]

theorem mapM_cons_eq_some_iff {x : α} {xs : List α} {ys : List β} :
    (x :: xs).mapM f = some ys ↔ ∃ y, f x = some y ∧ ∃ rest, xs.mapM f = some rest ∧
      ys = y :: rest := by
  simp only [List.mapM_cons, Option.bind_eq_bind, Option.bind_eq_some_iff, Option.pure_def,
    Option.some.injEq, eq_comm (a := ys)]

theorem exists_mapM {xs : List α} : (∃ ys, xs.mapM f = some ys ∧ List.Forall₂ P xs ys) ↔
    ∀ x ∈ xs, ∃ y, f x = some y ∧ P x y := by
  induction xs with
  | nil => simp
  | cons x xs ih =>
      rw [List.forall_mem_cons, ← ih]
      constructor
      · rintro ⟨_, built, related⟩
        obtain ⟨y, first, ys, rest, rfl⟩ := mapM_cons_eq_some_iff.mp built
        obtain ⟨holds, related⟩ := List.forall₂_cons.mp related
        exact ⟨⟨y, first, holds⟩, ys, rest, related⟩
      · rintro ⟨⟨y, first, holds⟩, ys, rest, related⟩
        exact ⟨y :: ys, mapM_cons_eq_some_iff.mpr ⟨y, first, ys, rest, rfl⟩, .cons holds related⟩

theorem mapM_map (e : γ → α) (xs : List γ) : (xs.map e).mapM f = xs.mapM fun x => f (e x) := by
  induction xs with
  | nil => rfl
  | cons x xs ih => rw [List.map_cons, List.mapM_cons, List.mapM_cons, ih]

theorem mapM_eq_map {h : α → β} (each : ∀ x, f x = some (h x)) (xs : List α) :
    xs.mapM f = some (xs.map h) := by
  induction xs with
  | nil => rfl
  | cons x xs ih => rw [List.mapM_cons, each x, ih]; rfl

/-- The images of a list up to the first that is missing, and whether none is. -/
def mapUntil (f : α → Option β) : List α → List β × Bool
  | [] => ([], true)
  | a :: xs =>
      match f a with
      | some b => (b :: (mapUntil f xs).1, (mapUntil f xs).2)
      | none => ([], false)

theorem mapUntil_map {e : γ → α} {h : γ → β} (each : ∀ x, f (e x) = some (h x)) (xs : List γ) :
    mapUntil f (xs.map e) = (xs.map h, true) := by
  induction xs with
  | nil => rfl
  | cons x xs ih => simp only [List.map_cons, mapUntil, each, ih]

theorem mapUntil_of_forall {xs : List α} (each : ∀ x ∈ xs, ∃ b, f x = some b) :
    (mapUntil f xs).2 = true ∧ xs.map f = (mapUntil f xs).1.map some := by
  induction xs with
  | nil => exact ⟨rfl, rfl⟩
  | cons x xs ih =>
      obtain ⟨⟨b, image⟩, rest⟩ := List.forall_mem_cons.mp each
      obtain ⟨ended, same⟩ := ih rest
      simp only [mapUntil, image, List.map_cons, same, ended, and_self]

theorem mem_mapUntil {xs : List α} {b : β} (listed : b ∈ (mapUntil f xs).1) :
    ∃ x ∈ xs, f x = some b := by
  induction xs with
  | nil => cases listed
  | cons x xs ih =>
      simp only [mapUntil] at listed
      split at listed
      · rename_i c image
        rcases List.mem_cons.mp listed with rfl | later
        · exact ⟨x, List.mem_cons_self, image⟩
        · obtain ⟨x', member, image'⟩ := ih later
          exact ⟨x', List.mem_cons_of_mem x member, image'⟩
      · cases listed

/-- A list all of whose items are images is the image of a list. -/
theorem exists_map_eq {e : γ → α} {Q : γ → Prop} {xs : List α}
    (images : ∀ x ∈ xs, ∃ c, x = e c ∧ Q c) : ∃ cs : List γ, xs = cs.map e ∧ ∀ c ∈ cs, Q c := by
  induction xs with
  | nil => exact ⟨[], rfl, fun _ none => nomatch none⟩
  | cons x xs ih =>
      obtain ⟨⟨c, rfl, holds⟩, rest⟩ := List.forall_mem_cons.mp images
      obtain ⟨cs, rfl, all⟩ := ih rest
      exact ⟨c :: cs, rfl, List.forall_mem_cons.mpr ⟨holds, all⟩⟩

end Built

/-! ## Collections -/

/-- Items under distinct keys, in the order in which they were inserted. -/
structure Collection (κ α : Type*) where
  entries : List (κ × α)
  distinct : (entries.map Prod.fst).Nodup

namespace Collection

variable {κ α M : Type*}

@[ext] theorem ext {c d : Collection κ α} (same : c.entries = d.entries) : c = d := by
  cases c
  cases d
  cases same
  rfl

def empty : Collection κ α := ⟨[], List.nodup_nil⟩

def keys (c : Collection κ α) : List κ := c.entries.map Prod.fst

theorem key_mem {c : Collection κ α} {e : κ × α} (member : e ∈ c.entries) : e.1 ∈ c.keys :=
  List.mem_map_of_mem member

/-- Insert an item under a key that is not in use. -/
def insert (c : Collection κ α) (k : κ) (a : α) (absent : k ∉ c.keys) : Collection κ α where
  entries := c.entries ++ [(k, a)]
  distinct := by
    rw [List.map_append, List.map_singleton, ← List.concat_eq_append]
    exact List.Nodup.concat absent c.distinct

/-- Change the items whose key satisfies `p`; keys and order stay. -/
def modify (c : Collection κ α) (p : κ → Bool) (f : α → α) : Collection κ α where
  entries := c.entries.map fun e => (e.1, if p e.1 then f e.2 else e.2)
  distinct := by
    simpa only [List.map_map, Function.comp_def] using c.distinct

@[simp] theorem entries_empty : (empty : Collection κ α).entries = [] := rfl

@[simp] theorem entries_insert (c : Collection κ α) (k : κ) (a : α) (absent : k ∉ c.keys) :
    (c.insert k a absent).entries = c.entries ++ [(k, a)] := rfl

@[simp] theorem keys_insert (c : Collection κ α) (k : κ) (a : α) (absent : k ∉ c.keys) :
    (c.insert k a absent).keys = c.keys ++ [k] := by
  simp only [keys, entries_insert, List.map_append, List.map_cons, List.map_nil]

@[simp] theorem keys_modify (c : Collection κ α) (p : κ → Bool) (f : α → α) :
    (c.modify p f).keys = c.keys := by
  simp only [keys, modify, List.map_map, Function.comp_def]

theorem mem_modify {c : Collection κ α} {p : κ → Bool} {f : α → α} {e : κ × α} :
    e ∈ (c.modify p f).entries ↔ ∃ a, (e.1, a) ∈ c.entries ∧ e.2 = if p e.1 then f a else a := by
  simp only [modify, List.mem_map]
  constructor
  · rintro ⟨⟨k, a⟩, member, rfl⟩
    exact ⟨a, member, rfl⟩
  · rintro ⟨a, member, same⟩
    exact ⟨(e.1, a), member, by rw [← same]⟩

section Lookup

variable [DecidableEq κ]

/-- The item under a key. -/
def get? (c : Collection κ α) (k : κ) : Option α := c.entries.lookup k

theorem get?_eq_some {c : Collection κ α} {k : κ} {a : α} :
    c.get? k = some a ↔ (k, a) ∈ c.entries := by
  rw [get?, List.lookup_eq_some_iff]
  constructor
  · rintro ⟨before, after, split, _⟩
    rw [split]
    exact List.mem_append_right _ List.mem_cons_self
  · intro member
    obtain ⟨before, after, split⟩ := List.append_of_mem member
    refine ⟨before, after, split, ?_⟩
    intro e earlier
    have distinct := c.distinct
    rw [split, List.map_append, List.map_cons, List.nodup_middle, List.nodup_cons] at distinct
    rw [bne_iff_ne]
    rintro rfl
    exact distinct.1 (List.mem_append_left _ (List.mem_map.mpr ⟨e, earlier, rfl⟩))

end Lookup

/-- Changing nothing changes nothing. -/
theorem modify_eq_self {c : Collection κ α} {p : κ → Bool} {f : α → α}
    (fixed : ∀ e ∈ c.entries, p e.1 = true → f e.2 = e.2) : c.modify p f = c := by
  ext1
  calc
    (c.modify p f).entries = c.entries.map id := by
      apply List.map_congr_left
      intro e member
      by_cases chosen : p e.1 = true
      · simp only [chosen, if_true, fixed e member chosen, id]
      · simp only [chosen, if_false, id, Bool.false_eq_true]
    _ = c.entries := List.map_id _

/-- A modification that leaves the collection as it is fixes what it selects. -/
theorem fixed_of_modify_eq_self {c : Collection κ α} {p : κ → Bool} {f : α → α}
    (same : c.modify p f = c) : ∀ e ∈ c.entries, p e.1 = true → f e.2 = e.2 := by
  intro e member chosen
  have entries : c.entries.map (fun e => (e.1, if p e.1 then f e.2 else e.2)) =
      c.entries.map id := by
    rw [List.map_id]
    exact congrArg Collection.entries same
  have here := List.map_inj_left.mp entries e member
  simpa only [chosen, if_true, id] using congrArg Prod.snd here

section Sums

variable [AddCommMonoid M]

/-- The sum of a measure over all items. -/
def total (c : Collection κ α) (g : α → M) : M := (c.entries.map fun e => g e.2).sum

/-- The sum of a measure over the items whose key satisfies `p`. -/
def totalOn (c : Collection κ α) (p : κ → Bool) (g : α → M) : M :=
  (c.entries.map fun e => if p e.1 then g e.2 else 0).sum

@[simp] theorem total_insert (c : Collection κ α) (k : κ) (a : α) (absent : k ∉ c.keys)
    (g : α → M) : (c.insert k a absent).total g = c.total g + g a := by
  simp only [total, entries_insert, List.map_append, List.sum_append, List.map_cons, List.map_nil,
    List.sum_cons, List.sum_nil, add_zero]

theorem totalOn_insert (c : Collection κ α) (k : κ) (a : α) (absent : k ∉ c.keys)
    {p : κ → Bool} (outside : p k = false) (g : α → M) :
    (c.insert k a absent).totalOn p g = c.totalOn p g := by
  simp only [totalOn, entries_insert, List.map_append, List.sum_append, List.map_cons, List.map_nil,
    List.sum_cons, List.sum_nil, outside, Bool.false_eq_true, if_false, add_zero]

/-- Items outside the selection that weigh nothing do not matter. -/
theorem totalOn_eq_total {c : Collection κ α} {p : κ → Bool} {g : α → M}
    (rest : ∀ e ∈ c.entries, p e.1 = false → g e.2 = 0) : c.totalOn p g = c.total g := by
  unfold totalOn total
  congr 1
  apply List.map_congr_left
  intro e member
  cases chosen : p e.1 with
  | true => rfl
  | false => exact (rest e member chosen).symm

/-- Selecting every key in use selects everything. -/
theorem totalOn_keys [DecidableEq κ] (c : Collection κ α) (g : α → M) :
    c.totalOn (c.keys.contains ·) g = c.total g := by
  apply totalOn_eq_total
  intro e member outside
  rw [List.contains_iff_mem.mpr (key_mem member)] at outside
  cases outside

/-- A change that a measure does not see does not change the total. -/
theorem total_modify_of_eq {c : Collection κ α} {p : κ → Bool} {f : α → α} {g : α → M}
    (unseen : ∀ a, g (f a) = g a) : (c.modify p f).total g = c.total g := by
  simp only [total, modify, List.map_map]
  congr 1
  apply List.map_congr_left
  intro e _
  simp only [Function.comp_def]
  split
  · exact unseen e.2
  · rfl

/-- Clearing the selected items takes exactly their weight out of the total. -/
theorem total_modify_add_totalOn {c : Collection κ α} {p : κ → Bool} {f : α → α} {g : α → M}
    (cleared : ∀ a, g (f a) = 0) : (c.modify p f).total g + c.totalOn p g = c.total g := by
  simp only [total, totalOn, modify, List.map_map]
  rw [← List.sum_map_add]
  congr 1
  apply List.map_congr_left
  intro e _
  simp only [Function.comp_def]
  cases p e.1 <;> simp [cleared]

end Sums

/-- Every item of the first collection is still there in the second, under the
    same key and related to what it was. -/
def Extends (R : α → α → Prop) (c d : Collection κ α) : Prop :=
  ∀ e ∈ c.entries, ∃ a, (e.1, a) ∈ d.entries ∧ R e.2 a

theorem Extends.refl {R : α → α → Prop} (reflexive : ∀ a, R a a) (c : Collection κ α) :
    Extends R c c :=
  fun e member => ⟨e.2, member, reflexive e.2⟩

theorem Extends.trans {R : α → α → Prop} (transitive : ∀ a b d, R a b → R b d → R a d)
    {c d e : Collection κ α} (first : Extends R c d) (second : Extends R d e) :
    Extends R c e := by
  intro entry member
  obtain ⟨a, there, changed⟩ := first entry member
  obtain ⟨b, later, again⟩ := second (entry.1, a) there
  exact ⟨b, later, transitive _ _ _ changed again⟩

theorem Extends.keys {R : α → α → Prop} {c d : Collection κ α} (extended : Extends R c d) {k : κ}
    (present : k ∈ c.keys) : k ∈ d.keys := by
  obtain ⟨e, member, rfl⟩ := List.mem_map.mp present
  obtain ⟨a, there, _⟩ := extended e member
  exact key_mem (e := (e.1, a)) there

/-- A key that was in use still names the item it named. -/
theorem Extends.origin {R : α → α → Prop} {c d : Collection κ α} (extended : Extends R c d)
    {e : κ × α} (member : e ∈ d.entries) (known : e.1 ∈ c.keys) :
    ∃ a, (e.1, a) ∈ c.entries ∧ R a e.2 := by
  obtain ⟨before, stored, same⟩ := List.mem_map.mp known
  obtain ⟨b, there, changed⟩ := extended before stored
  have unique := List.inj_on_of_nodup_map d.distinct member there same.symm
  rw [← same, unique]
  exact ⟨before.2, stored, changed⟩

theorem extends_insert {R : α → α → Prop} (reflexive : ∀ a, R a a) (c : Collection κ α)
    (k : κ) (a : α) (absent : k ∉ c.keys) : Extends R c (c.insert k a absent) :=
  fun e member => ⟨e.2, List.mem_append_left _ member, reflexive e.2⟩

theorem extends_modify {R : α → α → Prop} (reflexive : ∀ a, R a a) (c : Collection κ α)
    (p : κ → Bool) {f : α → α} (changes : ∀ a, R a (f a)) : Extends R c (c.modify p f) := by
  intro e member
  refine ⟨if p e.1 then f e.2 else e.2, mem_modify.mpr ⟨e.2, member, rfl⟩, ?_⟩
  split
  · exact changes e.2
  · exact reflexive e.2

end Collection

/-- A family of collections of documents. `issued` says that every key in use
    was drawn from the counter. -/
structure DocStore (ι α : Type*) where
  coll : ι → Collection Nat α
  nextId : Nat
  issued : ∀ i, ∀ k ∈ (coll i).keys, k < nextId

namespace DocStore

variable {ι α : Type*}

@[ext] theorem ext {s t : DocStore ι α} (colls : ∀ i, s.coll i = t.coll i)
    (ids : s.nextId = t.nextId) : s = t := by
  cases s
  cases t
  obtain rfl := funext colls
  cases ids
  rfl

def empty : DocStore ι α := ⟨fun _ => .empty, 0, fun _ _ member => nomatch member⟩

theorem nextId_absent (s : DocStore ι α) (i : ι) : s.nextId ∉ (s.coll i).keys :=
  fun member => Nat.lt_irrefl _ (s.issued i _ member)

/-- Draw a key without storing anything under it. -/
def skip (s : DocStore ι α) : DocStore ι α where
  coll := s.coll
  nextId := s.nextId + 1
  issued i k member := Nat.lt_succ_of_lt (s.issued i k member)

/-- Keep the collections that satisfy `p`, and empty the others. -/
def restrict (s : DocStore ι α) (p : ι → Bool) : DocStore ι α where
  coll i := if p i then s.coll i else .empty
  nextId := s.nextId
  issued := by
    intro i k member
    split at member
    · exact s.issued i k member
    · cases member

theorem coll_restrict (s : DocStore ι α) (p : ι → Bool) (i : ι) :
    (s.restrict p).coll i = if p i then s.coll i else .empty := rfl

variable [DecidableEq ι]

/-- Store a new document under a fresh key. -/
def add (s : DocStore ι α) (i : ι) (a : α) : DocStore ι α where
  coll := Function.update s.coll i ((s.coll i).insert s.nextId a (s.nextId_absent i))
  nextId := s.nextId + 1
  issued := by
    intro j k member
    by_cases same : j = i
    · subst same
      simp only [Function.update_self, Collection.keys_insert, List.mem_append,
        List.mem_singleton] at member
      rcases member with old | rfl
      · exact Nat.lt_succ_of_lt (s.issued j k old)
      · exact Nat.lt_succ_self _
    · rw [Function.update_of_ne same] at member
      exact Nat.lt_succ_of_lt (s.issued j k member)

/-- Change the documents of one collection whose key satisfies `p`. -/
def modify (s : DocStore ι α) (i : ι) (p : Nat → Bool) (f : α → α) : DocStore ι α where
  coll := Function.update s.coll i ((s.coll i).modify p f)
  nextId := s.nextId
  issued := by
    intro j k member
    by_cases same : j = i
    · subst same
      simp only [Function.update_self, Collection.keys_modify] at member
      exact s.issued j k member
    · rw [Function.update_of_ne same] at member
      exact s.issued j k member

@[simp] theorem coll_add_self (s : DocStore ι α) (i : ι) (a : α) :
    (s.add i a).coll i = (s.coll i).insert s.nextId a (s.nextId_absent i) := by
  simp only [add, Function.update_self]

@[simp] theorem coll_add_of_ne (s : DocStore ι α) {i j : ι} (a : α) (other : j ≠ i) :
    (s.add i a).coll j = s.coll j := by
  simp only [add, Function.update_of_ne other]

@[simp] theorem coll_modify_self (s : DocStore ι α) (i : ι) (p : Nat → Bool) (f : α → α) :
    (s.modify i p f).coll i = (s.coll i).modify p f := by
  simp only [modify, Function.update_self]

@[simp] theorem coll_modify_of_ne (s : DocStore ι α) {i j : ι} (p : Nat → Bool) (f : α → α)
    (other : j ≠ i) : (s.modify i p f).coll j = s.coll j := by
  simp only [modify, Function.update_of_ne other]

@[simp] theorem nextId_modify (s : DocStore ι α) (i : ι) (p : Nat → Bool) (f : α → α) :
    (s.modify i p f).nextId = s.nextId := rfl

@[simp] theorem nextId_add (s : DocStore ι α) (i : ι) (a : α) :
    (s.add i a).nextId = s.nextId + 1 := rfl

section Restrict

variable {p : ι → Bool} {i : ι}

theorem restrict_add (s : DocStore ι α) (a : α) (kept : p i = true) :
    (s.add i a).restrict p = (s.restrict p).add i a := by
  refine DocStore.ext (fun j => ?_) rfl
  by_cases same : j = i
  · subst same
    simp only [coll_restrict, kept, if_true, coll_add_self]
    rfl
  · simp only [coll_restrict, coll_add_of_ne _ a same]

theorem restrict_add_of_not (s : DocStore ι α) (a : α) (dropped : p i = false) :
    (s.add i a).restrict p = (s.restrict p).skip := by
  refine DocStore.ext (fun j => ?_) rfl
  by_cases same : j = i
  · subst same
    simp only [skip, coll_restrict, dropped, Bool.false_eq_true, if_false]
  · simp only [skip, coll_restrict, coll_add_of_ne _ a same]

theorem restrict_modify (s : DocStore ι α) (q : Nat → Bool) (f : α → α) (kept : p i = true) :
    (s.modify i q f).restrict p = (s.restrict p).modify i q f := by
  refine DocStore.ext (fun j => ?_) rfl
  by_cases same : j = i
  · subst same
    simp only [coll_restrict, kept, if_true, coll_modify_self]
  · simp only [coll_restrict, coll_modify_of_ne _ q f same]

theorem restrict_modify_of_not (s : DocStore ι α) (q : Nat → Bool) (f : α → α)
    (dropped : p i = false) : (s.modify i q f).restrict p = s.restrict p := by
  refine DocStore.ext (fun j => ?_) rfl
  by_cases same : j = i
  · subst same
    simp only [coll_restrict, dropped, Bool.false_eq_true, if_false]
  · simp only [coll_restrict, coll_modify_of_ne _ q f same]

end Restrict

end DocStore

end Udhar.Lib
