import Udhar.Lib.Collection
import Mathlib.Data.Rat.Defs

/-! # The app's Firestore database

`users/{uid}` documents and the three subcollections below each of them. Reads
return snapshots. Writes are the ones the app uses: `add` (and `set` on a new
reference), `set` and `update` of a user document, and the commit of a batch of
updates.
-/

namespace Udhar

open Lib

/-- What a field of a document holds. -/
inductive Value where
  | null
  | bool (b : Bool)
  | number (q : ℚ)
  | string (s : String)
  deriving DecidableEq

/-- A document: its fields by name. -/
abbrev Fields := String → Option Value

namespace Fields

/-- The document that a map literal writes. -/
def ofList (entries : List (String × Value)) : Fields := fun key => entries.lookup key

/-- `update` replaces the named fields and keeps the others. -/
def update (d : Fields) (entries : List (String × Value)) : Fields :=
  fun key => (entries.lookup key).or (d key)

theorem update_of_lookup_none {entries : List (String × Value)} {key : String}
    (absent : entries.lookup key = none) (d : Fields) : d.update entries key = d key := by
  simp only [update, absent, Option.none_or]

end Fields

/-- A user id issued by Firebase Auth. -/
abbrev Uid := ℕ

/-- The two kinds of bills. -/
inductive BillKind where
  | cards
  | rents
  deriving DecidableEq

/-- The subcollections of a user: `Cards` and `Rents`, and `Transactions`. -/
inductive Sub where
  | bills (kind : BillKind)
  | transactions
  deriving DecidableEq

@[ext] structure Database where
  users : Uid → Option Fields
  store : DocStore (Uid × Sub) Fields

namespace Database

def empty : Database := ⟨fun _ => none, .empty⟩

/-- The snapshot that `get` on a subcollection returns. -/
def docs (db : Database) (u : Uid) (c : Sub) : Collection ℕ Fields := db.store.coll (u, c)

/-- `add`, or `doc().set`: a new document under a fresh id. -/
def add (db : Database) (u : Uid) (c : Sub) (d : Fields) : Database :=
  { db with store := db.store.add (u, c) d }

/-- Update the listed documents of a subcollection. -/
def updateDocs (db : Database) (u : Uid) (c : Sub) (ids : List ℕ)
    (entries : List (String × Value)) : Database :=
  { db with store := db.store.modify (u, c) (ids.contains ·) (·.update entries) }

/-- Commit a batch of updates: all of them, or an error when a document is missing. -/
def commit (db : Database) (u : Uid) (c : Sub) (ids : List ℕ)
    (entries : List (String × Value)) : Option Database :=
  if ids.all (· ∈ (db.docs u c).keys) then some (db.updateDocs u c ids entries) else none

/-- `users/{uid}.set`. -/
def setUser (db : Database) (u : Uid) (d : Fields) : Database :=
  { db with users := Function.update db.users u (some d) }

/-- `users/{uid}.update`, an error when there is no such document. -/
def updateUser (db : Database) (u : Uid) (entries : List (String × Value)) : Option Database :=
  (db.users u).map fun d => db.setUser u (d.update entries)

section Reads

variable (db : Database) (u : Uid) (c : Sub)

theorem nextId_absent : db.store.nextId ∉ (db.docs u c).keys := db.store.nextId_absent (u, c)

@[simp] theorem docs_add_self (d : Fields) :
    (db.add u c d).docs u c = (db.docs u c).insert db.store.nextId d (db.nextId_absent u c) :=
  DocStore.coll_add_self _ _ _

@[simp] theorem docs_add_of_ne {v : Uid} {b : Sub} (d : Fields) (other : (v, b) ≠ (u, c)) :
    (db.add u c d).docs v b = db.docs v b :=
  DocStore.coll_add_of_ne _ d other

@[simp] theorem docs_updateDocs_self (ids : List ℕ) (entries : List (String × Value)) :
    (db.updateDocs u c ids entries).docs u c =
      (db.docs u c).modify (ids.contains ·) (·.update entries) :=
  DocStore.coll_modify_self _ _ _ _

@[simp] theorem docs_updateDocs_of_ne {v : Uid} {b : Sub} (ids : List ℕ)
    (entries : List (String × Value)) (other : (v, b) ≠ (u, c)) :
    (db.updateDocs u c ids entries).docs v b = db.docs v b :=
  DocStore.coll_modify_of_ne _ _ _ other

theorem keys_add {v : Uid} {b : Sub} (d : Fields) {x : ℕ} (present : x ∈ (db.docs v b).keys) :
    x ∈ ((db.add u c d).docs v b).keys := by
  by_cases same : (v, b) = (u, c)
  · cases same
    simp only [docs_add_self, Collection.keys_insert, List.mem_append, present, true_or]
  · rwa [docs_add_of_ne db u c d same]

@[simp] theorem keys_updateDocs (v : Uid) (b : Sub) (ids : List ℕ)
    (entries : List (String × Value)) :
    ((db.updateDocs u c ids entries).docs v b).keys = (db.docs v b).keys := by
  by_cases same : (v, b) = (u, c)
  · cases same
    rw [docs_updateDocs_self, Collection.keys_modify]
  · rw [docs_updateDocs_of_ne db u c ids entries same]

@[simp] theorem users_add (d : Fields) : (db.add u c d).users = db.users := rfl

@[simp] theorem users_updateDocs (ids : List ℕ) (entries : List (String × Value)) :
    (db.updateDocs u c ids entries).users = db.users := rfl

@[simp] theorem docs_setUser (d : Fields) (v : Uid) (b : Sub) :
    (db.setUser u d).docs v b = db.docs v b := rfl

theorem users_setUser_self (d : Fields) : (db.setUser u d).users u = some d :=
  Function.update_self _ _ _

theorem users_setUser_of_ne {v : Uid} (d : Fields) (other : v ≠ u) :
    (db.setUser u d).users v = db.users v := Function.update_of_ne other _ _

end Reads

theorem commit_eq_some {db db' : Database} {u : Uid} {c : Sub} {ids : List ℕ}
    {entries : List (String × Value)} (committed : db.commit u c ids entries = some db') :
    db' = db.updateDocs u c ids entries := by
  unfold commit at committed
  split at committed
  · exact (Option.some.inj committed).symm
  · cases committed

/-- A batch built from an earlier snapshot still finds its documents. -/
theorem commit_of_keys {db : Database} {u : Uid} {c : Sub} {ids : List ℕ}
    {entries : List (String × Value)} (present : ∀ k ∈ ids, k ∈ (db.docs u c).keys) :
    db.commit u c ids entries = some (db.updateDocs u c ids entries) := by
  rw [commit, if_pos]
  simpa only [List.all_eq_true, decide_eq_true_eq] using present

theorem updateUser_eq_some {db db' : Database} {u : Uid} {entries : List (String × Value)}
    (updated : db.updateUser u entries = some db') :
    ∃ d, db.users u = some d ∧ db' = db.setUser u (d.update entries) := by
  obtain ⟨d, present, rfl⟩ := Option.map_eq_some_iff.mp updated
  exact ⟨d, present, rfl⟩

end Database

end Udhar
