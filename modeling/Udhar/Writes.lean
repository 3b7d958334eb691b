import Udhar.Bills

/-! # What the app writes

Every operation of a session that reaches the database does one of five things,
all of them below its own user's document. Together they only add documents to
the subcollections and mark bills as paid.
-/

namespace Udhar

open Lib

/-- What one operation in a session of `u` can do to the database. -/
inductive Write (u : Uid) (db : Database) : Database → Prop where
  | nothing : Write u db db
  | record (data : Fields) : Write u db (db.add u .transactions data)
  | bill (k : BillKind) (data : Fields) : Write u db (db.add u (.bills k) data)
  | settle (k : BillKind) (ids : List ℕ) : Write u db (db.updateDocs u (.bills k) ids paid)
  | profile (data : Fields) : Write u db (db.setUser u data)

/-- A bill may have been paid; nothing else has happened to it. -/
structure OnlyPaid (d d' : Fields) : Prop where
  balance : d' "balance" = d "balance" ∨ d' "balance" = some (.string "0")
  others : ∀ key, key ≠ "balance" → d' key = d key

theorem OnlyPaid.refl (d : Fields) : OnlyPaid d d := ⟨.inl rfl, fun _ _ => rfl⟩

theorem OnlyPaid.trans {d d' d'' : Fields} (first : OnlyPaid d d') (second : OnlyPaid d' d'') :
    OnlyPaid d d'' := by
  constructor
  · rcases second.balance with same | zero
    · rw [same]
      exact first.balance
    · exact .inr zero
  · intro key other
    exact (second.others key other).trans (first.others key other)

theorem onlyPaid_update (d : Fields) : OnlyPaid d (d.update paid) :=
  ⟨.inr (paid_balance d), fun _ other => paid_of_ne other d⟩

/-- The history only grows, and bills are only added and paid. -/
structure Grows (db db' : Database) : Prop where
  transactions : ∀ u, (db.docs u .transactions).Extends Eq (db'.docs u .transactions)
  bills : ∀ u k, (db.bills u k).Extends OnlyPaid (db'.bills u k)

instance : Std.Refl Grows where
  refl _ := ⟨fun _ => .refl (fun _ => rfl) _, fun _ _ => .refl OnlyPaid.refl _⟩

instance : IsTrans Database Grows where
  trans _ _ _ first second :=
    ⟨fun u => (first.transactions u).trans (R := Eq) (fun _ _ _ => .trans) (second.transactions u),
      fun u k => (first.bills u k).trans (R := OnlyPaid) (fun _ _ _ => .trans) (second.bills u k)⟩

/-- No document is ever deleted. -/
theorem Grows.keys {db db' : Database} (grows : Grows db db') {u : Uid} {c : Sub} {x : ℕ}
    (present : x ∈ (db.docs u c).keys) : x ∈ (db'.docs u c).keys := by
  cases c with
  | bills k => exact (grows.bills u k).keys present
  | transactions => exact (grows.transactions u).keys present

/-- The documents of a user, the profile and the subcollections, are the same. -/
structure SameFor (v : Uid) (db db' : Database) : Prop where
  profile : db'.users v = db.users v
  docs : ∀ c, db'.docs v c = db.docs v c

theorem SameFor.refl (v : Uid) (db : Database) : SameFor v db db := ⟨rfl, fun _ => rfl⟩

variable {u v : Uid} {db db' : Database}

/-- Adding a document changes none that is there. -/
theorem extends_add {R : Fields → Fields → Prop} (reflexive : ∀ d, R d d) (db : Database)
    (u v : Uid) (b c : Sub) (data : Fields) :
    (db.docs v b).Extends R ((db.add u c data).docs v b) := by
  by_cases same : (v, b) = (u, c)
  · cases same
    rw [Database.docs_add_self]
    exact Collection.extends_insert reflexive _ _ _ _
  · rw [Database.docs_add_of_ne db u c data same]
    exact .refl reflexive _

/-- Only bills are ever updated. -/
theorem extends_settle (db : Database) (u v : Uid) (k : BillKind) (b : Sub) (ids : List ℕ) :
    (db.docs v b).Extends OnlyPaid ((db.updateDocs u (.bills k) ids paid).docs v b) := by
  by_cases same : (v, b) = (u, .bills k)
  · cases same
    rw [Database.docs_updateDocs_self]
    exact Collection.extends_modify OnlyPaid.refl _ _ onlyPaid_update
  · rw [Database.docs_updateDocs_of_ne db u (.bills k) ids paid same]
    exact .refl OnlyPaid.refl _

theorem Write.grows (write : Write u db db') : Grows db db' := by
  cases write with
  | nothing => exact refl_of Grows db
  | profile => exact ⟨fun _ => .refl (fun _ => rfl) _, fun _ _ => .refl OnlyPaid.refl _⟩
  | record data | bill _ data =>
      exact ⟨fun v => extends_add (fun _ => rfl) db u v _ _ data,
        fun v k => extends_add OnlyPaid.refl db u v _ _ data⟩
  | settle k ids =>
      refine ⟨fun v => ?_, fun v b => extends_settle db u v k _ ids⟩
      rw [Database.docs_updateDocs_of_ne db u (.bills k) ids paid (by simp)]
      exact .refl (fun _ => rfl) _

/-- A session writes nothing under another user. -/
theorem Write.sameFor (write : Write u db db') (other : v ≠ u) : SameFor v db db' := by
  have apart : ∀ b c : Sub, (v, b) ≠ (u, c) := fun _ _ same => other (congrArg Prod.fst same)
  cases write with
  | nothing => exact .refl v db
  | record data | bill _ data =>
      exact ⟨rfl, fun b => Database.docs_add_of_ne db u _ data (apart b _)⟩
  | settle k ids =>
      exact ⟨rfl, fun b => Database.docs_updateDocs_of_ne db u _ ids paid (apart b _)⟩
  | profile data => exact ⟨Database.users_setUser_of_ne db u data other, fun _ => rfl⟩

end Udhar
