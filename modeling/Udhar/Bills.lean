import Udhar.Dart
import Udhar.Firestore
import Mathlib.Algebra.Group.Submonoid.Defs

/-! # Bills

The documents of `Cards` and `Rents`: how the two forms write them, how the
balance screens add them up, and what they are worth.
-/

namespace Udhar

open Lib Dart

/-! ## The forms -/

/-- What `onCreditCardModelChange` keeps of the card form. -/
structure CardForm where
  cardNumber : String
  expiryDate : String
  cardHolderName : String
  cvvCode : String

/-- `cardData` of the Add Cards page: every card starts with the same debt. -/
def CardForm.cardData (form : CardForm) : Fields := .ofList
  [("cardNumber", .string form.cardNumber), ("expiryDate", .string form.expiryDate),
    ("cardHolderName", .string form.cardHolderName), ("cvvCode", .string form.cvvCode),
    ("balance", .string "1000"), ("dueDate", .string "14/3/24")]

/-- The texts of the Add Rent form and the due date in `rentData`. -/
structure RentForm where
  title : String
  rentAmount : String
  dueDate : String

/-- A validator that only asks for some text. -/
def required (message : String) (value : Option String) : Option String :=
  if value.getD "" = "" then some message else none

def titleValidator := required "Please enter a title"

def rentAmountValidator := required "Please enter the rent amount"

/-- `_formKey.currentState!.validate()` of the Add Rent form. -/
def RentForm.validate (form : RentForm) : Bool :=
  (titleValidator form.title).isNone && (rentAmountValidator form.rentAmount).isNone

/-- `rentData` as `_submitForm` adds it. -/
def RentForm.rentData (form : RentForm) : Fields := .ofList
  [("title", .string form.title), ("balance", .string form.rentAmount),
    ("dueDate", .string form.dueDate)]

theorem RentForm.validate_iff (form : RentForm) :
    form.validate = true ↔ form.title ≠ "" ∧ form.rentAmount ≠ "" := by
  simp only [validate, titleValidator, rentAmountValidator, required, Option.getD_some,
    Bool.and_eq_true, Option.isNone_iff_eq_none]
  constructor
  · rintro ⟨title, amount⟩
    constructor
    · intro empty; simp only [empty, if_true, reduceCtorEq] at title
    · intro empty; simp only [empty, if_true, reduceCtorEq] at amount
  · rintro ⟨title, amount⟩
    simp only [title, amount, if_false, and_self]

/-! ## Adding balances up -/

/-- `double.parse(data['balance'])`; `none` where it throws. -/
def Fields.balance? (d : Fields) : Option Double :=
  match d "balance" with
  | some (.string s) => Double.parse s
  | _ => none

/-- The loop of `_fetchBalance` over the documents of one snapshot. -/
def sumBalances : Double → List Fields → Option Double
  | acc, [] => some acc
  | acc, d :: ds => d.balance?.bind fun x => sumBalances (acc + x) ds

/-- The bills of one kind that a user has stored. -/
abbrev Database.bills (db : Database) (u : Uid) (k : BillKind) : Collection ℕ Fields :=
  db.docs u (.bills k)

/-- The total of one collection as a balance screen computes it. -/
def fetchTotal (db : Database) (u : Uid) (k : BillKind) : Option Double :=
  sumBalances 0 ((db.bills u k).entries.map Prod.snd)

theorem sumBalances_mem (P : AddSubmonoid Double) {acc x : Double} {ds : List Fields}
    (start : acc ∈ P) (each : ∀ d ∈ ds, ∀ y, d.balance? = some y → y ∈ P)
    (summed : sumBalances acc ds = some x) : x ∈ P := by
  induction ds generalizing acc with
  | nil =>
      cases summed
      exact start
  | cons d ds ih =>
      obtain ⟨y, parsed, rest⟩ := Option.bind_eq_some_iff.mp summed
      exact ih (P.add_mem start (each d (by simp) y parsed))
        (fun d' member => each d' (List.mem_cons_of_mem d member)) rest

theorem sumBalances_isSome {acc : Double} {ds : List Fields} :
    (sumBalances acc ds).isSome = true ↔ ∀ d ∈ ds, d.balance?.isSome = true := by
  induction ds generalizing acc with
  | nil => simp [sumBalances]
  | cons d ds ih =>
      cases parsed : d.balance? with
      | none => simp [sumBalances, parsed]
      | some x => simp [sumBalances, parsed, ih]

/-! ## What a bill is worth -/

/-- The balance is the text of a finite number. -/
def Fields.HasDecimalBalance (d : Fields) : Prop := ∃ q, d.balance? = some (.finite q)

instance (d : Fields) : Decidable d.HasDecimalBalance :=
  match parsed : d.balance? with
  | some (.finite q) => .isTrue ⟨q, parsed⟩
  | some (.infinity _) | some .nan | none => .isFalse fun ⟨q, decimal⟩ => by
      rw [parsed] at decimal
      cases decimal

/-- The amount still owed on a bill. -/
def Fields.debt (d : Fields) : ℚ :=
  match d.balance? with
  | some (.finite q) => q
  | _ => 0

/-- What the user owes on one kind of bill. -/
def Database.debtOn (db : Database) (u : Uid) (k : BillKind) : ℚ := (db.bills u k).total Fields.debt

/-- What the user owes. -/
def Database.debt (db : Database) (u : Uid) : ℚ := db.debtOn u .cards + db.debtOn u .rents

theorem sumBalances_eq {acc : ℚ} {ds : List Fields} (valid : ∀ d ∈ ds, d.HasDecimalBalance) :
    sumBalances (.finite acc) ds = some (.finite (acc + (ds.map Fields.debt).sum)) := by
  induction ds generalizing acc with
  | nil => simp [sumBalances]
  | cons d ds ih =>
      obtain ⟨q, parsed⟩ := valid d (by simp)
      have worth : d.debt = q := by simp only [Fields.debt, parsed]
      simp only [sumBalances, parsed, Option.bind_some, Double.finite_add_finite,
        ih (fun d' member => valid d' (List.mem_cons_of_mem d member)), List.map_cons,
        List.sum_cons, worth, add_assoc]

/-- On decimal balances the screens' total is what the user owes. -/
theorem fetchTotal_eq {db : Database} {u : Uid} {k : BillKind}
    (valid : ∀ e ∈ (db.bills u k).entries, e.2.HasDecimalBalance) :
    fetchTotal db u k = some (.finite (db.debtOn u k)) := by
  have each : ∀ d ∈ (db.bills u k).entries.map Prod.snd, d.HasDecimalBalance := by
    intro d member
    obtain ⟨e, stored, rfl⟩ := List.mem_map.mp member
    exact valid e stored
  rw [fetchTotal, Double.zero_def, sumBalances_eq each, zero_add, Database.debtOn,
    Collection.total, List.map_map]
  rfl

section Writes

variable (db : Database) (u : Uid) (k : BillKind)

@[simp] theorem debtOn_add_self (d : Fields) :
    (db.add u (.bills k) d).debtOn u k = db.debtOn u k + d.debt := by
  simp only [Database.debtOn, Database.bills, Database.docs_add_self, Collection.total_insert]

theorem debtOn_add_of_ne {v : Uid} {c : Sub} (d : Fields) (other : (u, Sub.bills k) ≠ (v, c)) :
    (db.add v c d).debtOn u k = db.debtOn u k := by
  simp only [Database.debtOn, Database.bills, Database.docs_add_of_ne db v c d other]

theorem debtOn_updateDocs_of_ne {v : Uid} {c : Sub} (ids : List ℕ)
    (entries : List (String × Value)) (other : (u, Sub.bills k) ≠ (v, c)) :
    (db.updateDocs v c ids entries).debtOn u k = db.debtOn u k := by
  simp only [Database.debtOn, Database.bills,
    Database.docs_updateDocs_of_ne db v c ids entries other]

end Writes

/-! ## Settling -/

/-- The update that marks a bill as paid. -/
def paid : List (String × Value) := [("balance", .string "0")]

@[simp] theorem balance_paid (d : Fields) : (d.update paid).balance? = some (.finite 0) := by
  have zero : Double.parse "0" = some (.finite 0) := by decide +kernel
  exact zero

@[simp] theorem debt_paid (d : Fields) : (d.update paid).debt = 0 := by
  simp only [Fields.debt, balance_paid]

/-- Paying the bills of a batch takes exactly their worth out of the debt. -/
theorem debtOn_paid_add (db : Database) (u : Uid) (k : BillKind) (ids : List ℕ) :
    (db.updateDocs u (.bills k) ids paid).debtOn u k +
      (db.bills u k).totalOn (ids.contains ·) Fields.debt = db.debtOn u k := by
  simp only [Database.debtOn, Database.bills, Database.docs_updateDocs_self]
  exact Collection.total_modify_add_totalOn debt_paid

theorem paid_of_ne {key : String} (other : key ≠ "balance") (d : Fields) :
    d.update paid key = d key := by
  apply Fields.update_of_lookup_none
  simp only [paid, List.lookup_cons, List.lookup_nil]
  rw [beq_eq_false_iff_ne.mpr other]

theorem paid_balance (d : Fields) : d.update paid "balance" = some (.string "0") := rfl

/-- A bill already marked as paid is not changed by paying it. -/
theorem update_paid_eq_self_iff (d : Fields) :
    d.update paid = d ↔ d "balance" = some (.string "0") := by
  constructor
  · intro same
    rw [← same]
    rfl
  · intro zero
    funext key
    by_cases balance : key = "balance"
    · subst balance
      rw [paid_balance, zero]
    · exact paid_of_ne balance d

end Udhar
