import Udhar.Payments.Steps

/-! # Faults during a settlement

A settlement writes in three places: the new `Transactions` document, the batch
of the cards and the batch of the rents. This module plays one settlement on its
own with a fault at any of its five remote operations, computes the database it
leaves behind, and says when that is all or nothing.
-/

namespace Udhar.Payments

open Lib Dart

/-- The remote operations of `_handlePaymentSuccess`, in order. -/
inductive SettleOp where
  | transactionsSet
  | cardsGet
  | cardsCommit
  | rentsGet
  | rentsCommit
  deriving DecidableEq

/-- How many operations have succeeded before this one. -/
def SettleOp.index : SettleOp → ℕ
  | .transactionsSet => 0
  | .cardsGet => 1
  | .cardsCommit => 2
  | .rentsGet => 3
  | .rentsCommit => 4

/-- Whether each resumption of the handler finds its operation succeeded: the
    five operations and the `setState` behind them, or those up to the fault. -/
def outcomes : Option SettleOp → List Bool
  | none => List.replicate 6 true
  | some op => List.replicate op.index true ++ [false]

/-- The handler of settlement `i` runs on its own from start to end. -/
def handlePaymentSuccess (i : ℕ) (fault : Option SettleOp) : List Event :=
  (outcomes fault).map (.settle i)

/-- Update all bills of one kind. -/
def payAll (db : Database) (u : Uid) (k : BillKind) : Database :=
  db.updateDocs u (.bills k) (snapshotIds db u k) paid

/-- The state after a settlement without fault. -/
def fullySettled (db : Database) (u : Uid) (transactionData : Fields) : Database :=
  payAll (payAll (db.add u .transactions transactionData) u .cards) u .rents

/-- All bills of one kind are marked as paid. -/
def allPaid (db : Database) (u : Uid) (k : BillKind) : Prop :=
  ∀ e ∈ (db.bills u k).entries, e.2 "balance" = some (.string "0")

instance (db : Database) (u : Uid) (k : BillKind) : Decidable (allPaid db u k) :=
  inferInstanceAs (Decidable (∀ e ∈ (db.bills u k).entries, _))

/-- The fault comes before the first write, or after the last one that had
    anything left to change. -/
def harmless (db : Database) (u : Uid) : Option SettleOp → Prop
  | none | some .transactionsSet => True
  | some .cardsGet | some .cardsCommit => allPaid db u .cards ∧ allPaid db u .rents
  | some .rentsGet | some .rentsCommit => allPaid db u .rents

/-- The payment is in the history, and some bill is still to be paid. -/
def RecordedButOutstanding (db after : Database) (u : Uid) : Prop :=
  after.docs u .transactions ≠ db.docs u .transactions ∧ ∃ k, ¬ allPaid after u k

/-! ## Playing the handler alone -/

/-- Resume a settlement once for each outcome. -/
def Settlement.play (db : Database) (page : PaymentForm) (t : Settlement) :
    List Bool → Option (Database × PaymentForm × Settlement)
  | [] => some (db, page, t)
  | ok :: oks => (t.advance db page ok).bind fun next => next.2.2.play next.1 next.2.1 oks

theorem run_settle {s : State} {i : ℕ} {t : Settlement} {page : PaymentForm}
    (found : s.settlements[i]? = some t) (shown : s.pages[t.page]? = some page)
    {oks : List Bool} {db' : Database} {page' : PaymentForm} {t' : Settlement}
    (played : t.play s.db page oks = some (db', page', t')) :
    ∃ s', run step s (oks.map (.settle i)) = some s' ∧ s'.db = db' := by
  induction oks generalizing s t page with
  | nil =>
      cases played
      exact ⟨s, rfl, rfl⟩
  | cons ok oks ih =>
      obtain ⟨⟨db₁, page₁, t₁⟩, advanced, rest⟩ := Option.bind_eq_some_iff.mp played
      obtain ⟨_, _, pageIs, _⟩ := (Settlement.advance_move advanced).same
      have stepped : step s (.settle i ok) = some { s with
          db := db₁
          pages := s.pages.set t.page page₁
          settlements := s.settlements.set i t₁ } := by
        simp only [step, found, shown, advanced, Option.bind_eq_bind, Option.bind_some]
      obtain ⟨s', run', result⟩ := ih
        (s := { s with
          db := db₁
          pages := s.pages.set t.page page₁
          settlements := s.settlements.set i t₁ })
        (List.getElem?_set_self (List.getElem?_eq_some_iff.mp found).1)
        (by
          rw [pageIs]
          exact List.getElem?_set_self (List.getElem?_eq_some_iff.mp shown).1)
        rest
      exact ⟨s', run_cons.mpr ⟨_, stepped, run'⟩, result⟩

section Play

variable {db : Database} {page : PaymentForm} {t : Settlement} {oks : List Bool}

theorem play_record (stage : t.stage = .record) : t.play db page (true :: oks) =
    Settlement.play (db.add t.user .transactions t.transactionData) page
      { t with stage := .readCards } oks := by
  simp only [Settlement.play, Settlement.advance, stage, Option.bind_some]

theorem play_read {k : BillKind} (stage : t.stage = .read k) : t.play db page (true :: oks) =
    Settlement.play db page { t with stage := .commit k (snapshotIds db t.user k) } oks := by
  cases k with
  | cards =>
      change t.stage = .readCards at stage
      simp only [Settlement.play, Settlement.advance, stage, Option.bind_some, SettleStage.commit]
  | rents =>
      change t.stage = .readRents at stage
      simp only [Settlement.play, Settlement.advance, stage, Option.bind_some, SettleStage.commit]

/-- A batch that is committed on the database it was read from succeeds. -/
theorem play_commit {k : BillKind} (stage : t.stage = .commit k (snapshotIds db t.user k)) :
    ∃ cleared, t.play db page (true :: oks) = Settlement.play (payAll db t.user k) page
      { t with stage := .after k, cleared } oks := by
  have committed : db.commit t.user (.bills k) (snapshotIds db t.user k) paid =
      some (payAll db t.user k) := Database.commit_of_keys fun _ member => member
  cases k with
  | cards =>
      change t.stage = .commitCards _ at stage
      simp only [Settlement.play, Settlement.advance, stage, Settlement.commitPaid, committed,
        Option.bind_some, SettleStage.after]
      exact ⟨_, rfl⟩
  | rents =>
      change t.stage = .commitRents _ at stage
      simp only [Settlement.play, Settlement.advance, stage, Settlement.commitPaid, committed,
        Option.bind_some, SettleStage.after]
      exact ⟨_, rfl⟩

/-- Reading one kind of bill and committing its batch, undisturbed. -/
theorem play_kind (db : Database) (page : PaymentForm) (oks : List Bool) {k : BillKind}
    (stage : t.stage = .read k) : ∃ cleared,
    t.play db page (true :: true :: oks) = Settlement.play (payAll db t.user k) page
      { t with stage := .after k, cleared } oks := by
  rw [play_read stage]
  exact play_commit rfl

theorem play_reset (stage : t.stage = .setState) : t.play db page [true] =
    some (db, { page with totalBalance := 0 }, { t with stage := .done }) := by
  simp only [Settlement.play, Settlement.advance, stage, Option.bind_some]

theorem play_fault (running : t.clearing = true) : t.play db page [false] =
    some (db, page, { t with stage := .threw }) := by
  cases stage : t.stage with
  | record | readCards | commitCards | readRents | commitRents =>
      simp only [Settlement.play, Settlement.advance, stage, Option.bind_some]
  | setState | done | threw =>
      simp only [Settlement.clearing, stage, Bool.false_eq_true] at running

end Play

/-- What a settlement leaves behind: the writes before the fault. -/
def afterFault (db : Database) (u : Uid) (transactionData : Fields) :
    Option SettleOp → Database
  | none => fullySettled db u transactionData
  | some .transactionsSet => db
  | some .cardsGet | some .cardsCommit => db.add u .transactions transactionData
  | some .rentsGet | some .rentsCommit => payAll (db.add u .transactions transactionData) u .cards

theorem play_outcomes (db : Database) (page : PaymentForm) {t : Settlement}
    (started : t.stage = .record) (fault : Option SettleOp) : ∃ page' t',
    t.play db page (outcomes fault) =
      some (afterFault db t.user t.transactionData fault, page', t') := by
  have cards := fun oks => play_kind (db.add t.user .transactions t.transactionData) page oks
    (k := .cards) (t := { t with stage := .readCards }) rfl
  cases fault with
  | none =>
      change ∃ page' t', t.play db page [true, true, true, true, true, true] = _
      rw [play_record started]
      obtain ⟨cleared, cards⟩ := cards [true, true, true]
      obtain ⟨_, rents⟩ := play_kind
        (payAll (db.add t.user .transactions t.transactionData) t.user .cards) page [true]
        (k := .rents) (t := { t with stage := .readRents, cleared }) rfl
      rw [cards, SettleStage.after, rents, play_reset rfl]
      exact ⟨_, _, rfl⟩
  | some op =>
      cases op with
      | transactionsSet =>
          exact ⟨_, _, play_fault (by simp only [Settlement.clearing, started])⟩
      | cardsGet =>
          change ∃ page' t', t.play db page [true, false] = _
          rw [play_record started, play_fault rfl]
          exact ⟨_, _, rfl⟩
      | cardsCommit =>
          change ∃ page' t', t.play db page [true, true, false] = _
          rw [play_record started, play_read (k := .cards) rfl, play_fault rfl]
          exact ⟨_, _, rfl⟩
      | rentsGet =>
          change ∃ page' t', t.play db page [true, true, true, false] = _
          obtain ⟨_, cards⟩ := cards [false]
          rw [play_record started, cards, play_fault rfl]
          exact ⟨_, _, rfl⟩
      | rentsCommit =>
          change ∃ page' t', t.play db page [true, true, true, true, false] = _
          obtain ⟨_, cards⟩ := cards [true, false]
          rw [play_record started, cards, play_read (k := .rents) rfl, play_fault rfl]
          exact ⟨_, _, rfl⟩

/-! ## All or nothing -/

section Paying

variable (db : Database) (u : Uid) (k : BillKind)

theorem bills_payAll_of_ne {j : BillKind} (other : j ≠ k) :
    (payAll db u k).bills u j = db.bills u j :=
  Database.docs_updateDocs_of_ne db u (.bills k) _ _ (by simpa using other)

/-- Paying the bills of one kind leaves them as they are exactly if they are all
    marked as paid. -/
theorem bills_payAll_eq_iff : (payAll db u k).bills u k = db.bills u k ↔ allPaid db u k := by
  simp only [payAll, Database.bills, Database.docs_updateDocs_self]
  constructor
  · intro same e member
    have fixed := Collection.fixed_of_modify_eq_self same e member
      (List.contains_iff_mem.mpr (Collection.key_mem member))
    exact (update_paid_eq_self_iff e.2).mp fixed
  · intro paid
    exact Collection.modify_eq_self fun e member _ =>
      (update_paid_eq_self_iff e.2).mpr (paid e member)

theorem payAll_eq_self (paid : allPaid db u k) : payAll db u k = db := by
  apply Database.ext
  · rfl
  · apply DocStore.ext
    · rintro ⟨v, c⟩
      by_cases same : (v, c) = (u, .bills k)
      · cases same
        exact (bills_payAll_eq_iff db u k).mpr paid
      · exact Database.docs_updateDocs_of_ne db u (.bills k) _ _ same
    · rfl

theorem allPaid_record (d : Fields) : allPaid (db.add u .transactions d) u k ↔ allPaid db u k := by
  simp only [allPaid, Database.bills, Database.docs_add_of_ne db u .transactions (v := u)
    (b := .bills k) d (by simp)]

theorem allPaid_payAll : allPaid (payAll db u k) u k := by
  intro e member
  simp only [payAll, Database.bills, Database.docs_updateDocs_self] at member
  obtain ⟨a, stored, changed⟩ := Collection.mem_modify.mp member
  have selected : (snapshotIds db u k).contains e.1 = true :=
    List.contains_iff_mem.mpr (Collection.key_mem (e := (e.1, a)) stored)
  rw [changed, if_pos selected]
  exact paid_balance a

theorem allPaid_payAll_of_ne {j : BillKind} (other : j ≠ k) :
    allPaid (payAll db u k) u j ↔ allPaid db u j := by
  simp only [allPaid, bills_payAll_of_ne db u k other]

end Paying

/-- After a settlement without fault no bill is left to pay. -/
theorem allPaid_fullySettled (db : Database) (u : Uid) (d : Fields) (k : BillKind) :
    allPaid (fullySettled db u d) u k := by
  cases k with
  | cards => exact (allPaid_payAll_of_ne _ u .rents (by simp)).mpr (allPaid_payAll _ u .cards)
  | rents => exact allPaid_payAll _ u .rents

/-- What a fault leaves behind is all or nothing exactly if the fault is harmless. -/
theorem afterFault_all_or_nothing_iff (db : Database) (u : Uid) (d : Fields)
    (fault : Option SettleOp) :
    afterFault db u d fault = db ∨ afterFault db u d fault = fullySettled db u d ↔
      harmless db u fault := by
  have issued : ∀ {after : Database}, after.store.nextId = db.store.nextId + 1 → after ≠ db := by
    rintro after issued rfl
    omega
  have cards : db.add u .transactions d = db ∨
      db.add u .transactions d = fullySettled db u d ↔
      allPaid db u .cards ∧ allPaid db u .rents := by
    rw [or_iff_right (issued rfl), fullySettled, ← allPaid_record db u .cards d,
      ← allPaid_record db u .rents d]
    generalize db.add u .transactions d = recorded
    constructor
    · intro same
      have paid : allPaid recorded u .cards := by
        rw [← bills_payAll_eq_iff, ← bills_payAll_of_ne _ u .rents (j := .cards) (by simp)]
        exact congrArg (·.bills u .cards) same.symm
      rw [payAll_eq_self _ _ _ paid] at same
      exact ⟨paid, (bills_payAll_eq_iff _ _ _).mp (congrArg (·.bills u .rents) same.symm)⟩
    · rintro ⟨paid, alsoPaid⟩
      rw [payAll_eq_self _ _ _ paid, payAll_eq_self _ _ _ alsoPaid]
  have rents : payAll (db.add u .transactions d) u .cards = db ∨
      payAll (db.add u .transactions d) u .cards = fullySettled db u d ↔
      allPaid db u .rents := by
    rw [or_iff_right (issued rfl), fullySettled, ← allPaid_record db u .rents d,
      ← allPaid_payAll_of_ne _ u .cards (j := .rents) (by simp)]
    constructor
    · exact fun same => (bills_payAll_eq_iff _ _ _).mp (congrArg (·.bills u .rents) same.symm)
    · exact fun paid => (payAll_eq_self _ _ _ paid).symm
  cases fault with
  | none => exact iff_of_true (.inr rfl) trivial
  | some op =>
      cases op with
      | transactionsSet => exact iff_of_true (.inl rfl) trivial
      | cardsGet | cardsCommit => exact cards
      | rentsGet | rentsCommit => exact rents

/-- A payment is in the history of an unpaid bill exactly if the fault is not harmless. -/
theorem recordedButOutstanding_iff (db : Database) (u : Uid) (d : Fields)
    (fault : Option SettleOp) :
    RecordedButOutstanding db (afterFault db u d fault) u ↔ ¬ harmless db u fault := by
  have unpaid : ∀ after : Database, (∃ k, ¬ allPaid after u k) ↔
      ¬ (allPaid after u .cards ∧ allPaid after u .rents) := by
    intro after
    rw [not_and_or]
    constructor
    · rintro ⟨k, left⟩
      cases k with
      | cards => exact .inl left
      | rents => exact .inr left
    · rintro (left | left)
      · exact ⟨_, left⟩
      · exact ⟨_, left⟩
  have recorded : (db.add u .transactions d).docs u .transactions ≠ db.docs u .transactions := by
    intro same
    have longer := congrArg (·.entries.length) same
    simp [Database.docs_add_self, Collection.entries_insert] at longer
  cases fault with
  | none =>
      refine iff_of_false ?_ (fun harmful => harmful trivial)
      rintro ⟨_, k, left⟩
      exact left (allPaid_fullySettled db u d k)
  | some op =>
      cases op with
      | transactionsSet => exact iff_of_false (fun left => left.1 rfl) (fun harmful => harmful trivial)
      | cardsGet | cardsCommit =>
          simp only [RecordedButOutstanding, afterFault, unpaid, allPaid_record, harmless]
          exact and_iff_right recorded
      | rentsGet | rentsCommit =>
          have kept : (payAll (db.add u .transactions d) u .cards).docs u .transactions =
              (db.add u .transactions d).docs u .transactions :=
            Database.docs_updateDocs_of_ne _ u (.bills .cards) _ _ (by simp)
          simp only [RecordedButOutstanding, afterFault, unpaid, kept, allPaid_payAll, true_and,
            allPaid_payAll_of_ne _ u .cards (j := .rents) (by simp), allPaid_record, harmless]
          exact and_iff_right recorded

/-- A settlement that runs alone always comes to its end. It leaves the database as it was
    or fully settled exactly if no fault falls between the first write and the last one
    that has something to change, and under the same condition no payment is recorded
    while a bill is still outstanding. -/
theorem settlement_all_or_nothing_iff {s : State} {i : ℕ} {t : Settlement} {page : PaymentForm}
    (found : s.settlements[i]? = some t) (started : t.stage = .record)
    (shown : s.pages[t.page]? = some page) (fault : Option SettleOp) :
    ∃ s', run step s (handlePaymentSuccess i fault) = some s' ∧
      (s'.db = s.db ∨ s'.db = fullySettled s.db t.user t.transactionData ↔
        harmless s.db t.user fault) ∧
      (¬ RecordedButOutstanding s.db s'.db t.user ↔ harmless s.db t.user fault) := by
  obtain ⟨page', t', played⟩ := play_outcomes s.db page started fault
  obtain ⟨s', ran, left⟩ := run_settle found shown played
  refine ⟨s', ran, ?_, ?_⟩
  · rw [left]
    exact afterFault_all_or_nothing_iff s.db t.user t.transactionData fault
  · rw [left, recordedButOutstanding_iff, not_not]

/-- The page of `oneCard`'s user right after a success event. -/
def recording : State :=
  { State.init oneCard with
    pages := [{ user := 0, totalBalance := .finite 1000, name := "Asha" }]
    orders := [⟨0, 0, .finite 100000, "Asha", .success "pay_1"⟩]
    settlements := [⟨0, 0, 0, transactionData { user := 0, totalBalance := .finite 1000 } "pay_1"
      "2024-03-14 10:00:00.000", 0, .record⟩] }

theorem settlement_of_one_card_all_or_nothing_iff :
    ∃ s', run step recording (handlePaymentSuccess 0 (some .rentsCommit)) = some s' ∧
      (s'.db = oneCard ∨ s'.db = fullySettled oneCard 0 (transactionData
          { user := 0, totalBalance := .finite 1000 } "pay_1" "2024-03-14 10:00:00.000") ↔
        harmless oneCard 0 (some .rentsCommit)) ∧
      (¬ RecordedButOutstanding oneCard s'.db 0 ↔ harmless oneCard 0 (some .rentsCommit)) :=
  settlement_all_or_nothing_iff (s := recording) (i := 0) rfl rfl rfl (some .rentsCommit)

/-- The commit of the cards fails after the payment was recorded: the card of
    1000 is still outstanding. -/
theorem failed_commit_leaves_paid_card_outstanding :
    ∃ s', run step recording (handlePaymentSuccess 0 (some .cardsCommit)) = some s' ∧
      s'.db ≠ recording.db ∧ (∀ d, s'.db ≠ fullySettled recording.db 0 d) ∧
      RecordedButOutstanding recording.db s'.db 0 := by
  obtain ⟨s', ran, recorded, unpaid⟩ := run_reaches step recording
    (handlePaymentSuccess 0 (some .cardsCommit))
    (P := fun s' => (s'.db.docs 0 .transactions).entries.length = 1 ∧ ¬ allPaid s'.db 0 .cards)
    (by decide +kernel)
  refine ⟨s', ran, ?_, ?_, ?_, .cards, unpaid⟩
  · intro same
    rw [same] at recorded
    cases recorded
  · intro d same
    rw [same] at unpaid
    exact unpaid (allPaid_fullySettled _ 0 d .cards)
  · intro same
    rw [same] at recorded
    cases recorded

end Udhar.Payments
