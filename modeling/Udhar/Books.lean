import Udhar.App
import Udhar.Lib.Account
import Udhar.Lib.Part
import Mathlib.Algebra.Order.Group.Multiset
import Mathlib.Tactic.LinearCombination

/-! # The books

Of every bill form that was accepted, every payment that was reported and every
amount that was cleared, the state keeps account: a bill is stored once for each
save that completed and for nothing else, a payment is recorded at most once, and
what a user owes is what was saved less what settlements have cleared.
-/

namespace Udhar.Books

open Lib Payments

variable {M : Type} [AddCommMonoid M]

/-! ## Accounts -/

/-- A bill apart from whether it is settled. -/
def unsettled (d : Fields) : Multiset Fields := {d.update paid}

/-- What a save has added to the user's bills of one kind. -/
def adds (g : Fields → M) (u : Uid) (k : BillKind) (b : BillSave) : M :=
  if b.stage = .done ∧ b.user = u ∧ b.kind = k then g b.data else 0

def saved (g : Fields → M) (s : Payments.State) (u : Uid) (k : BillKind) : M :=
  (s.saves.map (adds g u k)).sum

/-- What a settlement has cleared of the user's debt. -/
def clears (u : Uid) (t : Settlement) : ℚ := if t.user = u then t.cleared else 0

def cleared (s : Payments.State) (u : Uid) : ℚ := (s.settlements.map (clears u)).sum

/-- What a settlement writes to the user's history, counted in the chosen stages. -/
def writes (p : SettleStage → Bool) (u : Uid) (t : Settlement) : Multiset Fields :=
  if p t.stage = true ∧ t.user = u then {t.transactionData} else 0

def written (p : SettleStage → Bool) (s : Payments.State) (u : Uid) : Multiset Fields :=
  (s.settlements.map (writes p u)).sum

/-- The settlement has certainly written its document. -/
def SettleStage.recorded (stage : SettleStage) : Bool := stage ≠ .record && stage ≠ .threw

/-- The settlement may have written its document. -/
def SettleStage.left (stage : SettleStage) : Bool := stage ≠ .record

/-- The payments that a user's history records. -/
def history (db : Database) (u : Uid) : Multiset Fields :=
  (db.docs u .transactions).total fun d => {d}

/-! ## Writes -/

theorem unsettled_paid (d : Fields) : unsettled (d.update paid) = unsettled d := by
  rw [unsettled, (update_paid_eq_self_iff (d.update paid)).mpr (paid_balance d), unsettled]

section Writes

variable (db : Database) (u v : Uid) (k : BillKind)

theorem total_add_bill {g : Fields → M} (j : BillKind) (d : Fields) :
    ((db.add v (.bills j) d).bills u k).total g =
      (db.bills u k).total g + if v = u ∧ j = k then g d else 0 := by
  by_cases same : v = u ∧ j = k
  · obtain ⟨rfl, rfl⟩ := same
    simp only [Database.bills, Database.docs_add_self, Collection.total_insert, and_self, if_true]
  · have apart : (u, Sub.bills k) ≠ (v, .bills j) := by
      intro equal
      cases equal
      exact same ⟨rfl, rfl⟩
    rw [if_neg same, add_zero, Database.bills, Database.docs_add_of_ne db v (.bills j) d apart]

theorem total_settle {g : Fields → M} (unseen : ∀ d, g (d.update paid) = g d) (j : BillKind)
    (ids : List ℕ) : ((db.updateDocs v (.bills j) ids paid).bills u k).total g =
      (db.bills u k).total g := by
  by_cases same : (u, Sub.bills k) = (v, .bills j)
  · cases same
    rw [Database.bills, Database.docs_updateDocs_self]
    exact Collection.total_modify_of_eq unseen
  · rw [Database.bills, Database.docs_updateDocs_of_ne db v (.bills j) ids paid same]

theorem history_add_bill (j : BillKind) (d : Fields) :
    history (db.add v (.bills j) d) u = history db u := by
  rw [history, Database.docs_add_of_ne _ _ _ _ (by simp), history]

theorem history_settle (j : BillKind) (ids : List ℕ) :
    history (db.updateDocs v (.bills j) ids paid) u = history db u := by
  rw [history, Database.docs_updateDocs_of_ne _ _ _ _ _ (by simp), history]

theorem history_record (d : Fields) :
    history (db.add v .transactions d) u = history db u + if v = u then {d} else 0 := by
  by_cases same : v = u
  · subst same
    rw [history, Database.docs_add_self, Collection.total_insert, if_pos rfl, history]
  · rw [history, Database.docs_add_of_ne _ _ _ _ (by simp [Ne.symm same]), if_neg same, add_zero,
      history]

theorem bills_record (d : Fields) : (db.add v .transactions d).bills u k = db.bills u k :=
  Database.docs_add_of_ne db v .transactions d (by simp)

/-- What a batch clears goes out of its user's debt. -/
theorem debtOn_settle (j : BillKind) (ids : List ℕ) :
    (db.updateDocs v (.bills j) ids paid).debtOn u k + (if v = u ∧ j = k then
      (db.bills v j).totalOn (ids.contains ·) Fields.debt else 0) = db.debtOn u k := by
  by_cases same : v = u ∧ j = k
  · obtain ⟨rfl, rfl⟩ := same
    rw [if_pos ⟨rfl, rfl⟩]
    exact debtOn_paid_add db v j ids
  · have apart : (u, Sub.bills k) ≠ (v, .bills j) := by
      intro equal
      cases equal
      exact same ⟨rfl, rfl⟩
    rw [if_neg same, add_zero, debtOn_updateDocs_of_ne db u k ids paid apart]

theorem debt_settle (j : BillKind) (ids : List ℕ) :
    (db.updateDocs v (.bills j) ids paid).debt u + (if v = u then
      (db.bills v j).totalOn (ids.contains ·) Fields.debt else 0) = db.debt u := by
  have cards := debtOn_settle db u v .cards j ids
  have rents := debtOn_settle db u v .rents j ids
  rw [Database.debt, Database.debt, ← cards, ← rents]
  cases j <;> simp only [reduceCtorEq, and_false, and_true, if_false] <;> ring

end Writes

/-! ## Steps -/

/-- The saves that an event starts. -/
def submissions : Payments.Event → List BillSave
  | .validateCard user form true => [⟨user, .cards, form.cardData, .pending⟩]
  | .submitRent user form =>
      if form.validate then [⟨user, .rents, form.rentData, .pending⟩] else []
  | _ => []

/-- The order, payment id and time of the settlements that an event starts. -/
def reports : Payments.Event → List (ℕ × Option Value × Option Value)
  | .paymentSuccess i paymentId now => [(i, some (.string paymentId), some (.string now))]
  | _ => []

variable {s s' : Payments.State}

/-- What a step does to the database and to the handlers that write to it. -/
inductive Booking (s s' : Payments.State) (e : Payments.Event) : Prop where
  | started (ts : List Settlement) (db : s'.db = s.db)
      (saves : s'.saves = s.saves ++ submissions e)
      (settlements : s'.settlements = s.settlements ++ ts)
      (fresh : ∀ t ∈ ts, t.stage = .record ∧ t.cleared = 0)
      (reported : ts.map (fun t => (t.order, t.transactionData "paymentID",
        t.transactionData "dateTime")) = reports e)
  | saved {i : ℕ} {b b' : BillSave} {ok : Bool} (event : e = .save i ok)
      (found : s.saves[i]? = some b) (advanced : b.advance s.db ok = some (s'.db, b'))
      (saves : s'.saves = s.saves.set i b') (settlements : s'.settlements = s.settlements)
  | settled {i : ℕ} {t t' : Settlement} {page page' : PaymentForm} {ok : Bool}
      (event : e = .settle i ok) (found : s.settlements[i]? = some t)
      (move : t.Move s.db page ok s'.db page' t')
      (settlements : s'.settlements = s.settlements.set i t') (saves : s'.saves = s.saves)

theorem step_booking {e : Payments.Event} (stepped : Payments.step s e = some s') :
    Booking s s' e := by
  cases e with
  | openPage =>
      obtain rfl := step_openPage stepped
      exact .started [] rfl (List.append_nil _).symm (List.append_nil _).symm (by simp) rfl
  | payNow =>
      obtain ⟨_, _, rfl⟩ := step_payNow stepped
      exact .started [] rfl (List.append_nil _).symm (List.append_nil _).symm (by simp) rfl
  | paymentSuccess =>
      obtain ⟨_, _, _, _, _, _, rfl⟩ := step_paymentSuccess stepped
      exact .started _ rfl (List.append_nil _).symm rfl
        (List.forall_mem_singleton.mpr ⟨rfl, rfl⟩) rfl
  | paymentError | externalWallet =>
      obtain ⟨_, _, _, rfl⟩ := close_eq_some stepped
      exact .started [] rfl (List.append_nil _).symm (List.append_nil _).symm (by simp) rfl
  | fetch =>
      obtain ⟨_, _, _, _, _, _, _, rfl⟩ := step_fetch stepped
      exact .started [] rfl (List.append_nil _).symm (List.append_nil _).symm (by simp) rfl
  | settle =>
      obtain ⟨_, _, _, _, _, found, _, advanced, rfl⟩ := step_settle stepped
      exact .settled rfl found (Settlement.advance_move advanced) rfl rfl
  | validateCard =>
      rcases step_validateCard stepped with ⟨rfl, rfl⟩ | ⟨rfl, rfl⟩
      · exact .started [] rfl (List.append_nil _).symm (List.append_nil _).symm (by simp) rfl
      · exact .started [] rfl rfl (List.append_nil _).symm (by simp) rfl
  | submitRent =>
      rcases step_submitRent stepped with ⟨valid, rfl⟩ | ⟨valid, rfl⟩
      · refine .started [] rfl ?_ (List.append_nil _).symm (by simp) rfl
        simp only [submissions, valid, Bool.false_eq_true, if_false, List.append_nil]
      · refine .started [] rfl ?_ (List.append_nil _).symm (by simp) rfl
        simp only [submissions, valid, if_true]
  | save =>
      obtain ⟨_, _, _, found, advanced, rfl⟩ := step_save stepped
      exact .saved rfl found advanced rfl rfl

/-! ## The books -/

/-- The accounts of a user since a database. -/
structure Balanced (db₀ : Database) (s : Payments.State) (u : Uid) : Prop where
  bills : ∀ k, (s.db.bills u k).total unsettled =
    (db₀.bills u k).total unsettled + saved unsettled s u k
  debt : s.db.debt u + cleared s u =
    db₀.debt u + (saved Fields.debt s u .cards + saved Fields.debt s u .rents)
  recorded : history db₀ u + written SettleStage.recorded s u ≤ history s.db u
  written : history s.db u ≤ history db₀ u + written SettleStage.left s u

namespace Balanced

variable {db₀ : Database} {u : Uid}

theorem init (db : Database) (u : Uid) : Balanced db (.init db) u where
  bills _ := (add_zero _).symm
  debt := by simp [cleared, saved, State.init]
  recorded := le_of_eq (add_zero _)
  written := le_of_eq (add_zero _).symm

/-- The accounts do not notice a step that writes nothing. -/
theorem of_same (balanced : Balanced db₀ s u) (db : s'.db = s.db)
    (posted : ∀ {M : Type} [AddCommMonoid M] (g : Fields → M) k,
      Books.saved g s' u k = Books.saved g s u k)
    (idle : cleared s' u = cleared s u)
    (less : Books.written SettleStage.recorded s' u ≤ Books.written SettleStage.recorded s u)
    (more : Books.written SettleStage.left s u ≤ Books.written SettleStage.left s' u) :
    Balanced db₀ s' u where
  bills k := by
    rw [db, posted]
    exact balanced.bills k
  debt := by
    rw [db, posted, posted, idle]
    exact balanced.debt
  recorded := by
    rw [db]
    exact (add_le_add_right less _).trans balanced.recorded
  written := by
    rw [db]
    exact balanced.written.trans (add_le_add_right more _)

/-- New handlers have done nothing yet. -/
theorem started {bs : List BillSave} {ts : List Settlement} (balanced : Balanced db₀ s u)
    (db : s'.db = s.db) (saves : s'.saves = s.saves ++ bs)
    (settlements : s'.settlements = s.settlements ++ ts) (pending : ∀ b ∈ bs, b.stage = .pending)
    (fresh : ∀ t ∈ ts, t.stage = .record ∧ t.cleared = 0) : Balanced db₀ s' u := by
  have same_saved : ∀ {M : Type} [AddCommMonoid M] (g : Fields → M) k,
      saved g s' u k = saved g s u k := by
    intro M _ g k
    rw [saved, saves]
    apply sum_map_append_of_zero
    intro b member
    simp only [adds, pending b member, reduceCtorEq, false_and, if_false]
  have same_cleared : cleared s' u = cleared s u := by
    rw [cleared, settlements]
    apply sum_map_append_of_zero
    intro t member
    simp only [clears, fresh t member, ite_self]
  have same_written : ∀ p : SettleStage → Bool, p .record = false →
      Books.written p s' u = Books.written p s u := by
    intro p outside
    rw [Books.written, settlements]
    apply sum_map_append_of_zero
    intro t member
    simp only [writes, fresh t member, outside, Bool.false_eq_true, false_and, if_false]
  exact balanced.of_same db same_saved same_cleared (le_of_eq (same_written _ rfl))
    (le_of_eq (same_written _ rfl).symm)

/-- A save that completes adds its bill. -/
theorem saved {i : ℕ} {b b' : BillSave} {ok : Bool} (balanced : Balanced db₀ s u)
    (found : s.saves[i]? = some b) (advanced : b.advance s.db ok = some (s'.db, b'))
    (saves : s'.saves = s.saves.set i b') (settlements : s'.settlements = s.settlements) :
    Balanced db₀ s' u := by
  have same_cleared : cleared s' u = cleared s u := by rw [cleared, settlements, cleared]
  have same_written : ∀ p, Books.written p s' u = Books.written p s u := by
    intro p
    rw [Books.written, settlements, Books.written]
  obtain ⟨pending, ⟨_, db, rfl⟩ | ⟨_, db, rfl⟩⟩ := BillSave.advance_cases advanced
  · have more : ∀ {M : Type} [AddCommMonoid M] (g : Fields → M) k, Books.saved g s' u k =
        Books.saved g s u k + if b.user = u ∧ b.kind = k then g b.data else 0 := by
      intro M _ g k
      have moved := sum_map_set_add (adds g u k) found { b with stage := .done }
      simp only [adds, pending, reduceCtorEq, false_and, if_false, add_zero, true_and] at moved
      rw [Books.saved, saves]
      exact moved
    have added := fun k => total_add_bill s.db u b.user k (g := unsettled) b.kind b.data
    have owed := fun k => total_add_bill s.db u b.user k (g := Fields.debt) b.kind b.data
    refine ⟨fun k => ?_, ?_, ?_, ?_⟩
    · rw [db, added k, more, balanced.bills k, add_assoc]
    · have before := balanced.debt
      simp only [Database.debt, Database.debtOn] at before ⊢
      rw [db, owed, owed, more, more, same_cleared]
      linear_combination before
    · rw [db, same_written, history_add_bill]
      exact balanced.recorded
    · rw [db, same_written, history_add_bill]
      exact balanced.written
  · have same : ∀ {M : Type} [AddCommMonoid M] (g : Fields → M) k,
        Books.saved g s' u k = Books.saved g s u k := by
      intro M _ g k
      rw [Books.saved, saves]
      apply sum_map_set_of_eq _ found
      simp only [adds, pending, reduceCtorEq, false_and, if_false]
    exact balanced.of_same db same same_cleared (le_of_eq (same_written _))
      (le_of_eq (same_written _).symm)

/-- A settlement that is resumed writes its document, clears its batches or ends. -/
theorem settled {i : ℕ} {t t' : Settlement} {page page' : PaymentForm} {ok : Bool} {db' : Database}
    (balanced : Balanced db₀ s u) (found : s.settlements[i]? = some t)
    (move : t.Move s.db page ok db' page' t') (db : s'.db = db')
    (settlements : s'.settlements = s.settlements.set i t') (saves : s'.saves = s.saves) :
    Balanced db₀ s' u := by
  have same_saved : ∀ {M : Type} [AddCommMonoid M] (g : Fields → M) k,
      Books.saved g s' u k = Books.saved g s u k := by
    intro M _ g k
    rw [Books.saved, saves, Books.saved]
  have moved : ∀ p, Books.written p s' u + writes p u t =
      Books.written p s u + writes p u t' := by
    intro p
    rw [Books.written, settlements]
    exact sum_map_set_add (writes p u) found t'
  have kept : ∀ p, writes p u t' = writes p u t →
      Books.written p s' u = Books.written p s u := by
    intro p same
    have here := moved p
    rw [same] at here
    exact add_right_cancel here
  have clearing : cleared s' u + clears u t = cleared s u + clears u t' := by
    rw [cleared, settlements]
    exact sum_map_set_add (clears u) found t'
  have idle : clears u t' = clears u t → cleared s' u = cleared s u := by
    intro same
    rw [same] at clearing
    exact add_right_cancel clearing
  cases move with
  | record stage =>
      have wrote : ∀ p : SettleStage → Bool, p .record = false → p .readCards = true →
          Books.written p s' u =
            Books.written p s u + if t.user = u then {t.transactionData} else 0 := by
        intro p before after
        have here := moved p
        simpa only [writes, stage, before, after, Bool.false_eq_true, false_and, if_false,
          add_zero, true_and] using here
      refine ⟨fun k => ?_, ?_, ?_, ?_⟩
      · rw [db, bills_record, same_saved]
        exact balanced.bills k
      · have before := balanced.debt
        simp only [Database.debt, Database.debtOn] at before ⊢
        rw [db, bills_record, bills_record, same_saved, same_saved, idle rfl]
        exact before
      · rw [db, history_record, wrote _ rfl rfl, ← add_assoc]
        exact add_le_add_left balanced.recorded _
      · rw [db, history_record, wrote _ rfl rfl, ← add_assoc]
        exact add_le_add_left balanced.written _
  | read k stage =>
      have same : ∀ p : SettleStage → Bool,
          p (.commit k (snapshotIds s.db t.user k)) = p (.read k) →
          Books.written p s' u = Books.written p s u := by
        intro p equal
        apply kept
        simp only [writes, stage, equal]
      exact balanced.of_same db same_saved (idle rfl) (le_of_eq (same _ (by cases k <;> rfl)))
        (le_of_eq (same _ (by cases k <;> rfl)).symm)
  | @commit k ids stage =>
      have same : ∀ p : SettleStage → Bool, p (.after k) = p (.commit k ids) →
          Books.written p s' u = Books.written p s u := by
        intro p equal
        apply kept
        simp only [writes, stage, equal]
      refine ⟨fun j => ?_, ?_, ?_, ?_⟩
      · rw [db, total_settle s.db u t.user j unsettled_paid k ids, same_saved]
        exact balanced.bills j
      · have paid := debt_settle s.db u t.user k ids
        rw [db, same_saved, same_saved]
        by_cases mine : t.user = u
        · simp only [clears, if_pos mine] at clearing paid
          linear_combination paid + clearing + balanced.debt
        · simp only [clears, if_neg mine, add_zero] at clearing paid
          rw [paid, clearing]
          exact balanced.debt
      · rw [db, history_settle, same _ (by cases k <;> rfl)]
        exact balanced.recorded
      · rw [db, history_settle, same _ (by cases k <;> rfl)]
        exact balanced.written
  | reset stage =>
      have same : ∀ p : SettleStage → Bool, p .done = p .setState →
          Books.written p s' u = Books.written p s u := by
        intro p equal
        apply kept
        simp only [writes, stage, equal]
      exact balanced.of_same db same_saved (idle rfl) (le_of_eq (same _ rfl))
        (le_of_eq (same _ rfl).symm)
  | threw =>
      refine balanced.of_same db same_saved (idle rfl) ?_ ?_
      · -- Whether the document was written is no longer told by the stage.
        have here := moved SettleStage.recorded
        simp only [writes, SettleStage.recorded, ne_eq, not_true_eq_false, decide_false,
          Bool.and_false, Bool.false_eq_true, false_and, if_false, add_zero] at here
        rw [← here]
        exact Multiset.le_add_right _ _
      · have here := moved SettleStage.left
        have grown : writes SettleStage.left u t ≤
            writes SettleStage.left u { t with stage := .threw } := by
          by_cases mine : SettleStage.left t.stage = true ∧ t.user = u
          · rw [writes, if_pos mine, writes, if_pos ⟨rfl, mine.2⟩]
          · rw [writes, if_neg mine]
            exact Multiset.zero_le _
        apply le_of_add_le_add_right (a := writes SettleStage.left u t)
        rw [here]
        exact add_le_add_right grown _

end Balanced

/-! ## Runs -/

/-- What the events of a run note, in their order, where only the payment and bill
    pages note something. -/
def noted {α : Type} (note : Payments.Event → List α) (es : List App.Event) : List α :=
  es.flatMap fun
    | .payments p => note p
    | _ => []

/-- A save as it was started. -/
def asStarted (b : BillSave) : BillSave := { b with stage := .pending }

/-- What a settlement knows of the report that started it. -/
def report (t : Settlement) : ℕ × Option Value × Option Value :=
  (t.order, t.transactionData "paymentID", t.transactionData "dateTime")

theorem pending_of_submission {e : Payments.Event} :
    ∀ b ∈ submissions e, b.stage = .pending := by
  intro b member
  unfold submissions at member
  split at member
  · obtain rfl := List.mem_singleton.mp member
    rfl
  · split at member
    · obtain rfl := List.mem_singleton.mp member
      rfl
    · cases member
  · cases member

theorem balanced_step {db₀ : Database} {u : Uid} {e : Payments.Event}
    (balanced : Balanced db₀ s u) (stepped : Payments.step s e = some s') :
    Balanced db₀ s' u := by
  cases step_booking stepped with
  | started ts db saves settlements fresh =>
      exact balanced.started db saves settlements pending_of_submission fresh
  | saved _ found advanced saves settlements =>
      exact balanced.saved found advanced saves settlements
  | settled _ found move settlements saves =>
      exact balanced.settled found move rfl settlements saves

/-- Every accepted form starts one save, and every reported payment one settlement. -/
theorem logged_step {e : Payments.Event} (stepped : Payments.step s e = some s') :
    s'.saves.map asStarted = s.saves.map asStarted ++ submissions e ∧
      s'.settlements.map report = s.settlements.map report ++ reports e := by
  cases step_booking stepped with
  | started ts db saves settlements fresh reported =>
      rw [saves, settlements, List.map_append, List.map_append, ← reported]
      refine ⟨congrArg _ ?_, rfl⟩
      calc
        (submissions e).map asStarted = (submissions e).map id := by
          apply List.map_congr_left
          intro b member
          have pending := pending_of_submission b member
          rw [asStarted, ← pending, id]
        _ = submissions e := List.map_id _
  | saved event found advanced saves settlements =>
      subst event
      rw [saves, settlements, map_set_same found]
      · exact ⟨(List.append_nil _).symm, (List.append_nil _).symm⟩
      · obtain ⟨_, ⟨_, _, rfl⟩ | ⟨_, _, rfl⟩⟩ := BillSave.advance_cases advanced <;> rfl
  | settled event found move settlements saves =>
      subst event
      rw [saves, settlements, map_set_same found]
      · exact ⟨(List.append_nil _).symm, (List.append_nil _).symm⟩
      · obtain ⟨_, order, _, data, _⟩ := move.same
        rw [report, report, order, data]

/-- What every step of the payment and bill pages writes down, a run of the app writes
    down, as far as it does not read profiles. -/
theorem run_noted {α : Type} (log : Payments.State → List α) {note : Payments.Event → List α}
    (writes : ∀ s e s', Payments.step s e = some s' → log s' = log s ++ note e)
    (profile : ∀ s db, log { s with db } = log s) {s s' : App.State} {es : List App.Event}
    (played : run App.step s es = some s') : log s'.payments = log s.payments ++ noted note es := by
  refine run_writes (fun s => log s.payments) ?_ played
  intro s e s' stepped
  rcases App.step_payments_cases stepped with ⟨p, rfl, taken⟩ | ⟨other, quiet⟩
  · exact writes _ p _ taken
  · have same : log s'.payments = log s.payments := by
      rcases quiet with same | ⟨u, d, same⟩
      · rw [same]
      · rw [same, profile]
    cases e with
    | payments p => exact absurd rfl (other p)
    | _ => exact same.trans (List.append_nil _).symm

/-- The accounts of all users since a database, and where their entries come from. -/
structure AllBooked (db₀ : Database) (es : List App.Event) (s : App.State) : Prop where
  submitted : s.payments.saves.map asStarted = noted submissions es
  reported : s.payments.settlements.map report = noted reports es
  balanced : ∀ u, Balanced db₀ s.payments u

/-- In every run of the app and for every user: the saves are the accepted forms, one
    each, and the settlements the reported payments, one each; the stored bills are
    those from the start and those of the completed saves; the debt is that from the
    start and what was saved, less what was cleared; and no payment is recorded but
    those of the settlements, each at most once. -/
theorem books_balance {auth : SignUp.Auth} {db : Database} {es : List App.Event} {s : App.State}
    (played : run App.step (.init auth db) es = some s) : AllBooked db es s where
  submitted := run_noted (fun s => s.saves.map asStarted)
    (fun _ _ _ stepped => (logged_step stepped).1) (fun _ _ => rfl) played
  reported := run_noted (fun s => s.settlements.map report)
    (fun _ _ _ stepped => (logged_step stepped).2) (fun _ _ => rfl) played
  balanced u := by
    refine run_invariant (P := fun s => Balanced db s.payments u) ?_ played (.init db u)
    intro s e s' balanced stepped
    rcases App.step_payments_cases stepped with ⟨p, rfl, taken⟩ | ⟨_, same | ⟨v, d, same⟩⟩
    · exact balanced_step balanced taken
    · rw [same]
      exact balanced
    · rw [same]
      exact ⟨balanced.bills, balanced.debt, balanced.recorded, balanced.written⟩

/-- Two cards are saved and one add fails; a settlement clears the first card, fails at
    the rents, and a third card is saved meanwhile. -/
def saveAndSettle : List App.Event := [.payments (.validateCard 0
    ⟨"4111 1111 1111 1111", "12/27", "ASHA", "123"⟩ true), .payments (.save 0 true),
  .payments (.validateCard 0 ⟨"4222 2222 2222 2222", "11/26", "ASHA", "456"⟩ true),
  .payments (.save 1 false), .payments (.openPage 0), .payments (.payNow 0),
  .payments (.paymentSuccess 0 "pay_1" "2024-03-14 10:00:00.000"), .payments (.settle 0 true),
  .payments (.settle 0 true),
  .payments (.validateCard 0 ⟨"4333 3333 3333 3333", "10/25", "ASHA", "789"⟩ true),
  .payments (.save 2 true), .payments (.settle 0 true), .payments (.settle 0 false)]

theorem saved_and_settled_on_the_books : ∃ s,
    run App.step (.init App.oneAccount .empty) saveAndSettle = some s ∧
      s.db.debt 0 = 1000 ∧ AllBooked .empty saveAndSettle s := by
  obtain ⟨s, played, owed⟩ := run_reaches App.step (.init App.oneAccount .empty) saveAndSettle
    (P := fun s => s.db.debt 0 = 1000) (by decide +kernel)
  exact ⟨s, played, owed, books_balance played⟩

end Udhar.Books
