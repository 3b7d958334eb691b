import Udhar.Payments.Steps

/-! # Conservation of debt

A settlement clears whatever the collections hold when it reads them, while the
order carries the total that the page had cached when PayNow was pressed. What
is cleared is what was charged as long as the order is still current when the
gateway reports success, no other settlement of the same user is under way, and
nothing is owed anew before the settlement has read it.

The argument follows the amount a running settlement will still clear: with
what it has cleared so far, it stays the amount of its order.
-/

namespace Udhar.Payments

open Lib Dart

variable {s s' : State} {u : Uid}

/-- The settlement has committed both batches. -/
def Settlement.settled (t : Settlement) : Bool :=
  match t.stage with
  | .setState | .done => true
  | _ => false

/-- The settlement has yet to read the bills of this kind. -/
def Settlement.awaits (t : Settlement) (k : BillKind) : Bool :=
  match t.stage with
  | .record | .readCards => true
  | .commitCards _ | .readRents => k = .rents
  | _ => false

/-- The debt that the settlement will still clear if nothing interferes. -/
def Settlement.remaining (db : Database) (t : Settlement) : ℚ :=
  match t.stage with
  | .record | .readCards => db.debt t.user
  | .commitCards ids =>
      (db.bills t.user .cards).totalOn (ids.contains ·) Fields.debt + db.debtOn t.user .rents
  | .readRents => db.debtOn t.user .rents
  | .commitRents ids => (db.bills t.user .rents).totalOn (ids.contains ·) Fields.debt
  | .setState | .done | .threw => 0

/-- No settlement of the user has this property. -/
def State.noSettlement (s : State) (u : Uid) (p : Settlement → Bool) : Bool :=
  s.settlements.all fun t => t.user ≠ u || !p t

/-- The payments of `u` are isolated from one another and from new bills. -/
def isolated (u : Uid) (s : State) : Event → Bool
  | .paymentSuccess i _ _ => s.orders[i]?.all fun o => o.user ≠ u ||
      (o.amount = (Double.finite (s.db.debt u)).times100 && s.noSettlement u Settlement.clearing)
  | .save i true => s.saves[i]?.all fun b => b.user ≠ u ||
      b.data.debt = 0 || s.noSettlement u (·.awaits b.kind)
  | _ => true

/-! ## What is left to clear -/

/-- The batch of a settlement only names documents that its snapshot has shown. -/
def Settlement.SnapshotStored (db : Database) (t : Settlement) : Prop :=
  ∀ k ids, t.stage = .commit k ids → ∀ x ∈ ids, x ∈ (db.bills t.user k).keys

theorem Settlement.SnapshotStored.mono {db db' : Database} {t : Settlement}
    (stored : t.SnapshotStored db)
    (kept : ∀ c x, x ∈ (db.docs t.user c).keys → x ∈ (db'.docs t.user c).keys) :
    t.SnapshotStored db' :=
  fun k ids stage x member => kept (.bills k) x (stored k ids stage x member)

theorem Settlement.Move.keys {db db' : Database} {page page' : PaymentForm} {t t' : Settlement}
    {ok : Bool} (move : t.Move db page ok db' page' t') {v : Uid} {c : Sub} {x : ℕ}
    (present : x ∈ (db.docs v c).keys) : x ∈ (db'.docs v c).keys := by
  cases move with
  | record => exact Database.keys_add db _ _ _ present
  | commit => rwa [Database.keys_updateDocs]
  | read | reset | threw => exact present

theorem Settlement.Move.snapshotStored {db db' : Database} {page page' : PaymentForm}
    {t t' : Settlement} {ok : Bool} (move : t.Move db page ok db' page' t') :
    t'.SnapshotStored db' := by
  intro k ids stage x member
  cases move with
  | read j =>
      cases j <;> cases k <;> cases stage <;> exact member
  | commit j =>
      cases j <;> cases k <;> cases stage
  | record | reset | threw => cases k <;> cases stage

theorem Settlement.remaining_of_not_clearing {db : Database} {t : Settlement}
    (ended : t.clearing = false) : t.remaining db = 0 := by
  cases t with
  | mk page user order data cleared stage =>
      cases stage with
      | setState | done | threw => rfl
      | record | readCards | commitCards | readRents | commitRents => cases ended

/-- A settlement that has stopped clearing does not start again. -/
theorem Settlement.Move.clearing {db db' : Database} {page page' : PaymentForm}
    {t t' : Settlement} {ok : Bool} (move : t.Move db page ok db' page' t')
    (after : t'.clearing = true) : t.clearing = true := by
  cases move with
  | record stage => simp only [Settlement.clearing, stage]
  | read k stage => cases k <;> simp only [Settlement.clearing, stage, SettleStage.read]
  | commit k stage => cases k <;> simp only [Settlement.clearing, stage, SettleStage.commit]
  | reset | threw => cases after

/-- A move changes the bills of no other user, and no bills after the commits. -/
theorem Settlement.Move.bills {db db' : Database} {page page' : PaymentForm}
    {t t' : Settlement} {ok : Bool} (move : t.Move db page ok db' page' t') {v : Uid}
    (apart : v ≠ t.user ∨ t.clearing = false) (k : BillKind) : db'.bills v k = db.bills v k := by
  cases move with
  | record => exact Database.docs_add_of_ne db t.user _ _ (by simp)
  | commit j stage =>
      rcases apart with foreign | ended
      · exact Database.docs_updateDocs_of_ne db t.user _ _ _ (by simp [foreign])
      · cases j <;> simp only [Settlement.clearing, stage, SettleStage.commit,
          Bool.true_eq_false] at ended
  | read | reset | threw => rfl

/-- Only the bills of its own user count for a settlement. -/
theorem Settlement.remaining_of_bills {db db' : Database} {t : Settlement}
    (same : ∀ k, db'.bills t.user k = db.bills t.user k) :
    t.remaining db' = t.remaining db := by
  simp only [Settlement.remaining, Database.debt, Database.debtOn, same]

/-- One move of a settlement turns debt left to clear into debt cleared. -/
theorem Settlement.Move.balance {db db' : Database} {page page' : PaymentForm}
    {t t' : Settlement} {ok : Bool} (move : t.Move db page ok db' page' t')
    (running : t'.stage ≠ .threw) :
    t'.cleared + t'.remaining db' = t.cleared + t.remaining db := by
  cases move with
  | record stage =>
      have cards := debtOn_add_of_ne db t.user .cards (v := t.user) (c := .transactions)
        t.transactionData (by simp)
      have rents := debtOn_add_of_ne db t.user .rents (v := t.user) (c := .transactions)
        t.transactionData (by simp)
      simp only [Settlement.remaining, stage, Database.debt, cards, rents]
  | read k stage =>
      cases k with
      | cards =>
          change t.stage = .readCards at stage
          simp only [Settlement.remaining, stage, SettleStage.commit, snapshotIds,
            Collection.totalOn_keys, Database.debt, Database.debtOn]
      | rents =>
          change t.stage = .readRents at stage
          simp only [Settlement.remaining, stage, SettleStage.commit, snapshotIds,
            Collection.totalOn_keys, Database.debtOn]
  | @commit k ids stage =>
      cases k with
      | cards =>
          change t.stage = .commitCards ids at stage
          have rents := debtOn_updateDocs_of_ne db t.user .rents (v := t.user)
            (c := .bills .cards) ids paid (by simp)
          simp only [Settlement.remaining, stage, SettleStage.after, rents, add_assoc]
      | rents =>
          change t.stage = .commitRents ids at stage
          simp only [Settlement.remaining, stage, SettleStage.after, add_zero]
  | reset stage => simp only [Settlement.remaining, stage]
  | threw => exact absurd rfl running

/-- A settlement does not notice a new bill of another user, one without debt,
    or one of a kind that it has read. -/
theorem Settlement.remaining_add {db : Database} {t : Settlement} {v : Uid} {k : BillKind}
    {d : Fields} (stored : t.SnapshotStored db)
    (harmless : t.user ≠ v ∨ d.debt = 0 ∨ t.awaits k = false) :
    t.remaining (db.add v (.bills k) d) = t.remaining db := by
  by_cases foreign : t.user = v
  swap
  · apply Settlement.remaining_of_bills
    intro j
    exact Database.docs_add_of_ne db v _ d (by simp [foreign])
  subst foreign
  have outside : ∀ j ids, t.stage = .commit j ids →
      ((db.add t.user (.bills k) d).bills t.user j).totalOn (ids.contains ·) Fields.debt =
        (db.bills t.user j).totalOn (ids.contains ·) Fields.debt := by
    intro j ids stage
    by_cases same : j = k
    · subst same
      simp only [Database.bills, Database.docs_add_self]
      apply Collection.totalOn_insert
      rw [Bool.eq_false_iff, Ne, List.contains_iff_mem]
      exact fun member => db.nextId_absent t.user (.bills j) (stored j ids stage _ member)
    · simp only [Database.bills,
        Database.docs_add_of_ne db t.user (.bills k) (v := t.user) (b := .bills j) d (by simpa)]
  have debtless : ∀ j, d.debt = 0 ∨ j ≠ k →
      (db.add t.user (.bills k) d).debtOn t.user j = db.debtOn t.user j := by
    rintro j (free | other)
    · by_cases same : j = k
      · subst same
        rw [debtOn_add_self, free, add_zero]
      · exact debtOn_add_of_ne db t.user j d (by simpa using same)
    · exact debtOn_add_of_ne db t.user j d (by simpa using other)
  have unread : ∀ j, t.awaits j = true →
      (db.add t.user (.bills k) d).debtOn t.user j = db.debtOn t.user j := by
    intro j awaited
    apply debtless
    rcases harmless with foreign | free | read
    · exact absurd rfl foreign
    · exact .inl free
    · refine .inr fun same => ?_
      rw [same, read] at awaited
      cases awaited
  cases stage : t.stage with
  | record | readCards =>
      simp only [Settlement.remaining, stage, Database.debt,
        unread .cards (by simp only [Settlement.awaits, stage]),
        unread .rents (by simp only [Settlement.awaits, stage])]
  | commitCards ids =>
      simp only [Settlement.remaining, stage, outside .cards ids stage,
        unread .rents (by simp [Settlement.awaits, stage])]
  | readRents =>
      simp only [Settlement.remaining, stage, unread .rents (by simp [Settlement.awaits, stage])]
  | commitRents ids => simp only [Settlement.remaining, stage, outside .rents ids stage]
  | setState | done | threw => simp only [Settlement.remaining, stage]

/-! ## The invariant -/

/-- Each settlement of `u` is on course to clear the amount of its order, and at
    most one of them is still clearing. -/
structure Conserving (u : Uid) (s : State) : Prop where
  stored : ∀ t ∈ s.settlements, t.SnapshotStored s.db
  single : ∀ (i j : ℕ) (t t' : Settlement), s.settlements[i]? = some t →
    s.settlements[j]? = some t' → t.user = u → t'.user = u →
    t.clearing = true → t'.clearing = true → i = j
  balanced : ∀ t ∈ s.settlements, t.user = u → t.stage ≠ .threw →
    s.charged t.order = some (Double.finite (t.cleared + t.remaining s.db)).times100

theorem noSettlement_iff {p : Settlement → Bool} :
    s.noSettlement u p = true ↔ ∀ t ∈ s.settlements, t.user = u → p t = false := by
  simp only [State.noSettlement, List.all_eq_true, Bool.or_eq_true, decide_eq_true_eq,
    Bool.not_eq_true', ne_eq]
  exact forall₂_congr fun t _ => (imp_iff_not_or).symm

namespace Conserving

theorem init (db : Database) : Conserving u (State.init db) where
  stored t member := nomatch member
  single i j t t' found := by cases found
  balanced t member := nomatch member

/-- The step left the database and the settlements alone. -/
theorem of_quiet {e : Event} (conserving : Conserving u s) (stepped : step s e = some s')
    (db : s'.db = s.db) (settlements : s'.settlements = s.settlements) : Conserving u s' where
  stored := by
    rw [db, settlements]
    exact conserving.stored
  single := by
    rw [settlements]
    exact conserving.single
  balanced := by
    rw [db, settlements]
    intro t member owned running
    exact step_charged stepped (conserving.balanced t member owned running)

theorem save {i : ℕ} {ok : Bool} (conserving : Conserving u s)
    (alone : isolated u s (.save i ok) = true) (stepped : step s (.save i ok) = some s') :
    Conserving u s' := by
  obtain ⟨b, db', b', found, advanced, same⟩ := step_save stepped
  obtain ⟨_, ⟨rfl, rfl, rfl⟩ | ⟨_, rfl, _⟩⟩ := BillSave.advance_cases advanced
  swap
  · exact conserving.of_quiet stepped (by rw [same]) (by rw [same])
  have harmless : ∀ t ∈ s.settlements, t.user = u →
      t.user ≠ b.user ∨ b.data.debt = 0 ∨ t.awaits b.kind = false := by
    intro t member owned
    simp only [isolated, found, Option.all_some, Bool.or_eq_true, decide_eq_true_eq,
      noSettlement_iff, ne_eq] at alone
    rcases alone with (foreign | free) | read
    · exact .inl fun mine => foreign (mine ▸ owned)
    · exact .inr (.inl free)
    · exact .inr (.inr (read t member owned))
  subst same
  exact {
    stored := fun t member => (conserving.stored t member).mono fun c x =>
      Database.keys_add s.db b.user (.bills b.kind) b.data
    single := conserving.single
    balanced := by
      intro t member owned running
      rw [Settlement.remaining_add (conserving.stored t member) (harmless t member owned)]
      exact conserving.balanced t member owned running }

theorem success {i : ℕ} {paymentId now : String} (conserving : Conserving u s)
    (alone : isolated u s (.paymentSuccess i paymentId now) = true)
    (stepped : step s (.paymentSuccess i paymentId now) = some s') : Conserving u s' := by
  have charged : ∀ j x, s.charged j = some x → s'.charged j = some x :=
    fun j x => step_charged stepped
  obtain ⟨o, page, found, _, _, _, rfl⟩ := step_paymentSuccess stepped
  have current : o.user = u → o.amount = (Double.finite (s.db.debt u)).times100 ∧
      ∀ t ∈ s.settlements, t.user = u → t.clearing = false := by
    intro owned
    simpa only [isolated, found, Option.all_some, owned, ne_eq, not_true_eq_false, decide_false,
      Bool.false_or, Bool.and_eq_true, decide_eq_true_eq, noSettlement_iff] using alone
  constructor
  · apply forall_mem_concat conserving.stored
    intro k ids stage
    cases k <;> cases stage
  · intro i j t t' here there owned owned' clearing clearing'
    rw [List.getElem?_append] at here there
    split at here
    · split at there
      · exact conserving.single i j t t' here there owned owned' clearing clearing'
      · obtain ⟨rfl⟩ := List.mem_singleton.mp (List.mem_of_getElem? there)
        have ended := (current owned').2 t (List.mem_of_getElem? here) owned
        rw [ended] at clearing
        cases clearing
    · split at there
      · obtain ⟨rfl⟩ := List.mem_singleton.mp (List.mem_of_getElem? here)
        have ended := (current owned).2 t' (List.mem_of_getElem? there) owned'
        rw [ended] at clearing'
        cases clearing'
      · have first := (List.getElem?_eq_some_iff.mp here).1
        have second := (List.getElem?_eq_some_iff.mp there).1
        simp only [List.length_singleton] at first second
        omega
  · intro t member owned running
    rcases List.mem_append.mp member with old | new
    · exact charged _ _ (conserving.balanced t old owned running)
    · obtain rfl := List.mem_singleton.mp new
      apply charged
      simp only [State.charged, found, Option.map_some, Settlement.remaining, zero_add]
      exact congrArg some ((current owned).1.trans (by rw [← owned]))

theorem settle {i : ℕ} {ok : Bool} (conserving : Conserving u s)
    (stepped : step s (.settle i ok) = some s') : Conserving u s' := by
  obtain ⟨t, page, db', page', t', found, _, advanced, rfl⟩ := step_settle stepped
  have move := Settlement.advance_move advanced
  obtain ⟨user, order, _⟩ := move.same
  -- The settlement that moved stands at `i`, every other one where it stood.
  have stands : ∀ (j : ℕ) (r : Settlement), (s.settlements.set i t')[j]? = some r →
      j = i ∧ r = t' ∨ j ≠ i ∧ s.settlements[j]? = some r := by
    intro j r there
    by_cases same : j = i
    · subst same
      rw [List.getElem?_set_self (List.getElem?_eq_some_iff.mp found).1] at there
      exact .inl ⟨rfl, (Option.some.inj there).symm⟩
    · rw [List.getElem?_set_ne (Ne.symm same)] at there
      exact .inr ⟨same, there⟩
  constructor
  · exact forall_mem_set (fun r old => (conserving.stored r old).mono fun c x => move.keys)
      move.snapshotStored
  · intro j k r r' here there owned owned' clearing clearing'
    rcases stands j r here with ⟨rfl, rfl⟩ | ⟨_, old⟩ <;>
      rcases stands k r' there with ⟨rfl, rfl⟩ | ⟨_, old'⟩
    · rfl
    · exact conserving.single j k t r' found old' (user ▸ owned) owned'
        (move.clearing clearing) clearing'
    · exact conserving.single j k r t old found owned (user ▸ owned')
        clearing (move.clearing clearing')
    · exact conserving.single j k r r' old old' owned owned' clearing clearing'
  · intro r member owned running
    obtain ⟨j, here⟩ := List.mem_iff_getElem?.mp member
    rcases stands j r here with ⟨rfl, rfl⟩ | ⟨other, here⟩
    · have before : t.stage ≠ .threw := by
        intro threw
        cases t with
        | mk page user order data cleared stage =>
            cases threw
            cases advanced
      have kept := conserving.balanced t (List.mem_of_getElem? found) (user ▸ owned) before
      rw [move.balance running, order]
      exact kept
    · have same : r.remaining db' = r.remaining s.db := by
        by_cases ended : r.clearing = true
        · apply Settlement.remaining_of_bills
          apply move.bills
          by_cases foreign : r.user = t.user
          · right
            rw [Bool.eq_false_iff]
            intro clearing
            exact other (conserving.single j i r t here found owned (foreign ▸ owned)
              ended clearing)
          · exact .inl foreign
        · rw [Bool.not_eq_true] at ended
          rw [Settlement.remaining_of_not_clearing ended,
            Settlement.remaining_of_not_clearing ended]
      rw [same]
      exact conserving.balanced r (List.mem_of_getElem? here) owned running

theorem preserved {e : Event} (alone : isolated u s e = true) (conserving : Conserving u s)
    (stepped : step s e = some s') : Conserving u s' := by
  cases e with
  | paymentSuccess => exact conserving.success alone stepped
  | settle => exact conserving.settle stepped
  | save => exact conserving.save alone stepped
  | openPage | payNow | paymentError | externalWallet | fetch | validateCard | submitRent =>
      obtain ⟨db, settlements⟩ := step_quiet rfl stepped
      exact conserving.of_quiet stepped db settlements

end Conserving

/-! ## Settlements clear what was charged -/

/-- Every settlement of `u` that has committed both batches has cleared the
    amount charged for its payment. -/
def State.Conserved (s : State) (u : Uid) : Prop :=
  ∀ t ∈ s.settlements, t.user = u → t.settled = true →
    s.charged t.order = some (Double.finite t.cleared).times100

instance (s : State) (u : Uid) : Decidable (s.Conserved u) :=
  inferInstanceAs (Decidable (∀ t ∈ s.settlements, _))

theorem Conserving.conserved (conserving : Conserving u s) : s.Conserved u := by
  intro t member owned settled
  have running : t.stage ≠ .threw := by
    intro threw
    simp only [Settlement.settled, threw, Bool.false_eq_true] at settled
  have ended : t.clearing = false := by
    cases stage : t.stage with
    | setState | done => simp only [Settlement.clearing, stage]
    | record | readCards | commitCards | readRents | commitRents | threw =>
        simp only [Settlement.settled, stage, Bool.false_eq_true] at settled
  have balanced := conserving.balanced t member owned running
  rwa [Settlement.remaining_of_not_clearing ended, add_zero] at balanced

/-- The debt that each settlement of a user clears is the amount charged for its
    payment, in every run that isolates the user's payments. -/
theorem settlements_clear_what_was_charged {db : Database} {es : List Event}
    (played : run step (State.init db) es = some s)
    (alone : Meets step (fun s e => isolated u s e) (State.init db) es) : s.Conserved u :=
  (run_invariant_of_meets (P := Conserving u) (fun _ _ _ alone conserving stepped =>
    conserving.preserved alone stepped) played alone (Conserving.init db)).conserved

theorem settlement_of_one_card_clears_what_was_charged :
    ∃ s, run step (State.init oneCard) (pressPayNow ++ succeedAndSettle) = some s ∧
      s.Conserved 0 := by
  obtain ⟨s, played, _⟩ := run_reaches step (State.init oneCard) (pressPayNow ++ succeedAndSettle)
    (P := fun _ => True) (by decide +kernel)
  exact ⟨s, played, settlements_clear_what_was_charged played (by decide +kernel)⟩

/-- A second card is saved while the gateway is open: 1000 is charged, 2000 is
    cleared. -/
theorem bill_saved_while_gateway_open_is_cleared_unpaid :
    ∃ s, run step (State.init oneCard) (pressPayNow ++
        [.validateCard 0 ⟨"5555 5555 5555 4444", "01/28", "ASHA", "321"⟩ true, .save 0 true] ++
        succeedAndSettle) = some s ∧ ¬ s.Conserved 0 :=
  run_reaches _ _ _ (by decide +kernel)

end Udhar.Payments
