import Udhar.Payments.Ledger

/-! # Payments are settled and recorded once

The gateway's verdict on an order is final. A reported success starts one settlement
for the order, whatever else is going on, and this settlement writes the payment's
document at most once, whichever of its operations fail; a payment id stands for one
order and, in each user's history, for one document.
-/

namespace Udhar.Payments

open Lib

variable {s s' : State}

def OrderStatus.paymentId : OrderStatus → Option String
  | .success paymentId => some paymentId
  | .opened | .error _ _ | .externalWallet _ => none

/-- What a settlement has left in the history: nothing before its document is written,
    its document afterwards, and one of the two once an operation has failed. -/
def Settlement.Recorded (t : Settlement) (found : List (ℕ × Fields)) : Prop :=
  (t.stage = .record → found = []) ∧
    (t.stage ≠ .record → t.stage ≠ .threw → ∃ k, found = [(k, t.transactionData)]) ∧
    (found = [] ∨ ∃ k, found = [(k, t.transactionData)])

/-- Settlements and successful orders belong together one to one, with the same user,
    page and payment id, and a payment id stands for one order and one document. -/
structure SettledOnce (s : State) : Prop where
  order : ∀ t ∈ s.settlements, ∃ o paymentId, s.orders[t.order]? = some o ∧
    o.status = .success paymentId ∧ o.user = t.user ∧ o.page = t.page ∧
    t.transactionData "paymentID" = some (.string paymentId)
  settlement : ∀ i o paymentId, s.orders[i]? = some o → o.status = .success paymentId →
    ∃ t ∈ s.settlements, t.order = i
  once : KeysApart (fun t => some t.order) s.settlements
  ids : KeysApart (fun o => o.status.paymentId) s.orders
  recorded : ∀ t ∈ s.settlements, ∀ paymentId,
    t.transactionData "paymentID" = some (.string paymentId) →
      t.Recorded (receipts s.db t.user paymentId)
  single : ∀ u paymentId, (receipts s.db u paymentId).length ≤ 1

theorem paymentId_eq_some {o : Order} {paymentId : String} :
    o.status.paymentId = some paymentId ↔ o.status = .success paymentId := by
  cases o.status <;> simp [OrderStatus.paymentId]

namespace SettledOnce

theorem init {db : Database} (single : ∀ u paymentId, (receipts db u paymentId).length ≤ 1) :
    SettledOnce (State.init db) where
  order _ none := nomatch none
  settlement _ _ _ found := nomatch found
  once := .nil
  ids := .nil
  recorded _ none := nomatch none
  single := single

/-- The order of a settlement has its verdict, so later steps leave it alone. -/
theorem order_step {e : Event} (settled : SettledOnce s) (stepped : step s e = some s')
    {t : Settlement} (member : t ∈ s.settlements) : ∃ o paymentId, s'.orders[t.order]? = some o ∧
      o.status = .success paymentId ∧ o.user = t.user ∧ o.page = t.page ∧
      t.transactionData "paymentID" = some (.string paymentId) := by
  obtain ⟨o, paymentId, found, success, rest⟩ := settled.order t member
  exact ⟨o, paymentId, step_closed stepped found (by simp [success]), success, rest⟩

/-- The payments that were successful before a step that reports none. -/
theorem success_before {e : Event} (stepped : step s e = some s')
    (silent : ∀ i paymentId, e.closes ≠ some (i, .success paymentId)) {i : ℕ} {o : Order}
    {paymentId : String} (found : s'.orders[i]? = some o)
    (success : o.status = .success paymentId) : s.orders[i]? = some o := by
  rcases step_order_origin stepped found with old | opened | closes
  · exact old
  · rw [success] at opened
    cases opened
  · rw [success] at closes
    exact absurd closes (silent i paymentId)

/-- A step that reports no success and resumes no settlement. -/
theorem of_same {e : Event} (settled : SettledOnce s) (stepped : step s e = some s')
    (silent : ∀ i paymentId, e.closes ≠ some (i, .success paymentId))
    (settlements : s'.settlements = s.settlements)
    (same : ∀ u paymentId, receipts s'.db u paymentId = receipts s.db u paymentId) :
    SettledOnce s' where
  order := by
    rw [settlements]
    exact fun t member => settled.order_step stepped member
  settlement := by
    rw [settlements]
    exact fun i o paymentId found success =>
      settled.settlement i o paymentId (success_before stepped silent found success) success
  once := by
    rw [settlements]
    exact settled.once
  ids := by
    intro i j o o' paymentId found found' first second
    exact settled.ids i j o o' paymentId
      (success_before stepped silent found (paymentId_eq_some.mp first))
      (success_before stepped silent found' (paymentId_eq_some.mp second)) first second
  recorded := by
    rw [settlements]
    intro t member paymentId paid
    rw [same]
    exact settled.recorded t member paymentId paid
  single u paymentId := by
    rw [same]
    exact settled.single u paymentId

/-- A payment id that the guard lets through is in no order and in no document. -/
theorem unused {u : Uid} {paymentId : String} (fresh : s.usedPaymentId u paymentId = false) :
    (∀ o ∈ s.orders, o.status.paymentId ≠ some paymentId) ∧ receipts s.db u paymentId = [] := by
  simp only [State.usedPaymentId, Bool.or_eq_false_iff, List.any_eq_false, decide_eq_true_eq]
    at fresh
  constructor
  · intro o member used
    exact fresh.1 o member (paymentId_eq_some.mp used)
  · exact List.filter_eq_nil_iff.mpr fun e member => by simpa using fresh.2 e member

theorem success {i : ℕ} {paymentId now : String} (settled : SettledOnce s)
    (stepped : step s (.paymentSuccess i paymentId now) = some s') : SettledOnce s' := by
  have earlier := fun t => settled.order_step (t := t) stepped
  have origin : ∀ j o id, s'.orders[j]? = some o → o.status = .success id →
      s.orders[j]? = some o ∨ j = i := by
    intro j o id found success
    rcases step_order_origin stepped found with old | opened | closes
    · exact .inl old
    · rw [success] at opened
      cases opened
    · exact .inr (Prod.mk.inj (Option.some.inj closes)).1.symm
  obtain ⟨o, page, found, opened, shown, fresh, rfl⟩ := step_paymentSuccess stepped
  obtain ⟨unpaid, unrecorded⟩ := unused fresh
  have inside := (List.getElem?_eq_some_iff.mp found).1
  refine ⟨?_, ?_, ?_, ?_, ?_, settled.single⟩
  · exact forall_mem_concat earlier
      ⟨_, paymentId, List.getElem?_set_self inside, rfl, rfl, rfl, rfl⟩
  · intro j o' id found' success
    rcases origin j o' id found' success with old | rfl
    · obtain ⟨t, member, order⟩ := settled.settlement j o' id old success
      exact ⟨t, List.mem_append_left _ member, order⟩
    · exact ⟨_, List.mem_append_right _ (List.mem_singleton_self _), rfl⟩
  · apply settled.once.concat
    intro n here t member same
    obtain ⟨o', id, found', success', _⟩ := settled.order t member
    rw [← Option.some.inj here] at same
    rw [Option.some.inj same, found] at found'
    obtain rfl := Option.some.inj found'
    rw [opened] at success'
    cases success'
  · apply settled.ids.set
    intro id here j q there same
    obtain rfl := Option.some.inj here
    exact absurd same (unpaid q (List.mem_of_getElem? there))
  · apply forall_mem_concat settled.recorded
    intro id paid
    obtain rfl : paymentId = id := Value.string.inj (Option.some.inj paid)
    exact ⟨fun _ => unrecorded, fun wrote => absurd rfl wrote, .inl unrecorded⟩

/-- Two settlements with one payment id belong to one order, so they are the same. -/
theorem same_id (settled : SettledOnce s) {i j : ℕ} {t r : Settlement} {paymentId : String}
    (found : s.settlements[i]? = some t) (found' : s.settlements[j]? = some r)
    (paid : t.transactionData "paymentID" = some (.string paymentId))
    (paid' : r.transactionData "paymentID" = some (.string paymentId)) : i = j := by
  obtain ⟨o, id, order, success, _, _, data⟩ := settled.order t (List.mem_of_getElem? found)
  obtain ⟨o', id', order', success', _, _, data'⟩ := settled.order r (List.mem_of_getElem? found')
  obtain rfl := Value.string.inj (Option.some.inj (data.symm.trans paid))
  obtain rfl := Value.string.inj (Option.some.inj (data'.symm.trans paid'))
  have orders := settled.ids t.order r.order o o' _ order order' (paymentId_eq_some.mpr success)
    (paymentId_eq_some.mpr success')
  exact settled.once i j t r _ found found' rfl (congrArg some orders.symm)

/-- Only the write of its document touches a user's history, and only where it records
    this payment. -/
theorem receipts_of_other {db db' : Database} {page page' : PaymentForm} {t t' : Settlement}
    {ok : Bool} (move : t.Move db page ok db' page' t') (u : Uid) {paymentId : String}
    (other : u ≠ t.user ∨ t.transactionData "paymentID" ≠ some (.string paymentId)) :
    receipts db' u paymentId = receipts db u paymentId := by
  cases move with
  | record => exact receipts_record_of_ne db other
  | commit => exact receipts_updateBills _ _ _ _ _ _ _
  | read | reset | threw => rfl

theorem recorded_moved {db db' : Database} {page page' : PaymentForm} {t t' : Settlement}
    {ok : Bool} (move : t.Move db page ok db' page' t') {paymentId : String}
    (paid : t.transactionData "paymentID" = some (.string paymentId))
    (before : t.Recorded (receipts db t.user paymentId)) :
    t'.Recorded (receipts db' t.user paymentId) := by
  obtain ⟨waiting, written, either⟩ := before
  cases move with
  | record stage =>
      rw [receipts_record db t.user paid, waiting stage]
      have one : ∃ k, ([] ++ [(db.store.nextId, t.transactionData)] : List (ℕ × Fields)) =
          [(k, t.transactionData)] := ⟨_, rfl⟩
      exact ⟨by simp, fun _ _ => one, .inr one⟩
  | read k stage =>
      have wrote := written (by cases k <;> simp [stage, SettleStage.read])
        (by cases k <;> simp [stage, SettleStage.read])
      exact ⟨by cases k <;> simp [SettleStage.commit], fun _ _ => wrote, .inr wrote⟩
  | commit k stage =>
      rw [receipts_updateBills]
      have wrote := written (by cases k <;> simp [stage, SettleStage.commit])
        (by cases k <;> simp [stage, SettleStage.commit])
      exact ⟨by cases k <;> simp [SettleStage.after], fun _ _ => wrote, .inr wrote⟩
  | reset stage =>
      have wrote := written (by simp [stage]) (by simp [stage])
      exact ⟨by simp, fun _ _ => wrote, .inr wrote⟩
  | threw => exact ⟨by simp, fun _ running => absurd rfl running, either⟩

theorem settle {i : ℕ} {ok : Bool} (settled : SettledOnce s)
    (stepped : step s (.settle i ok) = some s') : SettledOnce s' := by
  have earlier := fun t => settled.order_step (t := t) stepped
  obtain ⟨t, page, db', page', t', found, _, advanced, rfl⟩ := step_settle stepped
  have move := Settlement.advance_move advanced
  obtain ⟨user, order, page, data, _⟩ := move.same
  have member := List.mem_of_getElem? found
  obtain ⟨o, paymentId, _, _, _, _, paid⟩ := settled.order t member
  have recorded := recorded_moved move paid (settled.recorded t member paymentId paid)
  refine ⟨?_, ?_, ?_, settled.ids, ?_, ?_⟩
  · apply forall_mem_set earlier
    rw [order, user, page, data]
    exact earlier t member
  · intro j o id foundOrder success
    obtain ⟨r, inOld, orderIs⟩ := settled.settlement j o id foundOrder success
    obtain ⟨k, there⟩ := List.mem_iff_getElem?.mp inOld
    have kept := getElem?_map_set (f := Settlement.order) found order k
    rw [there, Option.map_some, Option.map_eq_some_iff] at kept
    obtain ⟨r', there', same⟩ := kept
    exact ⟨r', List.mem_of_getElem? there', same.trans orderIs⟩
  · apply settled.once.of_keys
    intro k
    exact getElem?_map_set (f := fun t : Settlement => some t.order) found (congrArg some order) k
  · intro r inNew id paid'
    obtain ⟨j, there⟩ := List.mem_iff_getElem?.mp inNew
    rw [List.getElem?_set] at there
    split at there
    · split at there
      · obtain rfl := Option.some.inj there
        rw [data, paid] at paid'
        obtain rfl := Value.string.inj (Option.some.inj paid')
        rw [user]
        exact recorded
      · cases there
    · rename_i apart
      have inOld := List.mem_of_getElem? there
      rw [receipts_of_other move r.user (.inr fun same => ?_)]
      · exact settled.recorded r inOld id paid'
      · exact apart (settled.same_id found there same paid')
  · intro u id
    by_cases mine : u = t.user ∧ t.transactionData "paymentID" = some (.string id)
    · obtain ⟨rfl, same⟩ := mine
      rw [paid] at same
      obtain rfl := Value.string.inj (Option.some.inj same)
      rcases recorded.2.2 with none | ⟨k, one⟩
      · rw [none]
        exact Nat.zero_le 1
      · rw [one]
        exact Nat.le_refl 1
    · rw [receipts_of_other move u (by tauto)]
      exact settled.single u id

theorem preserved {e : Event} (settled : SettledOnce s) (stepped : step s e = some s') :
    SettledOnce s' := by
  cases e with
  | paymentSuccess => exact settled.success stepped
  | settle => exact settled.settle stepped
  | save =>
      have kept := settled.of_same stepped nofun
      obtain ⟨b, db', _, _, advanced, rfl⟩ := step_save stepped
      apply kept rfl
      intro u paymentId
      obtain ⟨_, ⟨_, rfl, _⟩ | ⟨_, rfl, _⟩⟩ := BillSave.advance_cases advanced
      · exact receipts_add_bill _ _ _ _ _ _
      · rfl
  | openPage | payNow | paymentError | externalWallet | fetch | validateCard | submitRent =>
      obtain ⟨db, settlements⟩ := step_quiet rfl stepped
      exact settled.of_same stepped nofun settlements fun u paymentId => by rw [db]

end SettledOnce

/-- In every run, whatever the order of the events and whichever operations fail: each
    reported success has one settlement of its own, and its document is written at most
    once; and from then on no order changes its verdict. -/
theorem payments_settled_once {db : Database} {before es : List Event}
    (single : ∀ u paymentId, (receipts db u paymentId).length ≤ 1)
    (reached : run step (State.init db) before = some s) (played : run step s es = some s') :
    SettledOnce s ∧ ∀ (i : ℕ) (o : Order), s.orders[i]? = some o → o.status ≠ .opened →
      s'.orders[i]? = some o := by
  constructor
  · exact run_invariant (fun _ _ _ => SettledOnce.preserved) reached (.init single)
  · intro i o found closed
    exact run_invariant (P := fun s => s.orders[i]? = some o)
      (fun _ _ _ there stepped => step_closed stepped there closed) played found

/-- The settlement of a payment fails after its document was written, and a second
    order is paid. -/
theorem two_payments_settled_once : ∃ s s', run step (State.init oneCard) (pressPayNow ++
      [.paymentSuccess 0 "pay_1" "2024-03-14 10:00:00.000", .settle 0 true, .settle 0 false]) =
        some s ∧
    run step s [.payNow 0, .paymentSuccess 1 "pay_2" "2024-03-14 10:05:00.000", .settle 1 true] =
      some s' ∧
    SettledOnce s ∧ ∀ (i : ℕ) (o : Order), s.orders[i]? = some o → o.status ≠ .opened →
      s'.orders[i]? = some o := by
  obtain ⟨s, reached, more⟩ := run_reaches step (State.init oneCard) (pressPayNow ++
    [.paymentSuccess 0 "pay_1" "2024-03-14 10:00:00.000", .settle 0 true, .settle 0 false])
    (P := fun s => (run step s [.payNow 0,
      .paymentSuccess 1 "pay_2" "2024-03-14 10:05:00.000", .settle 1 true]).isSome = true)
    (by decide +kernel)
  obtain ⟨s', played⟩ := Option.isSome_iff_exists.mp more
  refine ⟨s, s', reached, played, payments_settled_once (fun u paymentId => ?_) reached played⟩
  rw [oneCard, receipts_add_bill]
  exact Nat.zero_le 1

end Udhar.Payments
