import Udhar.Payments.Atomicity
import Udhar.Payments.Enabled
import Udhar.Writes

/-! # Paying off

Whatever is going on in the app, which handlers wait and which have thrown: a user
whose balances can be read can open the payment page, pay what is owed and be free of
debt. Nothing that other sessions have left behind is in the way.
-/

namespace Udhar.Payments

open Lib Dart

variable {s : State} {u : Uid}

/-! ## The page learns the total -/

/-- A fetch is resumed; its page gets what the fetch sets. -/
theorem resume_fetch {i : ℕ} {f f' : Fetch} {page page' : PaymentForm}
    (found : s.fetches[i]? = some f) (shown : s.pages[f.page]? = some page)
    (advanced : f.advance s.db page true = some (f', page')) :
    ∃ t, step s (.fetch i true) = some t ∧ t.db = s.db ∧ t.orders = s.orders ∧
      t.fetches[i]? = some f' ∧ t.pages[f.page]? = some page' :=
  ⟨_, fetch_enabled found shown advanced, rfl, rfl,
    List.getElem?_set_self (List.getElem?_eq_some_iff.mp found).1,
    List.getElem?_set_self (List.getElem?_eq_some_iff.mp shown).1⟩

/-- A fetch that nothing interrupts sets the total, with or without a name. -/
theorem run_fetchBalance {i p : ℕ} {page : PaymentForm} {cardTotal rentTotal : Double}
    (found : s.fetches[i]? = some ⟨p, u, .paymentForm, .readUser⟩)
    (shown : s.pages[p]? = some page) (cards : fetchTotal s.db u .cards = some cardTotal)
    (rents : fetchTotal s.db u .rents = some rentTotal) :
    ∃ t page', run step s (List.replicate 4 (.fetch i true)) = some t ∧ t.db = s.db ∧
      t.orders = s.orders ∧ t.pages[p]? = some page' ∧ page'.user = page.user ∧
      page'.totalBalance = cardTotal + rentTotal := by
  obtain ⟨t₁, first, db₁, orders₁, found₁, shown₁⟩ := resume_fetch found shown rfl
  rw [← db₁] at cards rents
  obtain ⟨t₂, second, db₂, orders₂, found₂, shown₂⟩ := resume_fetch found₁ shown₁
    (show Fetch.advance t₁.db page _ true = some _ by simp only [Fetch.advance, cards]; rfl)
  rw [← db₂] at rents
  obtain ⟨t₃, third, db₃, orders₃, found₃, shown₃⟩ := resume_fetch found₂ shown₂
    (show Fetch.advance t₂.db page _ true = some _ by simp only [Fetch.advance, rents]; rfl)
  have last : ∃ f' page', Fetch.advance t₃.db page
      ⟨p, u, .paymentForm, .setState (s.db.users u) cardTotal rentTotal⟩ true =
        some (f', page') ∧ page'.user = page.user ∧
      page'.totalBalance = cardTotal + rentTotal := by
    cases named : storedName (s.db.users u) with
    | some name =>
        refine ⟨⟨p, u, .paymentForm, .done⟩,
          { page with totalBalance := cardTotal + rentTotal, name }, ?_, rfl, rfl⟩
        simp only [Fetch.advance, named]
    | none =>
        refine ⟨⟨p, u, .paymentForm, .threw⟩,
          { page with totalBalance := cardTotal + rentTotal }, ?_, rfl, rfl⟩
        simp only [Fetch.advance, named]
  obtain ⟨f', page', advanced, user, total⟩ := last
  obtain ⟨t, fourth, db, orders, _, shown'⟩ := resume_fetch found₃ shown₃ advanced
  refine ⟨t, page', ?_, ?_, ?_, shown', user, total⟩
  · exact run_cons.mpr ⟨t₁, first, run_cons.mpr ⟨t₂, second, run_cons.mpr ⟨t₃, third,
      run_cons.mpr ⟨t, fourth, rfl⟩⟩⟩⟩
  · rw [db, db₃, db₂, db₁]
  · rw [orders, orders₃, orders₂, orders₁]

/-! ## What a settlement that nothing interrupts leaves -/

/-- The user owes nothing, the payment is recorded, and nobody else's documents have
    changed. -/
structure PaidOff (u : Uid) (data : Fields) (db db' : Database) : Prop where
  bills : ∀ k, allPaid db' u k
  debt : db'.debt u = 0
  history : (db'.docs u .transactions).entries =
    (db.docs u .transactions).entries ++ [(db.store.nextId, data)]
  profile : db'.users = db.users
  others : ∀ v, v ≠ u → SameFor v db db'

theorem debtOn_of_allPaid {db : Database} {k : BillKind} (paid : allPaid db u k) :
    db.debtOn u k = 0 := by
  rw [Database.debtOn, Collection.total]
  refine List.sum_eq_zero (List.forall_mem_map.mpr ?_)
  intro e member
  rw [← (update_paid_eq_self_iff e.2).mpr (paid e member), debt_paid]

theorem paidOff_fullySettled (db : Database) (u : Uid) (data : Fields) :
    PaidOff u data db (fullySettled db u data) where
  bills k := allPaid_fullySettled db u data k
  debt := by
    rw [Database.debt, debtOn_of_allPaid (allPaid_fullySettled db u data .cards),
      debtOn_of_allPaid (allPaid_fullySettled db u data .rents), add_zero]
  history := by
    rw [fullySettled, payAll, payAll, Database.docs_updateDocs_of_ne _ _ _ _ _ (by simp),
      Database.docs_updateDocs_of_ne _ _ _ _ _ (by simp), Database.docs_add_self,
      Collection.entries_insert]
  profile := rfl
  others v other := by
    have apart : ∀ b c : Sub, (v, b) ≠ (u, c) := fun _ _ same => other (congrArg Prod.fst same)
    refine ⟨rfl, fun c => ?_⟩
    rw [fullySettled, payAll, payAll, Database.docs_updateDocs_of_ne _ _ _ _ _ (apart c _),
      Database.docs_updateDocs_of_ne _ _ _ _ _ (apart c _),
      Database.docs_add_of_ne _ _ _ _ (apart c _)]

/-! ## The whole way -/

/-- From every state, a user whose balances can be read can pay off: the page opens
    and learns the total, PayNow orders exactly this total, and once the gateway reports
    the payment its settlement clears all of the user's debt and records the payment
    with this total. -/
theorem user_can_pay_off (s : State) {u : Uid} {cardTotal rentTotal : Double}
    (cards : fetchTotal s.db u .cards = some cardTotal)
    (rents : fetchTotal s.db u .rents = some rentTotal) {paymentId : String}
    (fresh : s.usedPaymentId u paymentId = false) (now : String) :
    ∃ es t o page, run step s es = some t ∧ t.orders[s.orders.length]? = some o ∧
      o.user = u ∧ o.amount = (cardTotal + rentTotal).times100 ∧
      o.status = .success paymentId ∧ page.totalBalance = cardTotal + rentTotal ∧
      PaidOff u (transactionData page paymentId now) s.db t.db := by
  -- The page opens with its two fetches.
  let opened : State := { s with
    pages := s.pages ++ [{ user := u }]
    fetches := s.fetches ++ [⟨s.pages.length, u, .paymentForm, .readUser⟩,
      ⟨s.pages.length, u, .balanceCard, .readCards none⟩] }
  have opens : step s (.openPage u) = some opened := rfl
  have found : opened.fetches[s.fetches.length]? =
      some ⟨s.pages.length, u, .paymentForm, .readUser⟩ := by
    rw [List.getElem?_append_right (Nat.le_refl _), Nat.sub_self, List.getElem?_cons_zero]
  have shown : opened.pages[s.pages.length]? = some { user := u } :=
    List.getElem?_concat_length
  obtain ⟨read, page, reads, db, orders, there, user, total⟩ :=
    run_fetchBalance found shown cards rents
  -- PayNow orders the total of the page.
  let order : Order := ⟨s.pages.length, page.user, page.totalBalance.times100, page.name, .opened⟩
  let ordered : State := { read with
    fetches := read.fetches ++ [⟨s.pages.length, page.user, .paymentForm, .readUser⟩]
    orders := read.orders ++ [order] }
  have pays : step read (.payNow s.pages.length) = some ordered := payNow_enabled there
  have listed : ordered.orders[s.orders.length]? = some order := by
    rw [← orders]
    exact List.getElem?_concat_length
  have unused : ordered.usedPaymentId order.user paymentId = false := by
    have same : opened.orders = s.orders := rfl
    have stored : read.db = s.db := db
    simp only [State.usedPaymentId, Bool.or_eq_false_iff] at fresh ⊢
    simp only [ordered, order, orders, same, stored, user, List.any_append, fresh, List.any_cons,
      List.any_nil, reduceCtorEq, decide_false, Bool.or_false, and_self]
  -- The gateway reports the payment, and its settlement runs to its end.
  let started : Settlement :=
    ⟨s.pages.length, page.user, s.orders.length, transactionData page paymentId now, 0, .record⟩
  let settling : State := { ordered with
    orders := ordered.orders.set s.orders.length { order with status := .success paymentId }
    settlements := ordered.settlements ++ [started] }
  have succeeds : step ordered (.paymentSuccess s.orders.length paymentId now) = some settling :=
    paymentSuccess_enabled listed rfl there unused now
  have waits : settling.settlements[read.settlements.length]? = some started :=
    List.getElem?_concat_length
  obtain ⟨_, _, played⟩ := play_outcomes settling.db page (t := started) rfl none
  obtain ⟨t, settles, left⟩ := run_settle waits there played
  have stays : t.orders[s.orders.length]? = some { order with status := .success paymentId } := by
    have closed : { order with status := .success paymentId }.status ≠ .opened := nofun
    refine run_invariant (P := fun s' : State => s'.orders[s.orders.length]? =
      some { order with status := .success paymentId })
      (fun _ _ _ here stepped => step_closed stepped here closed) settles ?_
    exact List.getElem?_set_self (List.getElem?_eq_some_iff.mp listed).1
  refine ⟨_, t, _, page, run_append.mpr ⟨read, run_cons.mpr ⟨opened, opens, reads⟩,
    run_cons.mpr ⟨ordered, pays, run_cons.mpr ⟨settling, succeeds, settles⟩⟩⟩, stays, user, ?_, rfl,
    total, ?_⟩
  · rw [← total]
  · have stored : settling.db = s.db := db
    have mine : started.user = u := user
    rw [left, afterFault, stored, mine]
    exact paidOff_fullySettled s.db u _

/-- The first settlement of the card stops after its document was written; the card can
    still be paid. -/
theorem card_can_be_paid_after_failure : ∃ s, run step (State.init oneCard) (pressPayNow ++
      [.paymentSuccess 0 "pay_1" "2024-03-14 10:00:00.000", .settle 0 true, .settle 0 false]) =
        some s ∧
    ∃ es t o page, run step s es = some t ∧ t.orders[s.orders.length]? = some o ∧ o.user = 0 ∧
      o.amount = (Double.finite 1000 + 0).times100 ∧ o.status = .success "pay_2" ∧
      page.totalBalance = Double.finite 1000 + 0 ∧
      PaidOff 0 (transactionData page "pay_2" "2024-03-14 10:05:00.000") s.db t.db := by
  obtain ⟨s, reached, cards, rents, fresh⟩ := run_reaches step (State.init oneCard) (pressPayNow ++
    [.paymentSuccess 0 "pay_1" "2024-03-14 10:00:00.000", .settle 0 true, .settle 0 false])
    (P := fun s => fetchTotal s.db 0 .cards = some (.finite 1000) ∧
      fetchTotal s.db 0 .rents = some 0 ∧ s.usedPaymentId 0 "pay_2" = false) (by decide +kernel)
  exact ⟨s, reached, user_can_pay_off s cards rents fresh "2024-03-14 10:05:00.000"⟩

end Udhar.Payments
