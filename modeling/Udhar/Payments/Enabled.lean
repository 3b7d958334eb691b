import Udhar.Payments.Steps

/-! # Events that can happen

What is needed for an event to be possible, and the state it leads to: the other
direction of the inversion lemmas.
-/

namespace Udhar.Payments

open Lib

variable {s : State}

theorem payNow_enabled {p : ℕ} {page : PaymentForm} (shown : s.pages[p]? = some page) :
    step s (.payNow p) = some { s with
      fetches := s.fetches ++ [⟨p, page.user, .paymentForm, .readUser⟩]
      orders := s.orders ++ [⟨p, page.user, page.totalBalance.times100, page.name, .opened⟩] } := by
  simp only [step, shown, Option.bind_eq_bind, Option.bind_some]

theorem close_enabled {i : ℕ} {o : Order} (found : s.orders[i]? = some o)
    (opened : o.status = .opened) (status : OrderStatus) :
    s.close i status = some { s with orders := s.orders.set i { o with status } } := by
  simp only [State.close, found, opened, Option.bind_eq_bind, Option.bind_some, guard, if_true,
    Option.pure_def]

theorem paymentSuccess_enabled {i : ℕ} {o : Order} {page : PaymentForm} {paymentId : String}
    (found : s.orders[i]? = some o) (opened : o.status = .opened)
    (shown : s.pages[o.page]? = some page) (fresh : s.usedPaymentId o.user paymentId = false)
    (now : String) : step s (.paymentSuccess i paymentId now) = some { s with
      orders := s.orders.set i { o with status := .success paymentId }
      settlements := s.settlements ++
        [⟨o.page, o.user, i, transactionData page paymentId now, 0, .record⟩] } := by
  simp only [step, found, shown, fresh, close_enabled found opened, Option.bind_eq_bind,
    Option.bind_some, guard, if_true, Option.pure_def]

theorem fetch_enabled {i : ℕ} {ok : Bool} {f f' : Fetch} {page page' : PaymentForm}
    (found : s.fetches[i]? = some f) (shown : s.pages[f.page]? = some page)
    (advanced : f.advance s.db page ok = some (f', page')) :
    step s (.fetch i ok) = some { s with
      fetches := s.fetches.set i f', pages := s.pages.set f.page page' } := by
  simp only [step, found, shown, advanced, Option.bind_eq_bind, Option.bind_some]

theorem settle_enabled {i : ℕ} {ok : Bool} {t t' : Settlement} {page page' : PaymentForm}
    {db' : Database} (found : s.settlements[i]? = some t) (shown : s.pages[t.page]? = some page)
    (advanced : t.advance s.db page ok = some (db', page', t')) :
    step s (.settle i ok) = some { s with
      db := db'
      pages := s.pages.set t.page page'
      settlements := s.settlements.set i t' } := by
  simp only [step, found, shown, advanced, Option.bind_eq_bind, Option.bind_some]

theorem save_enabled {i : ℕ} {ok : Bool} {b b' : BillSave} {db' : Database}
    (found : s.saves[i]? = some b) (advanced : b.advance s.db ok = some (db', b')) :
    step s (.save i ok) = some { s with db := db', saves := s.saves.set i b' } := by
  simp only [step, found, advanced, Option.bind_eq_bind, Option.bind_some]

end Udhar.Payments
