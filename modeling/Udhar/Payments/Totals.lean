import Udhar.Payments.Steps

/-! # The totals in flight

Every total that a page shows or a fetch carries is a sum of parsed balances.
What is closed under addition and holds of all balances therefore holds of all
totals, whatever the interleaving.
-/

namespace Udhar.Payments

open Lib Dart

variable {s s' : State} {P : AddSubmonoid Double}

/-- The totals that a suspended fetch carries. -/
def FetchStage.totals : FetchStage → List Double
  | .readRents _ cardTotal => [cardTotal]
  | .setState _ cardTotal rentTotal => [cardTotal, rentTotal]
  | _ => []

/-- All totals that pages and fetches hold are in `P`. -/
structure State.TotalsIn (P : AddSubmonoid Double) (s : State) : Prop where
  pages : ∀ page ∈ s.pages, page.totalBalance ∈ P ∧ page.amountDue ∈ P
  fetches : ∀ f ∈ s.fetches, ∀ x ∈ f.stage.totals, x ∈ P

theorem fetchTotal_mem {db : Database} {u : Uid} {k : BillKind} {x : Double}
    (each : ∀ e ∈ (db.bills u k).entries, ∀ y, e.2.balance? = some y → y ∈ P)
    (total : fetchTotal db u k = some x) : x ∈ P := by
  refine sumBalances_mem P P.zero_mem ?_ total
  intro d member
  obtain ⟨e, stored, rfl⟩ := List.mem_map.mp member
  exact each e stored

/-- What a fetch carries comes from what it carried and from what it reads. -/
theorem Fetch.Move.totals {db : Database} {page page' : PaymentForm} {f f' : Fetch} {ok : Bool}
    (move : f.Move db page ok f' page')
    (reads : ∀ k x, fetchTotal db f.user k = some x → x ∈ P)
    (held : ∀ x ∈ f.stage.totals, x ∈ P) : ∀ x ∈ f'.stage.totals, x ∈ P := by
  intro x member
  cases move with
  | readUser | card | threw => cases member
  | readCards stage total =>
      obtain rfl := List.mem_singleton.mp member
      exact reads _ _ total
  | @readRents userDoc cardTotal rentTotal stage total =>
      rw [stage] at held
      rcases List.mem_cons.mp member with rfl | last
      · exact held x List.mem_cons_self
      · obtain rfl := List.mem_singleton.mp last
        exact reads _ _ total
  | form name ends => rcases ends with rfl | rfl <;> cases member

/-- What a fetch shows is the sum of what it carried. -/
theorem Fetch.Move.page_totals {db : Database} {page page' : PaymentForm} {f f' : Fetch}
    {ok : Bool} (move : f.Move db page ok f' page') (held : ∀ x ∈ f.stage.totals, x ∈ P)
    (here : page.totalBalance ∈ P ∧ page.amountDue ∈ P) :
    page'.totalBalance ∈ P ∧ page'.amountDue ∈ P := by
  cases move with
  | readUser | readCards | readRents | threw => exact here
  | @card userDoc cardTotal rentTotal stage =>
      rw [stage] at held
      exact ⟨here.1, P.add_mem (held cardTotal (by simp [FetchStage.totals]))
        (held rentTotal (by simp [FetchStage.totals]))⟩
  | @form userDoc cardTotal rentTotal name ended ends stage =>
      rw [stage] at held
      exact ⟨P.add_mem (held cardTotal (by simp [FetchStage.totals]))
        (held rentTotal (by simp [FetchStage.totals])), here.2⟩

namespace State.TotalsIn

theorem init (db : Database) : (State.init db).TotalsIn P where
  pages _ member := nomatch member
  fetches _ member := nomatch member

theorem fetch {i : ℕ} {ok : Bool}
    (reads : ∀ u k x, fetchTotal s.db u k = some x → x ∈ P) (totals : s.TotalsIn P)
    (stepped : step s (.fetch i ok) = some s') : s'.TotalsIn P := by
  obtain ⟨f, page, f', page', found, shown, advanced, rfl⟩ := step_fetch stepped
  have move := Fetch.advance_move advanced
  have held := totals.fetches f (List.mem_of_getElem? found)
  have here := totals.pages page (List.mem_of_getElem? shown)
  constructor
  · exact forall_mem_set totals.pages (move.page_totals held here)
  · exact forall_mem_set totals.fetches (move.totals (reads f.user) held)

theorem settle {i : ℕ} {ok : Bool} (totals : s.TotalsIn P)
    (stepped : step s (.settle i ok) = some s') : s'.TotalsIn P := by
  obtain ⟨t, page, db', page', t', _, shown, advanced, rfl⟩ := step_settle stepped
  have here := totals.pages page (List.mem_of_getElem? shown)
  refine ⟨forall_mem_set totals.pages ?_, totals.fetches⟩
  cases Settlement.advance_move advanced with
  | reset => exact ⟨P.zero_mem, here.2⟩
  | record | read | commit | threw => exact here

theorem preserved {e : Event}
    (reads : ∀ u k x, fetchTotal s.db u k = some x → x ∈ P) (totals : s.TotalsIn P)
    (stepped : step s e = some s') : s'.TotalsIn P := by
  cases e with
  | openPage =>
      obtain rfl := step_openPage stepped
      constructor
      · exact forall_mem_concat totals.pages ⟨P.zero_mem, P.zero_mem⟩
      · refine List.forall_mem_append.mpr ⟨totals.fetches, ?_⟩
        simp [FetchStage.totals]
  | payNow =>
      obtain ⟨page, shown, rfl⟩ := step_payNow stepped
      refine ⟨totals.pages, forall_mem_concat totals.fetches ?_⟩
      simp [FetchStage.totals]
  | fetch => exact totals.fetch reads stepped
  | settle => exact totals.settle stepped
  | paymentSuccess =>
      obtain ⟨_, _, _, _, _, _, rfl⟩ := step_paymentSuccess stepped
      exact ⟨totals.pages, totals.fetches⟩
  | paymentError =>
      obtain ⟨_, _, _, rfl⟩ := close_eq_some stepped
      exact ⟨totals.pages, totals.fetches⟩
  | externalWallet =>
      obtain ⟨_, _, _, rfl⟩ := close_eq_some stepped
      exact ⟨totals.pages, totals.fetches⟩
  | validateCard =>
      rcases step_validateCard stepped with ⟨_, rfl⟩ | ⟨_, rfl⟩ <;>
        exact ⟨totals.pages, totals.fetches⟩
  | submitRent =>
      rcases step_submitRent stepped with ⟨_, rfl⟩ | ⟨_, rfl⟩ <;>
        exact ⟨totals.pages, totals.fetches⟩
  | save =>
      obtain ⟨_, _, _, _, _, rfl⟩ := step_save stepped
      exact ⟨totals.pages, totals.fetches⟩

end State.TotalsIn

end Udhar.Payments
