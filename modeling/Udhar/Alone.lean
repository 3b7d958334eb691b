import Udhar.App
import Udhar.Lib.Part
import Udhar.Payments.Enabled

/-! # One user alone

What belongs to one user in a run of the whole app is itself a run, of an app
that has no other user: the other sessions only draw document ids. Pages and
handlers are counted anew among those of the user.
-/

namespace Udhar

open Lib

/-- The documents of one user, under their ids. -/
def Database.only (db : Database) (u : Uid) : Database where
  users v := if v = u then db.users v else none
  store := db.store.restrict fun i => i.1 = u

/-- An id is drawn for a document of somebody else. -/
def Database.skip (db : Database) : Database := { db with store := db.store.skip }

namespace Database

variable (db : Database) {u v : Uid} {c : Sub}

@[simp] theorem users_only_self : (db.only u).users u = db.users u := if_pos rfl

@[simp] theorem docs_only_self : (db.only u).docs u c = db.docs u c := if_pos (decide_eq_true rfl)

theorem only_add_self (d : Fields) : (db.add u c d).only u = (db.only u).add u c d :=
  Database.ext rfl (DocStore.restrict_add _ d (decide_eq_true rfl))

theorem only_add_of_ne (d : Fields) (other : v ≠ u) :
    (db.add v c d).only u = (db.only u).skip :=
  Database.ext rfl (DocStore.restrict_add_of_not _ d (decide_eq_false other))

theorem only_updateDocs_self (ids : List ℕ) (entries : List (String × Value)) :
    (db.updateDocs u c ids entries).only u = (db.only u).updateDocs u c ids entries :=
  Database.ext rfl (DocStore.restrict_modify _ _ _ (decide_eq_true rfl))

theorem only_updateDocs_of_ne (ids : List ℕ) (entries : List (String × Value)) (other : v ≠ u) :
    (db.updateDocs v c ids entries).only u = db.only u :=
  Database.ext rfl (DocStore.restrict_modify_of_not _ _ _ (decide_eq_false other))

end Database

end Udhar

namespace Udhar.Alone

open Lib Payments

/-! ## What belongs to one user -/

section Moved

variable (pages orders : ℕ → ℕ)

/-- The same order on a page of another number, and so for the handlers. -/
def movedOrder (o : Order) : Order := { o with page := pages o.page }

def movedFetch (f : Fetch) : Fetch := { f with page := pages f.page }

def movedSettlement (t : Settlement) : Settlement :=
  { t with page := pages t.page, order := orders t.order }

end Moved

/-- The number of a page among the pages of the user, and so for an order. -/
def pageRank (s : State) (u : Uid) (p : ℕ) : ℕ := rank PaymentForm.user u s.pages p

def orderRank (s : State) (u : Uid) (i : ℕ) : ℕ := rank Order.user u s.orders i

/-- What belongs to one user. -/
def only (s : State) (u : Uid) : State where
  db := s.db.only u
  pages := part PaymentForm.user u s.pages
  orders := (part Order.user u s.orders).map (movedOrder (pageRank s u))
  fetches := (part Fetch.user u s.fetches).map (movedFetch (pageRank s u))
  settlements := (part Settlement.user u s.settlements).map
    (movedSettlement (pageRank s u) (orderRank s u))
  saves := part BillSave.user u s.saves

/-! ## The app with one user -/

inductive Event where
  | payments (e : Payments.Event)
  | profile (data : Fields)
  | idDrawn

/-- A step of the payment pages in a session of the user, a profile that a sign-up
    or a profile page of the user stores, or an id that goes to somebody else. -/
def step (u : Uid) (s : State) : Event → Option State
  | .payments e => if App.paymentsSession s e = some u then Payments.step s e else none
  | .profile data => some { s with db := s.db.setUser u data }
  | .idDrawn => some { s with db := s.db.skip }

/-! ## Numbers that stay -/

/-- Settlements were started for orders that are there. -/
def OrdersKnown (s : State) : Prop := ∀ t ∈ s.settlements, t.order < s.orders.length

/-- Pages and orders are only added, and keep their users. -/
structure Grown (s s' : State) : Prop where
  pages : s.pages.map PaymentForm.user <+: s'.pages.map PaymentForm.user
  orders : s.orders.map Order.user <+: s'.orders.map Order.user

variable {s s' : State} {u : Uid}

theorem page_known {p : ℕ} (owner : s.pageUser p = some u) : p < s.pages.length := by
  obtain ⟨page, found, _⟩ := Option.map_eq_some_iff.mp owner
  exact (List.getElem?_eq_some_iff.mp found).1

namespace Grown

variable (grown : Grown s s')

include grown

theorem pageRank_eq {p : ℕ} {v : Uid} (owner : s.pageUser p = some v) :
    pageRank s' u p = pageRank s u p :=
  rank_of_start grown.pages (Nat.le_of_lt (page_known owner))

theorem orderRank_eq {i : ℕ} (known : i < s.orders.length) : orderRank s' u i = orderRank s u i :=
  rank_of_start grown.orders (Nat.le_of_lt known)

theorem movedOrder_eq {o : Order} (owner : s.pageUser o.page = some u) :
    movedOrder (pageRank s' u) o = movedOrder (pageRank s u) o := by
  rw [movedOrder, movedOrder, grown.pageRank_eq owner]

theorem movedFetch_eq {f : Fetch} (owner : s.pageUser f.page = some u) :
    movedFetch (pageRank s' u) f = movedFetch (pageRank s u) f := by
  rw [movedFetch, movedFetch, grown.pageRank_eq owner]

theorem movedSettlement_eq {t : Settlement} (owner : s.pageUser t.page = some u)
    (known : t.order < s.orders.length) :
    movedSettlement (pageRank s' u) (orderRank s' u) t =
      movedSettlement (pageRank s u) (orderRank s u) t := by
  rw [movedSettlement, movedSettlement, grown.pageRank_eq owner, grown.orderRank_eq known]

/-- Handlers that wait have the numbers that they had. -/
theorem orders_agree (own : s.Owned) : ∀ o ∈ s.orders, o.user = u →
    movedOrder (pageRank s' u) o = movedOrder (pageRank s u) o :=
  fun o member mine => grown.movedOrder_eq (mine ▸ own.orders o member)

theorem fetches_agree (own : s.Owned) : ∀ f ∈ s.fetches, f.user = u →
    movedFetch (pageRank s' u) f = movedFetch (pageRank s u) f :=
  fun f member mine => grown.movedFetch_eq (mine ▸ own.fetches f member)

theorem settlements_agree (own : s.Owned) (known : OrdersKnown s) : ∀ t ∈ s.settlements,
    t.user = u → movedSettlement (pageRank s' u) (orderRank s' u) t =
      movedSettlement (pageRank s u) (orderRank s u) t :=
  fun t member mine => grown.movedSettlement_eq (mine ▸ own.settlements t member) (known t member)

end Grown

/-! ## Looking things up -/

theorem state_eq {s t : State} (db : s.db = t.db) (pages : s.pages = t.pages)
    (orders : s.orders = t.orders) (fetches : s.fetches = t.fetches)
    (settlements : s.settlements = t.settlements) (saves : s.saves = t.saves) : s = t := by
  cases s
  cases t
  cases db
  cases pages
  cases orders
  cases fetches
  cases settlements
  cases saves
  rfl

theorem page_only {p : ℕ} {page : PaymentForm} (found : s.pages[p]? = some page)
    (mine : page.user = u) : (only s u).pages[pageRank s u p]? = some page :=
  getElem?_part found mine

theorem order_only {i : ℕ} {o : Order} (found : s.orders[i]? = some o) (mine : o.user = u) :
    (only s u).orders[orderRank s u i]? = some (movedOrder (pageRank s u) o) := by
  rw [only, List.getElem?_map, orderRank, getElem?_part found mine, Option.map_some]

theorem fetch_only {i : ℕ} {f : Fetch} (found : s.fetches[i]? = some f) (mine : f.user = u) :
    (only s u).fetches[rank Fetch.user u s.fetches i]? = some (movedFetch (pageRank s u) f) := by
  rw [only, List.getElem?_map, getElem?_part found mine, Option.map_some]

theorem settlement_only {i : ℕ} {t : Settlement} (found : s.settlements[i]? = some t)
    (mine : t.user = u) : (only s u).settlements[rank Settlement.user u s.settlements i]? =
      some (movedSettlement (pageRank s u) (orderRank s u) t) := by
  rw [only, List.getElem?_map, getElem?_part found mine, Option.map_some]

theorem save_only {i : ℕ} {b : BillSave} (found : s.saves[i]? = some b) (mine : b.user = u) :
    (only s u).saves[rank BillSave.user u s.saves i]? = some b :=
  getElem?_part found mine

/-! ## Handlers see the documents of their user -/

theorem fetchTotal_only (db : Database) (u : Uid) (k : BillKind) :
    fetchTotal (db.only u) u k = fetchTotal db u k := by
  simp only [fetchTotal, Database.bills, Database.docs_only_self]

theorem snapshotIds_only (db : Database) (u : Uid) (k : BillKind) :
    snapshotIds (db.only u) u k = snapshotIds db u k := by
  simp only [snapshotIds, Database.bills, Database.docs_only_self]

theorem commit_only (db : Database) (u : Uid) (c : Sub) (ids : List ℕ)
    (entries : List (String × Value)) :
    (db.only u).commit u c ids entries = (db.commit u c ids entries).map (·.only u) := by
  simp only [Database.commit, Database.docs_only_self]
  split
  · rw [Option.map_some, Database.only_updateDocs_self]
  · rfl

theorem fetch_advance_only (r : ℕ → ℕ) (db : Database) (page : PaymentForm) {f : Fetch} (ok : Bool)
    (mine : f.user = u) : (movedFetch r f).advance (db.only u) page ok =
      (f.advance db page ok).map fun moved => (movedFetch r moved.1, moved.2) := by
  obtain ⟨p, v, reader, stage⟩ := f
  obtain rfl : v = u := mine
  cases ok with
  | false => cases stage <;> rfl
  | true =>
      cases stage with
      | readUser => simp only [Fetch.advance, movedFetch, Database.users_only_self, Option.map_some]
      | readCards =>
          simp only [Fetch.advance, movedFetch, fetchTotal_only]
          cases fetchTotal db v .cards <;> rfl
      | readRents =>
          simp only [Fetch.advance, movedFetch, fetchTotal_only]
          cases fetchTotal db v .rents <;> rfl
      | setState userDoc =>
          simp only [Fetch.advance, movedFetch]
          cases reader with
          | balanceCard => rfl
          | paymentForm => cases storedName userDoc <;> rfl
      | done | threw => rfl

theorem commitPaid_only (r q : ℕ → ℕ) (db : Database) {t : Settlement} (k : BillKind)
    (ids : List ℕ) (next : SettleStage) (mine : t.user = u) :
    (movedSettlement r q t).commitPaid (db.only u) k ids next =
      ((t.commitPaid db k ids next).1.only u,
        movedSettlement r q (t.commitPaid db k ids next).2) := by
  subst mine
  simp only [Settlement.commitPaid, movedSettlement, commit_only, Database.bills,
    Database.docs_only_self]
  cases db.commit t.user (.bills k) ids paid <;> rfl

theorem settlement_advance_only (r q : ℕ → ℕ) (db : Database) (page : PaymentForm)
    {t : Settlement} (ok : Bool) (mine : t.user = u) :
    (movedSettlement r q t).advance (db.only u) page ok = (t.advance db page ok).map fun moved =>
      (moved.1.only u, moved.2.1, movedSettlement r q moved.2.2) := by
  have commits := fun k ids next => commitPaid_only r q db k ids next mine
  have stage : (movedSettlement r q t).stage = t.stage := rfl
  have user : (movedSettlement r q t).user = u := mine
  simp only [Settlement.advance, stage, user, mine, commits, snapshotIds_only]
  cases ok with
  | false => cases t.stage <;> rfl
  | true =>
      cases t.stage with
      | record => rw [Option.map_some, Database.only_add_self]; rfl
      | _ => rfl

theorem save_advance_only (db : Database) {b : BillSave} (ok : Bool) (mine : b.user = u) :
    b.advance (db.only u) ok =
      (b.advance db ok).map fun moved => (moved.1.only u, moved.2) := by
  subst mine
  unfold BillSave.advance
  cases b.stage with
  | pending =>
      cases ok with
      | true => rw [Option.map_some, Database.only_add_self]
      | false => rfl
  | done | threw => rfl

theorem usedPaymentId_only {paymentId : String} (fresh : s.usedPaymentId u paymentId = false) :
    (only s u).usedPaymentId u paymentId = false := by
  unfold State.usedPaymentId at fresh ⊢
  obtain ⟨orders, history⟩ := Bool.or_eq_false_iff.mp fresh
  refine Bool.or_eq_false_iff.mpr ⟨?_, ?_⟩
  · rw [List.any_eq_false] at orders ⊢
    intro o member
    obtain ⟨o', inside, rfl⟩ := List.mem_map.mp member
    exact orders o' (mem_part.mp inside).1
  · have same : (only s u).db.docs u .transactions = s.db.docs u .transactions :=
      Database.docs_only_self s.db
    rw [same]
    exact history

/-! ## One step -/

theorem grown_step {e : Payments.Event} (stepped : Payments.step s e = some s') : Grown s s' := by
  have pages : s.pages.map PaymentForm.user <+: s'.pages.map PaymentForm.user := by
    cases e with
    | openPage =>
        obtain rfl := step_openPage stepped
        rw [List.map_append]
        exact List.prefix_append _ _
    | payNow =>
        obtain ⟨_, _, rfl⟩ := step_payNow stepped
        exact List.prefix_rfl
    | paymentSuccess =>
        obtain ⟨_, _, _, _, _, _, rfl⟩ := step_paymentSuccess stepped
        exact List.prefix_rfl
    | paymentError | externalWallet =>
        obtain ⟨_, _, _, rfl⟩ := close_eq_some stepped
        exact List.prefix_rfl
    | fetch =>
        obtain ⟨_, _, _, _, _, shown, advanced, rfl⟩ := step_fetch stepped
        rw [map_set_same shown (Fetch.advance_move advanced).same.2.2.2]
    | settle =>
        obtain ⟨_, _, _, _, _, _, shown, advanced, rfl⟩ := step_settle stepped
        rw [map_set_same shown (Settlement.advance_move advanced).same.2.2.2.2]
    | validateCard =>
        rcases step_validateCard stepped with ⟨_, rfl⟩ | ⟨_, rfl⟩ <;> exact List.prefix_rfl
    | submitRent =>
        rcases step_submitRent stepped with ⟨_, rfl⟩ | ⟨_, rfl⟩ <;> exact List.prefix_rfl
    | save =>
        obtain ⟨_, _, _, _, _, rfl⟩ := step_save stepped
        exact List.prefix_rfl
  refine ⟨pages, ?_⟩
  rcases step_orders stepped with
    ⟨_, same | ⟨_, _, _, same⟩⟩ | ⟨_, o, status, _, found, _, same⟩
  · rw [same]
  · rw [same, List.map_append]
    exact List.prefix_append _ _
  · rw [same, map_set_same (b := { o with status }) found rfl]

theorem pageUser_only {p : ℕ} (owner : s.pageUser p = some u) :
    (only s u).pageUser (pageRank s u p) = some u := by
  obtain ⟨page, found, mine⟩ := Option.map_eq_some_iff.mp owner
  rw [State.pageUser, page_only found mine, Option.map_some, mine]

/-- The user's own part of the app can follow a step with at most one step. -/
def Follows (u : Uid) (s s' : State) : Prop :=
  ∃ ds, run (step u) (only s u) ds = some (only s' u)

theorem follows_of_same (same : only s' u = only s u) : Follows u s s' :=
  ⟨[], congrArg some same.symm⟩

theorem follows_of_step {d : Event} (taken : step u (only s u) d = some (only s' u)) :
    Follows u s s' :=
  ⟨[d], run_cons.mpr ⟨_, taken, rfl⟩⟩

theorem follows_of_payments {e : Payments.Event}
    (session : App.paymentsSession (only s u) e = some u)
    (taken : Payments.step (only s u) e = some (only s' u)) : Follows u s s' :=
  follows_of_step (d := .payments e) ((if_pos session).trans taken)

/-- What is written for somebody else is a drawn id at most. -/
theorem follows_of_other {db : Database} (seen : db.only u = s.db.only u ∨
      db.only u = (s.db.only u).skip)
    (same : only s' u = { only s u with db := db.only u }) : Follows u s s' := by
  rcases seen with nothing | drawn
  · refine follows_of_same ?_
    rw [same, nothing]
    rfl
  · refine follows_of_step (d := .idDrawn) ?_
    rw [same, drawn]
    rfl

theorem settlement_other {db db' : Database} {page page' : PaymentForm} {t t' : Settlement}
    {ok : Bool} (move : t.Move db page ok db' page' t') (other : t.user ≠ u) :
    db'.only u = db.only u ∨ db'.only u = (db.only u).skip := by
  cases move with
  | record => exact .inr (Database.only_add_of_ne db _ other)
  | commit => exact .inl (Database.only_updateDocs_of_ne db _ _ other)
  | read | reset | threw => exact .inl rfl

theorem save_other {db db' : Database} {b b' : BillSave} {ok : Bool}
    (advanced : b.advance db ok = some (db', b')) : b'.user = b.user ∧
      (b.user ≠ u → db'.only u = db.only u ∨ db'.only u = (db.only u).skip) := by
  obtain ⟨_, ⟨_, rfl, rfl⟩ | ⟨_, rfl, rfl⟩⟩ := BillSave.advance_cases advanced
  · exact ⟨rfl, fun other => .inr (Database.only_add_of_ne db b.data other)⟩
  · exact ⟨rfl, fun _ => .inl rfl⟩

section Cases

variable (own : s.Owned) (known : OrdersKnown s)

include own known

theorem follows_openPage {v : Uid} (stepped : Payments.step s (.openPage v) = some s') :
    Follows u s s' := by
  have grown := grown_step stepped
  have orders := map_part_congr (grown.orders_agree (u := u) own)
  have settlements := map_part_congr (grown.settlements_agree (u := u) own known)
  have agree := grown.fetches_agree (u := u) own
  obtain rfl := step_openPage stepped
  by_cases mine : v = u
  · subst mine
    have pages : part PaymentForm.user v (s.pages ++ [{ user := v }]) =
        part PaymentForm.user v s.pages ++ [{ user := v }] := part_concat_self rfl
    have number : pageRank _ v s.pages.length = (only s v).pages.length :=
      (rank_of_start grown.pages (Nat.le_refl _)).trans rank_length
    refine follows_of_payments (e := .openPage v) rfl
      (congrArg some (state_eq rfl pages.symm orders.symm ?_ settlements.symm rfl))
    refine Eq.trans ?_ (map_part_append_self agree (by simp)).symm
    simp only [List.map_cons, List.map_nil, movedFetch, number]
    rfl
  · have pages : part PaymentForm.user u (s.pages ++ [{ user := v }]) =
        part PaymentForm.user u s.pages := part_concat_of_ne mine
    exact follows_of_same (state_eq rfl pages orders
      (map_part_append_of_ne agree (by simp [mine])) settlements rfl)

theorem follows_payNow {p : ℕ} (stepped : Payments.step s (.payNow p) = some s') :
    Follows u s s' := by
  have grown := grown_step stepped
  have settlements := map_part_congr (grown.settlements_agree (u := u) own known)
  have orders := grown.orders_agree (u := u) own
  have fetches := grown.fetches_agree (u := u) own
  obtain ⟨page, shown, rfl⟩ := step_payNow stepped
  let fetch : Fetch := ⟨p, page.user, .paymentForm, .readUser⟩
  let order : Order := ⟨p, page.user, page.totalBalance.times100, page.name, .opened⟩
  by_cases mine : page.user = u
  · have owner : s.pageUser p = some u := by rw [State.pageUser, shown, Option.map_some, mine]
    refine follows_of_payments (e := .payNow (pageRank s u p)) (pageUser_only owner)
      ((payNow_enabled (page_only shown mine)).trans
        (congrArg some (state_eq rfl rfl ?_ ?_ settlements.symm rfl)))
    · exact (map_part_concat_self (a := order) orders mine).symm
    · exact (map_part_concat_self (a := fetch) fetches mine).symm
  · exact follows_of_same (state_eq rfl rfl (map_part_concat_of_ne (a := order) orders mine)
      (map_part_concat_of_ne (a := fetch) fetches mine) settlements rfl)

omit known in
/-- The session in which the gateway reports on an order. -/
theorem session_order {i : ℕ} {o : Order} (found : s.orders[i]? = some o) (mine : o.user = u) :
    (only s u).orders[orderRank s u i]?.bind (fun o => (only s u).pageUser o.page) = some u := by
  rw [order_only found mine, Option.bind_some]
  exact pageUser_only (mine ▸ own.orders o (List.mem_of_getElem? found))

theorem follows_close {i : ℕ} {status : OrderStatus} {e : ℕ → Payments.Event}
    (closes : ∀ t j, Payments.step t (e j) = t.close j status)
    (session : ∀ t j, App.paymentsSession t (e j) = t.orders[j]?.bind fun o => t.pageUser o.page)
    (stepped : Payments.step s (e i) = some s') : Follows u s s' := by
  have grown := grown_step stepped
  have settlements := map_part_congr (grown.settlements_agree (u := u) own known)
  have agree := grown.orders_agree (u := u) own
  have fetches := map_part_congr (grown.fetches_agree (u := u) own)
  rw [closes] at stepped
  obtain ⟨o, found, opened, rfl⟩ := close_eq_some stepped
  let closed : Order := { o with status }
  by_cases mine : o.user = u
  · have orders := map_part_set (b := closed) agree found mine mine
    refine follows_of_payments (e := e (orderRank s u i)) ?_ ?_
    · rw [session]
      exact session_order own found mine
    · rw [closes, close_enabled (order_only found mine) opened]
      exact congrArg some (state_eq rfl rfl orders.symm fetches.symm settlements.symm rfl)
  · have orders := map_part_set_of_ne (b := closed) agree found mine mine
    exact follows_of_same (state_eq rfl rfl orders fetches settlements rfl)

theorem follows_paymentSuccess {i : ℕ} {paymentId now : String}
    (stepped : Payments.step s (.paymentSuccess i paymentId now) = some s') : Follows u s s' := by
  have grown := grown_step stepped
  have settlements := grown.settlements_agree (u := u) own known
  have agree := grown.orders_agree (u := u) own
  have fetches := map_part_congr (grown.fetches_agree (u := u) own)
  obtain ⟨o, page, found, opened, shown, fresh, rfl⟩ := step_paymentSuccess stepped
  let closed : Order := { o with status := .success paymentId }
  by_cases mine : o.user = u
  · subst mine
    have orders := map_part_set (b := closed) agree found rfl rfl
    have owner := own.orders o (List.mem_of_getElem? found)
    rw [State.pageUser, shown, Option.map_some] at owner
    have taken := paymentSuccess_enabled (order_only found rfl) opened
      (page_only shown (Option.some.inj owner)) (usedPaymentId_only fresh) now
    have number := grown.orderRank_eq (u := o.user) (List.getElem?_eq_some_iff.mp found).1
    refine follows_of_payments (e := .paymentSuccess (orderRank s o.user i) paymentId now)
      (session_order own found rfl) (taken.trans (congrArg some
        (state_eq rfl rfl orders.symm fetches.symm ?_ rfl)))
    refine Eq.trans ?_ (map_part_concat_self settlements rfl).symm
    rw [movedSettlement, number]
    rfl
  · have orders := map_part_set_of_ne (b := closed) agree found mine mine
    exact follows_of_same (state_eq rfl rfl orders fetches
      (map_part_concat_of_ne settlements mine) rfl)

theorem follows_fetch {i : ℕ} {ok : Bool} (stepped : Payments.step s (.fetch i ok) = some s') :
    Follows u s s' := by
  have grown := grown_step stepped
  have orders := map_part_congr (grown.orders_agree (u := u) own)
  have settlements := map_part_congr (grown.settlements_agree (u := u) own known)
  have agree := grown.fetches_agree (u := u) own
  obtain ⟨f, page, f', page', found, shown, advanced, rfl⟩ := step_fetch stepped
  obtain ⟨samePage, sameUser, _, pageUser⟩ := (Fetch.advance_move advanced).same
  have owner := own.fetches f (List.mem_of_getElem? found)
  have pageOwner : page.user = f.user := by
    rw [State.pageUser, shown, Option.map_some] at owner
    exact Option.some.inj owner
  by_cases mine : f.user = u
  · subst mine
    have fetches := map_part_set agree found rfl sameUser
    have pages : part PaymentForm.user f.user (s.pages.set f.page page') =
        (only s f.user).pages.set (pageRank s f.user f.page) page' :=
      part_set_self shown pageOwner (pageUser.trans pageOwner)
    have moved : (movedFetch (pageRank s f.user) f).advance (only s f.user).db page ok =
        some (movedFetch (pageRank s f.user) f', page') := by
      rw [only, fetch_advance_only _ _ _ _ rfl, advanced, Option.map_some]
    have again := grown.movedFetch_eq (u := f.user) (f := f') (samePage.symm ▸ owner)
    refine follows_of_payments (e := .fetch (rank Fetch.user f.user s.fetches i) ok) ?_
      ((fetch_enabled (fetch_only found rfl) (page_only shown pageOwner) moved).trans
        (congrArg some (state_eq rfl pages.symm orders.symm ?_ settlements.symm rfl)))
    · simp only [App.paymentsSession, fetch_only found rfl, Option.bind_some]
      exact pageUser_only owner
    · rw [← again]
      exact fetches.symm
  · have fetches := map_part_set_of_ne agree found mine (sameUser ▸ mine)
    have pages : part PaymentForm.user u (s.pages.set f.page page') = (only s u).pages :=
      part_set_of_ne shown (pageOwner ▸ mine) (by rwa [pageUser, pageOwner])
    exact follows_of_same (state_eq rfl pages orders fetches settlements rfl)

theorem follows_settle {i : ℕ} {ok : Bool} (stepped : Payments.step s (.settle i ok) = some s') :
    Follows u s s' := by
  have grown := grown_step stepped
  have orders := map_part_congr (grown.orders_agree (u := u) own)
  have fetches := map_part_congr (grown.fetches_agree (u := u) own)
  have agree := grown.settlements_agree (u := u) own known
  obtain ⟨t, page, db', page', t', found, shown, advanced, rfl⟩ := step_settle stepped
  have move := Settlement.advance_move advanced
  obtain ⟨sameUser, sameOrder, samePage, _, pageUser⟩ := move.same
  have owner := own.settlements t (List.mem_of_getElem? found)
  have pageOwner : page.user = t.user := by
    rw [State.pageUser, shown, Option.map_some] at owner
    exact Option.some.inj owner
  by_cases mine : t.user = u
  · subst mine
    have settlements := map_part_set agree found rfl sameUser
    have pages : part PaymentForm.user t.user (s.pages.set t.page page') =
        (only s t.user).pages.set (pageRank s t.user t.page) page' :=
      part_set_self shown pageOwner (pageUser.trans pageOwner)
    have moved := settlement_advance_only (pageRank s t.user) (orderRank s t.user) s.db page ok
      (t := t) rfl
    rw [advanced, Option.map_some] at moved
    have again := grown.movedSettlement_eq (u := t.user) (t := t') (samePage.symm ▸ owner)
      (sameOrder.symm ▸ known t (List.mem_of_getElem? found))
    refine follows_of_payments (e := .settle (rank Settlement.user t.user s.settlements i) ok) ?_
      ((settle_enabled (settlement_only found rfl) (page_only shown pageOwner) moved).trans
        (congrArg some (state_eq rfl pages.symm orders.symm fetches.symm ?_ rfl)))
    · simp only [App.paymentsSession, settlement_only found rfl, Option.bind_some]
      exact pageUser_only owner
    · rw [← again]
      exact settlements.symm
  · have settlements := map_part_set_of_ne agree found mine (sameUser ▸ mine)
    have pages : part PaymentForm.user u (s.pages.set t.page page') = (only s u).pages :=
      part_set_of_ne shown (pageOwner ▸ mine) (by rwa [pageUser, pageOwner])
    exact follows_of_other (settlement_other move mine)
      (state_eq rfl pages orders fetches settlements rfl)

theorem follows_save {i : ℕ} {ok : Bool} (stepped : Payments.step s (.save i ok) = some s') :
    Follows u s s' := by
  have grown := grown_step stepped
  have orders := map_part_congr (grown.orders_agree (u := u) own)
  have fetches := map_part_congr (grown.fetches_agree (u := u) own)
  have settlements := map_part_congr (grown.settlements_agree (u := u) own known)
  obtain ⟨b, db', b', found, advanced, rfl⟩ := step_save stepped
  obtain ⟨sameUser, seen⟩ := save_other (u := u) advanced
  by_cases mine : b.user = u
  · subst mine
    have saves : part BillSave.user b.user (s.saves.set i b') =
        (only s b.user).saves.set (rank BillSave.user b.user s.saves i) b' :=
      part_set_self found rfl sameUser
    have moved := save_advance_only (b := b) s.db ok rfl
    rw [advanced, Option.map_some] at moved
    refine follows_of_payments (e := .save (rank BillSave.user b.user s.saves i) ok) ?_
      ((save_enabled (save_only found rfl) moved).trans
        (congrArg some (state_eq rfl rfl orders.symm fetches.symm settlements.symm saves.symm)))
    simp only [App.paymentsSession, save_only found rfl, Option.map_some]
  · have saves : part BillSave.user u (s.saves.set i b') = (only s u).saves :=
      part_set_of_ne found mine (sameUser ▸ mine)
    exact follows_of_other (seen mine) (state_eq rfl rfl orders fetches settlements saves)

/-- A tap on a form starts a save of its user. -/
theorem follows_tap {b : BillSave} {e : Payments.Event} (stepped : Payments.step s e = some s')
    (session : ∀ t, App.paymentsSession t e = some b.user)
    (taps : ∀ t, Payments.step t e = some { t with saves := t.saves ++ [b] }) :
    Follows u s s' := by
  have grown := grown_step stepped
  have orders := map_part_congr (grown.orders_agree (u := u) own)
  have fetches := map_part_congr (grown.fetches_agree (u := u) own)
  have settlements := map_part_congr (grown.settlements_agree (u := u) own known)
  rw [taps] at stepped
  obtain rfl := Option.some.inj stepped
  by_cases mine : b.user = u
  · subst mine
    exact follows_of_payments (session _) ((taps _).trans (congrArg some
      (state_eq rfl rfl orders.symm fetches.symm settlements.symm (part_concat_self rfl).symm)))
  · exact follows_of_same (state_eq rfl rfl orders fetches settlements (part_concat_of_ne mine))

theorem follows_step {e : Payments.Event} (stepped : Payments.step s e = some s') :
    Follows u s s' := by
  cases e with
  | openPage => exact follows_openPage own known stepped
  | payNow => exact follows_payNow own known stepped
  | paymentSuccess => exact follows_paymentSuccess own known stepped
  | paymentError i code message =>
      exact follows_close own known (e := fun j => .paymentError j code message)
        (fun _ _ => rfl) (fun _ _ => rfl) stepped
  | externalWallet i walletName =>
      exact follows_close own known (e := fun j => .externalWallet j walletName)
        (fun _ _ => rfl) (fun _ _ => rfl) stepped
  | fetch => exact follows_fetch own known stepped
  | settle => exact follows_settle own known stepped
  | validateCard v form accepted =>
      cases accepted with
      | true =>
          exact follows_tap own known (b := ⟨v, .cards, form.cardData, .pending⟩) stepped
            (fun _ => rfl) (fun _ => rfl)
      | false =>
          obtain rfl := Option.some.inj stepped
          exact follows_of_same rfl
  | submitRent v form =>
      rcases step_submitRent stepped with ⟨_, rfl⟩ | ⟨valid, _⟩
      · exact follows_of_same rfl
      · exact follows_tap own known (b := ⟨v, .rents, form.rentData, .pending⟩) stepped
          (fun _ => rfl) (fun _ => if_pos valid)
  | save => exact follows_save own known stepped

end Cases

/-! ## Every run -/

/-- The part of the user and the app's own invariants. -/
structure Seen (u : Uid) (app : App.State) (alone : State) : Prop where
  part : alone = only app.payments u
  own : App.Owned app
  known : OrdersKnown app.payments

end Udhar.Alone
