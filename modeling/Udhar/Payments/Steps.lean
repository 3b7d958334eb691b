import Udhar.Payments.Session
import Mathlib.Data.Option.Basic

/-! # What a step does

One inversion lemma for each kind of event, so that invariants are proved
without unfolding the step function, and what a resumed handler leaves alone.
-/

namespace Udhar.Payments

open Lib Dart

/-! ## Lists of handlers -/

/-- Replacing an element by one that looks the same through `f`. -/
theorem getElem?_map_set {α β : Type*} {f : α → β} {xs : List α} {i : ℕ} {a b : α}
    (found : xs[i]? = some a) (same : f b = f a) (j : ℕ) :
    (xs.set i b)[j]?.map f = xs[j]?.map f := by
  by_cases here : i = j
  · subst here
    rw [List.getElem?_set_self (List.getElem?_eq_some_iff.mp found).1, found, Option.map_some, same,
      Option.map_some]
  · rw [List.getElem?_set_ne here]

theorem getElem?_map_append {α β : Type*} {f : α → β} {xs ys : List α} {j : ℕ} {b : β}
    (found : xs[j]?.map f = some b) : (xs ++ ys)[j]?.map f = some b := by
  obtain ⟨a, there, rfl⟩ := Option.map_eq_some_iff.mp found
  rw [List.getElem?_append_left (List.getElem?_eq_some_iff.mp there).1, there, Option.map_some]

/-! ## Events -/

variable {s s' : State}

theorem step_openPage {user : Uid} (stepped : step s (.openPage user) = some s') :
    s' = { s with
      pages := s.pages ++ [{ user }]
      fetches := s.fetches ++ [⟨s.pages.length, user, .paymentForm, .readUser⟩,
        ⟨s.pages.length, user, .balanceCard, .readCards none⟩] } :=
  (Option.some.inj stepped).symm

theorem step_payNow {p : ℕ} (stepped : step s (.payNow p) = some s') :
    ∃ page, s.pages[p]? = some page ∧ s' = { s with
      fetches := s.fetches ++ [⟨p, page.user, .paymentForm, .readUser⟩]
      orders := s.orders ++ [⟨p, page.user, page.totalBalance.times100, page.name, .opened⟩] } := by
  obtain ⟨page, found, rest⟩ := Option.bind_eq_some_iff.mp stepped
  exact ⟨page, found, (Option.some.inj rest).symm⟩

theorem close_eq_some {i : ℕ} {status : OrderStatus} (closed : s.close i status = some s') :
    ∃ o, s.orders[i]? = some o ∧ o.status = .opened ∧
      s' = { s with orders := s.orders.set i { o with status } } := by
  obtain ⟨o, found, rest⟩ := Option.bind_eq_some_iff.mp closed
  obtain ⟨_, guarded, rest⟩ := Option.bind_eq_some_iff.mp rest
  exact ⟨o, found, (Option.guard_eq_some' _).mp guarded, (Option.some.inj rest).symm⟩

theorem step_paymentSuccess {i : ℕ} {paymentId now : String}
    (stepped : step s (.paymentSuccess i paymentId now) = some s') :
    ∃ o page, s.orders[i]? = some o ∧ o.status = .opened ∧ s.pages[o.page]? = some page ∧
      s.usedPaymentId o.user paymentId = false ∧ s' = { s with
        orders := s.orders.set i { o with status := .success paymentId }
        settlements := s.settlements ++
          [⟨o.page, o.user, i, transactionData page paymentId now, 0, .record⟩] } := by
  obtain ⟨o, found, rest⟩ := Option.bind_eq_some_iff.mp stepped
  obtain ⟨page, shown, rest⟩ := Option.bind_eq_some_iff.mp rest
  obtain ⟨_, guarded, rest⟩ := Option.bind_eq_some_iff.mp rest
  obtain ⟨closed, closing, rest⟩ := Option.bind_eq_some_iff.mp rest
  obtain ⟨o', found', opened, rfl⟩ := close_eq_some closing
  obtain rfl : o = o' := Option.some.inj (found.symm.trans found')
  exact ⟨o, page, found, opened, shown, (Option.guard_eq_some' _).mp guarded,
    (Option.some.inj rest).symm⟩

theorem step_fetch {i : ℕ} {ok : Bool} (stepped : step s (.fetch i ok) = some s') :
    ∃ f page f' page', s.fetches[i]? = some f ∧ s.pages[f.page]? = some page ∧
      f.advance s.db page ok = some (f', page') ∧
      s' = { s with fetches := s.fetches.set i f', pages := s.pages.set f.page page' } := by
  obtain ⟨f, found, rest⟩ := Option.bind_eq_some_iff.mp stepped
  obtain ⟨page, shown, rest⟩ := Option.bind_eq_some_iff.mp rest
  obtain ⟨⟨f', page'⟩, advanced, rest⟩ := Option.bind_eq_some_iff.mp rest
  exact ⟨f, page, f', page', found, shown, advanced, (Option.some.inj rest).symm⟩

theorem step_settle {i : ℕ} {ok : Bool} (stepped : step s (.settle i ok) = some s') :
    ∃ t page db' page' t', s.settlements[i]? = some t ∧ s.pages[t.page]? = some page ∧
      t.advance s.db page ok = some (db', page', t') ∧
      s' = { s with
        db := db'
        pages := s.pages.set t.page page'
        settlements := s.settlements.set i t' } := by
  obtain ⟨t, found, rest⟩ := Option.bind_eq_some_iff.mp stepped
  obtain ⟨page, shown, rest⟩ := Option.bind_eq_some_iff.mp rest
  obtain ⟨⟨db', page', t'⟩, advanced, rest⟩ := Option.bind_eq_some_iff.mp rest
  exact ⟨t, page, db', page', t', found, shown, advanced, (Option.some.inj rest).symm⟩

theorem step_save {i : ℕ} {ok : Bool} (stepped : step s (.save i ok) = some s') :
    ∃ b db' b', s.saves[i]? = some b ∧ b.advance s.db ok = some (db', b') ∧
      s' = { s with db := db', saves := s.saves.set i b' } := by
  obtain ⟨b, found, rest⟩ := Option.bind_eq_some_iff.mp stepped
  obtain ⟨⟨db', b'⟩, advanced, rest⟩ := Option.bind_eq_some_iff.mp rest
  exact ⟨b, db', b', found, advanced, (Option.some.inj rest).symm⟩

/-- A tap on a form adds at most a pending save. -/
theorem step_validateCard {user : Uid} {form : CardForm} {accepted : Bool}
    (stepped : step s (.validateCard user form accepted) = some s') :
    accepted = false ∧ s' = s ∨ accepted = true ∧
      s' = { s with saves := s.saves ++ [⟨user, .cards, form.cardData, .pending⟩] } := by
  cases accepted with
  | false => exact .inl ⟨rfl, (Option.some.inj stepped).symm⟩
  | true => exact .inr ⟨rfl, (Option.some.inj stepped).symm⟩

theorem step_submitRent {user : Uid} {form : RentForm}
    (stepped : step s (.submitRent user form) = some s') :
    form.validate = false ∧ s' = s ∨ form.validate = true ∧
      s' = { s with saves := s.saves ++ [⟨user, .rents, form.rentData, .pending⟩] } := by
  simp only [step] at stepped
  cases valid : form.validate with
  | false =>
      rw [valid] at stepped
      exact .inl ⟨rfl, (Option.some.inj stepped).symm⟩
  | true =>
      rw [valid] at stepped
      exact .inr ⟨rfl, (Option.some.inj stepped).symm⟩

/-- The events that touch neither the database nor a settlement. -/
def Event.quiet : Event → Bool
  | .paymentSuccess _ _ _ | .settle _ _ | .save _ _ => false
  | _ => true

theorem step_quiet {e : Event} (quiet : e.quiet = true) (stepped : step s e = some s') :
    s'.db = s.db ∧ s'.settlements = s.settlements := by
  cases e with
  | openPage =>
      obtain rfl := step_openPage stepped
      exact ⟨rfl, rfl⟩
  | payNow =>
      obtain ⟨_, _, rfl⟩ := step_payNow stepped
      exact ⟨rfl, rfl⟩
  | paymentError =>
      obtain ⟨_, _, _, rfl⟩ := close_eq_some stepped
      exact ⟨rfl, rfl⟩
  | externalWallet =>
      obtain ⟨_, _, _, rfl⟩ := close_eq_some stepped
      exact ⟨rfl, rfl⟩
  | fetch =>
      obtain ⟨_, _, _, _, _, _, _, rfl⟩ := step_fetch stepped
      exact ⟨rfl, rfl⟩
  | validateCard =>
      rcases step_validateCard stepped with ⟨_, rfl⟩ | ⟨_, rfl⟩ <;> exact ⟨rfl, rfl⟩
  | submitRent =>
      rcases step_submitRent stepped with ⟨_, rfl⟩ | ⟨_, rfl⟩ <;> exact ⟨rfl, rfl⟩
  | paymentSuccess | settle | save => cases quiet

/-- The verdict that an event reports, and the order it is about. -/
def Event.closes : Event → Option (ℕ × OrderStatus)
  | .paymentSuccess i paymentId _ => some (i, .success paymentId)
  | .paymentError i code message => some (i, .error code message)
  | .externalWallet i walletName => some (i, .externalWallet walletName)
  | _ => none

/-- What a step does to the orders. -/
theorem step_orders {e : Event} (stepped : step s e = some s') :
    e.closes = none ∧ (s'.orders = s.orders ∨ ∃ o, o.status = .opened ∧
      (∃ page ∈ s.pages, o.amount = page.totalBalance.times100) ∧
      s'.orders = s.orders ++ [o]) ∨
    ∃ i o status, e.closes = some (i, status) ∧ s.orders[i]? = some o ∧ o.status = .opened ∧
      s'.orders = s.orders.set i { o with status } := by
  cases e with
  | openPage =>
      obtain rfl := step_openPage stepped
      exact .inl ⟨rfl, .inl rfl⟩
  | payNow =>
      obtain ⟨page, shown, rfl⟩ := step_payNow stepped
      exact .inl ⟨rfl, .inr ⟨_, rfl, ⟨page, List.mem_of_getElem? shown, rfl⟩, rfl⟩⟩
  | paymentSuccess =>
      obtain ⟨o, _, found, opened, _, _, rfl⟩ := step_paymentSuccess stepped
      exact .inr ⟨_, o, _, rfl, found, opened, rfl⟩
  | paymentError =>
      obtain ⟨o, found, opened, rfl⟩ := close_eq_some stepped
      exact .inr ⟨_, o, _, rfl, found, opened, rfl⟩
  | externalWallet =>
      obtain ⟨o, found, opened, rfl⟩ := close_eq_some stepped
      exact .inr ⟨_, o, _, rfl, found, opened, rfl⟩
  | fetch =>
      obtain ⟨_, _, _, _, _, _, _, rfl⟩ := step_fetch stepped
      exact .inl ⟨rfl, .inl rfl⟩
  | settle =>
      obtain ⟨_, _, _, _, _, _, _, _, rfl⟩ := step_settle stepped
      exact .inl ⟨rfl, .inl rfl⟩
  | validateCard =>
      rcases step_validateCard stepped with ⟨_, rfl⟩ | ⟨_, rfl⟩ <;> exact .inl ⟨rfl, .inl rfl⟩
  | submitRent =>
      rcases step_submitRent stepped with ⟨_, rfl⟩ | ⟨_, rfl⟩ <;> exact .inl ⟨rfl, .inl rfl⟩
  | save =>
      obtain ⟨_, _, _, _, _, rfl⟩ := step_save stepped
      exact .inl ⟨rfl, .inl rfl⟩

/-- The gateway reports one verdict on an order: a closed order stays as it is. -/
theorem step_closed {e : Event} {j : ℕ} {o : Order} (stepped : step s e = some s')
    (found : s.orders[j]? = some o) (closed : o.status ≠ .opened) : s'.orders[j]? = some o := by
  rcases step_orders stepped with
    ⟨_, same | ⟨_, _, _, same⟩⟩ | ⟨i, o', _, _, found', opened, same⟩
  · rwa [same]
  · rwa [same, List.getElem?_append_left (List.getElem?_eq_some_iff.mp found).1]
  · have apart : i ≠ j := by
      rintro rfl
      obtain rfl := Option.some.inj (found.symm.trans found')
      exact closed opened
    rwa [same, List.getElem?_set_ne apart]

/-- An order is as it was, has just been opened, or has just been closed. -/
theorem step_order_origin {e : Event} {j : ℕ} {o : Order} (stepped : step s e = some s')
    (found : s'.orders[j]? = some o) :
    s.orders[j]? = some o ∨ o.status = .opened ∨ e.closes = some (j, o.status) := by
  rcases step_orders stepped with
    ⟨_, same | ⟨o', opened, _, same⟩⟩ | ⟨i, o', _, closes, found', _, same⟩
  · rw [same] at found
    exact .inl found
  · rw [same, List.getElem?_append] at found
    split at found
    · exact .inl found
    · obtain rfl := List.mem_singleton.mp (List.mem_of_getElem? found)
      exact .inr (.inl opened)
  · rw [same] at found
    by_cases here : i = j
    · subst here
      rw [List.getElem?_set_self (List.getElem?_eq_some_iff.mp found').1] at found
      obtain rfl := Option.some.inj found
      exact .inr (.inr closes)
    · rw [List.getElem?_set_ne here] at found
      exact .inl found

/-- The amount an order was opened for. -/
def State.charged (s : State) (i : ℕ) : Option Double := s.orders[i]?.map Order.amount

/-- An order keeps the amount it was opened for. -/
theorem step_charged {e : Event} {j : ℕ} {x : Double} (stepped : step s e = some s')
    (charged : s.charged j = some x) : s'.charged j = some x := by
  rcases step_orders stepped with
    ⟨_, same | ⟨_, _, _, same⟩⟩ | ⟨i, o, status, _, found, _, same⟩
  · rwa [State.charged, same]
  · rw [State.charged, same]
    exact getElem?_map_append charged
  · have kept := getElem?_map_set (f := Order.amount) (b := { o with status }) found rfl
    rw [State.charged, same]
    exact (kept j).trans charged

/-! ## Resumed handlers -/

/-- What resuming a fetch can do. -/
inductive Fetch.Move (db : Database) (page : PaymentForm) (f : Fetch) (ok : Bool) :
    Fetch → PaymentForm → Prop where
  | readUser (stage : f.stage = .readUser) :
      Fetch.Move db page f ok { f with stage := .readCards (db.users f.user) } page
  | readCards {userDoc : Option Fields} {cardTotal : Double} (stage : f.stage = .readCards userDoc)
      (total : fetchTotal db f.user .cards = some cardTotal) :
      Fetch.Move db page f ok { f with stage := .readRents userDoc cardTotal } page
  | readRents {userDoc : Option Fields} {cardTotal rentTotal : Double}
      (stage : f.stage = .readRents userDoc cardTotal)
      (total : fetchTotal db f.user .rents = some rentTotal) :
      Fetch.Move db page f ok { f with stage := .setState userDoc cardTotal rentTotal } page
  | card {userDoc : Option Fields} {cardTotal rentTotal : Double}
      (stage : f.stage = .setState userDoc cardTotal rentTotal) (reader : f.reader = .balanceCard) :
      Fetch.Move db page f ok { f with stage := .done }
        { page with amountDue := cardTotal + rentTotal }
  | form {userDoc : Option Fields} {cardTotal rentTotal : Double} (name : String)
      {ended : FetchStage} (ends : ended = .done ∨ ended = .threw)
      (stage : f.stage = .setState userDoc cardTotal rentTotal) (reader : f.reader = .paymentForm) :
      Fetch.Move db page f ok { f with stage := ended }
        { page with totalBalance := cardTotal + rentTotal, name }
  | threw (failed : ok = false ∨ ∃ k, fetchTotal db f.user k = none) :
      Fetch.Move db page f ok { f with stage := .threw } page

theorem Fetch.advance_move {db : Database} {page page' : PaymentForm} {f f' : Fetch} {ok : Bool}
    (advanced : f.advance db page ok = some (f', page')) : f.Move db page ok f' page' := by
  unfold Fetch.advance at advanced
  split at advanced
  · rename_i stage
    cases advanced
    exact .readUser stage
  · rename_i stage
    split at advanced
    · rename_i total
      cases advanced
      exact .readCards stage total
    · rename_i unparsed
      cases advanced
      exact .threw (.inr ⟨_, unparsed⟩)
  · rename_i stage
    split at advanced
    · rename_i total
      cases advanced
      exact .readRents stage total
    · rename_i unparsed
      cases advanced
      exact .threw (.inr ⟨_, unparsed⟩)
  · rename_i stage
    split at advanced
    · rename_i reader
      cases advanced
      exact .card stage reader
    · rename_i reader
      split at advanced
      · rename_i name _
        cases advanced
        exact .form name (.inl rfl) stage reader
      · cases advanced
        exact .form page.name (.inr rfl) stage reader
  all_goals first
    | cases advanced; exact .threw (.inl rfl)
    | cases advanced

/-- A fetch belongs to the same page, user and reader for its whole run. -/
theorem Fetch.Move.same {db : Database} {page page' : PaymentForm} {f f' : Fetch} {ok : Bool}
    (move : f.Move db page ok f' page') :
    f'.page = f.page ∧ f'.user = f.user ∧ f'.reader = f.reader ∧ page'.user = page.user := by
  cases move <;> exact ⟨rfl, rfl, rfl, rfl⟩

/-- The stages that handle one kind of bill: waiting for its snapshot, waiting
    for the commit of its batch, and what waits behind it. -/
def SettleStage.read : BillKind → SettleStage
  | .cards => .readCards
  | .rents => .readRents

def SettleStage.commit : BillKind → List ℕ → SettleStage
  | .cards, ids => .commitCards ids
  | .rents, ids => .commitRents ids

def SettleStage.after : BillKind → SettleStage
  | .cards => .readRents
  | .rents => .setState

/-- The settlement has something left to read or to commit. -/
def Settlement.clearing (t : Settlement) : Bool :=
  match t.stage with
  | .setState | .done | .threw => false
  | _ => true

/-- What resuming a settlement can do. -/
inductive Settlement.Move (db : Database) (page : PaymentForm) (t : Settlement) (ok : Bool) :
    Database → PaymentForm → Settlement → Prop where
  | record (stage : t.stage = .record) :
      Settlement.Move db page t ok (db.add t.user .transactions t.transactionData) page
        { t with stage := .readCards }
  | read (k : BillKind) (stage : t.stage = .read k) :
      Settlement.Move db page t ok db page { t with stage := .commit k (snapshotIds db t.user k) }
  | commit (k : BillKind) {ids : List ℕ} (stage : t.stage = .commit k ids) :
      Settlement.Move db page t ok (db.updateDocs t.user (.bills k) ids paid) page
        { t with
          stage := .after k
          cleared := t.cleared + (db.bills t.user k).totalOn (ids.contains ·) Fields.debt }
  | reset (stage : t.stage = .setState) :
      Settlement.Move db page t ok db { page with totalBalance := 0 } { t with stage := .done }
  | threw (failed : ok = false ∨ ∃ k ids, t.stage = .commit k ids ∧
        db.commit t.user (.bills k) ids paid = none) :
      Settlement.Move db page t ok db page { t with stage := .threw }

theorem Settlement.commitPaid_move {db : Database} (page : PaymentForm) {t : Settlement}
    {k : BillKind} {ids : List ℕ} (ok : Bool) (stage : t.stage = .commit k ids) :
    t.Move db page ok (t.commitPaid db k ids (.after k)).1 page
      (t.commitPaid db k ids (.after k)).2 := by
  unfold Settlement.commitPaid
  split
  · rename_i committed
    obtain rfl := Database.commit_eq_some committed
    exact .commit k stage
  · rename_i refused
    exact .threw (.inr ⟨k, ids, stage, refused⟩)

theorem Settlement.advance_move {db db' : Database} {page page' : PaymentForm}
    {t t' : Settlement} {ok : Bool} (advanced : t.advance db page ok = some (db', page', t')) :
    t.Move db page ok db' page' t' := by
  unfold Settlement.advance at advanced
  split at advanced
  · rename_i stage
    cases advanced
    exact .record stage
  · rename_i stage
    cases advanced
    exact .read .cards stage
  · rename_i stage
    cases advanced
    exact t.commitPaid_move (k := .cards) page true stage
  · rename_i stage
    cases advanced
    exact .read .rents stage
  · rename_i stage
    cases advanced
    exact t.commitPaid_move (k := .rents) page true stage
  · rename_i stage
    cases advanced
    exact .reset stage
  all_goals first
    | cases advanced; exact .threw (.inl rfl)
    | cases advanced

/-- An operation that fails has no effect on the database. -/
theorem Settlement.advance_false {db db' : Database} {page page' : PaymentForm}
    {t t' : Settlement} (advanced : t.advance db page false = some (db', page', t')) :
    db' = db := by
  unfold Settlement.advance at advanced
  split at advanced <;> grind

/-- A settlement belongs to the same page, user and order for its whole run. -/
theorem Settlement.Move.same {db db' : Database} {page page' : PaymentForm} {t t' : Settlement}
    {ok : Bool} (move : t.Move db page ok db' page' t') :
    t'.user = t.user ∧ t'.order = t.order ∧ t'.page = t.page ∧
      t'.transactionData = t.transactionData ∧ page'.user = page.user := by
  cases move <;> exact ⟨rfl, rfl, rfl, rfl, rfl⟩

theorem BillSave.advance_cases {db db' : Database} {b b' : BillSave} {ok : Bool}
    (advanced : b.advance db ok = some (db', b')) :
    b.stage = .pending ∧
      (ok = true ∧ db' = db.add b.user (.bills b.kind) b.data ∧ b' = { b with stage := .done } ∨
        ok = false ∧ db' = db ∧ b' = { b with stage := .threw }) := by
  unfold BillSave.advance at advanced
  split at advanced
  · rename_i pending
    cases advanced
    exact ⟨pending, .inl ⟨rfl, rfl, rfl⟩⟩
  · rename_i pending
    cases advanced
    exact ⟨pending, .inr ⟨rfl, rfl, rfl⟩⟩
  all_goals cases advanced

/-! ## One handler through a step -/

/-- A settlement waits, unless it is the one that the event resumes. -/
theorem step_settlement {e : Event} {n : ℕ} {t : Settlement} (stepped : step s e = some s')
    (found : s.settlements[n]? = some t) :
    s'.settlements[n]? = some t ∨ ∃ ok page page' t', e = .settle n ok ∧
      t.Move s.db page ok s'.db page' t' ∧ s'.settlements[n]? = some t' := by
  have inside := (List.getElem?_eq_some_iff.mp found).1
  cases e with
  | paymentSuccess =>
      obtain ⟨_, _, _, _, _, _, rfl⟩ := step_paymentSuccess stepped
      left
      rwa [List.getElem?_append_left inside]
  | settle i ok =>
      obtain ⟨t₀, page, db', page', t', found', _, advanced, rfl⟩ := step_settle stepped
      by_cases here : i = n
      · subst here
        obtain rfl := Option.some.inj (found.symm.trans found')
        exact .inr ⟨ok, page, page', t', rfl, Settlement.advance_move advanced,
          List.getElem?_set_self inside⟩
      · left
        rwa [List.getElem?_set_ne here]
  | save =>
      obtain ⟨_, _, _, _, _, rfl⟩ := step_save stepped
      exact .inl found
  | openPage | payNow | paymentError | externalWallet | fetch | validateCard | submitRent =>
      left
      rwa [(step_quiet rfl stepped).2]

/-- What a step does to the fetches. -/
theorem step_fetches {e : Event} (stepped : step s e = some s') :
    (∃ fresh, s'.fetches = s.fetches ++ fresh ∧ ∀ f ∈ fresh,
      f.stage = .readUser ∨ f.stage = .readCards none) ∨
    ∃ i ok f page f' page', e = .fetch i ok ∧ s.fetches[i]? = some f ∧
      f.Move s.db page ok f' page' ∧ s'.db = s.db ∧ s'.fetches = s.fetches.set i f' := by
  have unchanged : s'.fetches = s.fetches → ∃ fresh, s'.fetches = s.fetches ++ fresh ∧
      ∀ f ∈ fresh, f.stage = .readUser ∨ f.stage = .readCards none := by
    intro same
    exact ⟨[], by rw [same, List.append_nil], fun f none => nomatch none⟩
  cases e with
  | openPage =>
      obtain rfl := step_openPage stepped
      refine .inl ⟨_, rfl, ?_⟩
      intro f new
      simp only [List.mem_cons, List.not_mem_nil, or_false] at new
      rcases new with rfl | rfl
      · exact .inl rfl
      · exact .inr rfl
  | payNow =>
      obtain ⟨_, _, rfl⟩ := step_payNow stepped
      refine .inl ⟨_, rfl, ?_⟩
      intro f new
      obtain rfl := List.mem_singleton.mp new
      exact .inl rfl
  | fetch i ok =>
      obtain ⟨f, page, f', page', found, _, advanced, rfl⟩ := step_fetch stepped
      exact .inr ⟨i, ok, f, page, f', page', rfl, found, Fetch.advance_move advanced, rfl, rfl⟩
  | paymentSuccess =>
      obtain ⟨_, _, _, _, _, _, rfl⟩ := step_paymentSuccess stepped
      exact .inl (unchanged rfl)
  | paymentError | externalWallet =>
      obtain ⟨_, _, _, rfl⟩ := close_eq_some stepped
      exact .inl (unchanged rfl)
  | settle =>
      obtain ⟨_, _, _, _, _, _, _, _, rfl⟩ := step_settle stepped
      exact .inl (unchanged rfl)
  | validateCard =>
      rcases step_validateCard stepped with ⟨_, rfl⟩ | ⟨_, rfl⟩ <;> exact .inl (unchanged rfl)
  | submitRent =>
      rcases step_submitRent stepped with ⟨_, rfl⟩ | ⟨_, rfl⟩ <;> exact .inl (unchanged rfl)
  | save =>
      obtain ⟨_, _, _, _, _, rfl⟩ := step_save stepped
      exact .inl (unchanged rfl)

/-- A fetch waits, unless it is the one that the event resumes. -/
theorem step_fetch_of {e : Event} {j : ℕ} {f : Fetch} (stepped : step s e = some s')
    (found : s.fetches[j]? = some f) :
    s'.fetches[j]? = some f ∨ ∃ ok page f' page', e = .fetch j ok ∧
      f.Move s.db page ok f' page' ∧ s'.db = s.db ∧ s'.fetches[j]? = some f' := by
  have inside := (List.getElem?_eq_some_iff.mp found).1
  rcases step_fetches stepped with
    ⟨fresh, same, _⟩ | ⟨i, ok, f₀, page, f', page', rfl, found', move, db, same⟩
  · left
    rwa [same, List.getElem?_append_left inside]
  · rw [same]
    by_cases here : i = j
    · subst here
      obtain rfl := Option.some.inj (found.symm.trans found')
      exact .inr ⟨ok, page, f', page', rfl, move, db, List.getElem?_set_self inside⟩
    · left
      rwa [List.getElem?_set_ne here]

end Udhar.Payments
