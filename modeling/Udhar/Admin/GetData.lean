import Udhar.Lib.Observer
import Udhar.Payments.Settled
import Udhar.Stored

/-! # What the admin sees of a user

`getData` of a `ViewData` page reads the user's cards, rents and payments one after
the other while the user's own handlers keep writing, so the three lists show three
moments. A settlement writes in the opposite order, the payment first: what the page
shows as settled, it shows as paid.
-/

namespace Udhar.GetData

open Lib Payments Stored Readers

/-! ## The page -/

abbrev Docs := List (ℕ × Fields)

/-- What `getData` waits for, with the snapshots it has taken. -/
inductive LoadStage where
  | readCards
  | readRents (querySnapshot : Docs)
  | readTransactions (querySnapshot querySnapshot2 : Docs)
  | setState (querySnapshot querySnapshot2 querySnapshot3 : Docs)
  | done
  | threw

/-- The fields of `_ViewDataState`; `page` selects the tab. -/
structure Page where
  user : Uid
  page : ℕ := 1
  cardList : List ViewData.Cards := []
  rentList : List ViewData.Rent := []
  transactionList : List ViewData.Transaction := []
  load : LoadStage := .readCards

inductive Event where
  | getData (ok : Bool)
  | onTap (page : ℕ)

/-- The callback of `setState`: three loops over the snapshots, each up to the first
    document of which a field cannot be assigned. -/
def Page.fill (p : Page) (querySnapshot querySnapshot2 querySnapshot3 : Docs) : Page :=
  let cards := mapUntil ViewData.cards (querySnapshot.map Prod.snd)
  let rents := mapUntil ViewData.rent (querySnapshot2.map Prod.snd)
  let transactions := mapUntil ViewData.transaction (querySnapshot3.map Prod.snd)
  { p with
    cardList := p.cardList ++ cards.1
    rentList := p.rentList ++ if cards.2 then rents.1 else []
    transactionList := p.transactionList ++ if cards.2 && rents.2 then transactions.1 else []
    load := if cards.2 && rents.2 && transactions.2 then .done else .threw }

/-- Resume `getData`. -/
def Page.getData (db : Database) (p : Page) (ok : Bool) : Option Page :=
  match p.load, ok with
  | .readCards, true =>
      some { p with load := .readRents (db.docs p.user (.bills .cards)).entries }
  | .readRents cards, true =>
      some { p with load := .readTransactions cards (db.docs p.user (.bills .rents)).entries }
  | .readTransactions cards rents, true =>
      some { p with load := .setState cards rents (db.docs p.user .transactions).entries }
  | .setState cards rents transactions, true => some (p.fill cards rents transactions)
  | .readCards, false | .readRents _, false | .readTransactions _ _, false =>
      some { p with load := .threw }
  | .setState _ _ _, false | .done, _ | .threw, _ => none

/-- One step of a page over the app; the tabs are numbered from 1. -/
def pageStep (s : App.State) (p : Page) : Event → Option Page
  | .getData ok => p.getData s.db ok
  | .onTap page => if page = 1 ∨ page = 2 ∨ page = 3 then some { p with page } else none

/-- The list under the buttons: bills or payments. -/
inductive Column where
  | tile2s (tiles : List ViewData.Tile2)
  | transactionTiles (tiles : List CardTiles.Tile)

def Page.build (p : Page) : Option Column :=
  if p.page = 1 then (ViewData.cardsTab p.cardList).map .tile2s
  else if p.page = 2 then (ViewData.rentTab p.rentList).map .tile2s
  else (ViewData.transactionsTab p.transactionList).map .transactionTiles

/-- The app and the admin's pages over it. -/
abbrev State := Observer.State App.State Page

abbrev step : State → Observer.Event App.Event Uid Event → Option State :=
  Observer.step App.step (fun user => { user }) pageStep

/-! ## Who settled a bill -/

section History

-- `H` says which events happen, and in which states.
variable (H : App.State → App.Event → Prop) (u : Uid)

/-- What an accepted form of the user writes. -/
def Submits : BillKind → Fields → Prop
  | .cards, d => ∃ form : CardForm, d = form.cardData ∧ Validated H u form
  | .rents, d => ∃ form : RentForm, d = form.rentData ∧ Submitted H u form

/-- The settlement of the payment was resumed at the commit of a batch that settles the
    bill. -/
def ClearedBy (k : BillKind) (id : ℕ) (p : StoredPayment) : Prop :=
  ∃ s i t ids, H s (.payments (.settle i true)) ∧ s.payments.settlements[i]? = some t ∧
    t.user = u ∧ t.transactionData = p.data ∧ t.stage = .commit k ids ∧ id ∈ ids

/-- The bill is as its form wrote it, or settled since by a payment of the list. -/
def Explained (k : BillKind) (payments : List Fields) (bill : ℕ × Fields) : Prop :=
  ∃ d settled, Submits H u k d ∧ bill.2 = settledIf settled d ∧
    (settled = true → ∃ p : StoredPayment, p.data ∈ payments ∧ ClearedBy H u k bill.1 p)

end History

section Steps

variable {H : App.State → App.Event → Prop} {u : Uid} {k : BillKind}

/-- An explanation by stored payments lasts. -/
theorem Explained.mono {db db' : Database} {bill : ℕ × Fields} (grows : Grows db db')
    (explained : Explained H u k (snapshot db u .transactions) bill) :
    Explained H u k (snapshot db' u .transactions) bill := by
  obtain ⟨d, settled, submits, same, paid⟩ := explained
  refine ⟨d, settled, submits, same, fun is => ?_⟩
  obtain ⟨p, recorded, cleared⟩ := paid is
  exact ⟨p, snapshot_subset grows u recorded, cleared⟩

theorem Explained.settle {payments : List Fields} {id : ℕ} {d : Fields} {p : StoredPayment}
    (explained : Explained H u k payments (id, d)) (recorded : p.data ∈ payments)
    (cleared : ClearedBy H u k id p) : Explained H u k payments (id, d.update paid) := by
  obtain ⟨d, settled, submits, rfl, _⟩ := explained
  exact ⟨d, true, submits, settledIf_update settled d, fun _ => ⟨p, recorded, cleared⟩⟩

/-- The payment of a settlement is in the history once its document is written, and as
    long as no operation has failed. -/
def Recorded (db : Database) (t : Settlement) : Prop :=
  t.stage ≠ .record → t.stage ≠ .threw → t.transactionData ∈ snapshot db t.user .transactions

/-- Every stored bill is explained by the payments stored for its user. -/
structure Accounted (H : App.State → App.Event → Prop) (s : Payments.State) : Prop where
  bills : ∀ u k, ∀ bill ∈ (s.db.bills u k).entries,
    Explained H u k (snapshot s.db u .transactions) bill
  saves : ∀ b ∈ s.saves, Submits H b.user b.kind b.data
  settlements : ∀ t ∈ s.settlements, Recorded s.db t

theorem Recorded.mono {db db' : Database} {t : Settlement} (recorded : Recorded db t)
    (grows : Grows db db') : Recorded db' t :=
  fun written runs => snapshot_subset grows t.user (recorded written runs)

theorem Recorded.move {db db' : Database} {page page' : PaymentForm} {t t' : Settlement}
    {ok : Bool} (recorded : Recorded db t) (grows : Grows db db')
    (move : t.Move db page ok db' page' t') : Recorded db' t' := by
  cases move with
  | record => exact fun _ _ => mem_snapshot_add _ _ _ _
  | read k stage =>
      refine fun _ _ => recorded ?_ ?_ <;> cases k <;> simp [stage, SettleStage.read]
  | commit k stage =>
      refine fun _ _ => snapshot_subset grows t.user (recorded ?_ ?_) <;>
        cases k <;> simp [stage, SettleStage.commit]
  | reset stage => exact fun _ _ => recorded (by simp [stage]) (by simp [stage])
  | threw => exact fun _ runs => absurd rfl runs

/-- A settlement explains the bills that it settles: its payment is recorded by then. -/
theorem Accounted.settle {s : App.State} {page page' : PaymentForm} {t t' : Settlement}
    {db' : Database} {i : ℕ} {ok : Bool} (here : H s (.payments (.settle i ok)))
    (origins : FromEvents H s.payments) (accounted : Accounted H s.payments)
    (grows : Grows s.payments.db db') (found : s.payments.settlements[i]? = some t)
    (advanced : t.advance s.payments.db page ok = some (db', page', t')) :
    ∀ u k, ∀ bill ∈ (db'.bills u k).entries,
      Explained H u k (snapshot db' u .transactions) bill := by
  cases ok with
  | false =>
      rw [Settlement.advance_false advanced]
      exact accounted.bills
  | true =>
      have running := List.mem_of_getElem? found
      cases Settlement.advance_move advanced with
      | record =>
          intro u k bill member
          rw [Database.bills, Database.docs_add_of_ne _ _ _ _ (by simp)] at member
          exact (accounted.bills u k bill member).mono grows
      | commit j stage =>
          rename_i ids
          intro u k bill member
          by_cases same : (u, Sub.bills k) = (t.user, Sub.bills j)
          · cases same
            rw [Database.bills, Database.docs_updateDocs_self] at member
            obtain ⟨d, old, changed⟩ := Collection.mem_modify.mp member
            obtain ⟨id, d'⟩ := bill
            obtain rfl : d' = if ids.contains id then d.update paid else d := changed
            have explained := (accounted.bills _ _ (id, d) old).mono grows
            split
            · rename_i inside
              obtain ⟨p, data, _⟩ := origins.settlements t running
              have recorded := accounted.settlements t running
              refine explained.settle (p := p) (snapshot_subset grows _ ?_)
                ⟨s, i, t, ids, here, found, rfl, data, stage, by simpa using inside⟩
              rw [← data]
              apply recorded <;> cases j <;> simp [stage, SettleStage.commit]
            · exact explained
          · rw [Database.bills, Database.docs_updateDocs_of_ne _ _ _ _ _ same] at member
            exact (accounted.bills u k bill member).mono grows
      | read | reset | threw => exact accounted.bills

theorem Accounted.step {s s' : App.State} {e : Payments.Event} (here : H s (.payments e))
    (origins : FromEvents H s.payments) (accounted : Accounted H s.payments)
    (stepped : Payments.step s.payments e = some s'.payments) : Accounted H s'.payments := by
  have saves : ∀ b ∈ s'.payments.saves, Submits H b.user b.kind b.data := by
    intro b member
    rcases step_save_origin stepped member with
      ⟨old, before, user, kind, data⟩ | ⟨form, rfl, kind, data⟩ | ⟨form, rfl, valid, kind, data⟩
    · rw [user, kind, data]
      exact accounted.saves old before
    · rw [kind, data]
      exact ⟨form, rfl, s, here⟩
    · rw [kind, data]
      exact ⟨form, rfl, valid, s, here⟩
  have grows := step_grows stepped
  cases e with
  | paymentSuccess i paymentId now =>
      obtain ⟨_, _, _, _, _, _, same⟩ := step_paymentSuccess stepped
      rw [same] at saves ⊢
      exact ⟨accounted.bills, saves, forall_mem_concat accounted.settlements
        fun new => absurd rfl new⟩
  | settle i ok =>
      obtain ⟨t, _, db', _, t', found, _, advanced, same⟩ := step_settle stepped
      have move := Settlement.advance_move advanced
      rw [same] at saves grows ⊢
      exact ⟨accounted.settle here origins grows found advanced, saves, forall_mem_set
        (fun x member => (accounted.settlements x member).mono grows)
        ((accounted.settlements t (List.mem_of_getElem? found)).move grows move)⟩
  | save i ok =>
      obtain ⟨b, db', _, found, advanced, same⟩ := step_save stepped
      rw [same] at saves grows ⊢
      obtain ⟨_, ⟨_, rfl, _⟩ | ⟨_, rfl, _⟩⟩ := BillSave.advance_cases advanced
      · refine ⟨fun u k bill member => ?_, saves, fun t member =>
          (accounted.settlements t member).mono grows⟩
        by_cases mine : (u, Sub.bills k) = (b.user, Sub.bills b.kind)
        · cases mine
          rw [Database.bills, Database.docs_add_self, Collection.entries_insert] at member
          rcases List.mem_append.mp member with old | added
          · exact (accounted.bills _ _ bill old).mono grows
          · obtain rfl := List.mem_singleton.mp added
            exact ⟨b.data, false, accounted.saves b (List.mem_of_getElem? found), rfl,
              fun is => absurd is Bool.false_ne_true⟩
        · rw [Database.bills, Database.docs_add_of_ne _ _ _ _ mine] at member
          exact (accounted.bills u k bill member).mono grows
      · exact ⟨accounted.bills, saves, accounted.settlements⟩
  | openPage | payNow | paymentError | externalWallet | fetch | validateCard | submitRent =>
      obtain ⟨db, settlements⟩ := step_quiet rfl stepped
      exact ⟨db ▸ accounted.bills, saves, db ▸ settlements ▸ accounted.settlements⟩

end Steps

/-! ## What the page shows -/

/-- A card as `getData` lists it. -/
def cardsOf (c : StoredCard) : ViewData.Cards :=
  ⟨c.balance, c.form.cardHolderName, c.form.cardNumber, c.form.cvvCode, some "14/3/24",
    c.form.expiryDate⟩

def rentOf (r : StoredRent) : ViewData.Rent := ⟨r.balance, r.form.dueDate, r.form.title⟩

def transactionOf (p : StoredPayment) : ViewData.Transaction := ⟨p.paymentId, p.dateTime, p.amount⟩

section Shown

variable (H : App.State → App.Event → Prop)

/-- The lists of a page are these bills and payments, and each bill that is settled has
    been settled by one of these payments. -/
structure Shows (page : Page) (cards : List (ℕ × StoredCard)) (rents : List (ℕ × StoredRent))
    (payments : List StoredPayment) : Prop where
  cardList : page.cardList = cards.map fun c => cardsOf c.2
  rentList : page.rentList = rents.map fun r => rentOf r.2
  transactionList : page.transactionList = payments.map transactionOf
  validated : ∀ c ∈ cards, Validated H page.user c.2.form
  submitted : ∀ r ∈ rents, Submitted H page.user r.2.form
  reported : ∀ p ∈ payments, Reported H page.user p
  paidCards : ∀ c ∈ cards, c.2.settled = true →
    ∃ p ∈ payments, ClearedBy H page.user .cards c.1 p
  paidRents : ∀ r ∈ rents, r.2.settled = true →
    ∃ p ∈ payments, ClearedBy H page.user .rents r.1 p

/-- All bills of a snapshot are explained by these payments. -/
def AllExplained (u : Uid) (k : BillKind) (payments : List Fields) (docs : Docs) : Prop :=
  ∀ bill ∈ docs, Explained H u k payments bill

/-- The snapshots that a page holds are explained by the payments it has read, or else
    by those that it will read; before the last step its lists are empty. -/
def Loads (db : Database) (page : Page) : Prop :=
  let unfilled := page.cardList = [] ∧ page.rentList = [] ∧ page.transactionList = []
  let stored := snapshot db page.user .transactions
  match page.load with
  | .readCards | .threw => unfilled
  | .readRents cards => unfilled ∧ AllExplained H page.user .cards stored cards
  | .readTransactions cards rents => unfilled ∧ AllExplained H page.user .cards stored cards ∧
      AllExplained H page.user .rents stored rents
  | .setState cards rents transactions => unfilled ∧
      AllExplained H page.user .cards (transactions.map Prod.snd) cards ∧
      AllExplained H page.user .rents (transactions.map Prod.snd) rents ∧
      ∀ d ∈ transactions.map Prod.snd, ∃ p : StoredPayment, d = p.data ∧ Reported H page.user p
  | .done => ∃ cards rents payments, Shows H page cards rents payments

end Shown

section Pages

variable {H : App.State → App.Event → Prop} {page : Page} {db : Database}

theorem Shows.empty (unfilled : page.cardList = [] ∧ page.rentList = [] ∧
    page.transactionList = []) : Shows H page [] [] [] where
  cardList := unfilled.1
  rentList := unfilled.2.1
  transactionList := unfilled.2.2
  validated := nofun
  submitted := nofun
  reported := nofun
  paidCards := nofun
  paidRents := nofun

/-- A payment that has cleared a bill and is among the documents is in the list. -/
theorem ClearedBy.listed {u : Uid} {k : BillKind} {id : ℕ} {payments : List StoredPayment}
    (paid : ∃ p : StoredPayment, p.data ∈ payments.map StoredPayment.data ∧ ClearedBy H u k id p) :
    ∃ p ∈ payments, ClearedBy H u k id p := by
  obtain ⟨p, recorded, s, i, t, ids, here, found, user, data, rest⟩ := paid
  obtain ⟨q, listed, same⟩ := List.mem_map.mp recorded
  exact ⟨q, listed, s, i, t, ids, here, found, user, data.trans same.symm, rest⟩

section Listed

variable {u : Uid} {payments : List StoredPayment} {docs : Docs}

theorem AllExplained.cards
    (explained : AllExplained H u .cards (payments.map StoredPayment.data) docs) :
    ∃ cards : List (ℕ × StoredCard), docs = cards.map (fun c => (c.1, c.2.data)) ∧
      ∀ c ∈ cards, Validated H u c.2.form ∧
        (c.2.settled = true → ∃ p ∈ payments, ClearedBy H u .cards c.1 p) := by
  apply exists_map_eq
  rintro ⟨id, d⟩ member
  obtain ⟨_, settled, ⟨form, rfl, validated⟩, rfl, paid⟩ := explained _ member
  exact ⟨(id, ⟨form, settled⟩), rfl, validated, fun is => ClearedBy.listed (paid is)⟩

theorem AllExplained.rents
    (explained : AllExplained H u .rents (payments.map StoredPayment.data) docs) :
    ∃ rents : List (ℕ × StoredRent), docs = rents.map (fun r => (r.1, r.2.data)) ∧
      ∀ r ∈ rents, Submitted H u r.2.form ∧
        (r.2.settled = true → ∃ p ∈ payments, ClearedBy H u .rents r.1 p) := by
  apply exists_map_eq
  rintro ⟨id, d⟩ member
  obtain ⟨_, settled, ⟨form, rfl, submitted⟩, rfl, paid⟩ := explained _ member
  exact ⟨(id, ⟨form, settled⟩), rfl, submitted, fun is => ClearedBy.listed (paid is)⟩

end Listed

theorem viewData_transaction_data (p : StoredPayment) :
    ViewData.transaction p.data = some (transactionOf p) := rfl

/-- The last step fills all three lists. -/
theorem fill_stored {cards : List (ℕ × StoredCard)} {rents : List (ℕ × StoredRent)}
    {payments : List StoredPayment} {transactions : Docs}
    (same : transactions.map Prod.snd = payments.map StoredPayment.data) :
    page.fill (cards.map fun c => (c.1, c.2.data)) (rents.map fun r => (r.1, r.2.data))
      transactions = { page with
        cardList := page.cardList ++ cards.map fun c => cardsOf c.2
        rentList := page.rentList ++ rents.map fun r => rentOf r.2
        transactionList := page.transactionList ++ payments.map transactionOf
        load := .done } := by
  have cardsBuilt := mapUntil_map (fun c : ℕ × StoredCard => cards_data c.2) cards
  have rentsBuilt := mapUntil_map (fun r : ℕ × StoredRent => rent_data r.2) rents
  have transactionsBuilt := mapUntil_map viewData_transaction_data payments
  simp only [Page.fill, same, transactionsBuilt, List.map_map, Function.comp_def, cardsBuilt,
    rentsBuilt, Bool.and_self, if_true]
  rfl

theorem Loads.fill {cards rents transactions : Docs}
    (load : page.load = .setState cards rents transactions) (loads : Loads H db page) :
    Loads H db (page.fill cards rents transactions) ∧
      (page.fill cards rents transactions).load = .done := by
  simp only [Loads, load] at loads
  obtain ⟨⟨noCards, noRents, noTransactions⟩, explainedCards, explainedRents, reported⟩ := loads
  obtain ⟨payments, same, reported⟩ := exists_map_eq reported
  rw [same] at explainedCards explainedRents
  obtain ⟨cards, rfl, validated⟩ := explainedCards.cards
  obtain ⟨rents, rfl, submitted⟩ := explainedRents.rents
  rw [fill_stored same]
  refine ⟨⟨cards, rents, payments, ?_⟩, rfl⟩
  simp only [noCards, noRents, noTransactions, List.nil_append]
  exact ⟨rfl, rfl, rfl, fun c member => (validated c member).1,
    fun r member => (submitted r member).1, reported, fun c member => (validated c member).2,
    fun r member => (submitted r member).2⟩

theorem Loads.opened (H : App.State → App.Event → Prop) (db : Database) (user : Uid) :
    Loads H db { user } := ⟨rfl, rfl, rfl⟩

theorem Loads.grows {db' : Database} (loads : Loads H db page) (grows : Grows db db') :
    Loads H db' page := by
  have later := fun {k bill} (explained : Explained H page.user k _ bill) =>
    explained.mono grows
  unfold Loads at loads ⊢
  cases load : page.load with
  | readRents cards =>
      simp only [load] at loads ⊢
      exact ⟨loads.1, fun bill member => later (loads.2 bill member)⟩
  | readTransactions cards rents =>
      simp only [load] at loads ⊢
      exact ⟨loads.1, fun bill member => later (loads.2.1 bill member),
        fun bill member => later (loads.2.2 bill member)⟩
  | readCards | setState | done | threw =>
      simp only [load] at loads ⊢
      exact loads

/-- A read takes a snapshot all of whose bills are explained. -/
theorem Loads.getData {s : App.State} (accounted : Accounted H s.payments)
    (origins : FromEvents H s.payments) (loads : Loads H s.db page) {page' : Page} {ok : Bool}
    (taken : page.getData s.db ok = some page') :
    Loads H s.db page' ∧ (ok = true → page'.load ≠ .threw) := by
  have explained := accounted.bills page.user
  cases load : page.load with
  | setState cards rents transactions =>
      cases ok with
      | true =>
          simp only [Page.getData, load, Option.some.injEq] at taken
          subst taken
          obtain ⟨filled, done⟩ := loads.fill load
          exact ⟨filled, fun _ threw => nomatch done.symm.trans threw⟩
      | false => simp [Page.getData, load] at taken
  | readCards =>
      simp only [Loads, load] at loads
      cases ok with
      | true =>
          simp only [Page.getData, load, Option.some.injEq] at taken
          subst taken
          exact ⟨⟨loads, explained .cards⟩, fun _ threw => nomatch threw⟩
      | false =>
          simp only [Page.getData, load, Option.some.injEq] at taken
          subst taken
          exact ⟨loads, nofun⟩
  | readRents cards =>
      simp only [Loads, load] at loads
      obtain ⟨unfilled, cards⟩ := loads
      cases ok with
      | true =>
          simp only [Page.getData, load, Option.some.injEq] at taken
          subst taken
          exact ⟨⟨unfilled, cards, explained .rents⟩, fun _ threw => nomatch threw⟩
      | false =>
          simp only [Page.getData, load, Option.some.injEq] at taken
          subst taken
          exact ⟨unfilled, nofun⟩
  | readTransactions cards rents =>
      simp only [Loads, load] at loads
      obtain ⟨unfilled, cards, rents⟩ := loads
      cases ok with
      | true =>
          simp only [Page.getData, load, Option.some.injEq] at taken
          subst taken
          exact ⟨⟨unfilled, cards, rents, List.forall_mem_map.mpr
            (origins.stored page.user .transactions)⟩, fun _ threw => nomatch threw⟩
      | false =>
          simp only [Page.getData, load, Option.some.injEq] at taken
          subst taken
          exact ⟨unfilled, nofun⟩
  | done | threw => cases ok <;> simp [Page.getData, load] at taken

theorem Loads.onTap (loads : Loads H db page) (tab : ℕ) :
    Loads H db { page with page := tab } := by
  obtain ⟨_, _, _, _, _, load⟩ := page
  cases load with
  | done =>
      obtain ⟨cards, rents, payments, shows'⟩ := loads
      exact ⟨cards, rents, payments, { shows' with }⟩
  | readCards | readRents | readTransactions | setState | threw => exact loads

theorem Loads.pageStep {s : App.State} (accounted : Accounted H s.payments)
    (origins : FromEvents H s.payments) (loads : Loads H s.db page) {page' : Page} {e : Event}
    (taken : pageStep s page e = some page') : Loads H s.db page' := by
  cases e with
  | getData ok => exact (loads.getData accounted origins taken).1
  | onTap tab =>
      simp only [GetData.pageStep] at taken
      split at taken
      · cases taken
        exact loads.onTap tab
      · cases taken

theorem Loads.shows (loads : Loads H db page) :
    ∃ cards rents payments, Shows H page cards rents payments := by
  unfold Loads at loads
  cases load : page.load with
  | done =>
      simp only [load] at loads
      exact loads
  | readCards | threw =>
      simp only [load] at loads
      exact ⟨[], [], [], .empty loads⟩
  | readRents | readTransactions | setState =>
      simp only [load] at loads
      exact ⟨[], [], [], .empty loads.1⟩

end Pages

/-! ## Runs -/

def State.init (auth : SignUp.Auth) (db : Database) : State := ⟨.init auth db, []⟩

/-- What the admin's pages rely on. -/
structure Known (H : App.State → App.Event → Prop) (s : App.State) : Prop where
  origins : FromEvents H s.payments
  accounted : Accounted H s.payments

theorem Known.init (H : App.State → App.Event → Prop) (auth : SignUp.Auth) {db : Database}
    (empty : ∀ u c, (db.docs u c).entries = []) : Known H (.init auth db) where
  origins := fromEvents_init auth empty
  accounted := by
    refine ⟨fun u k bill member => ?_, fun _ none => (nomatch none), fun _ none => (nomatch none)⟩
    rw [App.State.init, Payments.State.init, Database.bills, empty] at member
    cases member

theorem Known.step {H : App.State → App.Event → Prop} {s s' : App.State} {e : App.Event}
    (here : H s e) (known : Known H s) (stepped : App.step s e = some s') :
    Known H s' ∧ Grows s.db s'.db := by
  refine ⟨⟨known.origins.appStep here stepped, ?_⟩, ?_⟩ <;>
    rcases App.step_payments_cases stepped with ⟨p, rfl, taken⟩ | ⟨_, same | ⟨u, d, same⟩⟩
  · exact known.accounted.step here known.origins taken
  · exact same ▸ known.accounted
  · rw [same]
    exact ⟨known.accounted.bills, known.accounted.saves, known.accounted.settlements⟩
  · exact step_grows taken
  · rw [App.State.db, App.State.db, same]
    exact refl_of Grows _
  · rw [App.State.db, App.State.db, same]
    exact (Write.profile (u := u) d).grows

/-- In every run of the app with any number of the admin's pages, on a database without
    bills and payments: a page lists bills whose forms were accepted and payments that
    were reported, for every bill that it lists as settled it also lists the payment
    that settled this bill, and while it is open no read that succeeds makes its load
    throw (its tiles may: they parse the amount of a rent). -/
theorem shown_settled_is_shown_paid {auth : SignUp.Auth} {db : Database}
    {es : List (Observer.Event App.Event Uid Event)} {s : State} {v : ℕ} {page : Page}
    (empty : ∀ u c, (db.docs u c).entries = [])
    (played : run step (.init auth db) es = some s) (opened : s.pages[v]? = some page) :
    (∃ cards rents payments,
        Shows (Observer.Seen App.step (.init auth db) es) page cards rents payments) ∧
      ∀ page', page.getData s.system.db true = some page' → page'.load ≠ .threw := by
  obtain ⟨known, loads⟩ := Observer.pages_invariant
    (I := Known (Observer.Seen App.step (.init auth db) es))
    (R := fun s page => Loads (Observer.Seen App.step (.init auth db) es) s.db page)
    (fun s e t here known stepped => (known.step here stepped).imp id
      fun grows page loads => loads.grows grows)
    (fun s user _ => .opened _ s.db user)
    (fun s page e page' known loads taken =>
      loads.pageStep known.accounted known.origins taken) played (.init _ auth empty)
  have here := loads page (List.mem_of_getElem? opened)
  exact ⟨here.shows, fun page' taken => (here.getData known.accounted known.origins taken).2 rfl⟩

/-- The admin opens the page while the user's card is being settled, and reads the card
    after its batch is committed. -/
def openedWhileSettling : List (Observer.Event App.Event Uid Event) :=
  (submitAndPay.take 11).map .system ++ [.opened 0, .system (.payments (.settle 0 true)),
    .page 0 (.getData true), .page 0 (.getData true), .page 0 (.onTap 3),
    .page 0 (.getData true), .page 0 (.getData true)]

theorem settled_card_shown_with_payment : ∃ s page cards rents payments,
    run step (.init App.oneAccount .empty) openedWhileSettling = some s ∧
      s.pages[0]? = some page ∧ page.cardList.map (·.balance) = [some "0"] ∧
      Shows (Observer.Seen App.step (.init App.oneAccount .empty) openedWhileSettling) page
        cards rents payments := by
  obtain ⟨s, played, evaluated⟩ := run_reaches step (.init App.oneAccount .empty)
    openedWhileSettling (P := fun s => s.pages[0]?.any
      (fun page => page.cardList.map (·.balance) = [some "0"]) = true) (by decide +kernel)
  obtain ⟨page, opened, settled⟩ := (Option.any_eq_true _ _).mp evaluated
  obtain ⟨⟨cards, rents, payments, shown⟩, _⟩ :=
    shown_settled_is_shown_paid (fun _ _ => rfl) played opened
  exact ⟨s, page, cards, rents, payments, played, opened, of_decide_eq_true settled, shown⟩

end Udhar.GetData
