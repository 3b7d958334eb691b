import Udhar.App
import Udhar.Readers

/-! # What was written is what is read

Documents are written as they come out of the forms and the gateway's reports, and
the only change ever made to them is that bills are settled. So every page reads
back exactly the texts that were submitted.
-/

namespace Udhar

open Lib

/-- Every stored document has the property, which may depend on its user and its
    collection. -/
def Database.Each (P : Uid → Sub → Fields → Prop) (db : Database) : Prop :=
  ∀ v c, ∀ e ∈ (db.docs v c).entries, P v c e.2

namespace Database.Each

variable {P : Uid → Sub → Fields → Prop} {db : Database} (each : db.Each P)

include each

theorem add {u : Uid} {c : Sub} {d : Fields} (new : P u c d) : (db.add u c d).Each P := by
  intro v b e member
  by_cases same : (v, b) = (u, c)
  · cases same
    rw [docs_add_self, Collection.entries_insert] at member
    rcases List.mem_append.mp member with old | added
    · exact each _ _ e old
    · obtain rfl := List.mem_singleton.mp added
      exact new
  · rw [docs_add_of_ne db u c d same] at member
    exact each v b e member

theorem updateDocs {u : Uid} {c : Sub} {entries : List (String × Value)} (ids : List ℕ)
    (keeps : ∀ d, P u c d → P u c (d.update entries)) : (db.updateDocs u c ids entries).Each P := by
  intro v b e member
  by_cases same : (v, b) = (u, c)
  · cases same
    rw [docs_updateDocs_self] at member
    obtain ⟨d, old, changed⟩ := Collection.mem_modify.mp member
    have before := each _ _ (e.1, d) old
    rw [changed]
    split
    · exact keeps d before
    · exact before
  · rw [docs_updateDocs_of_ne db u c ids entries same] at member
    exact each v b e member

end Database.Each

end Udhar

namespace Udhar.Stored

open Lib Dart Payments Readers

/-! ## What is written -/

/-- A bill's document, settled since or not. -/
def settledIf (settled : Bool) (d : Fields) : Fields := if settled then d.update paid else d

structure StoredCard where
  form : CardForm
  settled : Bool

def StoredCard.data (c : StoredCard) : Fields := settledIf c.settled c.form.cardData

def StoredCard.balance (c : StoredCard) : String := if c.settled then "0" else "1000"

structure StoredRent where
  form : RentForm
  settled : Bool

def StoredRent.data (r : StoredRent) : Fields := settledIf r.settled r.form.rentData

def StoredRent.balance (r : StoredRent) : String := if r.settled then "0" else r.form.rentAmount

structure StoredPayment where
  paymentId : String
  dateTime : String
  amount : String

def StoredPayment.data (p : StoredPayment) : Fields := .ofList
  [("paymentID", .string p.paymentId), ("amount", .string p.amount),
    ("dateTime", .string p.dateTime)]

section Origins

-- `H` says which events happen, and in which states.
variable (H : App.State → App.Event → Prop) (u : Uid)

/-- The user's card form was accepted. -/
def Validated (form : CardForm) : Prop := ∃ t, H t (.payments (.validateCard u form true))

/-- The user's rent form was submitted and is valid. -/
def Submitted (form : RentForm) : Prop :=
  form.validate = true ∧ ∃ t, H t (.payments (.submitRent u form))

/-- The gateway reported the payment on an order of the user, while the total of
    the order's page read as the amount. -/
def Reported (p : StoredPayment) : Prop :=
  ∃ t i o page, H t (.payments (.paymentSuccess i p.paymentId p.dateTime)) ∧
    t.payments.orders[i]? = some o ∧ o.user = u ∧ t.payments.pages[o.page]? = some page ∧
    p.amount = page.totalBalance.toString

/-- Where the documents of a user come from. -/
def Origin : Sub → Fields → Prop
  | .bills .cards, d => ∃ c : StoredCard, d = c.data ∧ Validated H u c.form
  | .bills .rents, d => ∃ r : StoredRent, d = r.data ∧ Submitted H u r.form
  | .transactions, d => ∃ p : StoredPayment, d = p.data ∧ Reported H u p

end Origins

theorem settledIf_update (settled : Bool) (d : Fields) :
    (settledIf settled d).update paid = settledIf true d := by
  cases settled with
  | false => rfl
  | true => exact (update_paid_eq_self_iff _).mpr (paid_balance d)

section Steps

variable {H : App.State → App.Event → Prop}

/-- A bill stays the one that was submitted when it is settled. -/
theorem Origin.settle {u : Uid} {k : BillKind} {d : Fields} (origin : Origin H u (.bills k) d) :
    Origin H u (.bills k) (d.update paid) := by
  cases k with
  | cards =>
      obtain ⟨c, rfl, validated⟩ := origin
      exact ⟨⟨c.form, true⟩, settledIf_update c.settled _, validated⟩
  | rents =>
      obtain ⟨r, rfl, submitted⟩ := origin
      exact ⟨⟨r.form, true⟩, settledIf_update r.settled _, submitted⟩

/-- The stored documents and those that handlers are about to store come from the
    events. -/
structure FromEvents (H : App.State → App.Event → Prop) (s : Payments.State) : Prop where
  stored : s.db.Each (Origin H)
  saves : ∀ b ∈ s.saves, Origin H b.user (.bills b.kind) b.data
  settlements : ∀ t ∈ s.settlements, Origin H t.user .transactions t.transactionData

theorem FromEvents.settle {s : Payments.State} {page page' : PaymentForm} {t t' : Settlement}
    {db' : Database} {ok : Bool} (origins : FromEvents H s) (running : t ∈ s.settlements)
    (move : t.Move s.db page ok db' page' t') : db'.Each (Origin H) := by
  cases move with
  | record => exact origins.stored.add (origins.settlements t running)
  | commit k => exact origins.stored.updateDocs _ fun _ => Origin.settle
  | read | reset | threw => exact origins.stored

theorem FromEvents.step {s s' : App.State} {e : Payments.Event} (here : H s (.payments e))
    (origins : FromEvents H s.payments) (stepped : Payments.step s.payments e = some s'.payments) :
    FromEvents H s'.payments := by
  have saves : ∀ b ∈ s'.payments.saves, Origin H b.user (.bills b.kind) b.data := by
    intro b member
    rcases step_save_origin stepped member with
      ⟨old, before, user, kind, data⟩ | ⟨form, rfl, kind, data⟩ | ⟨form, rfl, valid, kind, data⟩
    · rw [user, kind, data]
      exact origins.saves old before
    · rw [kind, data]
      exact ⟨⟨form, false⟩, rfl, s, here⟩
    · rw [kind, data]
      exact ⟨⟨form, false⟩, rfl, valid, s, here⟩
  cases e with
  | paymentSuccess i paymentId now =>
      obtain ⟨o, page, found, _, shown, _, same⟩ := step_paymentSuccess stepped
      refine ⟨?_, saves, ?_⟩
      · rw [same]
        exact origins.stored
      · rw [same]
        exact forall_mem_concat origins.settlements ⟨⟨paymentId, now, page.totalBalance.toString⟩,
          rfl, s, i, o, page, here, found, rfl, shown, rfl⟩
  | settle i ok =>
      obtain ⟨t, _, _, _, t', found, _, advanced, same⟩ := step_settle stepped
      have move := Settlement.advance_move advanced
      have running := List.mem_of_getElem? found
      obtain ⟨user, _, _, data, _⟩ := move.same
      refine ⟨?_, saves, ?_⟩
      · rw [same]
        exact origins.settle running move
      · rw [same]
        apply forall_mem_set origins.settlements
        rw [user, data]
        exact origins.settlements t running
  | save i ok =>
      obtain ⟨b, db', _, found, advanced, same⟩ := step_save stepped
      refine ⟨?_, saves, ?_⟩
      · have new := origins.saves b (List.mem_of_getElem? found)
        rw [same]
        obtain ⟨_, ⟨_, added, _⟩ | ⟨_, kept, _⟩⟩ := BillSave.advance_cases advanced
        · rw [added]
          exact origins.stored.add new
        · rw [kept]
          exact origins.stored
      · rw [same]
        exact origins.settlements
  | openPage | payNow | paymentError | externalWallet | fetch | validateCard | submitRent =>
      obtain ⟨db, settlements⟩ := step_quiet rfl stepped
      exact ⟨db ▸ origins.stored, saves, settlements ▸ origins.settlements⟩

theorem FromEvents.appStep {s s' : App.State} {e : App.Event} (origins : FromEvents H s.payments)
    (here : H s e) (stepped : App.step s e = some s') : FromEvents H s'.payments := by
  rcases App.step_payments_cases stepped with ⟨p, rfl, taken⟩ | ⟨_, same | ⟨u, d, same⟩⟩
  · exact FromEvents.step here origins taken
  · rw [same]
    exact origins
  · rw [same]
    exact ⟨origins.stored, origins.saves, origins.settlements⟩

end Steps

theorem fromEvents_init {H : App.State → App.Event → Prop} (auth : SignUp.Auth) {db : Database}
    (empty : ∀ u c, (db.docs u c).entries = []) :
    FromEvents H (App.State.init auth db).payments where
  stored u c e member := by
    rw [App.State.init, State.init, empty u c] at member
    cases member
  saves _ none := nomatch none
  settlements _ none := nomatch none

/-- Documents come from what the run has submitted and reported so far. -/
theorem fromEvents_run {auth : SignUp.Auth} {db : Database} {es : List App.Event} {s : App.State}
    (empty : ∀ u c, (db.docs u c).entries = [])
    (played : run App.step (.init auth db) es = some s) :
    FromEvents (Happens App.step (.init auth db) es) s.payments := by
  exact run_invariant_of_meets (P := fun s => FromEvents _ s.payments)
    (fun _ _ _ here origins stepped => origins.appStep here stepped) played
    (meets_happens App.step _ es) (fromEvents_init auth empty)

/-! ## What is read -/

/-- The documents that a `get` or a stream of a subcollection delivers. -/
def snapshot (db : Database) (u : Uid) (c : Sub) : List Fields :=
  (db.docs u c).entries.map Prod.snd

theorem mem_snapshot_add (db : Database) (u : Uid) (c : Sub) (d : Fields) :
    d ∈ snapshot (db.add u c d) u c := by
  rw [snapshot, Database.docs_add_self, Collection.entries_insert, List.map_append]
  exact List.mem_append_right _ (List.mem_singleton.mpr rfl)

/-- Payments are never taken out of the history. -/
theorem snapshot_subset {db db' : Database} (grows : Grows db db') (u : Uid) :
    snapshot db u .transactions ⊆ snapshot db' u .transactions := by
  intro d member
  obtain ⟨e, stored, rfl⟩ := List.mem_map.mp member
  obtain ⟨_, there, rfl⟩ := grows.transactions u e stored
  exact List.mem_map.mpr ⟨_, there, rfl⟩

def StoredCard.creditCard (c : StoredCard) : CardTiles.CreditCard :=
  ⟨c.form.cardNumber, c.form.expiryDate, c.form.cvvCode, c.form.cardHolderName, c.balance,
    "14/3/24"⟩

def StoredCard.tile2 (c : StoredCard) : ViewData.Tile2 :=
  ⟨c.form.cardNumber, "Amount: " ++ c.balance ++ " \nDate: " ++ "14/3/24" ++ " ", !c.settled⟩

def StoredRent.rentModel (r : StoredRent) : RentModel := ⟨r.form.title, r.balance, r.form.dueDate⟩

theorem creditCard_data (c : StoredCard) : CardTiles.creditCard c.data = some c.creditCard := by
  obtain ⟨form, settled⟩ := c
  cases settled <;> rfl

theorem cards_data (c : StoredCard) :
    ViewData.cards c.data = some ⟨c.balance, c.form.cardHolderName, c.form.cardNumber,
      c.form.cvvCode, some "14/3/24", c.form.expiryDate⟩ := by
  obtain ⟨form, settled⟩ := c
  cases settled <;> rfl

/-- The tile of a card has a PayNow button until the card is settled. -/
theorem tileBuild_balance (c : StoredCard) : tileBuild c.balance = some (!c.settled) := by
  have unpaid : tileBuild "1000" = some true := by decide +kernel
  have settled : tileBuild "0" = some false := by decide +kernel
  obtain ⟨form, cleared⟩ := c
  cases cleared with
  | false => exact unpaid
  | true => exact settled

theorem balance?_data (c : StoredCard) :
    c.data.balance? = some (.finite (if c.settled then 0 else 1000)) := by
  have full : Double.parse "1000" = some (.finite 1000) := by decide +kernel
  obtain ⟨form, settled⟩ := c
  cases settled with
  | false => exact full
  | true => exact balance_paid _

theorem rentModel_data (r : StoredRent) : Readers.rentModel r.data = some r.rentModel := by
  obtain ⟨form, settled⟩ := r
  cases settled <;> rfl

theorem rent_data (r : StoredRent) :
    ViewData.rent r.data = some ⟨r.balance, r.form.dueDate, r.form.title⟩ := by
  obtain ⟨form, settled⟩ := r
  cases settled <;> rfl

theorem transaction_data (p : StoredPayment) :
    Readers.transaction p.data = some ⟨p.paymentId, p.dateTime, p.amount⟩ := rfl

/-- All cards together show as owed what the unsettled ones cost. -/
theorem cardTotal (cards : List StoredCard) : sumBalances 0 (cards.map StoredCard.data) =
    some (.finite (1000 * cards.countP fun c => !c.settled)) := by
  rw [Double.zero_def, sumBalances_eq (List.forall_mem_map.mpr fun c _ => ⟨_, balance?_data c⟩),
    zero_add, List.map_map]
  congr 2
  induction cards with
  | nil => simp
  | cons c cards ih =>
      have worth : c.data.debt = if c.settled then 0 else 1000 := by
        rw [Fields.debt, balance?_data]
      rw [List.map_cons, List.sum_cons, ih, List.countP_cons, Function.comp_apply, worth]
      cases c.settled with
      | true => simp
      | false =>
          simp only [Bool.false_eq_true, if_false, Bool.not_false, if_true, Nat.cast_add,
            Nat.cast_one]
          ring

theorem transactionsPage_data (p : StoredPayment) : Search.transactionsPage.record p.data =
    some ⟨p.paymentId, p.dateTime, p.amount⟩ := rfl

/-- Every page that reads the user's documents shows these bills and payments. -/
structure ReadsBack (db : Database) (u : Uid) (cards : List StoredCard) (rents : List StoredRent)
    (payments : List StoredPayment) : Prop where
  displayCards : Readers.displayCards (.docs (snapshot db u (.bills .cards))) =
    some (.items (cards.map fun c => creditCardItem c.creditCard))
  addedCards : CardTiles.transactionList (.docs (snapshot db u (.bills .cards))) =
    (cards.mapM fun c => CardTiles.transactionTile c.form.cardNumber "14/3/24" c.balance).map
      .tiles
  cardTotal : fetchTotal db u .cards =
    some (.finite (1000 * cards.countP fun c => !c.settled))
  cardsTab : ((snapshot db u (.bills .cards)).mapM ViewData.cards).bind ViewData.cardsTab =
    some (cards.map StoredCard.tile2)
  rentInfo : (snapshot db u (.bills .rents)).mapM Readers.rentModel =
    some (rents.map StoredRent.rentModel)
  rentInfoCards : ∀ toUpperCase, ((snapshot db u (.bills .rents)).mapM Readers.rentModel).map
      (List.map (Readers.rentInfoCard toUpperCase)) = some (rents.map fun r =>
        ⟨toUpperCase r.form.title, "$" ++ r.balance, "Due " ++ r.form.dueDate⟩)
  rentTab : ((snapshot db u (.bills .rents)).mapM ViewData.rent).bind ViewData.rentTab =
    rents.mapM fun r => ViewData.tile2 r.form.title r.form.dueDate r.balance
  recentPayments : Readers.recentPayments (.docs (snapshot db u .transactions)) =
    (payments.mapM fun p => paymentTile p.paymentId p.dateTime p.amount).map .items
  transactionsPage : Search.transactionsPage.records (snapshot db u .transactions) =
    (payments.map fun p => ⟨p.paymentId, p.dateTime, p.amount⟩, true)
  transactionsList : Readers.transactionsPageBuild
      (Search.transactionsPage.records (snapshot db u .transactions)).1 =
    payments.mapM fun p => paymentTile p.paymentId p.dateTime p.amount
  transactionsTab : ((snapshot db u .transactions).mapM ViewData.transaction).bind
      ViewData.transactionsTab = payments.mapM fun p => paymentTile p.paymentId p.dateTime p.amount

theorem readsBack {db : Database} {u : Uid} {cards : List StoredCard} {rents : List StoredRent}
    {payments : List StoredPayment}
    (storedCards : snapshot db u (.bills .cards) = cards.map StoredCard.data)
    (storedRents : snapshot db u (.bills .rents) = rents.map StoredRent.data)
    (storedPayments : snapshot db u .transactions = payments.map StoredPayment.data) :
    ReadsBack db u cards rents payments where
  displayCards := by
    rw [storedCards, Readers.displayCards, streamBuilder, mapM_map, mapM_eq_map creditCard_data,
      Option.map_some, List.map_map]
    rfl
  addedCards := by
    rw [storedCards, CardTiles.transactionList_docs, mapM_map]
    simp only [CardTiles.tileOf, creditCard_data, Option.bind_some]
    rfl
  cardTotal := by
    rw [fetchTotal]
    exact (congrArg (sumBalances 0) storedCards).trans (Stored.cardTotal cards)
  cardsTab := by
    rw [storedCards, mapM_map, mapM_eq_map cards_data, Option.bind_some, ViewData.cardsTab,
      mapM_map]
    apply mapM_eq_map
    intro c
    simp only [nullableToString, Option.getD_some, ViewData.tile2, tileBuild_balance,
      Option.bind_eq_bind, Option.bind_some]
    rfl
  rentInfo := by
    rw [storedRents, mapM_map, mapM_eq_map rentModel_data]
  rentInfoCards toUpperCase := by
    rw [storedRents, mapM_map, mapM_eq_map rentModel_data, Option.map_some, List.map_map]
    rfl
  rentTab := by
    rw [storedRents, mapM_map, mapM_eq_map rent_data, Option.bind_some, ViewData.rentTab, mapM_map]
    rfl
  recentPayments := by
    rw [storedPayments, Readers.recentPayments, streamBuilder, mapM_map,
      mapM_eq_map transaction_data, Option.bind_some, mapM_map]
  transactionsPage := by
    rw [storedPayments]
    exact mapUntil_map transactionsPage_data payments
  transactionsList := by
    rw [storedPayments, Search.Kind.records, mapUntil_map transactionsPage_data,
      Readers.transactionsPageBuild, mapM_map]
    rfl
  transactionsTab := by
    rw [storedPayments, mapM_map]
    have each : ∀ p : StoredPayment,
        ViewData.transaction p.data = some ⟨p.paymentId, p.dateTime, p.amount⟩ := fun _ => rfl
    rw [mapM_eq_map each, Option.bind_some, ViewData.transactionsTab, mapM_map]

/-- In every run of the app on a database without bills and payments, every page of
    every user reads back bills whose forms were accepted for that user and payments
    that were reported on that user's orders; a bill differs from its form at most in
    being settled. -/
theorem pages_read_what_was_submitted {auth : SignUp.Auth} {db : Database} {es : List App.Event}
    {s : App.State} (empty : ∀ u c, (db.docs u c).entries = [])
    (played : run App.step (.init auth db) es = some s) (u : Uid) :
    ∃ cards rents payments,
      (∀ c ∈ cards, Validated (Happens App.step (.init auth db) es) u c.form) ∧
      (∀ r ∈ rents, Submitted (Happens App.step (.init auth db) es) u r.form) ∧
      (∀ p ∈ payments, Reported (Happens App.step (.init auth db) es) u p) ∧
      ReadsBack s.db u cards rents payments := by
  have origin : ∀ c, ∀ d ∈ snapshot s.db u c, Origin (Happens App.step (.init auth db) es) u c d :=
    fun c => List.forall_mem_map.mpr ((fromEvents_run empty played).stored u c)
  obtain ⟨cards, storedCards, validated⟩ := exists_map_eq (origin (.bills .cards))
  obtain ⟨rents, storedRents, submitted⟩ := exists_map_eq (origin (.bills .rents))
  obtain ⟨payments, storedPayments, reported⟩ := exists_map_eq (origin .transactions)
  exact ⟨cards, rents, payments, validated, submitted, reported,
    readsBack storedCards storedRents storedPayments⟩

/-- A card is saved and paid, and a rent is saved. -/
def submitAndPay : List App.Event := [.payments (.validateCard 0
    ⟨"4111 1111 1111 1111", "12/27", "ASHA", "123"⟩ true), .payments (.save 0 true),
  .payments (.openPage 0), .payments (.fetch 0 true), .payments (.fetch 0 true),
  .payments (.fetch 0 true), .payments (.fetch 0 true), .payments (.payNow 0),
  .payments (.paymentSuccess 0 "pay_1" "2024-03-14 10:00:00.000"), .payments (.settle 0 true),
  .payments (.settle 0 true), .payments (.settle 0 true),
  .payments (.submitRent 0 ⟨"Flat", "900", "01 Apr"⟩), .payments (.save 1 true)]

theorem submitted_and_paid_is_read : ∃ s cards rents payments,
    run App.step (.init App.oneAccount .empty) submitAndPay = some s ∧
      (s.db.docs 0 (.bills .rents)).entries ≠ [] ∧
      (∀ c ∈ cards,
        Validated (Happens App.step (.init App.oneAccount .empty) submitAndPay) 0 c.form) ∧
      (∀ r ∈ rents,
        Submitted (Happens App.step (.init App.oneAccount .empty) submitAndPay) 0 r.form) ∧
      (∀ p ∈ payments,
        Reported (Happens App.step (.init App.oneAccount .empty) submitAndPay) 0 p) ∧
      ReadsBack s.db 0 cards rents payments := by
  obtain ⟨s, played, stored⟩ := run_reaches App.step (.init App.oneAccount .empty) submitAndPay
    (P := fun s => (s.db.docs 0 (.bills .rents)).entries.isEmpty = false) (by decide +kernel)
  obtain ⟨cards, rents, payments, readBack⟩ :=
    pages_read_what_was_submitted (fun _ _ => rfl) played 0
  exact ⟨s, cards, rents, payments, played, by simpa using stored, readBack⟩

end Udhar.Stored
