import Udhar.Bills
import Udhar.Lib.Run

/-! # Payment pages, the gateway and the bills they share

The state holds the database, every open `PaymentForm` page with the
`BalanceCard` it shows, the orders opened at the gateway, and the runs of the
asynchronous handlers: balance fetches, settlements and saves of new bills. A
handler is suspended at its next `await`; one event resumes one handler, so any
list of events is an interleaving. Remote operations take effect at once or fail
without effect; a handler whose operation fails has thrown and takes no further
step.
-/

namespace Udhar.Payments

open Lib Dart

/-- The fields of `_PaymentFormState` and the total its `BalanceCard` shows. -/
structure PaymentForm where
  user : Uid
  totalBalance : Double := 0
  name : String := ""
  amountDue : Double := 0

/-- The state object whose `_fetchBalance` is running. -/
inductive Reader where
  | paymentForm
  | balanceCard
  deriving DecidableEq

/-- What `_fetchBalance` waits for. -/
inductive FetchStage where
  | readUser
  | readCards (userDoc : Option Fields)
  | readRents (userDoc : Option Fields) (cardTotal : Double)
  | setState (userDoc : Option Fields) (cardTotal rentTotal : Double)
  | done
  | threw

structure Fetch where
  page : ℕ
  user : Uid
  reader : Reader
  stage : FetchStage

/-- What the gateway made of an order. -/
inductive OrderStatus where
  | opened
  | success (paymentId : String)
  | error (code : ℤ) (message : String)
  | externalWallet (walletName : String)
  deriving DecidableEq

/-- The options that `makePayment` passes to `Razorpay.open`. -/
structure Order where
  page : ℕ
  user : Uid
  amount : Double
  name : String
  status : OrderStatus

/-- What `_handlePaymentSuccess` waits for. -/
inductive SettleStage where
  | record
  | readCards
  | commitCards (ids : List ℕ)
  | readRents
  | commitRents (ids : List ℕ)
  | setState
  | done
  | threw
  deriving DecidableEq

/-- A run of `_handlePaymentSuccess`. Nothing reads `cleared`: it is the history
    of the debt that the run's commits have cleared so far. -/
structure Settlement where
  page : ℕ
  user : Uid
  order : ℕ
  transactionData : Fields
  cleared : ℚ
  stage : SettleStage

inductive SaveStage where
  | pending
  | done
  | threw
  deriving DecidableEq

/-- A run of `_onValidate` or `_submitForm` that awaits its `add`. -/
structure BillSave where
  user : Uid
  kind : BillKind
  data : Fields
  stage : SaveStage

structure State where
  db : Database
  pages : List PaymentForm
  orders : List Order
  fetches : List Fetch
  settlements : List Settlement
  saves : List BillSave

/-- Nothing is open and nothing is running. -/
def State.init (db : Database) : State := ⟨db, [], [], [], [], []⟩

inductive Event where
  | openPage (user : Uid)
  | payNow (page : ℕ)
  | paymentSuccess (order : ℕ) (paymentId now : String)
  | paymentError (order : ℕ) (code : ℤ) (message : String)
  | externalWallet (order : ℕ) (walletName : String)
  | fetch (index : ℕ) (ok : Bool)
  | settle (index : ℕ) (ok : Bool)
  | validateCard (user : Uid) (form : CardForm) (accepted : Bool)
  | submitRent (user : Uid) (form : RentForm)
  | save (index : ℕ) (ok : Bool)

/-! ## Toasts -/

structure Toast where
  verdict : String
  detail : String

def Toast.msg (toast : Toast) : String := toast.verdict ++ " : " ++ toast.detail

/-- The toast that the three gateway handlers show. -/
def OrderStatus.toast : OrderStatus → Option Toast
  | .opened => none
  | .success paymentId => some ⟨"Payment SUCCESS", paymentId ++ " "⟩
  | .error code message => some ⟨"Payment FAILED", toString code ++ " , " ++ message⟩
  | .externalWallet walletName => some ⟨"Payment SUCCESS", walletName ++ " "⟩

/-- The page has told the user that the payment succeeded. -/
def Order.announced (o : Order) : Bool := o.status.toast.any (·.verdict = "Payment SUCCESS")

/-! ## Handlers -/

/-- `cardref2['name']` assigned to a `String`; `none` where that throws. -/
def storedName (userDoc : Option Fields) : Option String :=
  match userDoc.bind (· "name") with
  | some (.string name) => some name
  | _ => none

/-- Resume `_fetchBalance`. -/
def Fetch.advance (db : Database) (page : PaymentForm) (f : Fetch) (ok : Bool) :
    Option (Fetch × PaymentForm) :=
  match f.stage, ok with
  | .readUser, true => some ({ f with stage := .readCards (db.users f.user) }, page)
  | .readCards userDoc, true =>
      match fetchTotal db f.user .cards with
      | some cardTotal => some ({ f with stage := .readRents userDoc cardTotal }, page)
      | none => some ({ f with stage := .threw }, page)
  | .readRents userDoc cardTotal, true =>
      match fetchTotal db f.user .rents with
      | some rentTotal => some ({ f with stage := .setState userDoc cardTotal rentTotal }, page)
      | none => some ({ f with stage := .threw }, page)
  | .setState userDoc cardTotal rentTotal, true =>
      match f.reader with
      | .balanceCard =>
          some ({ f with stage := .done }, { page with amountDue := cardTotal + rentTotal })
      | .paymentForm =>
          -- The callback assigns the total before the lookup of the name can throw.
          match storedName userDoc with
          | some name => some ({ f with stage := .done },
              { page with totalBalance := cardTotal + rentTotal, name })
          | none => some ({ f with stage := .threw },
              { page with totalBalance := cardTotal + rentTotal })
  | .readUser, false | .readCards _, false | .readRents _ _, false =>
      some ({ f with stage := .threw }, page)
  | .setState _ _ _, false | .done, _ | .threw, _ => none

/-- The ids of the documents of a snapshot. -/
def snapshotIds (db : Database) (u : Uid) (k : BillKind) : List ℕ := (db.bills u k).keys

/-- Commit the batch that settles the snapshot `ids`; `next` waits behind it. -/
def Settlement.commitPaid (db : Database) (t : Settlement) (k : BillKind) (ids : List ℕ)
    (next : SettleStage) : Database × Settlement :=
  match db.commit t.user (.bills k) ids paid with
  | some db' => (db', { t with
      stage := next
      cleared := t.cleared + (db.bills t.user k).totalOn (ids.contains ·) Fields.debt })
  | none => (db, { t with stage := .threw })

/-- Resume `_handlePaymentSuccess`. -/
def Settlement.advance (db : Database) (page : PaymentForm) (t : Settlement) (ok : Bool) :
    Option (Database × PaymentForm × Settlement) :=
  match t.stage, ok with
  | .record, true =>
      some (db.add t.user .transactions t.transactionData, page, { t with stage := .readCards })
  | .readCards, true =>
      some (db, page, { t with stage := .commitCards (snapshotIds db t.user .cards) })
  | .commitCards ids, true =>
      let (db', t') := t.commitPaid db .cards ids .readRents
      some (db', page, t')
  | .readRents, true =>
      some (db, page, { t with stage := .commitRents (snapshotIds db t.user .rents) })
  | .commitRents ids, true =>
      let (db', t') := t.commitPaid db .rents ids .setState
      some (db', page, t')
  | .setState, true => some (db, { page with totalBalance := 0 }, { t with stage := .done })
  | .record, false | .readCards, false | .commitCards _, false | .readRents, false
  | .commitRents _, false => some (db, page, { t with stage := .threw })
  | .setState, false | .done, _ | .threw, _ => none

/-- Resume a save at its `add`. -/
def BillSave.advance (db : Database) (b : BillSave) (ok : Bool) : Option (Database × BillSave) :=
  match b.stage, ok with
  | .pending, true => some (db.add b.user (.bills b.kind) b.data, { b with stage := .done })
  | .pending, false => some (db, { b with stage := .threw })
  | .done, _ | .threw, _ => none

/-- The document that a success event makes `_handlePaymentSuccess` record: the
    amount is the page's total when the event arrives. -/
def transactionData (page : PaymentForm) (paymentId now : String) : Fields := .ofList
  [("paymentID", .string paymentId), ("amount", .string page.totalBalance.toString),
    ("dateTime", .string now)]

/-- The gateway has used this payment id, or it stands in the user's history. -/
def State.usedPaymentId (s : State) (u : Uid) (paymentId : String) : Bool :=
  s.orders.any (·.status = .success paymentId) ||
    (s.db.docs u .transactions).entries.any (·.2 "paymentID" = some (.string paymentId))

/-- Report the gateway's verdict on an order that is still open. -/
def State.close (s : State) (i : ℕ) (status : OrderStatus) : Option State := do
  let o ← s.orders[i]?
  guard (o.status = .opened)
  some { s with orders := s.orders.set i { o with status } }

/-- Take one step; `none` when the event cannot happen. -/
def step (s : State) : Event → Option State
  | .openPage user =>
      -- `initState` of the page fetches, then the card it builds does.
      some { s with
        pages := s.pages ++ [{ user }]
        fetches := s.fetches ++ [⟨s.pages.length, user, .paymentForm, .readUser⟩,
          ⟨s.pages.length, user, .balanceCard, .readCards none⟩] }
  | .payNow p => do
      -- The fetch is not awaited: the order carries the total known now.
      let page ← s.pages[p]?
      some { s with
        fetches := s.fetches ++ [⟨p, page.user, .paymentForm, .readUser⟩]
        orders := s.orders ++ [⟨p, page.user, page.totalBalance.times100, page.name, .opened⟩] }
  | .paymentSuccess i paymentId now => do
      let o ← s.orders[i]?
      let page ← s.pages[o.page]?
      guard (s.usedPaymentId o.user paymentId = false)
      let s ← s.close i (.success paymentId)
      some { s with settlements := s.settlements ++
        [⟨o.page, o.user, i, transactionData page paymentId now, 0, .record⟩] }
  | .paymentError i code message => s.close i (.error code message)
  | .externalWallet i walletName => s.close i (.externalWallet walletName)
  | .fetch i ok => do
      let f ← s.fetches[i]?
      let page ← s.pages[f.page]?
      let (f', page') ← f.advance s.db page ok
      some { s with fetches := s.fetches.set i f', pages := s.pages.set f.page page' }
  | .settle i ok => do
      let t ← s.settlements[i]?
      let page ← s.pages[t.page]?
      let (db', page', t') ← t.advance s.db page ok
      some { s with
        db := db'
        pages := s.pages.set t.page page'
        settlements := s.settlements.set i t' }
  | .validateCard user form accepted =>
      if accepted then
        some { s with saves := s.saves ++ [⟨user, .cards, form.cardData, .pending⟩] }
      else some s
  | .submitRent user form =>
      if form.validate then
        some { s with saves := s.saves ++ [⟨user, .rents, form.rentData, .pending⟩] }
      else some s
  | .save i ok => do
      let b ← s.saves[i]?
      let (db', b') ← b.advance s.db ok
      some { s with db := db', saves := s.saves.set i b' }

/-! ## One payment -/

/-- One user with one card of 1000. -/
def oneCard : Database :=
  (Database.empty.setUser 0 (.ofList [("name", .string "Asha")])).add 0 (.bills .cards)
    (CardForm.cardData ⟨"4111 1111 1111 1111", "12/27", "ASHA", "123"⟩)

/-- The page opens, both its fetches complete and PayNow opens an order. -/
def pressPayNow : List Event :=
  [.openPage 0, .fetch 0 true, .fetch 0 true, .fetch 0 true, .fetch 0 true,
    .fetch 1 true, .fetch 1 true, .fetch 1 true, .payNow 0]

/-- The gateway reports success and the settlement runs to its end. -/
def succeedAndSettle : List Event :=
  [.paymentSuccess 0 "pay_1" "2024-03-14 10:00:00.000", .settle 0 true, .settle 0 true,
    .settle 0 true, .settle 0 true, .settle 0 true, .settle 0 true]

end Udhar.Payments
