import Udhar.CardTiles
import Udhar.Payments.Chargeable
import Udhar.Search

/-! # The pages that read documents

These pages read what the forms and the settlements have written. Each turns every
document of a snapshot into a record and every record into a widget, of which the
texts are kept. What throws is `none`: a field of the wrong type, an index out of
range, an amount that is no number.
-/

namespace Udhar.Readers

open CardTiles Payments
open Search (asString asNullableString)

/-! ## Streams -/

inductive View (α : Type) where
  | progressIndicator
  | text (message : String)
  | items (items : List α)
  deriving DecidableEq

/-- The builder of a `StreamBuilder` over a collection. -/
def streamBuilder {α : Type} (build : List Fields → Option (List α)) : Snapshot → Option (View α)
  | .waiting => some .progressIndicator
  | .hasError error => some (.text ("Error: " ++ error))
  | .noData => some (.text "No cards available")
  | .docs docs => (build docs).map .items

/-! ## The user's cards -/

/-- The texts of a `CreditCardItem`; the first four go to the drawing of the card. -/
structure CreditCardItem where
  cardNumber : String
  expiryDate : String
  cardHolderName : String
  cvvCode : String
  balance : String
  dueDate : String
  deriving DecidableEq

def creditCardItem (card : CreditCard) : CreditCardItem where
  cardNumber := card.number
  expiryDate := card.expiryDate
  cardHolderName := card.cardHolderName
  cvvCode := card.cvvCode
  balance := "$" ++ card.balance
  dueDate := card.dueDate

/-- The builder of `DisplayCards`. -/
def displayCards : Snapshot → Option (View CreditCardItem) :=
  streamBuilder fun cards => (cards.mapM creditCard).map (List.map creditCardItem)

/-! ## The user's rents -/

structure RentModel where
  title : String
  balance : String
  dueDate : String
  deriving DecidableEq

/-- What `_fetchRentInfo` makes of a document. -/
def rentModel (rentInfo : Fields) : Option RentModel := do
  let title ← fieldOr rentInfo "title"
  let balance ← fieldOr rentInfo "balance"
  let dueDate ← fieldOr rentInfo "dueDate"
  some { title, balance, dueDate }

/-- The texts of a `RentInfoCard`. -/
structure RentInfoCard where
  title : String
  amount : String
  dueDate : String
  deriving DecidableEq

def rentInfoCard (toUpperCase : String → String) (rentInfo : RentModel) : RentInfoCard where
  title := toUpperCase rentInfo.title
  amount := "$" ++ rentInfo.balance
  dueDate := "Due " ++ rentInfo.dueDate

/-! ## The user's payments -/

/-- A payment of the list on the home page. -/
structure Transaction where
  name : String
  date : String
  amount : String
  deriving DecidableEq

def transaction (cardData : Fields) : Option Transaction := do
  let name ← fieldOr cardData "paymentID"
  let date ← fieldOr cardData "dateTime"
  let amount ← fieldOr cardData "amount"
  some { name, date, amount }

/-- `TransactionTile` of the payment lists: unlike the tile of a card, it does not
    mask its title. -/
def paymentTile (company date amount : String) : Option Tile := do
  let leading ← firstUnit company
  some { leading, title := company, subtitle := "Date : " ++ date, trailing := "₹ " ++ amount }

/-- The builder of `TransactionList` in the list of recent payments. -/
def recentPayments : Snapshot → Option (View Tile) :=
  streamBuilder fun ts => (ts.mapM transaction).bind
    (List.mapM fun card => paymentTile card.name card.date card.amount)

/-- `toString()` of a `String?`. -/
def nullableToString (s : Option String) : String := s.getD "null"

/-- The list that `TransactionsPage` builds. -/
def transactionsPageBuild (filteredUsers : List Search.Transaction) : Option (List Tile) :=
  filteredUsers.mapM fun card =>
    paymentTile (nullableToString card.id) (nullableToString card.date)
      (nullableToString card.amount)

/-! ## The admin's page of a user -/

namespace ViewData

structure Cards where
  balance : Option String
  cardHolderName : Option String
  cardNumber : Option String
  cvvCode : Option String
  dueDate : Option String
  expiryDate : Option String
  deriving DecidableEq

def cards (doc : Fields) : Option Cards := do
  let balance ← asNullableString (doc "balance")
  let cardHolderName ← asNullableString (doc "cardHolderName")
  let cardNumber ← asNullableString (doc "cardNumber")
  let cvvCode ← asNullableString (doc "cvvCode")
  let dueDate ← asNullableString (doc "dueDate")
  let expiryDate ← asNullableString (doc "expiryDate")
  some { balance, cardHolderName, cardNumber, cvvCode, dueDate, expiryDate }

structure Rent where
  balance : Option String
  dueDate : Option String
  title : Option String
  deriving DecidableEq

def rent (doc : Fields) : Option Rent := do
  let balance ← asNullableString (doc "balance")
  let dueDate ← asNullableString (doc "dueDate")
  let title ← asNullableString (doc "title")
  some { balance, dueDate, title }

/-- A payment of which no field may be null. -/
structure Transaction where
  id : String
  date : String
  amount : String
  deriving DecidableEq

def transaction (doc : Fields) : Option Transaction := do
  let id ← asString (doc "paymentID")
  let date ← asString (doc "dateTime")
  let amount ← asString (doc "amount")
  some { id, date, amount }

/-- The texts of a `Tile2`, and whether it has a PayNow button. -/
structure Tile2 where
  title : String
  subtitle : String
  payNow : Bool
  deriving DecidableEq

def tile2 (company date amount : String) : Option Tile2 := do
  let payNow ← tileBuild amount
  some { title := company, subtitle := "Amount: " ++ amount ++ " \nDate: " ++ date ++ " ", payNow }

/-- What the three tabs of the page build. -/
def cardsTab (cardList : List Cards) : Option (List Tile2) :=
  cardList.mapM fun card =>
    tile2 (nullableToString card.cardNumber) (nullableToString card.dueDate)
      (nullableToString card.balance)

def rentTab (rentList : List Rent) : Option (List Tile2) :=
  rentList.mapM fun card =>
    tile2 (nullableToString card.title) (nullableToString card.dueDate)
      (nullableToString card.balance)

def transactionsTab (transactionList : List Transaction) : Option (List Tile) :=
  transactionList.mapM fun card => paymentTile card.id card.date card.amount

end ViewData

/-! ## The profile -/

/-- `value.toString()`. Whether a number is an `int` or a `double` decides how it is
    printed; a `Value` does not say, so the printer is a parameter. -/
def valueToString (numberToString : ℚ → String) : Option Value → String
  | none | some .null => "null"
  | some (.bool b) => toString b
  | some (.number q) => numberToString q
  | some (.string s) => s

/-- A text that a widget takes, or another one where it is null. -/
def textOr (fallback : String) (v : Option Value) : Option String :=
  (asNullableString v).map (·.getD fallback)

/-- The picture, `none` for the default one, and the name that a user's pages show. -/
structure Bar where
  imageURL : Option String
  name : String
  deriving DecidableEq

/-- The builder of `CustomAppBar`, which prints whatever the name is. A missing document
    fails the `!` on its data. -/
def customAppBar (numberToString : ℚ → String) (document : Option Fields) : Option Bar := do
  let userData ← document
  let name :=
    match userData "name" with
    | none | some .null => "N/A"
    | some value => valueToString numberToString (some value)
  let imageURL ← asNullableString (userData "profilePictureUrl")
  some { imageURL, name }

/-- The builder of `NavBarPage`, for which the name has to be a text and two texts are no
    address of a picture. -/
def navBarPage (document : Option Fields) : Option Bar := do
  let userData ← document
  let url ← asNullableString (userData "profilePictureUrl")
  let name ← textOr "N/A" (userData "name")
  some { imageURL := url.filter fun url => url ≠ "" && url ≠ "null", name }

/-- What `ProfilePage` shows of the user's document. -/
structure Profile where
  imageURL : Option String
  name : String
  email : String
  phone : String
  address : String
  dob : String
  deriving DecidableEq

/-- The builder of `ProfilePage` once the user's document is there; a missing one
    fails the `!` on its data. -/
def profilePage (toUpperCase : String → String) (numberToString : ℚ → String)
    (document : Option Fields) : Option Profile := do
  let userData ← document
  let imageURL ← asNullableString (userData "profilePictureUrl")
  let email ← textOr "email not verified" (userData "email")
  let phone ← textOr "NA" (userData "phoneNumber")
  let address ← textOr "NA" (userData "Address")
  let dob ← textOr "NA" (userData "dob")
  let name := toUpperCase (valueToString numberToString (userData "name"))
  some { imageURL, name, email, phone, address, dob }

end Udhar.Readers
