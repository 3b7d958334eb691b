import Udhar.Payments.Chargeable

/-! # The admin's payment tiles

A `ViewData` page loads a user's bills once and builds one `Tile2` for each; a
tile whose balance is not zero has a PayNow button. The success handler of a tile
shows a toast and does nothing else: neither the stored bill nor the page's copy
of it changes. The user's own sessions run alongside over the same database.
-/

namespace Udhar.Admin

open Lib Dart Payments

/-- A stored bill of a user. -/
structure Bill where
  user : Uid
  kind : BillKind
  id : ℕ
  deriving DecidableEq

/-- A `Tile2` with the bill it was built from, which nothing on the page reads. -/
structure Tile where
  bill : Bill
  amount : String
  deriving DecidableEq

/-- The tab that `page` selects. -/
inductive Tab where
  | cards
  | rent
  | transactions
  deriving DecidableEq

/-- What `getData` waits for, with the snapshots it has taken. -/
inductive LoadStage where
  | readCards
  | readRents (cards : Collection ℕ Fields)
  | readTransactions (cards rents : Collection ℕ Fields)
  | setState (cards rents : Collection ℕ Fields)
  | done
  | threw

/-- The fields of `_ViewDataState`, and whether the page is still open. The list of
    transactions has no buttons and is left out. -/
structure ViewData where
  user : Uid
  isOpen : Bool := true
  page : Tab := .cards
  cardList : List Tile := []
  rentList : List Tile := []
  load : LoadStage := .readCards

/-- An order that a tile has opened at the gateway. -/
structure TileOrder where
  bill : Bill
  amount : Double
  status : OrderStatus

/-- Nothing reads `reported`: it is the history of the bills for which a tile has
    reported a payment since their stored balance changed last. -/
structure State where
  payments : Payments.State
  views : List ViewData
  orders : List TileOrder
  reported : List Bill

def State.db (s : State) : Database := s.payments.db

/-- Nothing is open. -/
def State.init (db : Database) : State := ⟨.init db, [], [], []⟩

inductive Event where
  | openViewData (user : Uid)
  | getData (view : ℕ) (ok : Bool)
  | selectTab (view : ℕ) (page : Tab)
  | payNow (view index : ℕ)
  | gateway (order : ℕ) (status : OrderStatus)
  | leave (view : ℕ)
  | payments (e : Payments.Event)

/-- The toast says that the payment succeeded. -/
def announces (status : OrderStatus) : Bool := status.toast.any (·.verdict = "Payment SUCCESS")

/-! ## Handlers -/

/-- The fields that the constructors of `Cards` and `Rent` take. -/
def fieldsRead : BillKind → List String
  | .cards => ["balance", "cardHolderName", "cardNumber", "cvvCode", "dueDate", "expiryDate"]
  | .rents => ["balance", "dueDate", "title"]

/-- The balance of a document as its tile shows it; `none` where a field is neither
    a string nor missing and the constructor throws. -/
def tileOf (k : BillKind) (d : Fields) : Option String :=
  if (fieldsRead k).all fun key =>
      match d key with
      | none | some .null | some (.string _) => true
      | some (.bool _) | some (.number _) => false
  then tileAmount d else none

/-- The tiles of a snapshot, up to the first document that throws, and whether the
    end was reached. -/
def buildTiles (u : Uid) (k : BillKind) : List (ℕ × Fields) → List Tile × Bool
  | [] => ([], true)
  | e :: es =>
      match tileOf k e.2 with
      | some amount =>
          (⟨⟨u, k, e.1⟩, amount⟩ :: (buildTiles u k es).1, (buildTiles u k es).2)
      | none => ([], false)

/-- The callback of `setState` in `getData`. -/
def ViewData.fill (v : ViewData) (cards rents : Collection ℕ Fields) : ViewData :=
  let (cardTiles, cardsBuilt) := buildTiles v.user .cards cards.entries
  let (rentTiles, rentsBuilt) := buildTiles v.user .rents rents.entries
  if cardsBuilt then
    { v with
      cardList := v.cardList ++ cardTiles
      rentList := v.rentList ++ rentTiles
      load := if rentsBuilt then .done else .threw }
  else { v with cardList := v.cardList ++ cardTiles, load := .threw }

/-- Resume `getData`. -/
def ViewData.getData (db : Database) (v : ViewData) (ok : Bool) : Option ViewData :=
  match v.load, ok with
  | .readCards, true => some { v with load := .readRents (db.bills v.user .cards) }
  | .readRents cards, true =>
      some { v with load := .readTransactions cards (db.bills v.user .rents) }
  | .readTransactions cards rents, true => some { v with load := .setState cards rents }
  | .setState cards rents, true =>
      -- On a page that was left, `setState` throws.
      if v.isOpen then some (v.fill cards rents) else some { v with load := .threw }
  | .readCards, false | .readRents _, false | .readTransactions _ _, false =>
      some { v with load := .threw }
  | .setState _ _, false | .done, _ | .threw, _ => none

/-- The tiles of the selected tab. -/
def ViewData.tiles (v : ViewData) : List Tile :=
  match v.page with
  | .cards => v.cardList
  | .rent => v.rentList
  | .transactions => []

/-- The tile has a PayNow button. -/
def Tile.offers (t : Tile) : Bool := tileBuild t.amount = some true

/-- What a bill reads in the database. -/
def storedBalance (db : Database) (b : Bill) : Option (Option Value) :=
  ((db.bills b.user b.kind).get? b.id).map (· "balance")

/-- Take one step; `none` when the event cannot happen. -/
def step (s : State) : Event → Option State
  | .openViewData user => some { s with views := s.views ++ [{ user }] }
  | .getData i ok => do
      let v ← s.views[i]?
      let v' ← v.getData s.db ok
      some { s with views := s.views.set i v' }
  | .selectTab i page => do
      let v ← s.views[i]?
      guard (v.isOpen = true)
      some { s with views := s.views.set i { v with page } }
  | .payNow i n => do
      let v ← s.views[i]?
      let t ← v.tiles[n]?
      guard (v.isOpen = true ∧ t.offers = true)
      let amount ← tileMakePayment t.amount
      some { s with orders := s.orders ++ [⟨t.bill, amount, .opened⟩] }
  | .gateway i status => do
      let o ← s.orders[i]?
      guard (o.status = .opened ∧ status ≠ .opened)
      some { s with
        orders := s.orders.set i { o with status }
        reported := if announces status then o.bill :: s.reported else s.reported }
  | .leave i => do
      let v ← s.views[i]?
      some { s with views := s.views.set i { v with isOpen := false } }
  | .payments e => do
      let payments ← Payments.step s.payments e
      some { s with
        payments
        reported := s.reported.filter fun b =>
          storedBalance payments.db b = storedBalance s.db b }

/-! ## What the admin should see -/

/-- No tile on an open page offers to pay a bill that was reported as paid. -/
def OffersNoneTwice (s : State) : Prop :=
  ∀ v ∈ s.views, v.isOpen = true → ∀ t ∈ v.tiles, t.bill ∈ s.reported → t.offers = false

instance : DecidablePred OffersNoneTwice := fun s => inferInstanceAs (Decidable
  (∀ v ∈ s.views, v.isOpen = true → ∀ t ∈ v.tiles, t.bill ∈ s.reported → t.offers = false))

/-- A payment that is reported is the first of its bill since the balance changed. -/
def paysOnce (s : State) : Event → Bool
  | .gateway i status => !announces status ||
      s.orders[i]?.all fun o => o.status ≠ .opened || o.bill ∉ s.reported
  | _ => true

/-! ## Copies of a bill that could be paid -/

/-- A tile built from the document would have a PayNow button. -/
def offersPayment (d : Fields) : Bool :=
  (tileAmount d).any fun amount => tileBuild amount = some true

/-- The snapshot holds the bill with something to pay. -/
def payableIn (c : Collection ℕ Fields) (b : Bill) : Bool := (c.get? b.id).any offersPayment

/-- The bill is stored with something to pay. -/
def payable (db : Database) (b : Bill) : Bool := payableIn (db.bills b.user b.kind) b

/-- The load has taken a snapshot that holds the bill with something to pay. -/
def LoadStage.holds (b : Bill) : LoadStage → Bool
  | .readRents cards => b.kind = .cards && payableIn cards b
  | .readTransactions cards rents | .setState cards rents =>
      payableIn (match b.kind with
        | .cards => cards
        | .rents => rents) b
  | .readCards | .done | .threw => false

/-- The page has, or is loading, a copy of the bill with something to pay. -/
def ViewData.holds (v : ViewData) (b : Bill) : Bool :=
  (v.cardList ++ v.rentList).any (fun t => t.bill = b && t.offers) ||
    v.user = b.user && v.load.holds b

/-- The load reads this kind of bill next. -/
def ViewData.reads (v : ViewData) (k : BillKind) : Bool :=
  match v.load with
  | .readCards => k = .cards
  | .readRents _ => k = .rents
  | .readTransactions _ _ | .setState _ _ | .done | .threw => false

/-- Nothing that the admin sees or has begun pays the bill. -/
structure Clear (s : State) (b : Bill) : Prop where
  views : ∀ v ∈ s.views, v.isOpen = true → v.holds b = false
  orders : ∀ o ∈ s.orders, o.bill = b → o.status ≠ .opened

instance (s : State) (b : Bill) : Decidable (Clear s b) :=
  decidable_of_iff ((∀ v ∈ s.views, v.isOpen = true → v.holds b = false) ∧
      ∀ o ∈ s.orders, o.bill = b → o.status ≠ .opened)
    ⟨fun all => ⟨all.1, all.2⟩, fun c => ⟨c.views, c.orders⟩⟩

/-- A tile's payment is reported only when, apart from its own order, nothing is left
    that would pay the bill, and an open page reads no bill to pay that was reported
    as paid. -/
def leavesNothingToPay (s : State) : Event → Bool
  | .gateway i status => !announces status || s.orders[i]?.all fun o =>
      Clear { s with orders := s.orders.set i { o with status } } o.bill
  | .getData i true => s.views[i]?.all fun v => !v.isOpen || s.reported.all fun b =>
      !(v.user = b.user && v.reads b.kind && payable s.db b)
  | _ => true

theorem tileOf_eq {k : BillKind} {d : Fields} {amount : String} (built : tileOf k d = some amount) :
    tileAmount d = some amount := by
  unfold tileOf at built
  split at built
  · exact built
  · cases built

/-- Every tile shows the balance of its bill in the snapshot. -/
theorem mem_buildTiles {u : Uid} {k : BillKind} {es : List (ℕ × Fields)} {t : Tile}
    (member : t ∈ (buildTiles u k es).1) :
    ∃ e ∈ es, t.bill = ⟨u, k, e.1⟩ ∧ tileAmount e.2 = some t.amount := by
  induction es with
  | nil => cases member
  | cons e es ih =>
      unfold buildTiles at member
      split at member
      · rename_i amount built
        rcases List.mem_cons.mp member with rfl | later
        · exact ⟨e, List.mem_cons_self, rfl, tileOf_eq built⟩
        · obtain ⟨e', inside, same⟩ := ih later
          exact ⟨e', List.mem_cons_of_mem e inside, same⟩
      · cases member

theorem payableIn_of_tile {u : Uid} {c : Collection ℕ Fields} {k : BillKind} {t : Tile}
    (member : t ∈ (buildTiles u k c.entries).1) (offers : t.offers = true) :
    t.bill.user = u ∧ t.bill.kind = k ∧ payableIn c t.bill = true := by
  obtain ⟨e, stored, bill, amount⟩ := mem_buildTiles member
  have found : c.get? e.1 = some e.2 := Collection.get?_eq_some.mpr stored
  rw [bill]
  refine ⟨rfl, rfl, ?_⟩
  simp only [payableIn, found, Option.any_some, offersPayment, amount]
  exact offers

/-! ## One step -/

theorem holds_iff {v : ViewData} {b : Bill} : v.holds b = true ↔
    (∃ t ∈ v.cardList ++ v.rentList, t.bill = b ∧ t.offers = true) ∨
      v.user = b.user ∧ v.load.holds b = true := by
  simp only [ViewData.holds, Bool.or_eq_true, List.any_eq_true, Bool.and_eq_true,
    decide_eq_true_eq]

theorem mem_fill {v : ViewData} {cards rents : Collection ℕ Fields} {t : Tile}
    (member : t ∈ (v.fill cards rents).cardList ++ (v.fill cards rents).rentList) :
    t ∈ v.cardList ++ v.rentList ∨ t ∈ (buildTiles v.user .cards cards.entries).1 ∨
      t ∈ (buildTiles v.user .rents rents.entries).1 := by
  unfold ViewData.fill at member
  simp only [List.mem_append] at member ⊢
  split at member <;> grind

/-- The callback builds tiles from what the load held. -/
theorem holds_of_fill {v : ViewData} {cards rents : Collection ℕ Fields} {b : Bill}
    (stage : v.load = .setState cards rents) (holds : (v.fill cards rents).holds b = true) :
    v.holds b = true := by
  rw [holds_iff] at holds ⊢
  rcases holds with ⟨t, member, rfl, offers⟩ | ⟨_, loading⟩
  · rcases mem_fill member with old | card | rent
    · exact .inl ⟨t, old, rfl, offers⟩
    · obtain ⟨user, kind, payable⟩ := payableIn_of_tile card offers
      right
      simp only [stage, LoadStage.holds, kind, payable, user, and_self]
    · obtain ⟨user, kind, payable⟩ := payableIn_of_tile rent offers
      right
      simp only [stage, LoadStage.holds, kind, payable, user, and_self]
  · have ended : (v.fill cards rents).load = .done ∨ (v.fill cards rents).load = .threw := by
      unfold ViewData.fill
      grind
    rcases ended with done | threw
    · rw [done] at loading
      cases loading
    · rw [threw] at loading
      cases loading

/-- Another stage of the load keeps the tiles. -/
theorem holds_of_load {v : ViewData} {load : LoadStage} {b : Bill}
    (holds : ({ v with load } : ViewData).holds b = true) :
    v.holds b = true ∨ v.user = b.user ∧ load.holds b = true := by
  rcases holds_iff.mp holds with tile | loading
  · exact .inl (holds_iff.mpr (.inl tile))
  · exact .inr loading

/-- A load only learns of a bill to pay from what it reads. -/
theorem holds_of_getData {db : Database} {v v' : ViewData} {ok : Bool} {b : Bill}
    (resumed : v.getData db ok = some v') (holds : v'.holds b = true) :
    v.holds b = true ∨
      ok = true ∧ v.user = b.user ∧ v.reads b.kind = true ∧ payable db b = true := by
  unfold ViewData.getData at resumed
  split at resumed
  · rename_i stage
    cases resumed
    rcases holds_of_load holds with held | ⟨user, loading⟩
    · exact .inl held
    · simp only [LoadStage.holds, Bool.and_eq_true, decide_eq_true_eq] at loading
      refine .inr ⟨rfl, user, ?_, ?_⟩
      · simp only [ViewData.reads, stage, loading.1, decide_true]
      · rw [payable, loading.1, ← user]
        exact loading.2
  · rename_i cards stage
    cases resumed
    rcases holds_of_load holds with held | ⟨user, loading⟩
    · exact .inl held
    · cases kind : b.kind with
      | cards =>
          simp only [LoadStage.holds, kind] at loading
          refine .inl (holds_iff.mpr (.inr ⟨user, ?_⟩))
          simp only [stage, LoadStage.holds, kind, loading, decide_true, Bool.and_self]
      | rents =>
          simp only [LoadStage.holds, kind] at loading
          refine .inr ⟨rfl, user, ?_, ?_⟩
          · simp only [ViewData.reads, stage, decide_true]
          · rw [payable, kind, ← user]
            exact loading
  · rename_i cards rents stage
    cases resumed
    rcases holds_of_load holds with held | ⟨user, loading⟩
    · exact .inl held
    · refine .inl (holds_iff.mpr (.inr ⟨user, ?_⟩))
      rw [stage]
      exact loading
  · rename_i cards rents stage
    split at resumed <;> cases resumed
    · exact .inl (holds_of_fill stage holds)
    · exact .inl ((holds_of_load holds).resolve_right fun loading => (nomatch loading.2))
  all_goals first
    | cases resumed
      exact .inl ((holds_of_load holds).resolve_right fun loading => (nomatch loading.2))
    | cases resumed

theorem isOpen_of_getData {db : Database} {v v' : ViewData} {ok : Bool}
    (resumed : v.getData db ok = some v') : v'.isOpen = v.isOpen := by
  unfold ViewData.getData ViewData.fill at resumed
  grind

variable {s s' : State}

/-- What the steps on the pages and at the gateway do. -/
theorem step_getData {i : ℕ} {ok : Bool} (stepped : step s (.getData i ok) = some s') :
    ∃ v v', s.views[i]? = some v ∧ v.getData s.db ok = some v' ∧
      s' = { s with views := s.views.set i v' } := by
  obtain ⟨v, found, rest⟩ := Option.bind_eq_some_iff.mp stepped
  obtain ⟨v', resumed, rest⟩ := Option.bind_eq_some_iff.mp rest
  exact ⟨v, v', found, resumed, (Option.some.inj rest).symm⟩

theorem step_selectTab {i : ℕ} {page : Tab} (stepped : step s (.selectTab i page) = some s') :
    ∃ v, s.views[i]? = some v ∧ s' = { s with views := s.views.set i { v with page } } := by
  obtain ⟨v, found, rest⟩ := Option.bind_eq_some_iff.mp stepped
  obtain ⟨_, _, rest⟩ := Option.bind_eq_some_iff.mp rest
  exact ⟨v, found, (Option.some.inj rest).symm⟩

theorem step_payNow {i n : ℕ} (stepped : step s (.payNow i n) = some s') :
    ∃ v t amount, s.views[i]? = some v ∧ t ∈ v.tiles ∧ v.isOpen = true ∧ t.offers = true ∧
      s' = { s with orders := s.orders ++ [⟨t.bill, amount, .opened⟩] } := by
  obtain ⟨v, found, rest⟩ := Option.bind_eq_some_iff.mp stepped
  obtain ⟨t, shown, rest⟩ := Option.bind_eq_some_iff.mp rest
  obtain ⟨_, guarded, rest⟩ := Option.bind_eq_some_iff.mp rest
  obtain ⟨amount, _, rest⟩ := Option.bind_eq_some_iff.mp rest
  obtain ⟨opened, offers⟩ := (Option.guard_eq_some' _).mp guarded
  exact ⟨v, t, amount, found, List.mem_of_getElem? shown, opened, offers,
    (Option.some.inj rest).symm⟩

theorem step_gateway {i : ℕ} {status : OrderStatus}
    (stepped : step s (.gateway i status) = some s') :
    ∃ o, s.orders[i]? = some o ∧ o.status = .opened ∧ status ≠ .opened ∧ s' = { s with
      orders := s.orders.set i { o with status }
      reported := if announces status then o.bill :: s.reported else s.reported } := by
  obtain ⟨o, found, rest⟩ := Option.bind_eq_some_iff.mp stepped
  obtain ⟨_, guarded, rest⟩ := Option.bind_eq_some_iff.mp rest
  obtain ⟨opened, closing⟩ := (Option.guard_eq_some' _).mp guarded
  exact ⟨o, found, opened, closing, (Option.some.inj rest).symm⟩

theorem step_leave {i : ℕ} (stepped : step s (.leave i) = some s') :
    ∃ v, s.views[i]? = some v ∧
      s' = { s with views := s.views.set i { v with isOpen := false } } := by
  obtain ⟨v, found, rest⟩ := Option.bind_eq_some_iff.mp stepped
  exact ⟨v, found, (Option.some.inj rest).symm⟩

theorem step_payments {e : Payments.Event} (stepped : step s (.payments e) = some s') :
    ∃ payments, Payments.step s.payments e = some payments ∧ s' = { s with
      payments
      reported := s.reported.filter fun b =>
        storedBalance payments.db b = storedBalance s.db b } := by
  obtain ⟨payments, taken, rest⟩ := Option.bind_eq_some_iff.mp stepped
  exact ⟨payments, taken, (Option.some.inj rest).symm⟩

/-- A step that replaces one page by a page that holds no more. -/
theorem Clear.set_view {b : Bill} {i : ℕ} {v v' : ViewData} (clear : Clear s b)
    (found : s.views[i]? = some v)
    (less : v'.isOpen = true → v'.holds b = true → v.isOpen = true ∧ v.holds b = true) :
    Clear { s with views := s.views.set i v' } b := by
  refine ⟨?_, clear.orders⟩
  intro w member opened
  rcases List.mem_or_eq_of_mem_set member with old | rfl
  · exact clear.views w old opened
  · rw [Bool.eq_false_iff]
    intro holds
    obtain ⟨opened, held⟩ := less opened holds
    rw [clear.views v (List.mem_of_getElem? found) opened] at held
    cases held

theorem holds_of_tile {v : ViewData} {t : Tile} (shown : t ∈ v.tiles) (offers : t.offers = true) :
    v.holds t.bill = true := by
  refine holds_iff.mpr (.inl ⟨t, List.mem_append.mpr ?_, rfl, offers⟩)
  unfold ViewData.tiles at shown
  split at shown
  · exact .inl shown
  · exact .inr shown
  · cases shown

/-- The bills that were reported as paid stay clear. -/
def AllClear (s : State) : Prop := ∀ b ∈ s.reported, Clear s b

theorem allClear_step {e : Event} (settled : leavesNothingToPay s e = true) (clear : AllClear s)
    (stepped : step s e = some s') : AllClear s' := by
  intro b member
  cases e with
  | openViewData user =>
      obtain rfl := Option.some.inj stepped
      obtain ⟨views, orders⟩ := clear b member
      exact ⟨forall_mem_concat views fun _ => Bool.and_false _, orders⟩
  | getData i ok =>
      obtain ⟨v, v', found, resumed, rfl⟩ := step_getData stepped
      apply (clear b member).set_view found
      intro opened holds
      have before : v.isOpen = true := isOpen_of_getData resumed ▸ opened
      rcases holds_of_getData resumed holds with held | ⟨rfl, user, reads, left⟩
      · exact ⟨before, held⟩
      · -- The page would read a bill that was reported as paid.
        simp only [leavesNothingToPay, found, Option.all_some, before, Bool.not_true,
          Bool.false_or, List.all_eq_true] at settled
        have none := settled b member
        simp only [user, decide_true, reads, left, Bool.and_self, Bool.not_true,
          Bool.false_eq_true] at none
  | selectTab i page =>
      obtain ⟨v, found, rfl⟩ := step_selectTab stepped
      exact (clear b member).set_view found fun opened holds => ⟨opened, holds⟩
  | payNow i n =>
      obtain ⟨v, t, amount, found, shown, opened, offers, rfl⟩ := step_payNow stepped
      obtain ⟨views, orders⟩ := clear b member
      refine ⟨views, forall_mem_concat orders fun mine => ?_⟩
      have held := holds_of_tile shown offers
      obtain rfl : t.bill = b := mine
      rw [views v (List.mem_of_getElem? found) opened] at held
      cases held
  | gateway i status =>
      obtain ⟨o, found, _, closing, rfl⟩ := step_gateway stepped
      have before : ∀ reported, b ∈ s.reported →
          Clear { s with orders := s.orders.set i { o with status }, reported } b := by
        intro reported old
        obtain ⟨views, orders⟩ := clear b old
        exact ⟨views, forall_mem_set orders fun _ => closing⟩
      cases verdict : announces status with
      | false =>
          simp only [verdict, Bool.false_eq_true, if_false] at member
          exact before _ member
      | true =>
          simp only [verdict, if_true] at member
          rcases List.mem_cons.mp member with rfl | old
          · simp only [leavesNothingToPay, verdict, found, Option.all_some, Bool.not_true,
              Bool.false_or, decide_eq_true_eq] at settled
            exact ⟨settled.views, settled.orders⟩
          · exact before _ old
  | leave i =>
      obtain ⟨v, found, rfl⟩ := step_leave stepped
      exact (clear b member).set_view found fun opened => by cases opened
  | payments e =>
      obtain ⟨payments, _, rfl⟩ := step_payments stepped
      have kept := clear b (List.mem_of_mem_filter member)
      exact ⟨kept.views, kept.orders⟩

theorem AllClear.offersNoneTwice (clear : AllClear s) : OffersNoneTwice s := by
  intro v member opened t shown reported
  rw [Bool.eq_false_iff]
  intro offers
  have held := holds_of_tile shown offers
  rw [(clear t.bill reported).views v member opened] at held
  cases held

theorem AllClear.paysOnce (clear : AllClear s) (e : Event) : paysOnce s e = true := by
  cases e with
  | gateway i status =>
      cases found : s.orders[i]? with
      | none => simp only [Admin.paysOnce, found, Option.all_none, Bool.or_true]
      | some o =>
          simp only [Admin.paysOnce, found, Option.all_some, Bool.or_eq_true, decide_eq_true_eq]
          right
          by_cases reported : o.bill ∈ s.reported
          · exact .inl ((clear o.bill reported).orders o (List.mem_of_getElem? found) rfl)
          · exact .inr reported
  | _ => rfl

/-- As long as a tile's payment is only reported for bills of which no open page has a
    payable copy and the gateway no other order, and no page reads a bill to pay that was
    reported as paid, no bill is paid twice, and none that was reported as paid offers to
    be paid again. -/
theorem no_bill_paid_twice {db : Database} {es : List Event}
    (settled : Meets step (fun s e => leavesNothingToPay s e) (.init db) es) :
    Always step OffersNoneTwice (.init db) es ∧
      Meets step (fun s e => paysOnce s e) (.init db) es := by
  have keep : ∀ s e t, leavesNothingToPay s e = true → AllClear s → step s e = some t →
      AllClear t := fun _ _ _ settled clear stepped => allClear_step settled clear stepped
  have start : AllClear (.init db) := fun _ none => nomatch none
  constructor
  · intro pre s before played
    exact (settled.always keep start pre s before played).offersNoneTwice
  · exact settled.trade keep (fun _ e _ clear => clear.paysOnce e) start

/-- The admin opens the page, waits for the load and presses PayNow. -/
def openAndPay : List Event := [.openViewData 0, .getData 0 true, .getData 0 true, .getData 0 true,
  .getData 0 true, .payNow 0 0]

/-- While the gateway is open, the admin leaves the page and the user pays; then
    the admin comes back. -/
def paidByUser : List Event := openAndPay ++ [.leave 0] ++
  (pressPayNow ++ succeedAndSettle).map .payments ++ [.gateway 0 (.success "pay_2"),
    .openViewData 0, .getData 1 true, .getData 1 true, .getData 1 true, .getData 1 true]

theorem bill_settled_by_user_not_offered_again :
    (run step (.init oneCard) paidByUser).isSome = true ∧
    Always step OffersNoneTwice (.init oneCard) paidByUser ∧
      Meets step (fun s e => paysOnce s e) (.init oneCard) paidByUser :=
  ⟨by decide +kernel, no_bill_paid_twice (by decide +kernel)⟩

/-- The tile still offers to pay the card that was just paid, and a second payment
    of the same 1000 is reported. -/
theorem tile_pays_card_twice :
    (run step (.init oneCard) (openAndPay ++ [.gateway 0 (.success "pay_1"), .payNow 0 0,
      .gateway 1 (.success "pay_2")])).isSome = true ∧
    ¬ Always step OffersNoneTwice (.init oneCard) (openAndPay ++ [.gateway 0 (.success "pay_1"),
      .payNow 0 0, .gateway 1 (.success "pay_2")]) ∧
    ¬ Meets step (fun s e => paysOnce s e) (.init oneCard) (openAndPay ++
      [.gateway 0 (.success "pay_1"), .payNow 0 0, .gateway 1 (.success "pay_2")]) := by
  decide +kernel

end Udhar.Admin
