import Udhar.Payments.Totals

/-! # The ledger and the gateway

Each payment that the page announces as a success should end as one document of
the user's `Transactions`, with the amount the gateway charged. The recorded
amount is the page's total at the time of the success event, and the external
wallet handler announces a success without recording anything; the ledger agrees
with the gateway exactly in the runs that avoid both.
-/

namespace Udhar.Payments

open Lib Dart

variable {s s' : State}

/-- The documents of the user's `Transactions` that record a payment. -/
def receipts (db : Database) (u : Uid) (paymentId : String) : List (ℕ × Fields) :=
  (db.docs u .transactions).entries.filter (·.2 "paymentID" = some (.string paymentId))

/-- The amount that a document records is what the order charged. -/
def agrees (d : Fields) (o : Order) : Bool :=
  match d "amount" with
  | some (.string amount) => (Double.denoted amount).any (·.times100 = o.amount)
  | _ => false

/-- The payment of the order at `i` has its one document, or the settlement that
    writes it still waits for the write. -/
def State.accounted (s : State) (i : ℕ) (o : Order) : Bool :=
  match o.status with
  | .success paymentId =>
      match receipts s.db o.user paymentId with
      | [] => s.settlements.any fun t =>
          t.order = i && t.stage = .record && agrees t.transactionData o
      | [e] => agrees e.2 o
      | _ => false
  | _ => false

/-- All payments announced to a user are accounted for. -/
def State.LedgerAgrees (s : State) : Prop :=
  ∀ i o, s.orders[i]? = some o → o.announced = true → s.accounted i o = true

/-- The remote operation of the event succeeds. -/
def Event.succeeds : Event → Bool
  | .fetch _ ok | .settle _ ok | .save _ ok => ok
  | _ => true

/-- No external wallet pays, and a success finds the total that its order
    charged still on the page. -/
def totalStillCharged (s : State) : Event → Bool
  | .externalWallet _ _ => false
  | .paymentSuccess i _ _ => s.orders[i]?.all fun o =>
      s.pages[o.page]?.all fun page => page.totalBalance.times100 = o.amount
  | _ => true

theorem announced_iff (o : Order) : o.announced = true ↔
    (∃ paymentId, o.status = .success paymentId) ∨ ∃ walletName,
      o.status = .externalWallet walletName := by
  cases o with
  | mk page user amount name status =>
      cases status with
      | opened => simp [Order.announced, OrderStatus.toast]
      | success => simp [Order.announced, OrderStatus.toast]
      | error => simp [Order.announced, OrderStatus.toast]
      | externalWallet => simp [Order.announced, OrderStatus.toast]

/-! ## Receipts -/

theorem receipts_add_bill (db : Database) (u v : Uid) (k : BillKind) (d : Fields)
    (paymentId : String) :
    receipts (db.add v (.bills k) d) u paymentId = receipts db u paymentId := by
  simp only [receipts, Database.docs_add_of_ne db v (.bills k) (v := u)
    (b := .transactions) d (by simp)]

theorem receipts_updateBills (db : Database) (u v : Uid) (k : BillKind) (ids : List ℕ)
    (entries : List (String × Value)) (paymentId : String) :
    receipts (db.updateDocs v (.bills k) ids entries) u paymentId =
      receipts db u paymentId := by
  simp only [receipts, Database.docs_updateDocs_of_ne db v (.bills k) (v := u)
    (b := .transactions) ids entries (by simp)]

theorem receipts_record (db : Database) (u : Uid) {d : Fields} {paymentId : String}
    (recorded : d "paymentID" = some (.string paymentId)) :
    receipts (db.add u .transactions d) u paymentId =
      receipts db u paymentId ++ [(db.store.nextId, d)] := by
  simp [receipts, recorded]

theorem receipts_record_of_ne (db : Database) {u v : Uid} {d : Fields} {paymentId : String}
    (other : v ≠ u ∨ d "paymentID" ≠ some (.string paymentId)) :
    receipts (db.add u .transactions d) v paymentId =
      receipts db v paymentId := by
  by_cases same : v = u
  · subst same
    have apart := other.resolve_left (fun foreign => foreign rfl)
    simp [receipts, apart]
  · simp only [receipts, Database.docs_add_of_ne db u .transactions (v := v)
      (b := .transactions) d (by simp [same])]

/-! ## Bookkeeping of the settlements -/

/-- The amounts that `toString` writes out exactly. -/
def printable : AddSubmonoid Double where
  carrier := {x | x.Printable}
  zero_mem' := ⟨0, by simp⟩
  add_mem' := by
    intro x y xs ys
    cases x with
    | finite p =>
        cases y with
        | finite q => exact Numeral.IsDecimal.add xs ys
        | infinity | nan => trivial
    | infinity s =>
        cases y with
        | finite | nan => trivial
        | infinity t =>
            change Double.Printable (if s = t then _ else _)
            split <;> trivial
    | nan => trivial

theorem reads_printable (db : Database) (u : Uid) (k : BillKind) (x : Double)
    (total : fetchTotal db u k = some x) : x ∈ printable := by
  refine fetchTotal_mem ?_ total
  intro e _ y parsed
  unfold Fields.balance? at parsed
  split at parsed
  · exact Double.parse_printable parsed
  · cases parsed

/-- What the run knows of each settlement: which successful order it belongs to,
    and whether its document has been written. -/
structure Booked (s : State) : Prop where
  totals : s.TotalsIn printable
  booked : ∀ t ∈ s.settlements, ∃ o paymentId amount now, s.orders[t.order]? = some o ∧
    o.user = t.user ∧ o.status = .success paymentId ∧ t.transactionData = .ofList
      [("paymentID", .string paymentId), ("amount", .string amount), ("dateTime", .string now)]
  distinct : ∀ (i j : ℕ) (t t' : Settlement), s.settlements[i]? = some t →
    s.settlements[j]? = some t' →
    t.transactionData "paymentID" = t'.transactionData "paymentID" → i = j
  settling : ∀ i o paymentId, s.orders[i]? = some o → o.status = .success paymentId →
    ∃ t ∈ s.settlements, t.order = i
  written : ∀ t ∈ s.settlements, ∀ paymentId,
    t.transactionData "paymentID" = some (.string paymentId) →
    if t.stage = .record then receipts s.db t.user paymentId = []
    else ∃ k, receipts s.db t.user paymentId = [(k, t.transactionData)]

namespace Booked

theorem init (db : Database) : Booked (State.init db) where
  totals := .init db
  booked _ member := nomatch member
  distinct i j t t' found := by cases found
  settling i o paymentId found := by cases found
  written _ member := nomatch member

/-- The order of a settlement has its verdict, so later steps leave it alone. -/
theorem booked_step {e : Event} (booked : Booked s) (stepped : step s e = some s') {t : Settlement}
    (member : t ∈ s.settlements) : ∃ o paymentId amount now, s'.orders[t.order]? = some o ∧
      o.user = t.user ∧ o.status = .success paymentId ∧ t.transactionData = .ofList
        [("paymentID", .string paymentId), ("amount", .string amount),
          ("dateTime", .string now)] := by
  obtain ⟨o, paymentId, amount, now, found, user, success, data⟩ := booked.booked t member
  exact ⟨o, paymentId, amount, now, step_closed stepped found (by simp [success]), user, success,
    data⟩

/-- A step that reports no success and keeps settlements and receipts. -/
theorem of_same {e : Event} (booked : Booked s) (stepped : step s e = some s')
    (silent : ∀ i paymentId, e.closes ≠ some (i, .success paymentId))
    (settlements : s'.settlements = s.settlements)
    (written : ∀ u paymentId, receipts s'.db u paymentId = receipts s.db u paymentId) :
    Booked s' where
  totals := booked.totals.preserved (reads_printable s.db) stepped
  booked := by
    rw [settlements]
    exact fun t member => booked.booked_step stepped member
  distinct := by
    rw [settlements]
    exact booked.distinct
  settling := by
    rw [settlements]
    intro i o paymentId found success
    rcases step_order_origin stepped found with old | opened | closes
    · exact booked.settling i o paymentId old success
    · rw [success] at opened
      cases opened
    · rw [success] at closes
      exact absurd closes (silent i paymentId)
  written := by
    rw [settlements]
    intro t member paymentId paid
    rw [written]
    exact booked.written t member paymentId paid

/-- A payment id that was never used is in no order, settlement or document. -/
theorem unused (booked : Booked s) {u : Uid} {paymentId : String}
    (fresh : s.usedPaymentId u paymentId = false) :
    (∀ t ∈ s.settlements, t.transactionData "paymentID" ≠ some (.string paymentId)) ∧
      receipts s.db u paymentId = [] := by
  simp only [State.usedPaymentId, Bool.or_eq_false_iff, List.any_eq_false, decide_eq_true_eq]
    at fresh
  constructor
  · intro t member same
    obtain ⟨o, paymentId', _, _, found, _, success, data⟩ := booked.booked t member
    rw [data] at same
    have sameId : paymentId' = paymentId := Value.string.inj (Option.some.inj same)
    exact fresh.1 o (List.mem_of_getElem? found) (sameId ▸ success)
  · exact List.filter_eq_nil_iff.mpr fun e member => by simpa using fresh.2 e member

theorem success {i : ℕ} {paymentId now : String} (booked : Booked s)
    (stepped : step s (.paymentSuccess i paymentId now) = some s') : Booked s' := by
  have totals := booked.totals.preserved (reads_printable s.db) stepped
  have settling : ∀ j o id, s'.orders[j]? = some o → o.status = .success id →
      s.orders[j]? = some o ∨ j = i := by
    intro j o id found success
    rcases step_order_origin stepped found with old | opened | closes
    · exact .inl old
    · rw [success] at opened
      cases opened
    · exact .inr (Prod.mk.inj (Option.some.inj closes)).1.symm
  have earlier := fun t => booked.booked_step (t := t) stepped
  obtain ⟨o, page, found, opened, shown, fresh, rfl⟩ := step_paymentSuccess stepped
  obtain ⟨unpaid, unrecorded⟩ := booked.unused fresh
  refine ⟨totals, ?_, ?_, ?_, ?_⟩
  · exact forall_mem_concat earlier ⟨_, paymentId, _, now,
      List.getElem?_set_self (List.getElem?_eq_some_iff.mp found).1, rfl, rfl, rfl⟩
  · intro j k t t' here there same
    rw [List.getElem?_append] at here there
    split at here
    · split at there
      · exact booked.distinct j k t t' here there same
      · obtain rfl := List.mem_singleton.mp (List.mem_of_getElem? there)
        exact absurd same (unpaid t (List.mem_of_getElem? here))
    · split at there
      · obtain rfl := List.mem_singleton.mp (List.mem_of_getElem? here)
        exact absurd same.symm (unpaid t' (List.mem_of_getElem? there))
      · have first := (List.getElem?_eq_some_iff.mp here).1
        have second := (List.getElem?_eq_some_iff.mp there).1
        simp only [List.length_singleton] at first second
        omega
  · intro j o' id found' success
    rcases settling j o' id found' success with old | rfl
    · obtain ⟨t, member, order⟩ := booked.settling j o' id old success
      exact ⟨t, List.mem_append_left _ member, order⟩
    · exact ⟨_, List.mem_append_right _ (List.mem_singleton_self _), rfl⟩
  · apply forall_mem_concat booked.written
    intro id paid
    obtain rfl : paymentId = id := Value.string.inj (Option.some.inj paid)
    exact unrecorded

/-- Only the write of its document touches a user's receipts, and only those of
    this payment. -/
theorem receipts_of_move {db db' : Database} {page page' : PaymentForm} {t t' : Settlement}
    (move : t.Move db page true db' page' t') (u : Uid) {paymentId : String}
    (other : t.stage ≠ .record ∨ u ≠ t.user ∨
      t.transactionData "paymentID" ≠ some (.string paymentId)) :
    receipts db' u paymentId = receipts db u paymentId := by
  cases move with
  | record stage =>
      exact receipts_record_of_ne db (other.resolve_left (fun differs => differs stage))
  | commit => exact receipts_updateBills _ _ _ _ _ _ _
  | read | reset | threw => rfl

/-- A settlement that has moved has its document stored. -/
theorem receipts_moved {db db' : Database} {page page' : PaymentForm} {t t' : Settlement}
    (move : t.Move db page true db' page' t') {paymentId : String}
    (paid : t.transactionData "paymentID" = some (.string paymentId))
    (before : if t.stage = .record then receipts db t.user paymentId = []
      else ∃ k, receipts db t.user paymentId = [(k, t.transactionData)]) :
    if t'.stage = .record then receipts db' t.user paymentId = []
    else ∃ k, receipts db' t.user paymentId = [(k, t.transactionData)] := by
  by_cases waiting : t.stage = .record
  · rw [if_pos waiting] at before
    cases move with
    | record =>
        rw [if_neg (by simp), receipts_record db t.user paid, before]
        exact ⟨_, rfl⟩
    | read k stage => cases k <;> cases waiting.symm.trans stage
    | commit k stage => cases k <;> cases waiting.symm.trans stage
    | reset stage => cases waiting.symm.trans stage
    | threw failed =>
        rcases failed with no | ⟨k, ids, stage, _⟩
        · cases no
        · cases k <;> cases waiting.symm.trans stage
  · have moved : t'.stage ≠ .record := by
      cases move with
      | read k => cases k <;> simp [SettleStage.commit]
      | commit k => cases k <;> simp [SettleStage.after]
      | record | reset | threw => simp
    rw [if_neg waiting] at before
    rw [if_neg moved, receipts_of_move move t.user (.inl waiting)]
    exact before

theorem settle {i : ℕ} (booked : Booked s) (stepped : step s (.settle i true) = some s') :
    Booked s' := by
  have totals := booked.totals.preserved (reads_printable s.db) stepped
  have earlier := fun t => booked.booked_step (t := t) stepped
  obtain ⟨t, page, db', page', t', found, _, advanced, rfl⟩ := step_settle stepped
  have move := Settlement.advance_move advanced
  obtain ⟨user, order, _, data, _⟩ := move.same
  have member := List.mem_of_getElem? found
  have inside := (List.getElem?_eq_some_iff.mp found).1
  -- Reading an entry of the updated list back as one of the old list.
  have stood : ∀ (j : ℕ) (r : Settlement), (s.settlements.set i t')[j]? = some r →
      ∃ r₀, s.settlements[j]? = some r₀ ∧ r₀.transactionData = r.transactionData := by
    intro j r there
    by_cases same : i = j
    · subst same
      rw [List.getElem?_set_self inside] at there
      obtain rfl := Option.some.inj there
      exact ⟨t, found, data.symm⟩
    · rw [List.getElem?_set_ne same] at there
      exact ⟨r, there, rfl⟩
  refine ⟨totals, ?_, ?_, ?_, ?_⟩
  · apply forall_mem_set earlier
    rw [order, user, data]
    exact earlier t member
  · intro j k r r' here there same
    obtain ⟨r₀, old, data₀⟩ := stood j r here
    obtain ⟨r₁, old', data₁⟩ := stood k r' there
    exact booked.distinct j k r₀ r₁ old old' (by rw [data₀, data₁]; exact same)
  · intro j o id foundOrder success
    obtain ⟨r, inOld, orderIs⟩ := booked.settling j o id foundOrder success
    obtain ⟨k, there⟩ := List.mem_iff_getElem?.mp inOld
    by_cases same : i = k
    · subst same
      obtain rfl := Option.some.inj (found.symm.trans there)
      exact ⟨t', List.mem_of_getElem? (List.getElem?_set_self inside), order.trans orderIs⟩
    · refine ⟨r, List.mem_of_getElem? (i := k) ?_, orderIs⟩
      rwa [List.getElem?_set_ne same]
  · intro r inNew id paid
    obtain ⟨j, there⟩ := List.mem_iff_getElem?.mp inNew
    by_cases same : i = j
    · subst same
      rw [List.getElem?_set_self inside] at there
      obtain rfl := Option.some.inj there
      rw [data] at paid
      rw [user, data]
      exact receipts_moved move paid (booked.written t member id paid)
    · rw [List.getElem?_set_ne same] at there
      have before := booked.written r (List.mem_of_getElem? there) id paid
      have other : t.transactionData "paymentID" ≠ some (.string id) := by
        intro equal
        exact same (booked.distinct i j t r found there (equal.trans paid.symm))
      rw [receipts_of_move move r.user (.inr (.inr other))]
      exact before

theorem preserved {e : Event} (succeeds : e.succeeds = true) (booked : Booked s)
    (stepped : step s e = some s') : Booked s' := by
  cases e with
  | paymentSuccess => exact booked.success stepped
  | settle i ok =>
      obtain rfl : ok = true := succeeds
      exact booked.settle stepped
  | save =>
      have silent : ∀ i paymentId, (none : Option (ℕ × OrderStatus)) ≠
          some (i, .success paymentId) := by simp
      obtain ⟨b, db', b', found, advanced, same⟩ := step_save stepped
      apply booked.of_same stepped silent (by rw [same])
      obtain ⟨_, ⟨_, rfl, _⟩ | ⟨_, rfl, _⟩⟩ := BillSave.advance_cases advanced
      · subst same
        exact fun u paymentId => receipts_add_bill s.db u b.user b.kind b.data paymentId
      · subst same
        exact fun u paymentId => rfl
  | openPage | payNow | paymentError | externalWallet | fetch | validateCard | submitRent =>
      obtain ⟨db, settlements⟩ := step_quiet rfl stepped
      refine booked.of_same stepped ?_ settlements ?_
      · simp [Event.closes]
      · rw [db]
        exact fun u paymentId => rfl

end Booked

/-! ## Agreement -/

/-- The settlement records, or has recorded, what its order charged. -/
def State.RecordsCharge (s : State) (t : Settlement) : Prop :=
  ∀ o, s.orders[t.order]? = some o → agrees t.transactionData o = true

/-- Seen from the settlements, the ledger agrees when no external wallet paid
    and every settlement records the amount of its order. -/
theorem Booked.ledgerAgrees_iff (booked : Booked s) : s.LedgerAgrees ↔
    (∀ o ∈ s.orders, ∀ walletName, o.status ≠ .externalWallet walletName) ∧
      ∀ t ∈ s.settlements, s.RecordsCharge t := by
  constructor
  · intro agree
    constructor
    · intro o member walletName paid
      obtain ⟨i, found⟩ := List.mem_iff_getElem?.mp member
      have accounted := agree i o found ((announced_iff o).mpr (.inr ⟨_, paid⟩))
      rw [State.accounted, paid] at accounted
      cases accounted
    · intro t member o found
      obtain ⟨o', paymentId, amount, now, found', user, success, data⟩ := booked.booked t member
      obtain rfl := Option.some.inj (found.symm.trans found')
      have accounted := agree t.order o found ((announced_iff o).mpr (.inl ⟨_, success⟩))
      have paid : t.transactionData "paymentID" = some (.string paymentId) := by
        rw [data]
        rfl
      have written := booked.written t member paymentId paid
      rw [State.accounted, success] at accounted
      simp only [user] at accounted
      split at written
      · rw [written] at accounted
        simp only [List.any_eq_true, Bool.and_eq_true, decide_eq_true_eq] at accounted
        obtain ⟨t', member', ⟨order, _⟩, agreed⟩ := accounted
        -- Only one settlement carries this payment id, so it is the one that agrees.
        obtain ⟨o'', paymentId', _, _, foundThere, _, success', data'⟩ :=
          booked.booked t' member'
        rw [order, found] at foundThere
        obtain rfl := Option.some.inj foundThere
        obtain rfl : paymentId = paymentId' := by
          rw [success] at success'
          exact OrderStatus.success.inj success'
        obtain ⟨i, here⟩ := List.mem_iff_getElem?.mp member
        obtain ⟨j, there⟩ := List.mem_iff_getElem?.mp member'
        obtain rfl := booked.distinct i j t t' here there (by rw [paid, data']; rfl)
        obtain rfl := Option.some.inj (here.symm.trans there)
        exact agreed
      · obtain ⟨k, alone⟩ := written
        rw [alone] at accounted
        exact accounted
  · rintro ⟨noWallet, charge⟩ i o found announced
    rcases (announced_iff o).mp announced with ⟨paymentId, success⟩ | ⟨walletName, paid⟩
    · obtain ⟨t, member, rfl⟩ := booked.settling i o paymentId found success
      obtain ⟨o', paymentId', _, _, found', user, success', data⟩ := booked.booked t member
      obtain rfl := Option.some.inj (found.symm.trans found')
      obtain rfl : paymentId = paymentId' := by
        rw [success] at success'
        exact OrderStatus.success.inj success'
      have written := booked.written t member paymentId (by rw [data]; rfl)
      rw [State.accounted, success]
      simp only [user]
      split at written
      · rename_i waiting
        rw [written]
        simp only [List.any_eq_true, Bool.and_eq_true, decide_eq_true_eq]
        exact ⟨t, member, ⟨rfl, waiting⟩, charge t member o found⟩
      · obtain ⟨k, alone⟩ := written
        rw [alone]
        exact charge t member o found
    · exact absurd paid (noWallet o (List.mem_of_getElem? found) walletName)

/-- A document written at a success records the charge exactly if the page still
    shows the total that was charged. -/
theorem agrees_transactionData {page : PaymentForm} (shown : page.totalBalance ∈ printable)
    (paymentId now : String) (o : Order) :
    agrees (transactionData page paymentId now) o = true ↔
      page.totalBalance.times100 = o.amount := by
  have parsed := Double.denoted_toString (x := page.totalBalance) shown
  have amount : transactionData page paymentId now "amount" =
      some (.string page.totalBalance.toString) := rfl
  simp only [agrees, amount, parsed, Option.any_some, decide_eq_true_eq]

theorem noWallet_kept {e : Event} (stepped : step s e = some s')
    (silent : ∀ i walletName, e.closes ≠ some (i, .externalWallet walletName))
    (noWallet : ∀ o ∈ s.orders, ∀ walletName, o.status ≠ .externalWallet walletName) :
    ∀ o ∈ s'.orders, ∀ walletName, o.status ≠ .externalWallet walletName := by
  intro o member walletName paid
  obtain ⟨i, found⟩ := List.mem_iff_getElem?.mp member
  rcases step_order_origin stepped found with old | opened | closes
  · exact noWallet o (List.mem_of_getElem? old) walletName paid
  · rw [paid] at opened
    cases opened
  · exact silent i walletName (by rw [closes, paid])

theorem Booked.recordsCharge_kept {e : Event} (booked : Booked s) (stepped : step s e = some s')
    (t t' : Settlement) (member : t ∈ s.settlements) (order : t'.order = t.order)
    (data : t'.transactionData = t.transactionData) (charge : s.RecordsCharge t) :
    s'.RecordsCharge t' := by
  intro o found
  obtain ⟨o', _, _, _, found', _, success, _⟩ := booked.booked t member
  have still := step_closed stepped found' (by simp [success])
  rw [order, still] at found
  obtain rfl := Option.some.inj found
  rw [data]
  exact charge o' found'

/-- A step lets the ledger fall behind exactly if it is the report of an external
    wallet, or of a success whose order charged another total. -/
theorem Booked.step_ledgerAgrees_iff {e : Event} (booked : Booked s)
    (succeeds : e.succeeds = true) (agree : s.LedgerAgrees) (stepped : step s e = some s') :
    s'.LedgerAgrees ↔ totalStillCharged s e = true := by
  have booked' := booked.preserved succeeds stepped
  obtain ⟨noWallet, charge⟩ := booked.ledgerAgrees_iff.mp agree
  rw [booked'.ledgerAgrees_iff]
  cases e with
  | externalWallet i walletName =>
      obtain ⟨o, found, _, rfl⟩ := close_eq_some stepped
      simp only [totalStillCharged, Bool.false_eq_true, iff_false, not_and]
      intro noWallet' _
      have inside := (List.getElem?_eq_some_iff.mp found).1
      exact noWallet' _ (List.mem_of_getElem? (List.getElem?_set_self inside)) walletName rfl
  | paymentSuccess i paymentId now =>
      have noWallet' := noWallet_kept stepped (by simp [Event.closes]) noWallet
      have kept := fun t member => booked.recordsCharge_kept stepped t t member rfl rfl
      obtain ⟨o, page, found, _, shown, _, rfl⟩ := step_paymentSuccess stepped
      have total := (booked.totals.pages page (List.mem_of_getElem? shown)).1
      have recorded := agrees_transactionData total paymentId now
        { o with status := .success paymentId }
      have inside := (List.getElem?_eq_some_iff.mp found).1
      simp only [totalStillCharged, found, shown, Option.all_some, decide_eq_true_eq]
      constructor
      · rintro ⟨_, all⟩
        exact recorded.mp (all _ (List.mem_append_right _ (List.mem_singleton_self _)) _
          (List.getElem?_set_self inside))
      · intro same
        refine ⟨noWallet', fun t member => ?_⟩
        rcases List.mem_append.mp member with old | new
        · exact kept t old (charge t old)
        · obtain rfl := List.mem_singleton.mp new
          intro o' found'
          simp only [List.getElem?_set_self inside] at found'
          obtain rfl := Option.some.inj found'
          exact recorded.mpr same
  | settle i ok =>
      have kept := booked.recordsCharge_kept stepped
      refine iff_of_true ⟨noWallet_kept stepped (by simp [Event.closes]) noWallet, ?_⟩ rfl
      obtain ⟨t, page, db', page', t', found, _, advanced, rfl⟩ := step_settle stepped
      obtain ⟨_, order, _, data, _⟩ := (Settlement.advance_move advanced).same
      have member := List.mem_of_getElem? found
      intro r inNew
      rcases List.mem_or_eq_of_mem_set inNew with old | rfl
      · exact kept r r old rfl rfl (charge r old)
      · exact kept t r member order data (charge t member)
  | save =>
      have kept := booked.recordsCharge_kept stepped
      refine iff_of_true ⟨noWallet_kept stepped (by simp [Event.closes]) noWallet, ?_⟩ rfl
      obtain ⟨_, _, _, _, _, rfl⟩ := step_save stepped
      exact fun r old => kept r r old rfl rfl (charge r old)
  | openPage | payNow | paymentError | fetch | validateCard | submitRent =>
      refine iff_of_true ⟨noWallet_kept stepped (by simp [Event.closes]) noWallet, ?_⟩ rfl
      rw [(step_quiet rfl stepped).2]
      exact fun r old => booked.recordsCharge_kept stepped r r old rfl rfl (charge r old)

/-- When all remote operations succeed, the ledger agrees with the gateway all
    the way exactly if no external wallet reports and every success event finds
    on its page the total that its order charged. -/
theorem ledger_agrees_iff_total_still_charged {db : Database} {es : List Event}
    (played : run step (State.init db) es = some s) (succeed : ∀ e ∈ es, e.succeeds = true) :
    Always step State.LedgerAgrees (State.init db) es ↔
      Meets step (fun s e => totalStillCharged s e) (State.init db) es :=
  always_iff_meets (I := Booked) (E := fun e => e.succeeds = true)
    (fun _ _ _ succeeds booked _ stepped => booked.preserved succeeds stepped)
    (fun _ _ _ succeeds booked agree stepped => booked.step_ledgerAgrees_iff succeeds agree stepped)
    played succeed (Booked.init db) (fun i o found => by cases found)

theorem ledger_agrees_after_one_payment :
    (∃ s, run step (State.init oneCard) (pressPayNow ++ succeedAndSettle) = some s) ∧
      Always step State.LedgerAgrees (State.init oneCard) (pressPayNow ++ succeedAndSettle) := by
  obtain ⟨s, played, _⟩ := run_reaches step (State.init oneCard) (pressPayNow ++ succeedAndSettle)
    (P := fun _ => True) (by decide +kernel)
  exact ⟨⟨s, played⟩, (ledger_agrees_iff_total_still_charged played (by decide)).mpr
    (by decide +kernel)⟩

theorem exists_not_ledgerAgrees {db : Database} {es : List Event}
    (evaluated : (run step (State.init db) es).any (fun s => decide
      (s.orders[0]?.any (fun o => o.announced && !s.accounted 0 o) = true)) = true) :
    ∃ s, run step (State.init db) es = some s ∧ ¬ s.LedgerAgrees := by
  obtain ⟨s, played, some⟩ := run_reaches _ _ _ evaluated
  refine ⟨s, played, fun agree => ?_⟩
  obtain ⟨o, found, bad⟩ := (Option.any_eq_true _ _).mp some
  simp only [Bool.and_eq_true, Bool.not_eq_true'] at bad
  rw [agree 0 o found bad.1] at bad
  cases bad.2

/-- An external wallet pays and no document is ever written; and a card saved
    while the gateway is open makes a payment of 1000 a document of 2000. -/
theorem announced_payments_are_missing_or_misrecorded :
    (∃ s, run step (State.init oneCard) (pressPayNow ++ [.externalWallet 0 "paytm"]) = some s ∧
      ¬ s.LedgerAgrees) ∧
    ∃ s, run step (State.init oneCard) (pressPayNow ++
        [.validateCard 0 ⟨"5555 5555 5555 4444", "01/28", "ASHA", "321"⟩ true, .save 0 true,
          .fetch 2 true, .fetch 2 true, .fetch 2 true, .fetch 2 true] ++
        succeedAndSettle) = some s ∧ ¬ s.LedgerAgrees :=
  ⟨exists_not_ledgerAgrees (by decide +kernel), exists_not_ledgerAgrees (by decide +kernel)⟩

end Udhar.Payments
