import Udhar.Payments.Owners
import Udhar.Payments.Totals
import Mathlib.Algebra.Order.Field.Rat

/-! # Chargeable balances

The gateway charges whole paise, so a stored balance should be the text of a
finite amount that is not negative and has at most two decimals. Cards are saved
with a fixed balance and settlements write `0`; the rent form accepts any text
that is not empty, and the balances stay chargeable exactly as long as the rents
that are saved are.
-/

namespace Udhar.Payments

open Lib Dart

variable {s s' : State}

/-- Finite, not negative, at most two decimals. -/
def isWholePaise : Double → Bool
  | .finite q => 0 ≤ q && (q * 100).den = 1
  | _ => false

theorem isWholePaise_iff {x : Double} :
    isWholePaise x = true ↔ ∃ n : ℕ, x = .finite ((n : ℚ) / 100) := by
  constructor
  · intro whole
    cases x with
    | finite q =>
        simp only [isWholePaise, Bool.and_eq_true, decide_eq_true_eq] at whole
        obtain ⟨nonneg, integral⟩ := whole
        have number : ((q * 100).num : ℚ) = q * 100 := Rat.coe_int_num_of_den_eq_one integral
        have positive : 0 ≤ (q * 100).num := Rat.num_nonneg.mpr (by positivity)
        obtain ⟨n, same⟩ := Int.eq_ofNat_of_zero_le positive
        refine ⟨n, congrArg Double.finite ?_⟩
        rw [same] at number
        rw [eq_div_iff (by norm_num), ← number]
        rfl
    | infinity | nan => cases whole
  · rintro ⟨n, rfl⟩
    have paise : (n : ℚ) / 100 * 100 = n := div_mul_cancel₀ _ (by norm_num)
    simp only [isWholePaise, paise, Rat.den_natCast, decide_true, Bool.and_true, decide_eq_true_eq]
    exact div_nonneg n.cast_nonneg (by norm_num)

/-- The amounts the gateway can charge. -/
def wholePaise : AddSubmonoid Double where
  carrier := {x | ∃ n : ℕ, x = .finite ((n : ℚ) / 100)}
  zero_mem' := ⟨0, by simp [Double.zero_def]⟩
  add_mem' := by
    rintro x y ⟨m, rfl⟩ ⟨n, rfl⟩
    exact ⟨m + n, by simp [add_div]⟩

theorem times100_of_wholePaise {x : Double} (whole : x ∈ wholePaise) :
    ∃ n : ℕ, x.times100 = .finite n := by
  obtain ⟨n, rfl⟩ := whole
  exact ⟨n, congrArg Double.finite (div_mul_cancel₀ _ (by norm_num))⟩

/-- The bill's balance is the text of an amount in whole paise. -/
def chargeable (d : Fields) : Bool := d.balance?.any isWholePaise

theorem chargeable_iff {d : Fields} :
    chargeable d = true ↔ ∃ x, d.balance? = some x ∧ x ∈ wholePaise := by
  simp only [chargeable, Option.any_eq_true, isWholePaise_iff]
  rfl

theorem chargeable_cardData (form : CardForm) : chargeable form.cardData = true := by
  have thousand : Double.parse "1000" = some (.finite 1000) := by decide +kernel
  have balance : form.cardData.balance? = some (.finite 1000) := thousand
  rw [chargeable, balance]
  decide +kernel

theorem chargeable_paid (d : Fields) : chargeable (d.update paid) = true := by
  rw [chargeable, balance_paid]
  decide +kernel

/-! ## The admin's tiles -/

/-- The balance that `getData` hands to a `Tile2`: `none` where a balance that is
    no string throws, and the text of `null` where there is none. -/
def tileAmount (d : Fields) : Option String :=
  match d "balance" with
  | some (.string amount) => some amount
  | none | some .null => some "null"
  | some (.bool _) | some (.number _) => none

/-- `build` of a `Tile2`: whether it shows a PayNow button, `none` where it throws. -/
def tileBuild (amount : String) : Option Bool := (Double.parse amount).map (· ≠ 0)

/-- The order amount that `makePayment` of a `Tile2` asks for. -/
def tileMakePayment (amount : String) : Option Double := (Double.parse amount).map Double.times100

/-! ## The states in which everything can be charged -/

/-- All stored balances are chargeable; so no balance screen and no tile throws,
    and all orders are for a whole number of paise. -/
structure State.Chargeable (s : State) : Prop where
  stored : ∀ u k, ∀ e ∈ (s.db.bills u k).entries, ∃ x, e.2.balance? = some x ∧ x ∈ wholePaise
  reads : ∀ u k, (fetchTotal s.db u k).isSome = true
  tiles : ∀ u k, ∀ e ∈ (s.db.bills u k).entries, ∃ amount, tileAmount e.2 = some amount ∧
    (tileBuild amount).isSome = true ∧ ∃ n : ℕ, tileMakePayment amount = some (.finite n)
  totals : s.TotalsIn wholePaise
  orders : ∀ o ∈ s.orders, ∃ n : ℕ, o.amount = .finite n

/-- Reads and tiles follow from the stored balances. -/
theorem State.Chargeable.of_stored
    (stored : ∀ u k, ∀ e ∈ (s.db.bills u k).entries, chargeable e.2 = true)
    (totals : s.TotalsIn wholePaise) (orders : ∀ o ∈ s.orders, ∃ n : ℕ, o.amount = .finite n) :
    s.Chargeable where
  stored u k e member := chargeable_iff.mp (stored u k e member)
  reads u k := by
    apply sumBalances_isSome.mpr
    intro d member
    obtain ⟨e, inside, rfl⟩ := List.mem_map.mp member
    obtain ⟨x, parsed, _⟩ := chargeable_iff.mp (stored u k e inside)
    rw [parsed, Option.isSome_some]
  tiles u k e member := by
    obtain ⟨x, parsed, whole⟩ := chargeable_iff.mp (stored u k e member)
    obtain ⟨n, paise⟩ := times100_of_wholePaise whole
    unfold Fields.balance? at parsed
    split at parsed
    · rename_i amount text
      refine ⟨amount, by rw [tileAmount, text], ?_, n, ?_⟩
      · rw [tileBuild, parsed, Option.map_some, Option.isSome_some]
      · rw [tileMakePayment, parsed, Option.map_some, paise]
    · cases parsed
  totals := totals
  orders := orders

theorem State.Chargeable.bills (charge : s.Chargeable) (u : Uid) (k : BillKind) :
    ∀ e ∈ (s.db.bills u k).entries, chargeable e.2 = true :=
  fun e member => chargeable_iff.mpr (charge.stored u k e member)

theorem State.Chargeable.read_mem (charge : s.Chargeable) (u : Uid) (k : BillKind) (x : Double)
    (total : fetchTotal s.db u k = some x) : x ∈ wholePaise := by
  refine fetchTotal_mem ?_ total
  intro e member y parsed
  obtain ⟨x, parsed', whole⟩ := charge.stored u k e member
  rw [parsed] at parsed'
  obtain rfl := Option.some.inj parsed'
  exact whole

/-- A rent is only saved with a chargeable balance. -/
def savesChargeable (s : State) : Event → Bool
  | .save i true => s.saves[i]?.all fun b => b.kind = .cards || chargeable b.data
  | _ => true

/-- A pending card carries the data of the card form. -/
def State.CardsFromForms (s : State) : Prop :=
  ∀ b ∈ s.saves, b.kind = .cards → ∃ form : CardForm, b.data = form.cardData

theorem cardsFromForms_step {e : Event} (forms : s.CardsFromForms)
    (stepped : step s e = some s') : s'.CardsFromForms := by
  intro b' member card
  rcases step_save_origin stepped member with
    ⟨b, old, _, kind, data⟩ | ⟨form, _, _, data⟩ | ⟨_, _, _, rent, _⟩
  · rw [data]
    exact forms b old (kind ▸ card)
  · exact ⟨form, data⟩
  · rw [rent] at card
    cases card

/-- The amount of a new order is the total of a page. -/
theorem State.Chargeable.orders_step {e : Event} (charge : s.Chargeable)
    (stepped : step s e = some s') : ∀ o ∈ s'.orders, ∃ n : ℕ, o.amount = .finite n := by
  rcases Payments.step_orders stepped with
    ⟨_, same | ⟨o', _, ⟨page, shown, amount⟩, same⟩⟩ | ⟨i, o', _, _, found, _, same⟩
  · rw [same]
    exact charge.orders
  · rw [same]
    apply forall_mem_concat charge.orders
    rw [amount]
    exact times100_of_wholePaise (charge.totals.pages page shown).1
  · rw [same]
    exact forall_mem_set charge.orders (charge.orders o' (List.mem_of_getElem? found))

/-- A settlement keeps the stored balances chargeable. -/
theorem Settlement.Move.chargeable {db db' : Database} {page page' : PaymentForm}
    {t t' : Settlement} {ok : Bool} (move : t.Move db page ok db' page' t')
    (stored : ∀ u k, ∀ e ∈ (db.bills u k).entries, Payments.chargeable e.2 = true) :
    ∀ u k, ∀ e ∈ (db'.bills u k).entries, Payments.chargeable e.2 = true := by
  intro u k e member
  cases move with
  | record =>
      rw [Database.bills, Database.docs_add_of_ne db t.user .transactions (v := u)
        (b := .bills k) _ (by simp)] at member
      exact stored u k e member
  | @commit j ids =>
      by_cases same : (u, Sub.bills k) = (t.user, .bills j)
      · cases same
        rw [Database.bills, Database.docs_updateDocs_self] at member
        obtain ⟨a, old, changed⟩ := Collection.mem_modify.mp member
        rw [changed]
        split
        · exact chargeable_paid a
        · exact stored _ _ (e.1, a) old
      · rw [Database.bills, Database.docs_updateDocs_of_ne db t.user (.bills j) ids paid same]
          at member
        exact stored u k e member
  | read | reset | threw => exact stored u k e member

/-- A step leaves the chargeable states exactly if it saves a rent whose balance
    is not chargeable. -/
theorem State.Chargeable.step_iff {e : Event} (forms : s.CardsFromForms) (charge : s.Chargeable)
    (stepped : step s e = some s') : s'.Chargeable ↔ savesChargeable s e = true := by
  have totals := charge.totals.preserved charge.read_mem stepped
  have orders := charge.orders_step stepped
  cases e with
  | save i ok =>
      obtain ⟨b, _, b', found, advanced, rfl⟩ := step_save stepped
      obtain ⟨_, ⟨rfl, rfl, _⟩ | ⟨rfl, rfl, _⟩⟩ := BillSave.advance_cases advanced
      swap
      · exact iff_of_true (.of_stored charge.bills totals orders) rfl
      simp only [savesChargeable, found, Option.all_some, Bool.or_eq_true, decide_eq_true_eq]
      have inserted : (s.db.store.nextId, b.data) ∈
          ((s.db.add b.user (.bills b.kind) b.data).bills b.user b.kind).entries := by
        rw [Database.bills, Database.docs_add_self, Collection.entries_insert]
        exact List.mem_append_right _ (List.mem_singleton_self _)
      constructor
      · exact fun charge' => .inr (charge'.bills b.user b.kind _ inserted)
      · intro allowed
        have new : chargeable b.data = true := by
          rcases allowed with card | whole
          · obtain ⟨form, same⟩ := forms b (List.mem_of_getElem? found) card
            rw [same]
            exact chargeable_cardData form
          · exact whole
        refine .of_stored ?_ totals orders
        intro u k e member
        by_cases same : (u, Sub.bills k) = (b.user, .bills b.kind)
        · cases same
          rw [Database.bills, Database.docs_add_self, Collection.entries_insert] at member
          rcases List.mem_append.mp member with old | last
          · exact charge.bills _ _ e old
          · obtain rfl := List.mem_singleton.mp last
            exact new
        · rw [Database.bills, Database.docs_add_of_ne s.db b.user (.bills b.kind) b.data same]
            at member
          exact charge.bills u k e member
  | settle =>
      obtain ⟨_, _, _, _, _, _, _, advanced, rfl⟩ := step_settle stepped
      exact iff_of_true (.of_stored ((Settlement.advance_move advanced).chargeable charge.bills)
        totals orders) rfl
  | paymentSuccess =>
      obtain ⟨_, _, _, _, _, _, rfl⟩ := step_paymentSuccess stepped
      exact iff_of_true (.of_stored charge.bills totals orders) rfl
  | openPage | payNow | paymentError | externalWallet | fetch | validateCard | submitRent =>
      refine iff_of_true (.of_stored ?_ totals orders) rfl
      rw [(step_quiet rfl stepped).1]
      exact charge.bills

/-- From a database without bills, everything stays chargeable all the way
    exactly if every rent that is saved has a chargeable balance. -/
theorem chargeable_iff_rents_are {db : Database} {es : List Event}
    (empty : ∀ u k, (db.bills u k).entries = [])
    (played : run step (State.init db) es = some s) :
    Always step State.Chargeable (State.init db) es ↔
      Meets step (fun s e => savesChargeable s e) (State.init db) es := by
  have here : (State.init db).Chargeable := by
    refine .of_stored (fun u k e member => ?_) (.init db) (fun o member => nomatch member)
    rw [State.init, empty] at member
    cases member
  exact always_iff_meets (I := State.CardsFromForms) (E := fun _ => True)
    (fun _ _ _ _ forms _ stepped => cardsFromForms_step forms stepped)
    (fun _ _ _ _ forms charge stepped => charge.step_iff forms stepped)
    played (fun _ _ => trivial) (fun b member => nomatch member) here

theorem chargeable_after_card_and_rent :
    (∃ s, run step (State.init .empty) [.validateCard 0 ⟨"4111", "12/27", "ASHA", "123"⟩ true,
      .save 0 true, .submitRent 0 ⟨"Flat", " 1200.50", "01 Apr"⟩, .save 1 true] = some s) ∧
    Always step State.Chargeable (State.init .empty)
      [.validateCard 0 ⟨"4111", "12/27", "ASHA", "123"⟩ true, .save 0 true,
        .submitRent 0 ⟨"Flat", " 1200.50", "01 Apr"⟩, .save 1 true] := by
  obtain ⟨s, played, _⟩ := run_reaches step (State.init .empty)
    [.validateCard 0 ⟨"4111", "12/27", "ASHA", "123"⟩ true, .save 0 true,
      .submitRent 0 ⟨"Flat", " 1200.50", "01 Apr"⟩, .save 1 true]
    (P := fun _ => True) (by decide +kernel)
  exact ⟨⟨s, played⟩, (chargeable_iff_rents_are (fun _ _ => rfl) played).mpr (by decide +kernel)⟩

/-- The rent form accepts a text that is no number, and every balance read of
    the user throws from then on. -/
theorem rent_form_stores_unreadable_balance :
    ∃ s, run step (State.init .empty) [.submitRent 0 ⟨"Flat", "abc", "01 Apr"⟩, .save 0 true] =
      some s ∧ ¬ s.Chargeable := by
  obtain ⟨s, played, unread⟩ := run_reaches step (State.init .empty)
    [.submitRent 0 ⟨"Flat", "abc", "01 Apr"⟩, .save 0 true]
    (P := fun s => (fetchTotal s.db 0 .rents).isSome = false) (by decide +kernel)
  refine ⟨s, played, fun charge => ?_⟩
  rw [charge.reads 0 .rents] at unread
  cases unread

end Udhar.Payments
