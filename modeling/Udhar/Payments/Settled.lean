import Udhar.Payments.Conservation
import Udhar.Payments.Shown
import Udhar.Payments.Totals
import Udhar.Writes

/-! # Settled bills stay settled

A settlement builds each batch from a snapshot and commits it later, while other
sessions add bills and commit batches of their own. Every bill that was stored
when the settlement started is in both of its batches' snapshots, because bills
are never deleted; and once a bill is paid it stays paid, because nothing but a
settlement ever updates one.
-/

namespace Udhar.Payments

open Lib Dart

variable {s s' : State} {u : Uid}

/-- Every step of a payment session is one of the app's writes. -/
theorem step_write {e : Event} (stepped : step s e = some s') : ∃ u, Write u s.db s'.db := by
  cases e with
  | settle =>
      obtain ⟨t, _, _, _, _, _, _, advanced, rfl⟩ := step_settle stepped
      cases Settlement.advance_move advanced with
      | record => exact ⟨t.user, .record _⟩
      | commit k => exact ⟨t.user, .settle k _⟩
      | read | reset | threw => exact ⟨t.user, .nothing⟩
  | save =>
      obtain ⟨b, _, _, _, advanced, rfl⟩ := step_save stepped
      obtain ⟨_, ⟨_, rfl, _⟩ | ⟨_, rfl, _⟩⟩ := BillSave.advance_cases advanced
      · exact ⟨b.user, .bill b.kind b.data⟩
      · exact ⟨b.user, .nothing⟩
  | paymentSuccess =>
      obtain ⟨_, _, _, _, _, _, rfl⟩ := step_paymentSuccess stepped
      exact ⟨0, .nothing⟩
  | openPage | payNow | paymentError | externalWallet | fetch | validateCard | submitRent =>
      rw [(step_quiet rfl stepped).1]
      exact ⟨0, .nothing⟩

theorem step_grows {e : Event} (stepped : step s e = some s') : Grows s.db s'.db := by
  obtain ⟨u, write⟩ := step_write stepped
  exact write.grows

/-! ## Bills that are paid -/

/-- The bills with these ids are stored, and each has balance `'0'`. -/
structure PaidUp (ids : List ℕ) (bills : Collection ℕ Fields) : Prop where
  stored : ∀ x ∈ ids, x ∈ bills.keys
  zero : ∀ e ∈ bills.entries, e.1 ∈ ids → e.2 "balance" = some (.string "0")

/-- Bills that are only added and paid stay paid. -/
theorem PaidUp.extended {ids : List ℕ} {c d : Collection ℕ Fields} (paidUp : PaidUp ids c)
    (extended : c.Extends OnlyPaid d) : PaidUp ids d := by
  constructor
  · intro x member
    exact extended.keys (paidUp.stored x member)
  · intro e member known
    obtain ⟨a, stored, changed⟩ := extended.origin member (paidUp.stored e.1 known)
    rcases changed.balance with same | zero
    · rw [same]
      exact paidUp.zero (e.1, a) stored known
    · exact zero

/-- The commit of a batch pays every bill that the batch names. -/
theorem paidUp_updateDocs {db : Database} {k : BillKind} {known ids : List ℕ}
    (stored : ∀ x ∈ known, x ∈ (db.bills u k).keys) (batch : ∀ x ∈ known, x ∈ ids) :
    PaidUp known ((db.updateDocs u (.bills k) ids paid).bills u k) := by
  constructor
  · intro x member
    rw [Database.bills, Database.keys_updateDocs]
    exact stored x member
  · intro e member inside
    rw [Database.bills, Database.docs_updateDocs_self] at member
    obtain ⟨a, _, changed⟩ := Collection.mem_modify.mp member
    rw [List.contains_iff_mem.mpr (batch e.1 inside), if_pos rfl] at changed
    rw [changed]
    exact paid_balance a

theorem balance?_of_zero {d : Fields} (zero : d "balance" = some (.string "0")) :
    d.balance? = some (.finite 0) := by
  rw [← (update_paid_eq_self_iff d).mpr zero]
  exact balance_paid d

/-! ## One settlement -/

/-- The settlement is on course to pay the bills `known`: they are in the batch
    it is about to commit, and paid where it has committed. -/
structure Settlement.Covers (known : BillKind → List ℕ) (db : Database) (t : Settlement) :
    Prop where
  stored : ∀ k, ∀ x ∈ known k, x ∈ (db.bills t.user k).keys
  batch : ∀ k ids, t.stage = .commit k ids → ∀ x ∈ known k, x ∈ ids
  paid : ∀ k, t.hasPaid k = true → PaidUp (known k) (db.bills t.user k)

variable {known : BillKind → List ℕ} {t t' : Settlement}

theorem Settlement.Covers.grown {db db' : Database} (covers : t.Covers known db)
    (grows : Grows db db') : t.Covers known db' where
  stored k x member := (grows.bills t.user k).keys (covers.stored k x member)
  batch := covers.batch
  paid k has := (covers.paid k has).extended (grows.bills t.user k)

theorem Settlement.Covers.move {db db' : Database} {page page' : PaymentForm} {ok : Bool}
    (covers : t.Covers known db) (grows : Grows db db')
    (move : t.Move db page ok db' page' t') : t'.Covers known db' := by
  obtain ⟨stored, batch, paid⟩ := covers.grown grows
  cases move with
  | record =>
      refine ⟨stored, ?_, ?_⟩
      · intro k ids stage
        cases k <;> cases stage
      · intro k has
        cases k <;> cases has
  | read k stage =>
      refine ⟨stored, ?_, ?_⟩
      · intro j ids at'
        cases j <;> cases k <;> cases at' <;> exact covers.stored _
      · exact fun j has => paid j (Settlement.hasPaid_of_read stage has)
  | @commit k ids stage =>
      refine ⟨stored, ?_, ?_⟩
      · intro j ids' at'
        cases j <;> cases k <;> cases at'
      · intro j has
        by_cases same : j = k
        · subst same
          exact paidUp_updateDocs (covers.stored j) (covers.batch j ids stage)
        · exact paid j (Settlement.hasPaid_of_after stage same has)
  | reset stage =>
      refine ⟨stored, ?_, ?_⟩
      · intro k ids at'
        cases k <;> cases at'
      · intro k _
        exact paid k (by simp only [Settlement.hasPaid, stage])
  | threw =>
      refine ⟨stored, ?_, ?_⟩
      · intro k ids at'
        cases k <;> cases at'
      · intro k has
        cases has

/-- Settlement `n` belongs to `u` and is on course. -/
def State.Pursues (s : State) (n : ℕ) (u : Uid) (known : BillKind → List ℕ) : Prop :=
  ∃ t, s.settlements[n]? = some t ∧ t.user = u ∧ t.Covers known s.db

theorem pursues_step {e : Event} {n : ℕ} (pursues : s.Pursues n u known)
    (stepped : step s e = some s') : s'.Pursues n u known := by
  obtain ⟨t, found, rfl, covers⟩ := pursues
  have grows := step_grows stepped
  rcases step_settlement stepped found with waits | ⟨_, _, _, t', _, move, found'⟩
  · exact ⟨t, waits, rfl, covers.grown grows⟩
  · exact ⟨t', found', move.same.1, covers.move grows move⟩

/-- A settlement that has just started has everything before it. -/
theorem pursues_start {i : ℕ} {paymentId now : String}
    (stepped : step s (.paymentSuccess i paymentId now) = some s') :
    ∃ o, s.orders[i]? = some o ∧
      s'.Pursues s.settlements.length o.user fun k => (s.db.bills o.user k).keys := by
  obtain ⟨o, page, found, _, _, _, rfl⟩ := step_paymentSuccess stepped
  refine ⟨o, found, _, List.getElem?_concat_length, rfl, fun _ _ member => member, ?_, ?_⟩
  · intro k ids stage
    cases k <;> cases stage
  · intro k has
    cases has

/-- A commit finds every document that the snapshot has shown. -/
theorem Settlement.Move.running {db db' : Database} {page page' : PaymentForm}
    (stored : t.SnapshotStored db) (move : t.Move db page true db' page' t') :
    t'.stage ≠ .threw := by
  cases move with
  | record | reset => exact SettleStage.noConfusion
  | read k | commit k => cases k <;> exact SettleStage.noConfusion
  | threw failed =>
      rcases failed with no | ⟨k, ids, stage, refused⟩
      · cases no
      · rw [Database.commit_of_keys (stored k ids stage)] at refused
        cases refused

/-- A settlement whose own operations all succeed does not throw. -/
theorem settlement_keeps_running {n : ℕ} {es : List Event} (found : s.settlements[n]? = some t)
    (running : t.stage ≠ .threw) (stored : t.SnapshotStored s.db)
    (succeeds : ∀ e ∈ es, e ≠ .settle n false) (played : run step s es = some s') :
    ∃ t', s'.settlements[n]? = some t' ∧ t'.stage ≠ .threw := by
  induction es generalizing s t with
  | nil =>
      cases played
      exact ⟨t, found, running⟩
  | cons e es ih =>
      obtain ⟨s₁, first, rest⟩ := run_cons.mp played
      have others : ∀ e' ∈ es, e' ≠ .settle n false :=
        fun e' member => succeeds e' (List.mem_cons_of_mem e member)
      rcases step_settlement first found with waits | ⟨ok, _, _, t', rfl, move, found'⟩
      · exact ih waits running (stored.mono fun _ _ => (step_grows first).keys) others rest
      · cases ok with
        | true => exact ih found' (move.running stored) move.snapshotStored others rest
        | false => exact absurd rfl (succeeds _ List.mem_cons_self)

/-! ## Fetches after the settlement -/

/-- No bill other than the known ones has a balance that is not zero. -/
def othersFree (u : Uid) (known : BillKind → List ℕ) (s : State) : Bool :=
  [BillKind.cards, .rents].all fun k => (s.db.bills u k).entries.all fun e =>
    e.1 ∈ known k || e.2.balance? = some (.finite 0)

/-- The total that the reader of a fetch keeps on the page. -/
def Reader.shown : Reader → PaymentForm → Double
  | .paymentForm, page => page.totalBalance
  | .balanceCard, page => page.amountDue

/-- Both kinds of bills add up to nothing, and so does what the fetches of `u` from
    number `start` on carry. -/
structure NothingOwed (u : Uid) (start : ℕ) (s : State) : Prop where
  reads : ∀ k, fetchTotal s.db u k = some 0
  carried : ∀ j f, start ≤ j → s.fetches[j]? = some f → f.user = u →
    ∀ x ∈ f.stage.totals, x = 0

/-- The fetch neither throws at a read nor shows anything but zero. -/
def Fetch.YieldsZero (db : Database) (f : Fetch) : Prop :=
  ∀ page f' page', f.advance db page true = some (f', page') →
    match f.stage with
    | .setState _ _ _ => f.reader.shown page' = 0
    | _ => f'.stage ≠ .threw

theorem fetchTotal_of_free {db : Database} {k : BillKind}
    (free : ∀ e ∈ (db.bills u k).entries, e.2.balance? = some (.finite 0)) :
    fetchTotal db u k = some 0 := by
  have debtless : db.debtOn u k = 0 := by
    apply List.sum_eq_zero
    intro x member
    obtain ⟨e, stored, rfl⟩ := List.mem_map.mp member
    simp only [Fields.debt, free e stored]
  rw [fetchTotal_eq fun e stored => ⟨0, free e stored⟩, debtless, Double.zero_def]

/-- What a finishing fetch shows is the sum of what it carried. -/
theorem Fetch.advance_setState {db : Database} {page page' : PaymentForm} {f f' : Fetch}
    {userDoc : Option Fields} {cardTotal rentTotal : Double}
    (stage : f.stage = .setState userDoc cardTotal rentTotal)
    (advanced : f.advance db page true = some (f', page')) :
    f.reader.shown page' = cardTotal + rentTotal := by
  simp only [Fetch.advance, stage] at advanced
  cases reader : f.reader with
  | balanceCard =>
      rw [reader] at advanced
      cases advanced
      rfl
  | paymentForm =>
      rw [reader] at advanced
      cases named : storedName userDoc <;> rw [named] at advanced <;> cases advanced <;> rfl

theorem NothingOwed.yieldsZero {start j : ℕ} {f : Fetch} (nothing : NothingOwed u start s)
    (later : start ≤ j) (found : s.fetches[j]? = some f) (owned : f.user = u) :
    f.YieldsZero s.db := by
  intro page f' page' advanced
  have carried := nothing.carried j f later found owned
  subst owned
  cases stage : f.stage with
  | setState userDoc cardTotal rentTotal =>
      rw [stage] at carried
      rw [Fetch.advance_setState stage advanced, carried cardTotal (by simp [FetchStage.totals]),
        carried rentTotal (by simp [FetchStage.totals]), add_zero]
  | readUser | readCards | readRents =>
      simp only [Fetch.advance, stage, nothing.reads] at advanced
      cases advanced
      exact FetchStage.noConfusion
  | done | threw =>
      simp only [Fetch.advance, stage, reduceCtorEq] at advanced

/-- The fetches that a step starts or resumes still carry nothing. -/
theorem NothingOwed.carried_step {e : Event} {start : ℕ} (nothing : NothingOwed u start s)
    (stepped : step s e = some s') :
    ∀ j f, start ≤ j → s'.fetches[j]? = some f → f.user = u → ∀ x ∈ f.stage.totals, x = 0 := by
  intro j f later found owned
  rcases step_fetches stepped with
    ⟨fresh, same, started⟩ | ⟨i, _, f₀, _, f', _, _, found₀, move, _, same⟩
  · rw [same, List.getElem?_append] at found
    split at found
    · exact nothing.carried j f later found owned
    · rcases started f (List.mem_of_getElem? found) with stage | stage <;>
        simp [stage, FetchStage.totals]
  · rw [same] at found
    by_cases here : i = j
    · subst here
      rw [List.getElem?_set_self (List.getElem?_eq_some_iff.mp found₀).1] at found
      obtain rfl := Option.some.inj found
      have mine : f₀.user = u := move.same.2.1.symm.trans owned
      intro x member
      refine move.totals (P := ⊥) ?_ (nothing.carried i f₀ later found₀ mine) x member
      intro k y total
      rw [mine, nothing.reads k] at total
      exact (Option.some.inj total).symm
    · rw [List.getElem?_set_ne here] at found
      exact nothing.carried j f later found owned

theorem othersFree_iff : othersFree u known s = true ↔
    ∀ k, ∀ e ∈ (s.db.bills u k).entries, e.1 ∉ known k → e.2.balance? = some (.finite 0) := by
  simp only [othersFree, List.all_cons, List.all_nil, Bool.and_true, Bool.and_eq_true,
    List.all_eq_true, Bool.or_eq_true, decide_eq_true_eq]
  constructor
  · rintro ⟨cards, rents⟩ k e stored unknown
    cases k with
    | cards => exact (cards e stored).resolve_left unknown
    | rents => exact (rents e stored).resolve_left unknown
  · intro free
    exact ⟨fun e stored => Classical.or_iff_not_imp_left.mpr (free .cards e stored),
      fun e stored => Classical.or_iff_not_imp_left.mpr (free .rents e stored)⟩

/-- All bills are paid: the known ones by the settlement, the others are free. -/
theorem reads_nothing (paidUp : ∀ k, PaidUp (known k) (s.db.bills u k))
    (others : othersFree u known s = true) (k : BillKind) : fetchTotal s.db u k = some 0 := by
  apply fetchTotal_of_free
  intro e stored
  by_cases inside : e.1 ∈ known k
  · exact balance?_of_zero ((paidUp k).zero e stored inside)
  · exact othersFree_iff.mp others k e stored inside

/-- Once a settlement has completed, every bill of its user that was stored when
    it started has balance `'0'` for good, and as long as no other bill has a
    balance, every fetch that starts from then on yields zero. -/
theorem settled_bills_stay_settled {s₁ s₂ : State} {i : ℕ} {paymentId now : String}
    {es later : List Event} (played : run step s (.paymentSuccess i paymentId now :: es) = some s₁)
    (found : s₁.settlements[s.settlements.length]? = some t) (completed : t.settled = true)
    (after : run step s₁ later = some s₂) :
    (∀ k, PaidUp (s.db.bills t.user k).keys (s₂.db.bills t.user k)) ∧
      ∀ during s₃, run step s₂ during = some s₃ →
        Always step (fun r => othersFree t.user (fun k => (s.db.bills t.user k).keys) r) s₂ during →
        ∀ j f, s₂.fetches.length ≤ j → s₃.fetches[j]? = some f → f.user = t.user →
          f.YieldsZero s₃.db := by
  obtain ⟨s₀, started, rest⟩ := run_cons.mp played
  obtain ⟨o, _, start⟩ := pursues_start started
  obtain ⟨t', found', owned, covers⟩ :=
    run_invariant (fun _ _ _ pursues stepped => pursues_step pursues stepped) rest start
  obtain rfl := Option.some.inj (found.symm.trans found')
  rw [← owned] at covers
  have settled : ∀ k, PaidUp (s.db.bills t.user k).keys (s₁.db.bills t.user k) := by
    intro k
    apply covers.paid k
    cases stage : t.stage <;> simp_all [Settlement.settled, Settlement.hasPaid]
  have kept : ∀ r e r', (∀ k, PaidUp (s.db.bills t.user k).keys (r.db.bills t.user k)) →
      step r e = some r' → ∀ k, PaidUp (s.db.bills t.user k).keys (r'.db.bills t.user k) :=
    fun _ _ _ paidUp stepped k => (paidUp k).extended ((step_grows stepped).bills t.user k)
  have paidUp := run_invariant kept after settled
  refine ⟨paidUp, ?_⟩
  intro during s₃ ran always j f later found owned
  -- Along the run, what the settlement paid and what new fetches carry are kept together.
  obtain ⟨paid₃, carried⟩ := run_invariant_of_meets
    (P := fun r => (∀ k, PaidUp (s.db.bills t.user k).keys (r.db.bills t.user k)) ∧
      ∀ j f, s₂.fetches.length ≤ j → r.fetches[j]? = some f → f.user = t.user →
        ∀ x ∈ f.stage.totals, x = 0)
    (fun r e r' others both stepped => ⟨kept r e r' both.1 stepped,
      NothingOwed.carried_step ⟨reads_nothing both.1 others, both.2⟩ stepped⟩)
    ran always.meets ⟨paidUp, fun j f late there => by
      rw [List.getElem?_eq_none late] at there
      cases there⟩
  have others := always during s₃ (List.prefix_refl _) ran
  exact NothingOwed.yieldsZero ⟨reads_nothing paid₃ others, carried⟩ later found owned

/-- The page is opened again and its fetch reads both kinds of bills. -/
def reopened : List Event := [.openPage 0, .fetch 3 true, .fetch 3 true, .fetch 3 true]

theorem settled_card_stays_settled : ∃ s t s₁ s₃ f,
    run step (State.init oneCard) pressPayNow = some s ∧
    run step s succeedAndSettle = some s₁ ∧ s₁.settlements[s.settlements.length]? = some t ∧
    run step s₁ reopened = some s₃ ∧ s₃.fetches[3]? = some f ∧
    (∀ k, PaidUp (s.db.bills t.user k).keys (s₁.db.bills t.user k)) ∧ f.YieldsZero s₃.db := by
  obtain ⟨s, reached, rest⟩ := run_reaches step (State.init oneCard) pressPayNow
    (P := fun s => (run step s succeedAndSettle).any fun s₁ =>
      s₁.settlements[s.settlements.length]?.any (fun t => t.settled && t.user = 0 &&
        decide (Always step
          (fun r => othersFree t.user (fun k => (s.db.bills t.user k).keys) r) s₁ reopened)) &&
      s₁.fetches.length = 3 && (run step s₁ reopened).any fun s₃ =>
        s₃.fetches[3]?.any (·.user = 0))
    (by decide +kernel)
  obtain ⟨s₁, played, found⟩ := (Option.any_eq_true _ _).mp rest
  simp only [Bool.and_eq_true, Option.any_eq_true, decide_eq_true_eq] at found
  obtain ⟨⟨⟨t, found, ⟨completed, payer⟩, free⟩, count⟩, s₃, ran, f, opened, reader⟩ := found
  obtain ⟨settled, yields⟩ := settled_bills_stay_settled played found completed
    (run_nil s₁)
  exact ⟨s, t, s₁, s₃, f, reached, played, found, ran, opened, settled,
    yields reopened s₃ ran free 3 f (by omega) opened (reader.trans payer.symm)⟩

end Udhar.Payments
