import Udhar.Payments.Steps

/-! # Real totals

`_fetchBalance` adds up the cards and then, after another await, the rents. The
payment form, the `BalanceCard` and the profile page all read in this way. What
is in flight between the two reads may tear the total: it then joins cards of
one moment with rents of another. It does not as long as the rents only change
while the cards still add up to what was read of them.
-/

namespace Udhar.Payments

open Lib Dart

variable {a s s' : State} {u : Uid}

/-- The event resumes fetch `j`. -/
def Event.resumes (j : ℕ) : Event → Bool
  | .fetch i _ => i = j
  | _ => false

/-- What `u` owes on rents changes only while the cards of `u` add up to what
    they did in `a`. -/
def rentsFirst (a : State) (u : Uid) (s : State) : Event → Bool
  | .save i true => s.saves[i]?.all fun b => b.user ≠ u || b.kind = .cards || b.data.debt = 0 ||
      s.db.debtOn u .cards = a.db.debtOn u .cards
  | .settle i true => s.settlements[i]?.all fun t => t.user ≠ u ||
      (match t.stage with
        | .commitRents ids => (s.db.bills u .rents).totalOn (ids.contains ·) Fields.debt = 0
        | _ => true) ||
      s.db.debtOn u .cards = a.db.debtOn u .cards
  | _ => true

/-- The balances of `u` are decimals. -/
def State.decimals (s : State) (u : Uid) : Prop :=
  ∀ k, ∀ e ∈ (s.db.bills u k).entries, e.2.HasDecimalBalance

instance : Decidable (s.decimals u) :=
  decidable_of_iff ((∀ e ∈ (s.db.bills u .cards).entries, e.2.HasDecimalBalance) ∧
      ∀ e ∈ (s.db.bills u .rents).entries, e.2.HasDecimalBalance) <| by
    constructor
    · rintro ⟨cards, rents⟩ k
      cases k with
      | cards => exact cards
      | rents => exact rents
    · exact fun each => ⟨each .cards, each .rents⟩

/-! ## One step between the reads -/

theorem debtOn_settle (db : Database) {v : Uid} {k j : BillKind} (ids : List ℕ)
    (apart : v ≠ u ∨ j ≠ k ∨ (db.bills u k).totalOn (ids.contains ·) Fields.debt = 0) :
    (db.updateDocs v (.bills j) ids paid).debtOn u k = db.debtOn u k := by
  by_cases same : (u, Sub.bills k) = (v, .bills j)
  · cases same
    have free := apart.resolve_left (fun other => other rfl)
    have settled := debtOn_paid_add db u k ids
    rw [free.resolve_left (fun other => other rfl), add_zero] at settled
    exact settled
  · exact debtOn_updateDocs_of_ne db u k ids paid same

theorem debtOn_save (db : Database) (b : BillSave) {k : BillKind}
    (apart : b.user ≠ u ∨ b.kind ≠ k ∨ b.data.debt = 0) :
    (db.add b.user (.bills b.kind) b.data).debtOn u k = db.debtOn u k := by
  by_cases same : (u, Sub.bills k) = (b.user, .bills b.kind)
  · cases same
    have free := apart.resolve_left (fun other => other rfl)
    rw [debtOn_add_self, free.resolve_left (fun other => other rfl), add_zero]
  · exact debtOn_add_of_ne db u k b.data same

/-- A step leaves the rents alone, or takes the cards as they were in `a`. -/
theorem rents_step {e : Event} (first : rentsFirst a u s e = true)
    (stepped : step s e = some s') :
    s'.db.debtOn u .rents = s.db.debtOn u .rents ∨
      s.db.debtOn u .cards = a.db.debtOn u .cards ∧
        s'.db.debtOn u .cards = s.db.debtOn u .cards := by
  cases e with
  | save i ok =>
      obtain ⟨b, _, _, found, advanced, rfl⟩ := step_save stepped
      obtain ⟨_, ⟨rfl, rfl, _⟩ | ⟨_, rfl, _⟩⟩ := BillSave.advance_cases advanced
      · simp only [rentsFirst, found, Option.all_some, Bool.or_eq_true, decide_eq_true_eq,
          ne_eq] at first
        rcases first with ((foreign | card) | free) | stands
        · exact .inl (debtOn_save s.db b (.inl foreign))
        · exact .inl (debtOn_save s.db b (.inr (.inl (by simp [card]))))
        · exact .inl (debtOn_save s.db b (.inr (.inr free)))
        · by_cases card : b.kind = .cards
          · exact .inl (debtOn_save s.db b (.inr (.inl (by simp [card]))))
          · exact .inr ⟨stands, debtOn_save s.db b (.inr (.inl card))⟩
      · exact .inl rfl
  | settle i ok =>
      obtain ⟨t, page, _, _, _, found, _, advanced, rfl⟩ := step_settle stepped
      cases ok with
      | false => exact .inl (congrArg (·.debtOn u .rents) (Settlement.advance_false advanced))
      | true =>
          cases Settlement.advance_move advanced with
          | record => exact .inl (debtOn_add_of_ne s.db u .rents t.transactionData (by simp))
          | @commit k ids stage =>
              cases k with
              | cards => exact .inl (debtOn_settle s.db ids (.inr (.inl (by simp))))
              | rents =>
                  change t.stage = .commitRents ids at stage
                  simp only [rentsFirst, found, Option.all_some, stage, Bool.or_eq_true,
                    decide_eq_true_eq, ne_eq] at first
                  rcases first with (foreign | free) | stands
                  · exact .inl (debtOn_settle s.db ids (.inl foreign))
                  · by_cases mine : t.user = u
                    · subst mine
                      exact .inl (debtOn_settle s.db ids (.inr (.inr free)))
                    · exact .inl (debtOn_settle s.db ids (.inl mine))
                  · exact .inr ⟨stands, debtOn_settle s.db ids (.inr (.inl (by simp)))⟩
          | read | reset | threw => exact .inl rfl
  | paymentSuccess =>
      obtain ⟨_, _, _, _, _, _, rfl⟩ := step_paymentSuccess stepped
      exact .inl rfl
  | openPage | payNow | paymentError | externalWallet | fetch | validateCard | submitRent =>
      rw [(step_quiet rfl stepped).1]
      exact .inl rfl

/-! ## Between the reads -/

/-- Either some state on the way has cards as in `a` and rents as at the end, or
    the rents are still what they were. -/
theorem sometime_real {b : State} {es : List Event}
    (first : Meets step (fun s e => rentsFirst a u s e) s es) (played : run step s es = some b) :
    Sometime step (fun v => v.db.debt u = a.db.debtOn u .cards + b.db.debtOn u .rents) s es ∨
      b.db.debtOn u .rents = s.db.debtOn u .rents := by
  induction es generalizing s with
  | nil =>
      cases played
      exact .inr rfl
  | cons e es ih =>
      obtain ⟨t, taken, rest⟩ := run_cons.mp played
      rcases ih (first.2 t taken) rest with later | same
      · exact .inl (later.cons taken)
      · rcases rents_step first.1 taken with still | ⟨stands, kept⟩
        · exact .inr (same.trans still)
        · refine .inl (.cons taken (.start ?_ es))
          rw [Database.debt, kept, stands, same]

theorem fetch_waits {j : ℕ} {f : Fetch} {es : List Event} (found : s.fetches[j]? = some f)
    (others : ∀ e ∈ es, e.resumes j = false) (played : run step s es = some s') :
    s'.fetches[j]? = some f := by
  induction es generalizing s with
  | nil =>
      cases played
      exact found
  | cons e es ih =>
      obtain ⟨t, taken, rest⟩ := run_cons.mp played
      refine ih ?_ (fun e' member => others e' (List.mem_cons_of_mem e member)) rest
      rcases step_fetch_of taken found with waits | ⟨ok, _, _, _, rfl, _⟩
      · exact waits
      · have another := others _ List.mem_cons_self
        simp [Event.resumes] at another

/-- The next read of a fetch on decimal balances takes what the user owes. -/
theorem step_reads {j : ℕ} {f : Fetch} (found : s.fetches[j]? = some f)
    (decimals : s.decimals f.user) (stepped : step s (.fetch j true) = some s') : s'.db = s.db ∧
      (∀ ud, f.stage = .readCards ud → s'.fetches[j]? = some { f with
        stage := .readRents ud (.finite (s.db.debtOn f.user .cards)) }) ∧
      ∀ ud c, f.stage = .readRents ud c → s'.fetches[j]? = some { f with
        stage := .setState ud c (.finite (s.db.debtOn f.user .rents)) } := by
  obtain ⟨f₀, page, f', page', found₀, _, advanced, rfl⟩ := step_fetch stepped
  obtain rfl := Option.some.inj (found.symm.trans found₀)
  have here : (s.fetches.set j f')[j]? = some f' :=
    List.getElem?_set_self (List.getElem?_eq_some_iff.mp found).1
  refine ⟨rfl, fun ud stage => ?_, fun ud c stage => ?_⟩
  · simp only [Fetch.advance, stage, fetchTotal_eq (decimals .cards)] at advanced
    cases advanced
    exact here
  · simp only [Fetch.advance, stage, fetchTotal_eq (decimals .rents)] at advanced
    cases advanced
    exact here

/-- A fetch reads the cards, other handlers run, and the fetch reads the rents. If
    meanwhile the rents only change before the cards do, the total the fetch has
    computed is what the user owed in some state on the way. -/
theorem total_is_real {a' b b' : State} {j : ℕ} {f : Fetch} {es : List Event}
    {userDoc : Option Fields} (found : a.fetches[j]? = some f)
    (reading : f.stage = .readCards userDoc) (readCards : step a (.fetch j true) = some a')
    (others : ∀ e ∈ es, e.resumes j = false) (between : run step a' es = some b)
    (readRents : step b (.fetch j true) = some b')
    (decimals : Always step (·.decimals f.user) a' es)
    (first : Meets step (fun s e => rentsFirst a' f.user s e) a' es) :
    ∃ cardTotal rentTotal,
      b'.fetches[j]? = some { f with stage := .setState userDoc cardTotal rentTotal } ∧
      Sometime step (fun v => cardTotal + rentTotal = .finite (v.db.debt f.user)) a' es := by
  have start : a.decimals f.user := by
    have same : a'.db = a.db := by
      obtain ⟨_, _, _, _, _, _, _, rfl⟩ := step_fetch readCards
      rfl
    simpa only [State.decimals, same] using decimals [] a' List.nil_prefix rfl
  obtain ⟨same, cards, _⟩ := step_reads found start readCards
  have waits := fetch_waits (cards userDoc reading) others between
  obtain ⟨_, _, rents⟩ := step_reads waits (decimals es b (List.prefix_refl es) between) readRents
  refine ⟨_, _, rents userDoc _ rfl, ?_⟩
  simp only [Double.finite_add_finite, Double.finite.injEq, ← same]
  rcases sometime_real first between with ⟨pre, v, before, ran, real⟩ | still
  · exact ⟨pre, v, before, ran, real.symm⟩
  · exact .start (by rw [still]; rfl) es

/-- A `BalanceCard` is about to read while a rent and a card are being saved. -/
def savingBoth : State := { State.init oneCard with
  pages := [{ user := 0 }]
  fetches := [⟨0, 0, .balanceCard, .readCards none⟩]
  saves := [⟨0, .rents, RentForm.rentData ⟨"Flat", "500", "01 Apr"⟩, .pending⟩,
    ⟨0, .cards, CardForm.cardData ⟨"4222", "01/28", "ASHA", "456"⟩, .pending⟩] }

theorem total_with_added_rent_is_real : ∃ a' b b' c r,
    step savingBoth (.fetch 0 true) = some a' ∧ run step a' [.save 0 true, .save 1 true] = some b ∧
    step b (.fetch 0 true) = some b' ∧
    b'.fetches[0]? = some ⟨0, 0, .balanceCard, .setState none c r⟩ ∧
    Sometime step (fun v => c + r = .finite (v.db.debt 0)) a' [.save 0 true, .save 1 true] := by
  have checked : (step savingBoth (.fetch 0 true)).any (fun a' =>
      decide (Always step (·.decimals 0) a' [.save 0 true, .save 1 true]) &&
      decide (Meets step (fun s e => rentsFirst a' 0 s e) a' [.save 0 true, .save 1 true]) &&
      (run step a' [.save 0 true, .save 1 true]).any fun b =>
        (step b (.fetch 0 true)).isSome) = true := by decide +kernel
  obtain ⟨a', readCards, rest⟩ := (Option.any_eq_true _ _).mp checked
  simp only [Bool.and_eq_true, decide_eq_true_eq, Option.any_eq_true,
    Option.isSome_iff_exists] at rest
  obtain ⟨⟨decimals, first⟩, b, between, b', readRents⟩ := rest
  obtain ⟨c, r, ended, real⟩ := total_is_real (f := ⟨0, 0, .balanceCard, .readCards none⟩) rfl rfl
    readCards (by decide) between readRents decimals first
  exact ⟨a', b, b', c, r, readCards, between, readRents, ended, real⟩

/-! ## A torn total -/

/-- One user with a card of 1000 and a rent of 500. -/
def cardAndRent : Database :=
  oneCard.add 0 (.bills .rents) (RentForm.rentData ⟨"Flat", "500", "01 Apr"⟩)

/-- A payment has been charged and its settlement has read the cards. -/
def aboutToCommit : List Event := pressPayNow ++
  [.paymentSuccess 0 "pay_1" "2024-03-14 10:00:00.000", .settle 0 true, .settle 0 true]

/-- The fetch that PayNow has started, with both commits between its reads. -/
def tornFetch : List Event :=
  [.fetch 2 true, .fetch 2 true, .settle 0 true, .settle 0 true, .settle 0 true, .fetch 2 true]

/-- The total a fetch is about to show. -/
def State.computed (s : State) (j : ℕ) : Option Double :=
  s.fetches[j]?.bind fun f =>
    match f.stage with
    | .setState _ cardTotal rentTotal => some (cardTotal + rentTotal)
    | _ => none

/-- The fetch computes 1000, which the user never owed from its first read to its
    last: first it was 1500, then 500, then nothing. -/
theorem settlement_between_reads_tears_total : ∃ s t,
    run step (State.init cardAndRent) aboutToCommit = some s ∧ run step s tornFetch = some t ∧
    t.computed 2 = some (.finite 1000) ∧
    ¬ Sometime step (fun v => v.db.debt 0 = 1000) s tornFetch := by
  obtain ⟨s, reached, rest⟩ := run_reaches step (State.init cardAndRent) aboutToCommit
    (P := fun s => (run step s tornFetch).any fun t => t.computed 2 = some (.finite 1000) &&
      decide (Always step (fun v => ¬ v.db.debt 0 = 1000) s tornFetch)) (by decide +kernel)
  obtain ⟨t, played, both⟩ := (Option.any_eq_true _ _).mp rest
  simp only [Bool.and_eq_true, decide_eq_true_eq] at both
  exact ⟨s, t, reached, played, both.1, not_sometime.mpr both.2⟩

end Udhar.Payments
