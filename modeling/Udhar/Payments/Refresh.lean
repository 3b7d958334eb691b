import Udhar.Payments.Session

/-! # A refresh of the payment page

`_fetchBalance` reads the user's document, the cards and the rents, and then sets
the page's total and name in one callback. Any of the reads may fail and any
balance may not parse; all of this happens before the callback. Only a missing
name is noticed inside it, when the total has already been assigned.
-/

namespace Udhar.Payments

open Lib Dart

/-- Resume a fetch once for each answer: what the database holds at that moment,
    or `none` where the read fails. -/
def Fetch.play (page : PaymentForm) (f : Fetch) : List (Option Database) → Fetch × PaymentForm
  | [] => (f, page)
  | answer :: answers =>
      match f.advance (answer.getD .empty) page answer.isSome with
      | some (f', page') => f'.play page' answers
      | none => (f, page)

/-- `_fetchBalance` of the payment form, from its first read to the end of its
    callback, which reads nothing. -/
def fetchBalance (u : Uid) (page : PaymentForm) (users cards rents : Option Database) :
    Fetch × PaymentForm :=
  (⟨0, u, .paymentForm, .readUser⟩ : Fetch).play page [users, cards, rents, some .empty]

/-! ## What the reads bring -/

/-- The read succeeds, and the document exists and has a string name. -/
def HasName (u : Uid) (users : Option Database) : Prop :=
  ∃ db name, users = some db ∧ storedName (db.users u) = some name

/-- The read succeeds, and every balance is a string that `double.parse` accepts. -/
def Readable (u : Uid) (k : BillKind) (read : Option Database) : Prop :=
  ∃ db, read = some db ∧ ∀ e ∈ (db.bills u k).entries, e.2.balance?.isSome = true

/-- The sum of the balances that parse. -/
def owed (u : Uid) (k : BillKind) (read : Option Database) : Double :=
  (read.elim [] fun db => (db.bills u k).entries.filterMap (·.2.balance?)).sum

/-- The refresh completes exactly when everything it needs is there; then it sets
    both fields, and otherwise it leaves both as they were. -/
structure RefreshesOrKeeps (u : Uid) (page : PaymentForm) (users cards rents : Option Database) :
    Prop where
  completes : (fetchBalance u page users cards rents).1.stage = .done ↔
    HasName u users ∧ Readable u .cards cards ∧ Readable u .rents rents
  refreshed : (fetchBalance u page users cards rents).1.stage = .done →
    (fetchBalance u page users cards rents).2.totalBalance =
        owed u .cards cards + owed u .rents rents ∧
      storedName (users.bind (·.users u)) = some (fetchBalance u page users cards rents).2.name
  kept : (fetchBalance u page users cards rents).1.stage ≠ .done →
    (fetchBalance u page users cards rents).2.totalBalance = page.totalBalance ∧
      (fetchBalance u page users cards rents).2.name = page.name

theorem sumBalances_eq_some {acc x : Double} {ds : List Fields} : sumBalances acc ds = some x ↔
    (∀ d ∈ ds, d.balance?.isSome = true) ∧ x = acc + (ds.filterMap Fields.balance?).sum := by
  induction ds generalizing acc with
  | nil =>
      simp only [sumBalances, Option.some.injEq, List.not_mem_nil, false_implies, implies_true,
        true_and, List.filterMap_nil, List.sum_nil, add_zero]
      exact eq_comm
  | cons d ds ih =>
      cases parsed : d.balance? with
      | none => simp [sumBalances, parsed]
      | some y => simp [sumBalances, parsed, ih, add_assoc]

/-- The total of one kind of bill that a read leads to. -/
def readTotal (u : Uid) (k : BillKind) (read : Option Database) : Option Double :=
  read.bind (fetchTotal · u k)

theorem readTotal_eq_some {u : Uid} {k : BillKind} {read : Option Database} {x : Double} :
    readTotal u k read = some x ↔ Readable u k read ∧ x = owed u k read := by
  cases read with
  | none => simp [readTotal, Readable]
  | some db =>
      simp only [readTotal, Option.bind_some, fetchTotal, sumBalances_eq_some, List.mem_map,
        forall_exists_index, and_imp, forall_apply_eq_imp_iff₂, zero_add, Readable,
        Option.some.injEq, exists_eq_left', owed, Option.elim_some, List.filterMap_map,
        Function.comp_def]

theorem readTotal_isSome {u : Uid} {k : BillKind} {read : Option Database} :
    Readable u k read ↔ (readTotal u k read).isSome = true := by
  simp only [Option.isSome_iff_exists, readTotal_eq_some, exists_and_left, exists_eq, and_true]

variable (u : Uid) (page : PaymentForm) (users cards rents : Option Database)

/-- A refresh as a whole. -/
theorem fetchBalance_eq : fetchBalance u page users cards rents =
    match users, readTotal u .cards cards, readTotal u .rents rents with
    | some db, some cardTotal, some rentTotal =>
        match storedName (db.users u) with
        | some name =>
            (⟨0, u, .paymentForm, .done⟩, { page with totalBalance := cardTotal + rentTotal, name })
        | none =>
            (⟨0, u, .paymentForm, .threw⟩, { page with totalBalance := cardTotal + rentTotal })
    | _, _, _ => (⟨0, u, .paymentForm, .threw⟩, page) := by
  cases users with
  | none => rfl
  | some db =>
      cases cards with
      | none => rfl
      | some db₁ =>
          cases cardTotal : fetchTotal db₁ u .cards with
          | none => simp [fetchBalance, Fetch.play, Fetch.advance, readTotal, cardTotal]
          | some c =>
              cases rents with
              | none => simp [fetchBalance, Fetch.play, Fetch.advance, readTotal, cardTotal]
              | some db₂ =>
                  cases rentTotal : fetchTotal db₂ u .rents with
                  | none =>
                      simp [fetchBalance, Fetch.play, Fetch.advance, readTotal, cardTotal,
                        rentTotal]
                  | some r =>
                      cases name : storedName (db.users u) <;>
                        simp [fetchBalance, Fetch.play, Fetch.advance, readTotal, cardTotal,
                          rentTotal, name]

/-- Everything is there but the name. -/
def OnlyNameMissing : Prop :=
  users.isSome = true ∧ ¬ HasName u users ∧ Readable u .cards cards ∧ Readable u .rents rents

variable {u page users cards rents}

/-- Nothing happens to the page before everything has been read. -/
theorem fetchBalance_of_unread (unread : users = none ∨ ¬ Readable u .cards cards ∨
    ¬ Readable u .rents rents) :
    fetchBalance u page users cards rents = (⟨0, u, .paymentForm, .threw⟩, page) := by
  rw [fetchBalance_eq]
  rcases unread with rfl | missing | missing
  · rfl
  · rw [readTotal_isSome, Bool.not_eq_true, Option.isSome_eq_false_iff,
      Option.isNone_iff_eq_none] at missing
    rw [missing]
    cases users <;> rfl
  · rw [readTotal_isSome, Bool.not_eq_true, Option.isSome_eq_false_iff,
      Option.isNone_iff_eq_none] at missing
    rw [missing]
    cases users <;> cases readTotal u .cards cards <;> rfl

/-- Once everything has been read, the callback runs. -/
theorem fetchBalance_of_read {db : Database} (cardsRead : Readable u .cards cards)
    (rentsRead : Readable u .rents rents) : fetchBalance u page (some db) cards rents =
      match storedName (db.users u) with
      | some name => (⟨0, u, .paymentForm, .done⟩,
          { page with totalBalance := owed u .cards cards + owed u .rents rents, name })
      | none => (⟨0, u, .paymentForm, .threw⟩,
          { page with totalBalance := owed u .cards cards + owed u .rents rents }) := by
  rw [fetchBalance_eq, readTotal_eq_some.mpr ⟨cardsRead, rfl⟩,
    readTotal_eq_some.mpr ⟨rentsRead, rfl⟩]

/-- What is asked of a refresh that fails. -/
theorem refreshesOrKeeps_of_threw {page' : PaymentForm}
    (result : fetchBalance u page users cards rents = (⟨0, u, .paymentForm, .threw⟩, page')) :
    RefreshesOrKeeps u page users cards rents ↔
      ¬ (HasName u users ∧ Readable u .cards cards ∧ Readable u .rents rents) ∧
        page'.totalBalance = page.totalBalance ∧ page'.name = page.name := by
  have threw : (fetchBalance u page users cards rents).1.stage ≠ .done := by
    rw [result]
    exact FetchStage.noConfusion
  constructor
  · intro refreshes
    have kept := refreshes.kept threw
    rw [result] at kept
    exact ⟨fun all => threw (refreshes.completes.mpr all), kept⟩
  · rintro ⟨incomplete, kept⟩
    refine ⟨iff_of_false threw incomplete, fun done => absurd done threw, fun _ => ?_⟩
    rw [result]
    exact kept

/-- A refresh completes or leaves the page alone exactly if the total on the page
    is right already whenever only the name is missing. -/
theorem refreshes_or_keeps_iff : RefreshesOrKeeps u page users cards rents ↔
    (OnlyNameMissing u users cards rents →
      page.totalBalance = owed u .cards cards + owed u .rents rents) := by
  by_cases unread : users = none ∨ ¬ Readable u .cards cards ∨ ¬ Readable u .rents rents
  · refine iff_of_true ((refreshesOrKeeps_of_threw (fetchBalance_of_unread unread)).mpr
      ⟨?_, rfl, rfl⟩) ?_
    · rintro ⟨⟨_, _, rfl, _⟩, cardsRead, rentsRead⟩
      grind
    · rintro ⟨read, _, cardsRead, rentsRead⟩
      grind
  simp only [not_or, not_not] at unread
  obtain ⟨read, cardsRead, rentsRead⟩ := unread
  obtain ⟨db, rfl⟩ := Option.ne_none_iff_exists'.mp read
  have result : fetchBalance u page (some db) cards rents = _ :=
    fetchBalance_of_read cardsRead rentsRead
  cases name : storedName (db.users u) with
  | some text =>
      have named : HasName u (some db) := ⟨db, text, rfl, name⟩
      rw [name] at result
      refine iff_of_true ⟨?_, ?_, ?_⟩ fun missing => absurd named missing.2.1
      · rw [result]
        exact iff_of_true rfl ⟨named, cardsRead, rentsRead⟩
      · rw [result]
        exact fun _ => ⟨rfl, name⟩
      · rw [result]
        exact fun unfinished => absurd rfl unfinished
  | none =>
      have nameless : ¬ HasName u (some db) := by
        rintro ⟨_, text, same, there⟩
        obtain rfl := Option.some.inj same
        rw [name] at there
        cases there
      rw [name] at result
      rw [refreshesOrKeeps_of_threw result]
      constructor
      · exact fun kept _ => kept.2.1.symm
      · intro right
        have same := right ⟨rfl, nameless, cardsRead, rentsRead⟩
        exact ⟨fun complete => nameless complete.1, same.symm, rfl⟩

/-- The page shows what Asha had to pay before. -/
def stalePage : PaymentForm := { user := 0, totalBalance := .finite 250, name := "Asha" }

/-- One card of 1000 and no users document: the callback sets the total and then
    throws. -/
theorem nameless_refresh_changes_total :
    ¬ RefreshesOrKeeps 0 stalePage (some .empty) (some oneCard) (some .empty) := by
  have cardsRead : Readable 0 .cards (some oneCard) := ⟨oneCard, rfl, by decide +kernel⟩
  have rentsRead : Readable 0 .rents (some .empty) := ⟨.empty, rfl, by decide +kernel⟩
  have result : fetchBalance 0 stalePage (some .empty) (some oneCard) (some .empty) =
      (⟨0, 0, .paymentForm, .threw⟩, { stalePage with
        totalBalance := owed 0 .cards (some oneCard) + owed 0 .rents (some .empty) }) :=
    fetchBalance_of_read cardsRead rentsRead
  intro refreshes
  have kept := ((refreshesOrKeeps_of_threw result).mp refreshes).2.1
  exact absurd kept (by decide +kernel)

end Udhar.Payments
