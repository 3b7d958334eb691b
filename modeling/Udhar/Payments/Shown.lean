import Udhar.Payments.Owners

/-! # The amount shown and the amount charged

The payment page keeps the user's total twice: the page itself refreshes its
copy when it opens, at each PayNow and after a settlement, its `BalanceCard`
only when it opens. With one page per user and no other writer of the user's
bills, both copies agree with the store whenever nothing is in flight, as long
as no settlement clears a debt that the `BalanceCard` has already read and no
outdated read of the page is the last to end.
-/

namespace Udhar.Payments

open Lib Dart

variable {s s' : State} {u : Uid}

/-! ## One page of the user -/

/-- The user's one page is page 0, and no bill of the user is being saved. -/
structure OnePage (u : Uid) (s : State) : Prop where
  owned : s.Owned
  page : s.pageUser 0 = some u
  only : ∀ j, s.pageUser j = some u → j = 0
  saves : ∀ b ∈ s.saves, b.user ≠ u

/-- The event succeeds and is not another session of the user. -/
def Event.fromOnePage (u : Uid) : Event → Bool
  | .openPage user | .validateCard user _ _ | .submitRent user _ => user ≠ u
  | .fetch _ ok | .settle _ ok | .save _ ok => ok
  | _ => true

namespace OnePage

theorem page_iff (one : OnePage u s) {j : ℕ} {v : Uid} (owner : s.pageUser j = some v) :
    j = 0 ↔ v = u := by
  constructor
  · rintro rfl
    exact Option.some.inj (owner.symm.trans one.page)
  · rintro rfl
    exact one.only j owner

theorem fetches (one : OnePage u s) {f : Fetch} (member : f ∈ s.fetches) :
    f.page = 0 ↔ f.user = u :=
  one.page_iff (one.owned.fetches f member)

theorem settlements (one : OnePage u s) {t : Settlement} (member : t ∈ s.settlements) :
    t.page = 0 ↔ t.user = u :=
  one.page_iff (one.owned.settlements t member)

theorem preserved {e : Event} (event : e.fromOnePage u = true) (one : OnePage u s)
    (stepped : step s e = some s') : OnePage u s' := by
  refine ⟨one.owned.preserved stepped, pageUser_kept stepped one.page, ?_, ?_⟩
  · intro j owner
    rcases step_pageUser stepped j with same | ⟨_, user, rfl, new⟩
    · exact one.only j (same.symm.trans owner)
    · obtain rfl := Option.some.inj (owner.symm.trans new)
      simp [Event.fromOnePage] at event
  · intro b' member
    rcases step_save_origin stepped member with
      ⟨b, old, user, _⟩ | ⟨_, rfl, _⟩ | ⟨_, rfl, _⟩
    · rw [user]
      exact one.saves b old
    · simpa [Event.fromOnePage] using event
    · simpa [Event.fromOnePage] using event

end OnePage

/-! ## What reads and settlements know -/

/-- The fetch has not ended. -/
def Fetch.inFlight (f : Fetch) : Bool :=
  match f.stage with
  | .done | .threw => false
  | _ => true

/-- The fetch has read this kind of bill. The total that a `BalanceCard` has taken is,
    or will be, on the page for good. -/
def Fetch.holds (f : Fetch) (k : BillKind) : Bool :=
  match f.stage with
  | .readRents _ _ => k = .cards
  | .setState _ _ _ | .done => true
  | .readUser | .readCards _ | .threw => false

/-- The totals that the fetch carries are those of the store. -/
def Fetch.Current (db : Database) (f : Fetch) : Prop :=
  match f.stage with
  | .readRents _ cardTotal => cardTotal = .finite (db.debtOn f.user .cards)
  | .setState _ cardTotal rentTotal =>
      cardTotal = .finite (db.debtOn f.user .cards) ∧ rentTotal = .finite (db.debtOn f.user .rents)
  | _ => True

/-- The settlement has committed its batch for this kind of bill. -/
def Settlement.hasPaid (t : Settlement) (k : BillKind) : Bool :=
  match t.stage with
  | .readRents | .commitRents _ => k = .cards
  | .setState | .done => true
  | _ => false

/-- The settlement has committed a batch and will still reset the page's total. -/
def Settlement.willReset (t : Settlement) : Bool :=
  match t.stage with
  | .readRents | .commitRents _ | .setState => true
  | _ => false

/-- No read or settlement of the user is in flight. -/
def State.quiescent (s : State) (u : Uid) : Prop :=
  (∀ f ∈ s.fetches, f.user = u → f.inFlight = false) ∧
    ∀ t ∈ s.settlements, t.user = u → t.stage = .done ∨ t.stage = .threw

/-- The `BalanceCard`, the next PayNow and the store agree on what the user owes. -/
def State.ShowsCharge (s : State) (u : Uid) : Prop :=
  ∃ page, s.pages[0]? = some page ∧ page.amountDue = page.totalBalance ∧
    page.totalBalance = .finite (s.db.debt u)

/-- What the page shows will be refreshed, apart from fetch `i`: by another read of the
    form or at the end of a settlement. -/
def State.willRefresh (s : State) (u : Uid) (i : ℕ) : Bool :=
  (s.fetches.eraseIdx i).any (fun f => f.user = u && f.reader = .paymentForm && f.inFlight) ||
    s.settlements.any fun t => t.user = u && t.willReset

/-- A settlement of `u` commits a batch only if that kind of bill is paid already, or
    no `BalanceCard` has read it; and a read of the form ends with the debt of `u`,
    or before what will refresh it. -/
def keepsCopies (u : Uid) (s : State) : Event → Bool
  | .settle i true => s.settlements[i]?.all fun t => t.user ≠ u ||
      match t.stage with
      | .commitCards _ => unread u s .cards
      | .commitRents _ => unread u s .rents
      | _ => true
  | .fetch i true => s.fetches[i]?.all fun f => f.user ≠ u || f.reader ≠ .paymentForm ||
      match f.stage with
      | .setState _ cardTotal rentTotal =>
          cardTotal + rentTotal = .finite (s.db.debt u) || s.willRefresh u i
      | _ => true
  | _ => true
where
  unread (u : Uid) (s : State) (k : BillKind) : Bool :=
    s.db.debtOn u k = 0 || s.fetches.all fun f => f.user ≠ u || f.reader ≠ .balanceCard ||
      !f.holds k

instance (s : State) (u : Uid) : Decidable (s.quiescent u) :=
  inferInstanceAs (Decidable ((∀ f ∈ s.fetches, _) ∧ ∀ t ∈ s.settlements, _))

instance (s : State) (u : Uid) : Decidable (s.ShowsCharge u) :=
  match found : s.pages[0]? with
  | none => .isFalse fun ⟨page, shown, _⟩ => by
      rw [found] at shown
      cases shown
  | some page => decidable_of_iff (page.amountDue = page.totalBalance ∧
      page.totalBalance = .finite (s.db.debt u)) (by
        simp only [State.ShowsCharge, found, Option.some.injEq, exists_eq_left'])

/-- What holds in all states of a run that keeps both copies. -/
structure UpToDate (u : Uid) (s : State) : Prop where
  one : OnePage u s
  decimals : ∀ k, ∀ e ∈ (s.db.bills u k).entries, e.2.HasDecimalBalance
  snapshots : ∀ t ∈ s.settlements, t.user = u → ∀ k ids, t.stage = .commit k ids →
    ids = (s.db.bills u k).keys
  cleared : ∀ t ∈ s.settlements, t.user = u → ∀ k, t.hasPaid k = true → s.db.debtOn u k = 0
  readings : ∀ f ∈ s.fetches, f.user = u → f.reader = .balanceCard → f.Current s.db
  card : ∃ f ∈ s.fetches, f.user = u ∧ f.reader = .balanceCard ∧ f.stage ≠ .threw
  amountDue : ∀ f ∈ s.fetches, f.user = u → f.reader = .balanceCard → f.stage = .done →
    ∃ page, s.pages[0]? = some page ∧ page.amountDue = .finite (s.db.debt u)
  total : (∃ page, s.pages[0]? = some page ∧ page.totalBalance = .finite (s.db.debt u)) ∨
    (∃ f ∈ s.fetches, f.user = u ∧ f.reader = .paymentForm ∧ f.inFlight = true) ∨
    ∃ t ∈ s.settlements, t.user = u ∧ t.willReset = true

theorem Fetch.current_of_debt {db db' : Database} {f : Fetch}
    (same : ∀ k, f.holds k = true → db'.debtOn f.user k = db.debtOn f.user k)
    (current : f.Current db) : f.Current db' := by
  unfold Fetch.Current at current ⊢
  cases stage : f.stage with
  | readRents userDoc cardTotal =>
      simp only [stage] at current
      rw [same .cards (by simp [Fetch.holds, stage])]
      exact current
  | setState userDoc cardTotal rentTotal =>
      simp only [stage] at current
      rw [same .cards (by simp [Fetch.holds, stage]), same .rents (by simp [Fetch.holds, stage])]
      exact current
  | readUser | readCards | done | threw => trivial

namespace UpToDate

/-- With nothing in flight, both copies are the user's debt. -/
theorem showsCharge (up : UpToDate u s) (quiet : s.quiescent u) : s.ShowsCharge u := by
  obtain ⟨idle, settled⟩ := quiet
  obtain ⟨f, member, user, reader, running⟩ := up.card
  have done : f.stage = .done := by
    have ended := idle f member user
    cases stage : f.stage with
    | done => rfl
    | threw => exact absurd stage running
    | readUser | readCards | readRents | setState =>
        simp only [Fetch.inFlight, stage, Bool.true_eq_false] at ended
  obtain ⟨page, shown, due⟩ := up.amountDue f member user reader done
  rcases up.total with
    ⟨page', shown', total⟩ | ⟨g, inFlight, user', _, busy⟩ | ⟨t, there, user', reset⟩
  · rw [shown] at shown'
    obtain rfl := Option.some.inj shown'
    exact ⟨page, shown, due.trans total.symm, total⟩
  · rw [idle g inFlight user'] at busy
    cases busy
  · rcases settled t there user' with stage | stage <;>
      simp only [Settlement.willReset, stage, Bool.false_eq_true] at reset

/-- Steps that leave the user's bills and page alone and start at most new reads
    of the page and new settlements. -/
theorem of_started (up : UpToDate u s) (one : OnePage u s')
    (bills : ∀ k, s'.db.bills u k = s.db.bills u k) (page : s'.pages[0]? = s.pages[0]?)
    {fetches : List Fetch} (appended : s'.fetches = s.fetches ++ fetches)
    (starting : ∀ f ∈ fetches, f.user = u → f.reader = .paymentForm ∧ f.stage = .readUser)
    {settlements : List Settlement} (joined : s'.settlements = s.settlements ++ settlements)
    (recording : ∀ t ∈ settlements, t.stage = .record) : UpToDate u s' := by
  have debt : ∀ k, s'.db.debtOn u k = s.db.debtOn u k := by
    intro k
    rw [Database.debtOn, Database.debtOn, bills]
  constructor
  · exact one
  · intro k
    rw [bills]
    exact up.decimals k
  · rw [joined]
    intro t member user k ids stage
    rcases List.mem_append.mp member with old | new
    · rw [bills]
      exact up.snapshots t old user k ids stage
    · rw [recording t new] at stage
      cases k <;> cases stage
  · rw [joined]
    intro t member user k has
    rcases List.mem_append.mp member with old | new
    · rw [debt]
      exact up.cleared t old user k has
    · simp only [Settlement.hasPaid, recording t new, Bool.false_eq_true] at has
  · rw [appended]
    intro f member user reader
    rcases List.mem_append.mp member with old | new
    · refine Fetch.current_of_debt (fun k _ => ?_) (up.readings f old user reader)
      rw [user, debt]
    · simp only [Fetch.Current, (starting f new user).2]
  · obtain ⟨f, member, rest⟩ := up.card
    exact ⟨f, appended ▸ List.mem_append_left _ member, rest⟩
  · rw [appended, page, Database.debt, debt, debt]
    intro f member user reader done
    rcases List.mem_append.mp member with old | new
    · exact up.amountDue f old user reader done
    · rw [(starting f new user).2] at done
      cases done
  · rw [appended, page, joined, Database.debt, debt, debt]
    rcases up.total with shown | ⟨f, member, rest⟩ | ⟨t, member, rest⟩
    · exact .inl shown
    · exact .inr (.inl ⟨f, List.mem_append_left _ member, rest⟩)
    · exact .inr (.inr ⟨t, List.mem_append_left _ member, rest⟩)

end UpToDate

/-- What one move of a `BalanceCard`'s fetch does to the page, on decimal balances. -/
theorem Fetch.Move.card_upToDate {db : Database} {page page' : PaymentForm} {f f' : Fetch}
    (move : f.Move db page true f' page') (reader : f.reader = .balanceCard)
    (decimals : ∀ k, ∀ e ∈ (db.bills f.user k).entries, e.2.HasDecimalBalance)
    (current : f.Current db) : (f'.Current db ∧ f'.stage ≠ .threw) ∧
      page'.totalBalance = page.totalBalance ∧
      (page'.amountDue = .finite (db.debt f.user) ∨
        page'.amountDue = page.amountDue ∧ f'.stage ≠ .done) := by
  have total := fun k => fetchTotal_eq (decimals k)
  cases move with
  | readUser => exact ⟨⟨trivial, by simp⟩, rfl, .inr ⟨rfl, by simp⟩⟩
  | readCards stage read =>
      rw [total] at read
      exact ⟨⟨(Option.some.inj read).symm, by simp⟩, rfl, .inr ⟨rfl, by simp⟩⟩
  | readRents stage read =>
      rw [total] at read
      simp only [Fetch.Current, stage] at current
      exact ⟨⟨⟨current, (Option.some.inj read).symm⟩, by simp⟩, rfl, .inr ⟨rfl, by simp⟩⟩
  | card stage =>
      simp only [Fetch.Current, stage] at current
      obtain ⟨rfl, rfl⟩ := current
      exact ⟨⟨trivial, by simp⟩, rfl, .inl rfl⟩
  | form name ends stage other =>
      rw [reader] at other
      cases other
  | threw failed =>
      rcases failed with no | ⟨k, unparsed⟩
      · cases no
      · rw [total] at unparsed
        cases unparsed

/-- What one move of a fetch of the form does to the page, on decimal balances. -/
theorem Fetch.Move.form_upToDate {db : Database} {page page' : PaymentForm} {f f' : Fetch}
    (move : f.Move db page true f' page') (reader : f.reader = .paymentForm)
    (decimals : ∀ k, ∀ e ∈ (db.bills f.user k).entries, e.2.HasDecimalBalance) :
    page'.amountDue = page.amountDue ∧
      (page'.totalBalance = page.totalBalance ∧ f'.inFlight = true ∨
        ∃ userDoc cardTotal rentTotal, f.stage = .setState userDoc cardTotal rentTotal ∧
          page'.totalBalance = cardTotal + rentTotal) := by
  cases move with
  | readUser | readCards | readRents => exact ⟨rfl, .inl ⟨rfl, rfl⟩⟩
  | card stage other =>
      rw [reader] at other
      cases other
  | form name ends stage => exact ⟨rfl, .inr ⟨_, _, _, stage, rfl⟩⟩
  | threw failed =>
      rcases failed with no | ⟨k, unparsed⟩
      · cases no
      · rw [fetchTotal_eq (decimals k)] at unparsed
        cases unparsed

/-- A read pays nothing. -/
theorem Settlement.hasPaid_of_read {t : Settlement} {k j : BillKind} {ids : List ℕ}
    (stage : t.stage = .read k)
    (has : Settlement.hasPaid { t with stage := .commit k ids } j = true) :
    t.hasPaid j = true := by
  cases k with
  | cards => cases has
  | rents =>
      change t.stage = .readRents at stage
      simpa only [Settlement.hasPaid, SettleStage.commit, stage] using has

/-- A commit pays one kind of bill. -/
theorem Settlement.hasPaid_of_after {t : Settlement} {k j : BillKind} {ids : List ℕ} {cleared : ℚ}
    (stage : t.stage = .commit k ids) (other : j ≠ k)
    (has : Settlement.hasPaid { t with stage := .after k, cleared } j = true) :
    t.hasPaid j = true := by
  cases k with
  | cards =>
      simp only [Settlement.hasPaid, SettleStage.after, decide_eq_true_eq] at has
      exact absurd has other
  | rents =>
      change t.stage = .commitRents ids at stage
      cases j with
      | cards => simp only [Settlement.hasPaid, stage, decide_true]
      | rents => exact absurd rfl other

/-- Replacing one entry of a list leaves the others in it. -/
theorem mem_set_or_eq {α : Type*} {l : List α} {i : ℕ} {a b x : α} (found : l[i]? = some a)
    (member : x ∈ l) : x ∈ l.set i b ∨ x = a := by
  obtain ⟨j, there⟩ := List.mem_iff_getElem?.mp member
  by_cases same : i = j
  · subst same
    exact .inr (Option.some.inj (there.symm.trans found))
  · refine .inl (List.mem_of_getElem? (i := j) ?_)
    rwa [List.getElem?_set_ne same]

namespace UpToDate

/-- A fetch of another user. -/
theorem fetch_of_other {i : ℕ} {f f' : Fetch} {pages' : List PaymentForm} (up : UpToDate u s)
    (found : s.fetches[i]? = some f) (user : f'.user = f.user) (foreign : f.user ≠ u)
    (page : pages'[0]? = s.pages[0]?)
    (one : OnePage u { s with pages := pages', fetches := s.fetches.set i f' }) :
    UpToDate u { s with pages := pages', fetches := s.fetches.set i f' } := by
  have others : ∀ g ∈ s.fetches, g.user = u → g ∈ s.fetches.set i f' := fun g old owned =>
    (mem_set_or_eq found old).resolve_right fun same => foreign (same ▸ owned)
  have olds : ∀ g ∈ s.fetches.set i f', g.user = u → g ∈ s.fetches := fun g there owned =>
    (List.mem_or_eq_of_mem_set there).resolve_right fun same => foreign (by
      rw [← user, ← same]
      exact owned)
  refine { up with one, readings := ?_, card := ?_, amountDue := ?_, total := ?_ }
  · exact fun g there owned => up.readings g (olds g there owned) owned
  · obtain ⟨g, old, owned, rest⟩ := up.card
    exact ⟨g, others g old owned, owned, rest⟩
  · rw [page]
    exact fun g there owned => up.amountDue g (olds g there owned) owned
  · rw [page]
    refine up.total.imp_right (Or.imp_left ?_)
    rintro ⟨g, old, owned, rest⟩
    exact ⟨g, others g old owned, owned, rest⟩

/-- What will refresh the page is still to come when fetch `i` has moved. -/
theorem refresh_after_fetch {i : ℕ} {f' : Fetch} (refreshed : s.willRefresh u i = true) :
    (∃ f ∈ s.fetches.set i f', f.user = u ∧ f.reader = .paymentForm ∧ f.inFlight = true) ∨
      ∃ t ∈ s.settlements, t.user = u ∧ t.willReset = true := by
  simp only [State.willRefresh, Bool.or_eq_true, List.any_eq_true, Bool.and_eq_true,
    decide_eq_true_eq] at refreshed
  refine refreshed.imp_left ?_
  rintro ⟨g, member, ⟨owned, isForm⟩, flying⟩
  obtain ⟨j, other, found⟩ := List.mem_eraseIdx_iff_getElem?.mp member
  refine ⟨g, List.mem_of_getElem? (i := j) ?_, owned, isForm, flying⟩
  rw [List.getElem?_set_ne (Ne.symm other), found]

/-- A fetch of the `BalanceCard` shows the debt when it ends. -/
theorem fetch_card {i : ℕ} {f f' : Fetch} {page page' : PaymentForm} (up : UpToDate u s)
    (found : s.fetches[i]? = some f) (shown : s.pages[0]? = some page) (mine : f.user = u)
    (reader : f.reader = .balanceCard) (move : f.Move s.db page true f' page')
    (one : OnePage u { s with pages := s.pages.set 0 page', fetches := s.fetches.set i f' }) :
    UpToDate u { s with pages := s.pages.set 0 page', fetches := s.fetches.set i f' } := by
  obtain ⟨_, user, sameReader, _⟩ := move.same
  have new : f' ∈ s.fetches.set i f' :=
    List.mem_of_getElem? (List.getElem?_set_self (List.getElem?_eq_some_iff.mp found).1)
  have page0 : (s.pages.set 0 page')[0]? = some page' :=
    List.getElem?_set_self (List.getElem?_eq_some_iff.mp shown).1
  obtain ⟨⟨current, alive⟩, kept, due⟩ := move.card_upToDate reader
    (fun k => mine ▸ up.decimals k) (up.readings f (List.mem_of_getElem? found) mine reader)
  rw [mine] at due
  refine { up with one, readings := ?_, card := ?_, amountDue := ?_, total := ?_ }
  · exact forall_mem_set up.readings fun _ _ => current
  · exact ⟨f', new, user.trans mine, sameReader.trans reader, alive⟩
  · intro g there owned isCard done
    refine ⟨page', page0, ?_⟩
    rcases due with due | ⟨same, running⟩
    · exact due
    · rcases List.mem_or_eq_of_mem_set there with old | rfl
      · obtain ⟨page₀, shown₀, due₀⟩ := up.amountDue g old owned isCard done
        rw [shown] at shown₀
        obtain rfl := Option.some.inj shown₀
        exact same.trans due₀
      · exact absurd done running
  · rcases up.total with ⟨page₀, shown₀, total₀⟩ | ⟨g, old, owned, isForm, flying⟩ | reset
    · rw [shown] at shown₀
      obtain rfl := Option.some.inj shown₀
      exact .inl ⟨page', page0, kept.trans total₀⟩
    · have other : g ≠ f := by
        rintro rfl
        cases reader.symm.trans isForm
      exact .inr (.inl ⟨g, (mem_set_or_eq found old).resolve_right other, owned, isForm, flying⟩)
    · exact .inr (.inr reset)

/-- A fetch of the form may end with an outdated total as long as something will refresh
    the page. -/
theorem fetch_form {i : ℕ} {f f' : Fetch} {page page' : PaymentForm}
    (keeps : keepsCopies u s (.fetch i true) = true) (up : UpToDate u s)
    (found : s.fetches[i]? = some f) (shown : s.pages[0]? = some page) (mine : f.user = u)
    (reader : f.reader = .paymentForm) (move : f.Move s.db page true f' page')
    (one : OnePage u { s with pages := s.pages.set 0 page', fetches := s.fetches.set i f' }) :
    UpToDate u { s with pages := s.pages.set 0 page', fetches := s.fetches.set i f' } := by
  obtain ⟨_, user, sameReader, _⟩ := move.same
  have isForm' : f'.reader = .paymentForm := sameReader.trans reader
  have new : f' ∈ s.fetches.set i f' :=
    List.mem_of_getElem? (List.getElem?_set_self (List.getElem?_eq_some_iff.mp found).1)
  have page0 : (s.pages.set 0 page')[0]? = some page' :=
    List.getElem?_set_self (List.getElem?_eq_some_iff.mp shown).1
  obtain ⟨same, total⟩ := move.form_upToDate reader fun k => mine ▸ up.decimals k
  refine { up with one, readings := ?_, card := ?_, amountDue := ?_, total := ?_ }
  · refine forall_mem_set up.readings fun _ isCard => ?_
    cases isCard.symm.trans isForm'
  · obtain ⟨g, old, owned, isCard, alive⟩ := up.card
    have other : g ≠ f := by
      rintro rfl
      cases reader.symm.trans isCard
    exact ⟨g, (mem_set_or_eq found old).resolve_right other, owned, isCard, alive⟩
  · intro g there owned isCard done
    rcases List.mem_or_eq_of_mem_set there with old | rfl
    · obtain ⟨page₀, shown₀, due₀⟩ := up.amountDue g old owned isCard done
      rw [shown] at shown₀
      obtain rfl := Option.some.inj shown₀
      exact ⟨page', page0, same.trans due₀⟩
    · cases isCard.symm.trans isForm'
  · rcases total with ⟨kept, busy⟩ | ⟨userDoc, cardTotal, rentTotal, stage, shows⟩
    · rcases up.total with ⟨page₀, shown₀, total₀⟩ | ⟨g, old, owned, isForm, flying⟩ | reset
      · rw [shown] at shown₀
        obtain rfl := Option.some.inj shown₀
        exact .inl ⟨page', page0, kept.trans total₀⟩
      · rcases mem_set_or_eq (b := f') found old with still | rfl
        · exact .inr (.inl ⟨g, still, owned, isForm, flying⟩)
        · exact .inr (.inl ⟨f', new, user.trans owned, isForm', busy⟩)
      · exact .inr (.inr reset)
    · simp only [keepsCopies, found, Option.all_some, mine, reader, stage, ne_eq,
        not_true_eq_false, decide_false, Bool.false_or, Bool.or_eq_true,
        decide_eq_true_eq] at keeps
      rcases keeps with current | refreshed
      · exact .inl ⟨page', page0, shows.trans current⟩
      · exact .inr (refresh_after_fetch refreshed)

theorem fetch {i : ℕ} (keeps : keepsCopies u s (.fetch i true) = true) (up : UpToDate u s)
    (stepped : step s (.fetch i true) = some s') : UpToDate u s' := by
  have one := up.one.preserved (e := .fetch i true) rfl stepped
  obtain ⟨f, page, f', page', found, shown, advanced, rfl⟩ := step_fetch stepped
  have move := Fetch.advance_move advanced
  have owned := up.one.fetches (List.mem_of_getElem? found)
  by_cases mine : f.user = u
  · rw [owned.mpr mine] at shown one ⊢
    cases reader : f.reader with
    | balanceCard => exact up.fetch_card found shown mine reader move one
    | paymentForm => exact up.fetch_form keeps found shown mine reader move one
  · obtain ⟨_, user, _⟩ := move.same
    exact up.fetch_of_other found user mine
      (List.getElem?_set_ne fun here => mine (owned.mp here)) one

/-- A move that writes no bill of `u`. -/
theorem of_settle {i : ℕ} {t t' : Settlement} {db' : Database} {pages' : List PaymentForm}
    (up : UpToDate u s) (found : s.settlements[i]? = some t)
    (one : OnePage u { s with
      db := db', pages := pages', settlements := s.settlements.set i t' })
    (bills : ∀ k, db'.bills u k = s.db.bills u k) (page : pages'[0]? = s.pages[0]?)
    (user : t'.user = t.user)
    (snapshot : t.user = u → ∀ k ids, t'.stage = .commit k ids → ids = (s.db.bills u k).keys)
    (paid : t.user = u → ∀ k, t'.hasPaid k = true → t.hasPaid k = true)
    (reset : t.user = u → t.willReset = true → t'.willReset = true) : UpToDate u { s with
      db := db', pages := pages', settlements := s.settlements.set i t' } := by
  have member := List.mem_of_getElem? found
  have debt : ∀ k, db'.debtOn u k = s.db.debtOn u k := by
    intro k
    rw [Database.debtOn, Database.debtOn, bills]
  constructor
  · exact one
  · intro k
    rw [bills]
    exact up.decimals k
  · simp only [bills]
    exact forall_mem_set up.snapshots fun owned => snapshot (user ▸ owned)
  · simp only [debt]
    exact forall_mem_set up.cleared fun owned k has =>
      up.cleared t member (user ▸ owned) k (paid (user ▸ owned) k has)
  · intro f inside owned isCard
    refine Fetch.current_of_debt (fun k _ => ?_) (up.readings f inside owned isCard)
    rw [owned, debt]
  · exact up.card
  · rw [page, Database.debt, debt, debt]
    exact up.amountDue
  · rw [page, Database.debt, debt, debt]
    refine up.total.imp_right (Or.imp_right ?_)
    rintro ⟨r, old, owned, resets⟩
    rcases mem_set_or_eq (b := t') found old with kept | rfl
    · exact ⟨r, kept, owned, resets⟩
    · exact ⟨t', List.mem_of_getElem? (List.getElem?_set_self
        (List.getElem?_eq_some_iff.mp found).1), user.trans owned, reset owned resets⟩

theorem settle_of_other {i : ℕ} {t t' : Settlement} {db' : Database} {pages' : List PaymentForm}
    (up : UpToDate u s) (found : s.settlements[i]? = some t)
    (one : OnePage u { s with
      db := db', pages := pages', settlements := s.settlements.set i t' })
    (bills : ∀ k, db'.bills u k = s.db.bills u k) (page : pages'[0]? = s.pages[0]?)
    (user : t'.user = t.user) (foreign : t.user ≠ u) : UpToDate u { s with
      db := db', pages := pages', settlements := s.settlements.set i t' } :=
  up.of_settle found one bills page user (fun owner => absurd owner foreign)
    (fun owner => absurd owner foreign) fun owner => absurd owner foreign

/-- The commit of a batch that was read with all bills in it leaves none to pay. -/
theorem debtOn_after_commit {t : Settlement} (up : UpToDate u s) (member : t ∈ s.settlements)
    (owned : t.user = u) {k : BillKind} {ids : List ℕ} (stage : t.stage = .commit k ids) :
    (s.db.updateDocs u (.bills k) ids paid).debtOn u k = 0 := by
  have all := debtOn_paid_add s.db u k ids
  rw [up.snapshots t member owned k ids stage, Collection.totalOn_keys] at all
  rw [up.snapshots t member owned k ids stage]
  exact add_eq_right.mp all

/-- A settlement of `u` commits a batch that no `BalanceCard` has read a debt of. -/
theorem settle_commit {i : ℕ} {t : Settlement} {k : BillKind} {ids : List ℕ} {cleared : ℚ}
    {pages' : List PaymentForm} (up : UpToDate u s) (found : s.settlements[i]? = some t)
    (owned : t.user = u) (stage : t.stage = .commit k ids)
    (unread : s.db.debtOn u k = 0 ∨
      ∀ f ∈ s.fetches, f.user = u → f.reader = .balanceCard → f.holds k = false)
    (one : OnePage u { s with
      db := s.db.updateDocs u (.bills k) ids paid
      pages := pages'
      settlements := s.settlements.set i { t with stage := .after k, cleared } })
    (page : pages'[0]? = s.pages[0]?) : UpToDate u { s with
      db := s.db.updateDocs u (.bills k) ids paid
      pages := pages'
      settlements := s.settlements.set i { t with stage := .after k, cleared } } := by
  have member := List.mem_of_getElem? found
  have inside : i < s.settlements.length := (List.getElem?_eq_some_iff.mp found).1
  have settled := up.debtOn_after_commit member owned stage
  have debt : ∀ j, j ≠ k →
      (s.db.updateDocs u (.bills k) ids paid).debtOn u j = s.db.debtOn u j := fun j other =>
    debtOn_updateDocs_of_ne s.db u j ids paid (by simpa using other)
  have unchanged : ∀ f ∈ s.fetches, f.user = u → f.reader = .balanceCard →
      ∀ j, f.holds j = true →
      (s.db.updateDocs u (.bills k) ids paid).debtOn u j = s.db.debtOn u j := by
    intro f there mine isCard j holds
    by_cases same : j = k
    · subst same
      rcases unread with free | unheld
      · rw [settled, free]
      · rw [unheld f there mine isCard] at holds
        cases holds
    · exact debt j same
  constructor
  · exact one
  · intro j e stored
    by_cases same : j = k
    · subst same
      rw [Database.bills, Database.docs_updateDocs_self] at stored
      obtain ⟨a, old, changed⟩ := Collection.mem_modify.mp stored
      rw [changed]
      split
      · exact ⟨0, balance_paid a⟩
      · exact up.decimals j (e.1, a) old
    · rw [Database.bills, Database.docs_updateDocs_of_ne s.db u (.bills k) (v := u)
        (b := .bills j) ids paid (by simpa using same)] at stored
      exact up.decimals j e stored
  · intro r there mine j ids' at'
    rw [Database.bills, Database.keys_updateDocs]
    rcases List.mem_or_eq_of_mem_set there with old | rfl
    · exact up.snapshots r old mine j ids' at'
    · cases j <;> cases k <;> cases at'
  · intro r there mine j has
    by_cases same : j = k
    · subst same
      exact settled
    · rw [debt j same]
      rcases List.mem_or_eq_of_mem_set there with old | rfl
      · exact up.cleared r old mine j has
      · exact up.cleared t member owned j (Settlement.hasPaid_of_after stage same has)
  · intro f there mine isCard
    refine Fetch.current_of_debt (fun j holds => ?_) (up.readings f there mine isCard)
    rw [mine]
    exact unchanged f there mine isCard j holds
  · exact up.card
  · intro f there mine isCard done
    have kept := fun j => unchanged f there mine isCard j (by simp only [Fetch.holds, done])
    rw [page, Database.debt, kept, kept]
    exact up.amountDue f there mine isCard done
  · refine .inr (.inr ⟨_, List.mem_of_getElem? (List.getElem?_set_self inside), owned, ?_⟩)
    cases k <;> rfl

/-- The settlement that resets the page has paid both kinds of bills. -/
theorem settle_reset {i : ℕ} {t : Settlement} {page : PaymentForm} (up : UpToDate u s)
    (found : s.settlements[i]? = some t) (shown : s.pages[t.page]? = some page)
    (owned : t.user = u) (stage : t.stage = .setState)
    (one : OnePage u { s with
      pages := s.pages.set t.page { page with totalBalance := 0 }
      settlements := s.settlements.set i { t with stage := .done } }) : UpToDate u { s with
      pages := s.pages.set t.page { page with totalBalance := 0 }
      settlements := s.settlements.set i { t with stage := .done } } := by
  have member := List.mem_of_getElem? found
  have free := fun k => up.cleared t member owned k (by simp only [Settlement.hasPaid, stage])
  have here : t.page = 0 := (up.one.settlements member).mpr owned
  have page0 : (s.pages.set t.page { page with totalBalance := 0 })[0]? =
      some { page with totalBalance := 0 } := by
    rw [here] at shown ⊢
    exact List.getElem?_set_self (List.getElem?_eq_some_iff.mp shown).1
  refine { up with one, snapshots := ?_, cleared := ?_, amountDue := ?_, total := .inl ?_ }
  · apply forall_mem_set up.snapshots
    intro _ k ids at'
    cases k <;> cases at'
  · exact fun _ _ _ k _ => free k
  · intro f there mine isCard done
    obtain ⟨page₀, shown₀, due⟩ := up.amountDue f there mine isCard done
    rw [← here, shown] at shown₀
    obtain rfl := Option.some.inj shown₀
    exact ⟨_, page0, due⟩
  · refine ⟨_, page0, congrArg Double.finite ?_⟩
    rw [Database.debt, free, free, add_zero]

theorem settle {i : ℕ} (keeps : keepsCopies u s (.settle i true) = true) (up : UpToDate u s)
    (stepped : step s (.settle i true) = some s') : UpToDate u s' := by
  have one := up.one.preserved (e := .settle i true) rfl stepped
  obtain ⟨t, page, db', page', t', found, shown, advanced, rfl⟩ := step_settle stepped
  have member := List.mem_of_getElem? found
  have owned := up.one.settlements member
  have same : (s.pages.set t.page page)[0]? = s.pages[0]? := by
    by_cases here : t.page = 0
    · rw [here] at shown ⊢
      rw [List.getElem?_set_self (List.getElem?_eq_some_iff.mp shown).1, shown]
    · exact List.getElem?_set_ne here
  cases Settlement.advance_move advanced with
  | record stage =>
      refine up.of_settle found one ?_ same rfl ?_ ?_ ?_
      · exact fun k => Database.docs_add_of_ne s.db t.user .transactions _ (by simp)
      · intro _ k ids at'
        cases k <;> cases at'
      · exact fun _ k has => by cases k <;> cases has
      · intro _ resets
        simp only [Settlement.willReset, stage, Bool.false_eq_true] at resets
  | read k stage =>
      refine up.of_settle found one (fun _ => rfl) same rfl ?_ ?_ ?_
      · intro mine j ids at'
        cases j <;> cases k <;> cases at' <;> rw [snapshotIds, mine]
      · exact fun _ j has => Settlement.hasPaid_of_read stage has
      · intro _ resets
        cases k with
        | cards =>
            change t.stage = .readCards at stage
            simp only [Settlement.willReset, stage, Bool.false_eq_true] at resets
        | rents => rfl
  | @commit k ids stage =>
      by_cases mine : t.user = u
      · subst mine
        refine up.settle_commit found rfl stage ?_ one same
        simp only [keepsCopies, found, Option.all_some, ne_eq, not_true_eq_false, decide_false,
          Bool.false_or] at keeps
        cases k with
        | cards =>
            change t.stage = .commitCards ids at stage
            simpa [stage, keepsCopies.unread, imp_iff_not_or, or_assoc] using keeps
        | rents =>
            change t.stage = .commitRents ids at stage
            simpa [stage, keepsCopies.unread, imp_iff_not_or, or_assoc] using keeps
      · refine up.settle_of_other found one ?_ same rfl mine
        exact fun j => Database.docs_updateDocs_of_ne s.db t.user (.bills k) ids paid
          (by simp [Ne.symm mine])
  | reset stage =>
      by_cases mine : t.user = u
      · exact up.settle_reset found shown mine stage one
      · have apart : t.page ≠ 0 := fun here => mine (owned.mp here)
        exact up.settle_of_other found one (fun _ => rfl) (List.getElem?_set_ne apart) rfl mine
  | threw failed =>
      by_cases mine : t.user = u
      · rcases failed with no | ⟨k, ids, stage, refused⟩
        · cases no
        · rw [mine, Database.commit_of_keys fun x inside =>
            up.snapshots t member mine k ids stage ▸ inside] at refused
          cases refused
      · exact up.settle_of_other found one (fun _ => rfl) same rfl mine

theorem preserved {e : Event} (event : e.fromOnePage u = true)
    (keeps : keepsCopies u s e = true) (up : UpToDate u s) (stepped : step s e = some s') :
    UpToDate u s' := by
  have one := up.one.preserved event stepped
  obtain ⟨page, shown, _⟩ := Option.map_eq_some_iff.mp up.one.page
  have inside := (List.getElem?_eq_some_iff.mp shown).1
  cases e with
  | fetch i ok =>
      obtain rfl : ok = true := event
      exact up.fetch keeps stepped
  | settle i ok =>
      obtain rfl : ok = true := event
      exact up.settle keeps stepped
  | openPage user =>
      have other : user ≠ u := by simpa [Event.fromOnePage] using event
      obtain rfl := step_openPage stepped
      refine up.of_started one (fun _ => rfl) (List.getElem?_append_left inside) rfl ?_
        (List.append_nil _).symm (fun t new => nomatch new)
      intro f new owned
      simp only [List.mem_cons, List.not_mem_nil, or_false] at new
      rcases new with rfl | rfl <;> exact absurd owned other
  | payNow =>
      obtain ⟨_, _, rfl⟩ := step_payNow stepped
      refine up.of_started one (fun _ => rfl) rfl rfl ?_ (List.append_nil _).symm
        (fun t new => nomatch new)
      intro f new _
      obtain rfl := List.mem_singleton.mp new
      exact ⟨rfl, rfl⟩
  | paymentSuccess =>
      obtain ⟨_, _, _, _, _, _, rfl⟩ := step_paymentSuccess stepped
      refine up.of_started one (fun _ => rfl) rfl (List.append_nil _).symm
        (fun f new => nomatch new) rfl ?_
      intro t new
      obtain rfl := List.mem_singleton.mp new
      rfl
  | paymentError =>
      obtain ⟨_, _, _, rfl⟩ := close_eq_some stepped
      exact up.of_started one (fun _ => rfl) rfl (List.append_nil _).symm
        (fun f new => nomatch new) (List.append_nil _).symm (fun t new => nomatch new)
  | externalWallet =>
      obtain ⟨_, _, _, rfl⟩ := close_eq_some stepped
      exact up.of_started one (fun _ => rfl) rfl (List.append_nil _).symm
        (fun f new => nomatch new) (List.append_nil _).symm (fun t new => nomatch new)
  | validateCard =>
      rcases step_validateCard stepped with ⟨_, rfl⟩ | ⟨_, rfl⟩ <;>
        exact up.of_started one (fun _ => rfl) rfl (List.append_nil _).symm
          (fun f new => nomatch new) (List.append_nil _).symm (fun t new => nomatch new)
  | submitRent =>
      rcases step_submitRent stepped with ⟨_, rfl⟩ | ⟨_, rfl⟩ <;>
        exact up.of_started one (fun _ => rfl) rfl (List.append_nil _).symm
          (fun f new => nomatch new) (List.append_nil _).symm (fun t new => nomatch new)
  | save =>
      obtain ⟨b, db', b', found, advanced, rfl⟩ := step_save stepped
      have foreign := up.one.saves b (List.mem_of_getElem? found)
      refine up.of_started one ?_ rfl (List.append_nil _).symm (fun f new => nomatch new)
        (List.append_nil _).symm (fun t new => nomatch new)
      obtain ⟨_, ⟨_, rfl, _⟩ | ⟨_, rfl, _⟩⟩ := BillSave.advance_cases advanced
      · exact fun k => Database.docs_add_of_ne s.db b.user _ b.data (by simp [Ne.symm foreign])
      · exact fun _ => rfl

/-- The page of `u` has just been opened. -/
theorem opened {db : Database}
    (decimals : ∀ k, ∀ e ∈ (db.bills u k).entries, e.2.HasDecimalBalance)
    (stepped : step (State.init db) (.openPage u) = some s) : UpToDate u s := by
  have owned := (State.Owned.init db).preserved stepped
  obtain rfl := step_openPage stepped
  have idle : ∀ {P : Settlement → Prop}, ∀ t ∈ (State.init db).settlements, P t :=
    fun _ absent => nomatch absent
  refine ⟨⟨owned, rfl, fun j owner => ?_, fun _ absent => (nomatch absent)⟩, decimals, idle, idle,
    ?_, ?_, ?_, ?_⟩
  · obtain ⟨page, shown, _⟩ := Option.map_eq_some_iff.mp owner
    have inside := (List.getElem?_eq_some_iff.mp shown).1
    simp only [State.init, List.nil_append, List.length_singleton] at inside
    omega
  · intro f member _ _
    simp only [State.init, List.nil_append, List.mem_cons, List.not_mem_nil, or_false] at member
    rcases member with rfl | rfl <;> trivial
  · exact ⟨⟨0, u, .balanceCard, .readCards none⟩, by simp [State.init], rfl, rfl, by simp⟩
  · intro f member _ _ done
    simp only [State.init, List.nil_append, List.mem_cons, List.not_mem_nil, or_false] at member
    rcases member with rfl | rfl <;> cases done
  · exact .inr (.inl ⟨⟨0, u, .paymentForm, .readUser⟩, by simp [State.init], rfl, rfl, rfl⟩)

end UpToDate

/-- In every run of a user's payment page that no other session of the user disturbs, in
    which no settlement clears a debt that the `BalanceCard` has read and no outdated
    read of the form is the last to end, the amount shown, the amount that PayNow
    charges and the stored debt are equal whenever nothing is in flight. -/
theorem shown_is_charged {db : Database} {es : List Event}
    (decimals : ∀ k, ∀ e ∈ (db.bills u k).entries, e.2.HasDecimalBalance)
    (alone : ∀ e ∈ es, e.fromOnePage u = true)
    (played : run step (State.init db) (.openPage u :: es) = some s)
    (keeps : Meets step (fun s e => keepsCopies u s e) (State.init db) (.openPage u :: es))
    (quiet : s.quiescent u) : s.ShowsCharge u := by
  obtain ⟨opened, first, rest⟩ := run_cons.mp played
  have up := run_invariant_of_meets (P := UpToDate u)
    (fun _ _ _ both up stepped => up.preserved both.1 both.2 stepped) rest
    ((keeps.2 opened first).and_events alone) (.opened decimals first)
  exact up.showsCharge quiet

/-- The page has loaded, PayNow has refreshed it, and the payment is still open. -/
def reloaded : List Event :=
  [.fetch 0 true, .fetch 0 true, .fetch 0 true, .fetch 0 true, .fetch 1 true, .fetch 1 true,
    .fetch 1 true, .payNow 0, .fetch 2 true, .fetch 2 true, .fetch 2 true, .fetch 2 true]

/-- One payment fails and the next succeeds before the `BalanceCard` has read anything;
    the read that the second PayNow starts is outdated, but ends before the reset. -/
def paidBeforeCard : List Event :=
  [.fetch 0 true, .fetch 0 true, .fetch 0 true, .fetch 0 true, .payNow 0, .fetch 2 true,
    .fetch 2 true, .fetch 2 true, .fetch 2 true, .paymentError 0 2 "cancelled", .payNow 0,
    .fetch 3 true, .fetch 3 true, .fetch 3 true,
    .paymentSuccess 1 "pay_1" "2024-03-14 10:00:00.000", .settle 0 true, .settle 0 true,
    .settle 0 true, .settle 0 true, .settle 0 true, .fetch 3 true, .settle 0 true,
    .fetch 1 true, .fetch 1 true, .fetch 1 true]

theorem shown_is_charged_after_payments :
    ∃ s, run step (State.init oneCard) (.openPage 0 :: paidBeforeCard) = some s ∧
      s.db.debt 0 = 0 ∧ s.ShowsCharge 0 := by
  obtain ⟨s, played, quiet, paid⟩ := run_reaches step (State.init oneCard)
    (.openPage 0 :: paidBeforeCard) (P := fun s => s.quiescent 0 ∧ s.db.debt 0 = 0)
    (by decide +kernel)
  refine ⟨s, played, paid, shown_is_charged ?_ (by decide) played (by decide +kernel) quiet⟩
  intro k
  cases k <;> decide +kernel

/-- After a successful payment of 1000 the `BalanceCard` still shows 1000. -/
theorem balanceCard_stale_after_payment :
    ∃ s, run step (State.init oneCard) (.openPage 0 :: (reloaded ++ succeedAndSettle)) = some s ∧
      s.quiescent 0 ∧ ¬ s.ShowsCharge 0 :=
  run_reaches _ _ _ (by decide +kernel)

end Udhar.Payments
