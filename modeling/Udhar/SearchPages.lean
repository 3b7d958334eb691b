import Udhar.Lib.Observer
import Udhar.Payments.Settled
import Udhar.Profiles
import Udhar.Stored

/-! # What the search pages find

`TransactionsPage` and `ViewUserPage` read one collection and search what they have
read. Whatever happens between the load and a search, the records of the list still
say something true about the documents, every load of documents that the app itself
has written ends, and every search shows exactly what it should find.
-/

namespace Udhar.SearchPages

open Lib Search

/-! ## A search page over a system -/

/-- A page, and what its query is for. -/
structure View (ω α : Type) where
  subject : ω
  page : Search.Page α := {}

inductive Event where
  | getUsers (ok : Bool)
  | search (text : String)

section Pages

variable {σ ε ω δ α : Type} (toLowerCase : String → String) (kind : Kind δ α)
  (docs : σ → ω → List δ)

/-- One step of the page: `getUsers` takes the snapshot of this moment. -/
def pageStep (s : σ) (view : View ω α) : Event → Option (View ω α)
  | .getUsers ok =>
      (Search.step toLowerCase kind view.page
        (.getUsers (if ok then some (docs s view.subject) else none))).map ({ view with page := · })
  | .search text =>
      (Search.step toLowerCase kind view.page (.search text)).map ({ view with page := · })

/-- The system with its search pages. -/
def step (system : σ → ε → Option σ) :
    Observer.State σ (View ω α) → Observer.Event ε ω Event → Option (Observer.State σ (View ω α)) :=
  Observer.step system (fun subject => { subject }) (pageStep toLowerCase kind docs)

/-- All records of the page have their text and are true of the system. -/
structure Lists (Q : σ → ω → α → Prop) (s : σ) (view : View ω α) : Prop where
  keys : kind.complete view.page.users = true
  holds : ∀ a ∈ view.page.users, Q s view.subject a

/-- The records of the list are true of the system; a load ends and lists all
    documents; and a search shows exactly the records that it finds. -/
structure Serves (Q : σ → ω → α → Prop) (s : σ) (view : View ω α) : Prop where
  holds : ∀ a ∈ view.page.users, Q s view.subject a
  loads : view.page.load = .reading → ∃ view',
    pageStep toLowerCase kind docs s view (.getUsers true) = some view' ∧
      view'.page.load = .done ∧
      (docs s view.subject).map kind.record = view'.page.users.map some
  finds : ∀ text, ∃ view', pageStep toLowerCase kind docs s view (.search text) = some view' ∧
    view'.page.displayed = view.page.users.filter (kind.finds toLowerCase text)

end Pages

section Rules

variable {σ ε ω δ α : Type} {toLowerCase : String → String} {kind : Kind δ α}
  {docs : σ → ω → List δ} {system : σ → ε → Option σ} {Q : σ → ω → α → Prop}

/-- Where every text is there, a search shows what it finds. -/
theorem step_search (toLowerCase : String → String) {page : Search.Page α}
    (keys : kind.complete page.users = true)
    (text : String) :
    ∃ page', Search.step toLowerCase kind page (.search text) = some page' ∧
      page'.users = page.users ∧
      page'.displayed = page.users.filter (kind.finds toLowerCase text) := by
  by_cases empty : text = ""
  · subst empty
    refine ⟨{ page with searchQuery := "", filteredUsers := some page.users }, ?_, rfl, ?_⟩
    · rw [Search.step, if_pos rfl]
    · exact (filter_empty_query page.users).symm
  · refine ⟨{ page with
      searchQuery := text
      filteredUsers := some (page.users.filter (kind.finds toLowerCase text)) }, ?_, rfl, rfl⟩
    rw [Search.step, if_neg empty, filterUsers_eq empty, if_pos keys]

theorem Lists.opened (s : σ) (subject : ω) : Lists kind Q s { subject } where
  keys := rfl
  holds _ none := nomatch none

theorem Lists.pageStep {s : σ} {view view' : View ω α} {e : Event}
    (reads : ∀ w, ∀ d ∈ docs s w, ∃ a, kind.record d = some a ∧ (kind.key a).isSome ∧ Q s w a)
    (lists : Lists kind Q s view)
    (taken : pageStep toLowerCase kind docs s view e = some view') : Lists kind Q s view' := by
  cases e with
  | search text =>
      obtain ⟨page', moved, rfl⟩ := Option.map_eq_some_iff.mp taken
      obtain ⟨_, same, users, _⟩ := step_search toLowerCase lists.keys text
      obtain rfl := Option.some.inj (same.symm.trans moved)
      exact ⟨users ▸ lists.keys, users ▸ lists.holds⟩
  | getUsers ok =>
      obtain ⟨page', moved, rfl⟩ := Option.map_eq_some_iff.mp taken
      cases ok with
      | false =>
          simp only [Search.step] at moved
          split at moved
          · cases moved
            exact ⟨lists.keys, lists.holds⟩
          · cases moved
      | true =>
          simp only [Search.step] at moved
          split at moved
          · cases moved
            have each : ∀ a ∈ (kind.records (docs s view.subject)).1,
                (kind.key a).isSome ∧ Q s view.subject a := by
              intro a listed
              obtain ⟨d, stored, read⟩ := mem_mapUntil listed
              obtain ⟨_, read', rest⟩ := reads view.subject d stored
              obtain rfl := Option.some.inj (read.symm.trans read')
              exact rest
            exact ⟨List.all_eq_true.mpr fun a listed => (each a listed).1,
              fun a listed => (each a listed).2⟩
          · cases moved

theorem Lists.serves {s : σ} {view : View ω α}
    (reads : ∀ w, ∀ d ∈ docs s w, ∃ a, kind.record d = some a ∧ (kind.key a).isSome ∧ Q s w a)
    (lists : Lists kind Q s view) : Serves toLowerCase kind docs Q s view where
  holds := lists.holds
  loads reading := by
    have built : ∀ d ∈ docs s view.subject, ∃ a, kind.record d = some a := fun d stored =>
      (reads view.subject d stored).imp fun _ read => read.1
    obtain ⟨ended, all⟩ := mapUntil_of_forall built
    refine ⟨⟨view.subject, { view.page with
      users := (kind.records (docs s view.subject)).1
      load := .done }⟩, ?_, rfl, all⟩
    simp only [SearchPages.pageStep, Search.step, reading, Kind.records, if_true, ended,
      Option.map_some]
  finds text := by
    obtain ⟨page', moved, _, shown⟩ := step_search toLowerCase lists.keys text
    exact ⟨⟨view.subject, page'⟩, by rw [SearchPages.pageStep, moved, Option.map_some], shown⟩

/-- Where every stored document becomes a record that is true of the system, and stays
    true of it, all pages serve in every run. -/
theorem pages_serve {s₀ : σ} {t : Observer.State σ (View ω α)}
    {es : List (Observer.Event ε ω Event)} (I : σ → Prop)
    (keeps : ∀ s e t, Observer.Seen system s₀ es s e → I s → system s e = some t →
      I t ∧ ∀ w a, Q s w a → Q t w a)
    (reads : ∀ s, I s → ∀ w, ∀ d ∈ docs s w,
      ∃ a, kind.record d = some a ∧ (kind.key a).isSome ∧ Q s w a)
    (played : run (step toLowerCase kind docs system) ⟨s₀, []⟩ es = some t) (start : I s₀) :
    ∀ view ∈ t.pages, Serves toLowerCase kind docs Q t.system view := by
  obtain ⟨known, lists⟩ := Observer.pages_invariant (R := Lists kind Q) (I := I)
    (fun s e t here known stepped => (keeps s e t here known stepped).imp id
      fun stays view lists => ⟨lists.keys, fun a listed => stays _ a (lists.holds a listed)⟩)
    (fun s subject _ => .opened s subject)
    (fun s view e view' known lists taken => lists.pageStep (reads s known) taken) played start
  exact fun view member => (lists view member).serves (reads _ known)

end Rules

variable {i : ℕ} (toLowerCase : String → String)

/-! ## The user's payments -/

section Payments

open Payments Stored

def paymentDocs (s : App.State) (u : Uid) : List Fields := snapshot s.db u .transactions

/-- The record of a payment that was reported on the user's orders and stands in the
    user's history. -/
def ListedPayment (H : App.State → App.Event → Prop) (s : App.State) (u : Uid)
    (t : Search.Transaction) : Prop :=
  ∃ p : StoredPayment, t = ⟨p.paymentId, p.dateTime, p.amount⟩ ∧ p.data ∈ paymentDocs s u ∧
    Reported H u p

theorem paymentDocs_subset {s s' : App.State} {e : App.Event} (stepped : App.step s e = some s')
    (u : Uid) : paymentDocs s u ⊆ paymentDocs s' u := by
  rcases App.step_payments_cases stepped with ⟨p, rfl, taken⟩ | ⟨_, same | ⟨v, d, same⟩⟩
  · exact snapshot_subset (step_grows taken) u
  · rw [paymentDocs, paymentDocs, App.State.db, App.State.db, same]
    exact List.Subset.refl _
  · rw [paymentDocs, paymentDocs, App.State.db, App.State.db, same]
    exact List.Subset.refl _

/-- In every run of the app with any number of `TransactionsPage`s, on a database without
    bills and payments: each lists payments that were reported on its user's orders and
    are in the history, its load ends with all of the history, and every search shows
    exactly the listed payments whose id contains the query, ignoring case. -/
theorem search_finds_reported_payments {auth : SignUp.Auth} {db : Database}
    {es : List (Observer.Event App.Event Uid Event)}
    {s : Observer.State App.State (View Uid Search.Transaction)}
    {view : View Uid Search.Transaction} (empty : ∀ u c, (db.docs u c).entries = [])
    (played : run (step toLowerCase transactionsPage paymentDocs App.step)
      ⟨.init auth db, []⟩ es = some s)
    (opened : s.pages[i]? = some view) :
    Serves toLowerCase transactionsPage paymentDocs
      (ListedPayment (Observer.Seen App.step (.init auth db) es)) s.system view := by
  refine pages_serve (fun s => FromEvents (Observer.Seen App.step (.init auth db) es) s.payments)
    ?_ ?_ played (fromEvents_init auth empty) view (List.mem_of_getElem? opened)
  · intro s e t here origins stepped
    refine ⟨origins.appStep here stepped, ?_⟩
    rintro u a ⟨p, rfl, stored, reported⟩
    exact ⟨p, rfl, paymentDocs_subset stepped u stored, reported⟩
  · intro s origins u d stored
    obtain ⟨e, member, rfl⟩ := List.mem_map.mp stored
    obtain ⟨p, data, reported⟩ := origins.stored u .transactions e member
    refine ⟨⟨p.paymentId, p.dateTime, p.amount⟩, ?_, rfl, p, rfl, data ▸ stored, reported⟩
    rw [data]
    rfl

/-- A payment is made, then another page lists it and is searched. -/
def paidAndSearched : List (Observer.Event App.Event Uid Event) :=
  .opened 0 :: submitAndPay.map .system ++ [.opened 0, .page 0 (.search "pay"),
    .page 1 (.getUsers true), .page 1 (.search "PAY_1")]

theorem payment_found : ∃ s view,
    run (step lowerAscii transactionsPage paymentDocs App.step)
      ⟨.init App.oneAccount .empty, []⟩ paidAndSearched = some s ∧
      s.pages[1]? = some view ∧ view.page.displayed.length = 1 ∧
      Serves lowerAscii transactionsPage paymentDocs
        (ListedPayment (Observer.Seen App.step (.init App.oneAccount .empty) paidAndSearched))
        s.system view := by
  obtain ⟨s, played, evaluated⟩ := run_reaches
    (step lowerAscii transactionsPage paymentDocs App.step) ⟨.init App.oneAccount .empty, []⟩
    paidAndSearched (P := fun s => s.pages[1]?.any
      (fun view => view.page.displayed.length = 1) = true) (by decide +kernel)
  obtain ⟨view, opened, found⟩ := (Option.any_eq_true _ _).mp evaluated
  exact ⟨s, view, played, opened, of_decide_eq_true found,
    search_finds_reported_payments lowerAscii (fun _ _ => rfl) played opened⟩

end Payments

/-! ## The admin's list of users -/

section Users

open Profiles

/-- The documents of `users`. Every one of them belongs to an account, so their ids are
    among those that Firebase Auth has issued. -/
def userDocs (s : Profiles.State) (_ : Unit) : List (Uid × Fields) :=
  (List.range s.auth.nextUid).filterMap fun u => (s.db.users u).map fun d => (u, d)

/-- The address and the phone number of the record are those of the user's profile. -/
def ListedUser (s : Profiles.State) (_ : Unit) (user : AppUser) : Prop :=
  ∃ d, s.db.users user.uid = some d ∧ d "email" = some (.string user.email) ∧
    d "phoneNumber" = some (.string user.phone)

theorem mem_userDocs {s : Profiles.State} (registered : Registered s) {u : Uid} {d : Fields} :
    (u, d) ∈ userDocs s () ↔ s.db.users u = some d := by
  simp only [userDocs, List.mem_filterMap, List.mem_range, Option.map_eq_some_iff, Prod.mk.injEq]
  constructor
  · rintro ⟨_, _, _, stored, rfl, rfl⟩
    exact stored
  · intro stored
    obtain ⟨a, member, rfl⟩ := (registered.profiles u d stored).1
    exact ⟨_, s.auth.issued a member, d, stored, rfl, rfl⟩

/-- In every run of registrations and edits with any number of `ViewUserPage`s: a load
    ends and lists all profiles that are stored; every user of a list, however old,
    still has the listed address and phone number; and every search shows exactly the
    listed users whose name contains the query, ignoring case. -/
theorem search_finds_registered_users {es : List (Observer.Event Profiles.Event Unit Event)}
    {s : Observer.State Profiles.State (View Unit AppUser)} {view : View Unit AppUser}
    (played : run (step toLowerCase viewUserPage userDocs Profiles.step) ⟨.init, []⟩ es = some s)
    (opened : s.pages[i]? = some view) :
    Serves toLowerCase viewUserPage userDocs ListedUser s.system view ∧
      ∀ u d, (u, d) ∈ userDocs s.system () ↔ s.system.db.users u = some d := by
  have registered : Registered s.system :=
    run_invariant (fun _ _ _ => Registered.preserved) (Observer.run_system played) .init
  refine ⟨pages_serve Registered ?_ ?_ played .init view (List.mem_of_getElem? opened),
    fun u d => mem_userDocs registered⟩
  · intro s e t _ registered stepped
    refine ⟨registered.preserved stepped, ?_⟩
    rintro _ user ⟨d, stored, email, phone⟩
    obtain ⟨d', stored', keeps⟩ := stay_step registered stepped user.uid d stored
    exact ⟨d', stored', keeps.email.trans email, keeps.phoneNumber.trans phone⟩
  · rintro s registered _ ⟨u, d⟩ member
    have stored := (mem_userDocs registered).mp member
    obtain ⟨user, read, rfl, email, phone⟩ := (registered.profiles u d stored).2.record u
    exact ⟨user, read, rfl, d, stored, email, phone⟩

/-- The admin lists the users before Asha's profile is updated and searches afterwards. -/
def listedAndEdited : List (Observer.Event Profiles.Event Unit Event) :=
  ashaRegisters.map .system ++ [.opened (), .page 0 (.getUsers true),
    .system (.resumeSave 0 (some "")), .page 0 (.search "ash")]

theorem asha_found : ∃ s view,
    run (step lowerAscii viewUserPage userDocs Profiles.step) ⟨.init, []⟩ listedAndEdited =
      some s ∧
      s.pages[0]? = some view ∧ view.page.displayed.length = 1 ∧
      Serves lowerAscii viewUserPage userDocs ListedUser s.system view := by
  obtain ⟨s, played, evaluated⟩ := run_reaches
    (step lowerAscii viewUserPage userDocs Profiles.step) ⟨.init, []⟩ listedAndEdited
    (P := fun s => s.pages[0]?.any (fun view => view.page.displayed.length = 1) = true)
    (by decide +kernel)
  obtain ⟨view, opened, found⟩ := (Option.any_eq_true _ _).mp evaluated
  exact ⟨s, view, played, opened, of_decide_eq_true found,
    (search_finds_registered_users lowerAscii played opened).1⟩

end Users

end Udhar.SearchPages
