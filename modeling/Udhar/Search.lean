import Udhar.Firestore
import Udhar.Lib.Run
import Mathlib.Data.List.Infix

/-! # The search pages

`ViewUserPage` and `TransactionsPage` load their records into one list and show
another. At first both are the same list object, so that the load shows up in
what is displayed; the first search replaces the displayed one by a copy. A load
that completes after a search refills a list that is no longer displayed.
-/

namespace Udhar.Search

open Lib

/-- What tells the two pages apart: how a document becomes a record (`none` where
    the constructor throws), and the text that is searched. -/
structure Kind (δ α : Type) where
  record : δ → Option α
  key : α → Option String

/-- A user as the admin's pages keep it. -/
structure AppUser where
  uid : Uid
  name : String
  email : String
  phone : String
  image : Option String
  deriving DecidableEq

/-- A field assigned to a `String`, and to a `String?`; `none` where that throws. -/
def asString : Option Value → Option String
  | some (.string s) => some s
  | _ => none

def asNullableString : Option Value → Option (Option String)
  | none | some .null => some none
  | some (.string s) => some (some s)
  | some (.bool _) | some (.number _) => none

def viewUserPage : Kind (Uid × Fields) AppUser where
  record document := do
    let name ← asString (document.2 "name")
    let email ← asString (document.2 "email")
    let phone ← asString (document.2 "phoneNumber")
    let image ← asNullableString (document.2 "profilePictureUrl")
    some { uid := document.1, name, email, phone, image }
  key user := some user.name

/-- A payment as the user's page lists it. -/
structure Transaction where
  id : Option String
  date : Option String
  amount : Option String
  deriving DecidableEq

def transactionsPage : Kind Fields Transaction where
  record document := do
    let id ← asNullableString (document "paymentID")
    let amount ← asNullableString (document "amount")
    let date ← asNullableString (document "dateTime")
    some { id, date, amount }
  key transaction := transaction.id

/-- Where `getUsers` stands. -/
inductive LoadStage where
  | reading
  | done
  | threw
  deriving DecidableEq

/-- The fields of a page. `filteredUsers` is `none` while it is the same object as
    `users`. `searchQuery` is the text of the last search press. -/
structure Page (α : Type) where
  users : List α := []
  filteredUsers : Option (List α) := none
  searchQuery : String := ""
  load : LoadStage := .reading
  deriving DecidableEq

/-- The list on the screen. -/
def Page.displayed {α : Type} (page : Page α) : List α := page.filteredUsers.getD page.users

inductive Event (δ : Type) where
  | getUsers (documents : Option (List δ))
  | search (text : String)

section Steps

variable {δ α : Type} (toLowerCase : String → String) (kind : Kind δ α)

/-- The records of a snapshot up to the first that throws, and whether the end was
    reached. -/
def Kind.records (documents : List δ) : List α × Bool := mapUntil kind.record documents

/-- `text.toLowerCase().contains(query.toLowerCase())`. -/
def containsText (text query : String) : Bool :=
  (toLowerCase query).toList <:+: (toLowerCase text).toList

/-- The records that `_filterUsers` keeps for a query; `none` where the `!` on a
    missing text throws. -/
def Kind.filterUsers (query : String) : List α → Option (List α)
  | [] => some []
  | user :: users => do
      let text ← kind.key user
      let rest ← Kind.filterUsers query users
      some (if containsText toLowerCase text query then user :: rest else rest)

/-- One step of a page. -/
def step (page : Page α) : Event δ → Option (Page α)
  | .getUsers documents =>
      if page.load = .reading then
        match documents with
        | some documents => some { page with
            users := (kind.records documents).1
            load := if (kind.records documents).2 then .done else .threw }
        | none => some { page with load := .threw }
      else none
  | .search text =>
      if text = "" then
        some { page with searchQuery := text, filteredUsers := some page.users }
      else
        match kind.filterUsers toLowerCase text page.users with
        | some found => some { page with searchQuery := text, filteredUsers := some found }
        | none => some { page with searchQuery := text }

/-- The record belongs to the result of the query. -/
def Kind.finds (query : String) (user : α) : Bool :=
  query = "" || (kind.key user).any (containsText toLowerCase · query)

/-- After the load, the page shows the result of the last search press in order. -/
def ShowsResult (page : Page α) : Prop :=
  page.load = .done → page.displayed = page.users.filter (kind.finds toLowerCase page.searchQuery)

/-- All records have the text that is searched. -/
def Kind.complete (users : List α) : Bool := users.all fun user => (kind.key user).isSome

/-- A load that completes finds that no search was pressed yet, or that nothing in
    it would be found; and a search after the load finds all texts present, or asks
    for no other result than the last one. -/
def inOrder [DecidableEq α] (page : Page α) : Event δ → Bool
  | .getUsers (some documents) => !(kind.records documents).2 || page.filteredUsers = none ||
      (kind.records documents).1.all fun user => !kind.finds toLowerCase page.searchQuery user
  | .getUsers none => true
  | .search text => page.load ≠ .done || text = "" || kind.complete page.users ||
      page.users.filter (kind.finds toLowerCase page.searchQuery) =
        page.users.filter (kind.finds toLowerCase text)

end Steps

/-! ## One step -/

variable {δ α : Type} {toLowerCase : String → String} {kind : Kind δ α} {page page' : Page α}

theorem filterUsers_eq {query : String} (asked : query ≠ "") (users : List α) :
    kind.filterUsers toLowerCase query users =
      if kind.complete users then some (users.filter (kind.finds toLowerCase query)) else none := by
  induction users with
  | nil => rfl
  | cons user users ih =>
      cases text : kind.key user with
      | none => simp [Kind.filterUsers, Kind.complete, text]
      | some text' =>
          simp only [Kind.complete] at ih
          cases there : users.all fun user => (kind.key user).isSome <;>
            simp [Kind.filterUsers, Kind.complete, Kind.finds, ih, there, text, asked,
              List.filter_cons]

/-- The empty query finds everything. -/
theorem filter_empty_query (users : List α) : users.filter (kind.finds toLowerCase "") = users := by
  apply List.filter_eq_self.mpr
  intro user _
  rfl

/-- Before the load there are no records, and only searches change what is shown. -/
structure Unloaded (page : Page α) : Prop where
  users : page.users = []
  shown : page.filteredUsers = none ∧ page.searchQuery = "" ∨ page.filteredUsers = some []

/-- The invariant of a page. -/
def Waits (page : Page α) : Prop := page.load = .reading → Unloaded page

theorem waits_step {e : Event δ} (waits : Waits page)
    (stepped : step toLowerCase kind page e = some page') : Waits page' := by
  intro reading
  cases e with
  | getUsers documents =>
      simp only [step] at stepped
      split at stepped
      · split at stepped
        · cases stepped
          simp only at reading
          split at reading <;> cases reading
        · cases stepped
          cases reading
      · cases stepped
  | search text =>
      simp only [step] at stepped
      split at stepped
      · cases stepped
        have before := waits reading
        exact ⟨before.users, .inr (congrArg some before.users)⟩
      · rename_i asked
        split at stepped
        · rename_i found kept
          cases stepped
          have before := waits reading
          rw [before.users] at kept
          cases kept
          exact ⟨before.users, .inr rfl⟩
        · rename_i thrown
          cases stepped
          have before := waits reading
          rw [before.users] at thrown
          cases thrown

theorem showsResult_getUsers_iff [DecidableEq α] {documents : Option (List δ)} (waits : Waits page)
    (stepped : step toLowerCase kind page (.getUsers documents) = some page') :
    ShowsResult toLowerCase kind page' ↔
      inOrder toLowerCase kind page (.getUsers documents) = true := by
  simp only [step] at stepped
  split at stepped
  swap
  · cases stepped
  rename_i reading
  obtain ⟨_, shown⟩ := waits reading
  cases documents with
  | none =>
      cases stepped
      exact iff_of_true (fun done => nomatch done) rfl
  | some documents =>
      cases stepped
      cases ended : (kind.records documents).2 with
      | false =>
          refine iff_of_true (fun done => ?_) ?_
          · simp only [Bool.false_eq_true, if_false] at done
            cases done
          · simp only [inOrder, ended, Bool.not_false, Bool.true_or]
      | true =>
          rcases shown with ⟨same, query⟩ | copy
          · refine iff_of_true (fun _ => ?_) ?_
            · rw [Page.displayed, same, query, filter_empty_query]
              rfl
            · simp only [inOrder, same, decide_true, Bool.or_true, Bool.true_or]
          · simp only [ShowsResult, Page.displayed, copy, Option.getD_some, inOrder, ended,
              if_true, forall_const, Bool.not_true, Bool.false_or, reduceCtorEq, decide_false,
              List.all_eq_true, Bool.not_eq_true', eq_comm (a := ([] : List α)),
              List.filter_eq_nil_iff, Bool.not_eq_true]

theorem showsResult_search_iff [DecidableEq α] {text : String}
    (shows' : ShowsResult toLowerCase kind page)
    (stepped : step toLowerCase kind page (.search text : Event δ) = some page') :
    ShowsResult toLowerCase kind page' ↔
      inOrder toLowerCase kind page (.search text) = true := by
  simp only [step] at stepped
  by_cases empty : text = ""
  · subst empty
    cases stepped
    refine iff_of_true (fun _ => ?_) ?_
    · rw [filter_empty_query]
      rfl
    · simp only [inOrder, decide_true, Bool.or_true, Bool.true_or]
  rw [if_neg empty, filterUsers_eq empty] at stepped
  cases complete : kind.complete page.users with
  | true =>
      rw [complete] at stepped
      cases stepped
      refine iff_of_true (fun _ => rfl) ?_
      simp only [inOrder, complete, Bool.or_true, Bool.true_or]
  | false =>
      rw [complete] at stepped
      cases stepped
      by_cases done : page.load = .done
      · -- The display stays, so the two results have to agree.
        have before := shows' done
        simp only [ShowsResult, Page.displayed, done, forall_const, inOrder, complete,
          empty] at before ⊢
        rw [before]
        simp
      · refine iff_of_true (fun here => absurd here done) ?_
        simp only [inOrder, done, ne_eq, not_false_eq_true, decide_true, Bool.true_or]

/-- In every run of a page, the display shows the result of the last search in all
    states after the load exactly if the load and the searches come in order. -/
theorem result_shown_iff_in_order [DecidableEq α] (toLowerCase : String → String)
    (kind : Kind δ α) {es : List (Event δ)}
    (played : run (step toLowerCase kind) {} es = some page) :
    Always (step toLowerCase kind) (ShowsResult toLowerCase kind) {} es ↔
      Meets (step toLowerCase kind) (fun page e => inOrder toLowerCase kind page e) {} es := by
  refine always_iff_meets (I := Waits) (E := fun _ => True)
    (fun _ _ _ _ waits _ stepped => waits_step waits stepped) ?_ played (fun _ _ => trivial) ?_ ?_
  · intro page e page' _ waits shows' stepped
    cases e with
    | getUsers => exact showsResult_getUsers_iff waits stepped
    | search => exact showsResult_search_iff shows' stepped
  · exact fun _ => ⟨rfl, .inl ⟨rfl, rfl⟩⟩
  · exact fun done => nomatch done

/-- `toLowerCase` on ASCII texts. -/
def lowerAscii (s : String) : String := s.map Char.toLower

/-- Two users as sign-up stores them. -/
def stored : List (Uid × Fields) :=
  [(0, .ofList [("name", .string "Asha"), ("email", .string "asha@example.com"),
      ("phoneNumber", .string "9876543210")]),
    (1, .ofList [("name", .string "Ravi"), ("email", .string "ravi@example.com"),
      ("phoneNumber", .string "9123456780")])]

theorem search_after_load_shows_result :
    (∃ page, run (step lowerAscii viewUserPage) {} [.getUsers (some stored), .search "ASH"] =
      some page) ∧
    Always (step lowerAscii viewUserPage) (ShowsResult lowerAscii viewUserPage) {}
      [.getUsers (some stored), .search "ASH"] := by
  obtain ⟨page, played, _⟩ := run_reaches (step lowerAscii viewUserPage) {}
    [.getUsers (some stored), .search "ASH"] (P := fun _ => True) (by decide +kernel)
  exact ⟨⟨page, played⟩, (result_shown_iff_in_order lowerAscii viewUserPage played).mpr
    (by decide +kernel)⟩

/-- A search is pressed before the load completes: both users are loaded and none
    is displayed. -/
theorem early_search_hides_all_users : ∃ page,
    run (step lowerAscii viewUserPage) {} [.search "", .getUsers (some stored)] = some page ∧
    page.users.length = 2 ∧ page.displayed = [] ∧ ¬ ShowsResult lowerAscii viewUserPage page := by
  obtain ⟨page, played, done, count, hidden, query⟩ := run_reaches (step lowerAscii viewUserPage) {}
    [.search "", .getUsers (some stored)] (P := fun page => page.load = .done ∧
      page.users.length = 2 ∧ page.displayed = [] ∧ page.searchQuery = "") (by decide +kernel)
  refine ⟨page, played, count, hidden, fun shows' => ?_⟩
  have result := shows' done
  rw [hidden, query, filter_empty_query] at result
  rw [← result] at count
  cases count

end Udhar.Search
