import Udhar.Lib.Observer
import Udhar.Stored

/-! # The rents page

`RentScreen` shows one card at a time and below it a row of indicators. The number of
indicators and the current page are kept apart from the list of rents: the first is
two until the rents are read, the second moves when the user swipes. The list itself
is refilled in place, and the screen keeps showing what the last build made of it.
-/

namespace Udhar.RentScreen

open Lib Payments Stored
open Readers (RentModel)
open Search (LoadStage)

/-- What `build` puts on the screen: the rents of the cards, and for every indicator
    whether it is active. -/
structure Built where
  rentInfoCards : List RentModel
  indicators : List Bool
  deriving DecidableEq

/-- The row that `_buildPageIndicator` makes. -/
def buildPageIndicator (numPages currentPage : ℕ) : List Bool :=
  (List.range numPages).map fun i => i = currentPage

/-- The fields of `_RentScreenState`, how far `_fetchRentInfo` is, and what was built
    last. -/
structure Screen where
  user : Uid
  rentInfoList : List RentModel := []
  currentPage : ℕ := 0
  numPages : ℕ := 2
  load : LoadStage := .reading
  built : Built := ⟨[], buildPageIndicator 2 0⟩
  deriving DecidableEq

def Screen.build (screen : Screen) : Screen :=
  { screen with
    built := ⟨screen.rentInfoList, buildPageIndicator screen.numPages screen.currentPage⟩ }

inductive Event where
  | fetchRentInfo (ok : Bool)
  | onPageChanged (page : ℕ)
  | rebuild

/-- Resume `_fetchRentInfo`: the list is cleared and filled up to the first document of
    which a field cannot be assigned; only after the last one the screen is built. -/
def Screen.fetchRentInfo (docs : List Fields) (screen : Screen) : Screen :=
  let rents := mapUntil Readers.rentModel docs
  if rents.2 then
    { screen with rentInfoList := rents.1, numPages := rents.1.length, load := .done }.build
  else { screen with rentInfoList := rents.1, load := .threw }

/-- One step of a screen over the app. The view of the cards reports only pages that it
    has; the framework may build the screen again at any time. -/
def screenStep (s : App.State) (screen : Screen) : Event → Option Screen
  | .fetchRentInfo ok =>
      if screen.load = .reading then
        if ok then some (screen.fetchRentInfo (snapshot s.db screen.user (.bills .rents)))
        else some { screen with load := .threw }
      else none
  | .onPageChanged page =>
      if page < screen.built.rentInfoCards.length then
        some { screen with currentPage := page }.build
      else none
  | .rebuild => some screen.build

/-- The app and the screens over it. -/
abbrev State := Observer.State App.State Screen

abbrev step : State → Observer.Event App.Event Uid Event → Option State :=
  Observer.step App.step (fun user => { user }) screenStep

/-! ## What the screen shows -/

section Shown

variable (H : App.State → App.Event → Prop)

/-- The fields of a screen agree with each other and with what was built. -/
structure Agrees (screen : Screen) : Prop where
  built : screen.built = screen.build.built
  rents : ∃ rents : List StoredRent, screen.rentInfoList = rents.map StoredRent.rentModel ∧
    ∀ r ∈ rents, Submitted H screen.user r.form
  unloaded : screen.load ≠ .done →
    screen.rentInfoList = [] ∧ screen.numPages = 2 ∧ screen.currentPage = 0
  loaded : screen.load = .done → screen.numPages = screen.rentInfoList.length ∧
    (screen.currentPage < screen.numPages ∨ screen.numPages = 0)

/-- The cards are rents of accepted forms. Once they are read there is one indicator for
    each, before that two and no card; and exactly the indicator of the current page is
    active, unless there is none. -/
structure Shows (s : App.State) (screen : Screen) : Prop where
  rents : ∃ rents : List StoredRent, screen.built.rentInfoCards = rents.map StoredRent.rentModel ∧
    ∀ r ∈ rents, Submitted H screen.user r.form
  loaded : screen.load = .done →
    screen.built.indicators.length = screen.built.rentInfoCards.length
  unloaded : screen.load ≠ .done → screen.built = ⟨[], [true, false]⟩
  active : screen.built.indicators = [] ∨ screen.currentPage < screen.built.indicators.length ∧
    ∀ i, screen.built.indicators[i]? = some true ↔ i = screen.currentPage
  fetches : ∀ screen', screenStep s screen (.fetchRentInfo true) = some screen' →
    screen'.load = .done

end Shown

section Steps

variable {H : App.State → App.Event → Prop} {s : App.State} {screen : Screen}

theorem Agrees.opened (H : App.State → App.Event → Prop) (user : Uid) :
    Agrees H { user } where
  built := rfl
  rents := ⟨[], rfl, fun _ none => nomatch none⟩
  unloaded _ := ⟨rfl, rfl, rfl⟩
  loaded done := nomatch done

/-- The rents of the user are all read. -/
theorem fetchRentInfo_stored (screen : Screen) (origins : FromEvents H s.payments) :
    ∃ rents : List StoredRent,
    screen.fetchRentInfo (snapshot s.db screen.user (.bills .rents)) = { screen with
      rentInfoList := rents.map StoredRent.rentModel
      numPages := rents.length
      load := .done }.build ∧ ∀ r ∈ rents, Submitted H screen.user r.form := by
  obtain ⟨rents, stored, submitted⟩ :=
    exists_map_eq (List.forall_mem_map.mpr (origins.stored screen.user (.bills .rents)))
  refine ⟨rents, ?_, submitted⟩
  have read : snapshot s.db screen.user (.bills .rents) = rents.map StoredRent.data := stored
  simp only [Screen.fetchRentInfo, read, mapUntil_map rentModel_data, if_true, List.length_map]

theorem Agrees.step {screen' : Screen} {e : Event} (origins : FromEvents H s.payments)
    (agrees : Agrees H screen) (taken : screenStep s screen e = some screen') :
    Agrees H screen' := by
  cases e with
  | fetchRentInfo ok =>
      simp only [screenStep] at taken
      split at taken
      · rename_i reading
        have waiting : screen.load ≠ .done := by simp [reading]
        obtain ⟨_, _, first⟩ := agrees.unloaded waiting
        cases ok with
        | true =>
            obtain ⟨rents, fetched, submitted⟩ := fetchRentInfo_stored screen origins
            simp only [if_true, Option.some.injEq, fetched] at taken
            subst taken
            refine ⟨rfl, ⟨rents, rfl, submitted⟩, fun undone => absurd rfl undone, fun _ => ?_⟩
            refine ⟨(List.length_map _).symm, ?_⟩
            simp only [Screen.build, first]
            exact (Nat.eq_zero_or_pos _).symm
        | false =>
            simp only [Bool.false_eq_true, if_false, Option.some.injEq] at taken
            subst taken
            exact ⟨agrees.built, agrees.rents, fun _ => agrees.unloaded waiting, nofun⟩
      · cases taken
  | onPageChanged page =>
      simp only [screenStep] at taken
      split at taken
      · rename_i inside
        cases taken
        rw [agrees.built] at inside
        refine ⟨rfl, agrees.rents, fun undone => ?_, fun done => ?_⟩
        · rw [Screen.build, (agrees.unloaded undone).1] at inside
          cases inside
        · exact ⟨(agrees.loaded done).1, .inl ((agrees.loaded done).1 ▸ inside)⟩
      · cases taken
  | rebuild =>
      cases taken
      exact ⟨rfl, agrees.rents, agrees.unloaded, agrees.loaded⟩

theorem Agrees.shows (origins : FromEvents H s.payments) (agrees : Agrees H screen) :
    Shows H s screen where
  rents := by
    rw [agrees.built]
    exact agrees.rents
  loaded done := by
    rw [agrees.built, Screen.build, buildPageIndicator, List.length_map, List.length_range]
    exact (agrees.loaded done).1
  unloaded undone := by
    obtain ⟨rents, pages, first⟩ := agrees.unloaded undone
    rw [agrees.built, Screen.build, rents, pages, first]
    rfl
  active := by
    rw [agrees.built, Screen.build, buildPageIndicator]
    have inside : screen.currentPage < screen.numPages ∨ screen.numPages = 0 := by
      by_cases done : screen.load = .done
      · exact (agrees.loaded done).2
      · obtain ⟨_, pages, first⟩ := agrees.unloaded done
        rw [pages, first]
        exact .inl Nat.zero_lt_two
    rcases inside with inside | none
    · refine .inr ⟨by simpa using inside, fun i => ?_⟩
      simp only [List.getElem?_map, Option.map_eq_some_iff, decide_eq_true_eq]
      constructor
      · rintro ⟨j, found, current⟩
        obtain ⟨_, same⟩ := List.getElem?_eq_some_iff.mp found
        rw [List.getElem_range] at same
        exact same.trans current
      · rintro rfl
        exact ⟨_, List.getElem?_range inside, rfl⟩
    · exact .inl (by rw [none]; rfl)
  fetches screen' taken := by
    simp only [screenStep] at taken
    split at taken
    · obtain ⟨rents, fetched, _⟩ := fetchRentInfo_stored screen origins
      simp only [if_true, Option.some.injEq, fetched] at taken
      subst taken
      rfl
    · cases taken

end Steps

/-- In every run of the app with any number of rent screens, on a database without bills
    and payments, whatever is loaded, swiped or built when: a screen shows rents that
    were submitted, one indicator for each once they are read, and the current page's
    indicator and no other is active. The screen is open when a read completes, so that
    nothing in its load throws. -/
theorem one_indicator_per_rent {auth : SignUp.Auth} {db : Database}
    {es : List (Observer.Event App.Event Uid Event)} {s : State} {i : ℕ} {screen : Screen}
    (empty : ∀ u c, (db.docs u c).entries = [])
    (played : run step ⟨.init auth db, []⟩ es = some s) (opened : s.pages[i]? = some screen) :
    Shows (Observer.Seen App.step (.init auth db) es) s.system screen := by
  obtain ⟨origins, agree⟩ := Observer.pages_invariant
    (I := fun s => FromEvents (Observer.Seen App.step (.init auth db) es) s.payments)
    (R := fun _ screen => Agrees (Observer.Seen App.step (.init auth db) es) screen)
    (fun s e t here origins stepped => ⟨origins.appStep here stepped, fun _ agrees => agrees⟩)
    (fun _ user _ => .opened _ user)
    (fun s screen e screen' origins agrees taken => agrees.step origins taken) played
    (fromEvents_init auth empty)
  exact (agree screen (List.mem_of_getElem? opened)).shows origins

/-- Two rents are stored, read on a screen, and the user swipes to the second. -/
def swipedToSecondRent : List (Observer.Event App.Event Uid Event) :=
  [.system (.payments (.submitRent 0 ⟨"Flat", "900", "01 Apr"⟩)),
    .system (.payments (.save 0 true)),
    .system (.payments (.submitRent 0 ⟨"Garage", "80", "05 Apr"⟩)), .opened 0, .page 0 .rebuild,
    .system (.payments (.save 1 true)), .page 0 (.fetchRentInfo true), .page 0 (.onPageChanged 1)]

theorem second_rent_indicated : ∃ s screen,
    run step ⟨.init App.oneAccount .empty, []⟩ swipedToSecondRent = some s ∧
      s.pages[0]? = some screen ∧ screen.built.indicators = [false, true] ∧
      Shows (Observer.Seen App.step (.init App.oneAccount .empty) swipedToSecondRent) s.system
        screen := by
  obtain ⟨s, played, evaluated⟩ := run_reaches step ⟨.init App.oneAccount .empty, []⟩
    swipedToSecondRent (P := fun s => s.pages[0]?.any
      (fun screen => screen.built.indicators = [false, true]) = true) (by decide +kernel)
  obtain ⟨screen, opened, second⟩ := (Option.any_eq_true _ _).mp evaluated
  exact ⟨s, screen, played, opened, of_decide_eq_true second,
    one_indicator_per_rent (fun _ _ => rfl) played opened⟩

end Udhar.RentScreen
