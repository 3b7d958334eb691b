import Udhar.Dart
import Udhar.Search
import Mathlib.Data.List.Perm.Basic

/-! # The admin's payments page

`PaymentsPage` keeps the full list of payments, a search query and a range of
amounts, and shows a filtered list. Typing, the search and the filter button and
reset recompute that list from the full one; the slider only moves the range.
-/

namespace Udhar.PaymentsPage

open Dart Search

/-- `dueDate` counts the microseconds since the epoch, which is what dates are
    compared by. -/
structure Payment where
  id : String
  payeeName : String
  dueDate : ℤ
  amount : Double
  deriving DecidableEq

/-- `RangeValues(start, end)`. -/
structure RangeValues where
  start : Double
  stop : Double
  deriving DecidableEq

/-- What is set on the page. -/
structure Settings where
  searchQuery : String := ""
  amountRange : RangeValues := ⟨.finite 0, .finite 100000⟩
  deriving DecidableEq

structure Page extends Settings where
  payments : List Payment
  filteredPayments : List Payment
  deriving DecidableEq

/-- `sort((b, a) => a.dueDate.compareTo(b.dueDate))`. Dart does not say in what order
    payments of the same date end up. -/
structure DueDateSort where
  sort : List Payment → List Payment
  perm : ∀ payments, (sort payments).Perm payments
  ordered : ∀ payments, (sort payments).Pairwise fun p q => q.dueDate ≤ p.dueDate

/-- One such sort is the stable one. -/
def DueDateSort.stable : DueDateSort where
  sort payments := payments.mergeSort fun p q => q.dueDate ≤ p.dueDate
  perm payments := List.mergeSort_perm payments _
  ordered payments := by
    let later (p q : Payment) : Bool := q.dueDate ≤ p.dueDate
    have sorted : (payments.mergeSort later).Pairwise fun p q => later p q = true := by
      refine List.pairwise_mergeSort ?_ ?_ payments
      · simp only [later, decide_eq_true_eq]
        omega
      · simp only [later, Bool.or_eq_true, decide_eq_true_eq]
        omega
    simpa only [later, decide_eq_true_eq] using sorted

inductive Event where
  | typed (value : String)
  | slider (values : RangeValues)
  | search
  | filter
  | reset
  deriving DecidableEq

section Steps

variable (toLowerCase : String → String)

def inRange (amountRange : RangeValues) (payment : Payment) : Bool :=
  amountRange.start.le payment.amount && payment.amount.le amountRange.stop

def filterPayments (page : Page) : Page :=
  let tmpList :=
    if page.searchQuery ≠ "" then
      page.payments.filter fun payment =>
        containsText toLowerCase payment.payeeName page.searchQuery
    else page.payments
  { page with filteredPayments := tmpList.filter (inRange page.amountRange) }

def reset (page : Page) : Page :=
  if page.payments ≠ [] then
    filterPayments toLowerCase
      { page with
        searchQuery := ""
        filteredPayments := page.payments
        amountRange := ⟨.finite 0, .finite 100000⟩ }
  else page

def step (page : Page) : Event → Page
  | .typed value => filterPayments toLowerCase { page with searchQuery := value }
  | .slider values => { page with amountRange := values }
  | .search | .filter => filterPayments toLowerCase page
  | .reset => reset toLowerCase page

/-- The page as `initState` leaves it. -/
def initState (order : DueDateSort) (payments : List Payment) : Page :=
  filterPayments toLowerCase
    { payments := order.sort payments, filteredPayments := order.sort payments }

/-- The page after some events. -/
def pageAfter (order : DueDateSort) (payments : List Payment) (events : List Event) : Page :=
  events.foldl (step toLowerCase) (initState toLowerCase order payments)

/-! ## What the page is for

The list on the screen is determined by two things an observer can keep track
of: what is set now, and what was set when the list was last filtered.
-/

/-- The payment is asked for: its payee's name contains the query, which every name
    does when it is empty, and its amount is in the range. -/
def Settings.admits (settings : Settings) (payment : Payment) : Bool :=
  (settings.searchQuery = "" ||
    containsText toLowerCase payment.payeeName settings.searchQuery) &&
  inRange settings.amountRange payment

/-- The payments shown are those asked for, as often as they occur, from the latest
    due date to the earliest. -/
structure Exact (payments : List Payment) (settings : Settings) (shown : List Payment) :
    Prop where
  asked : shown.Perm (payments.filter (settings.admits toLowerCase))
  ordered : shown.Pairwise fun p q => q.dueDate ≤ p.dueDate

end Steps

structure Observed where
  current : Settings := {}
  lastFiltered : Settings := {}
  deriving DecidableEq

def Observed.after (observed : Observed) : Event → Observed
  | .typed value =>
      { current := { observed.current with searchQuery := value }
        lastFiltered := { observed.current with searchQuery := value } }
  | .slider values => { observed with current := { observed.current with amountRange := values } }
  | .search | .filter => { observed with lastFiltered := observed.current }
  | .reset => {}

/-- The settings at the last filtering event: opening the page is the first. -/
def lastFiltered (events : List Event) : Settings :=
  (events.foldl Observed.after {}).lastFiltered

/-! ## The page keeps to it -/

variable {toLowerCase : String → String} {order : DueDateSort} {payments : List Payment}
  {page : Page} {observed : Observed}

theorem filteredPayments_filterPayments (page : Page) :
    (filterPayments toLowerCase page).filteredPayments =
      page.payments.filter (page.toSettings.admits toLowerCase) := by
  unfold filterPayments Settings.admits
  by_cases empty : page.searchQuery = ""
  · simp [empty]
  · simp [empty, List.filter_filter, Bool.and_comm]

/-- A page with the full list in order, set as observed and filtered as observed. A
    page without payments ignores reset. -/
structure Follows (toLowerCase : String → String) (order : DueDateSort)
    (payments : List Payment) (observed : Observed) (page : Page) : Prop where
  full : page.payments = order.sort payments
  set : payments ≠ [] → page.toSettings = observed.current
  shown : page.filteredPayments =
    (order.sort payments).filter (observed.lastFiltered.admits toLowerCase)

theorem sort_eq_nil_iff : order.sort payments = [] ↔ payments = [] := by
  constructor
  · intro empty
    exact (empty ▸ order.perm payments).symm.eq_nil
  · rintro rfl
    exact (order.perm []).eq_nil

theorem follows_filterPayments {settings : Settings} (full : page.payments = order.sort payments)
    (set : payments ≠ [] → page.toSettings = settings) :
    Follows toLowerCase order payments ⟨settings, settings⟩ (filterPayments toLowerCase page) := by
  refine ⟨full, set, ?_⟩
  rw [filteredPayments_filterPayments, full]
  by_cases empty : payments = []
  · rw [sort_eq_nil_iff.mpr empty]
    rfl
  · rw [set empty]

theorem follows_initState (toLowerCase : String → String) (order : DueDateSort)
    (payments : List Payment) :
    Follows toLowerCase order payments {} (initState toLowerCase order payments) :=
  follows_filterPayments rfl fun _ => rfl

theorem follows_step (follows : Follows toLowerCase order payments observed page) (e : Event) :
    Follows toLowerCase order payments (observed.after e) (step toLowerCase page e) := by
  cases e with
  | typed value =>
      refine follows_filterPayments follows.full fun nonempty => ?_
      rw [← follows.set nonempty]
  | slider values =>
      refine ⟨follows.full, fun nonempty => ?_, follows.shown⟩
      rw [Observed.after, ← follows.set nonempty]
      rfl
  | search | filter => exact follows_filterPayments follows.full follows.set
  | reset =>
      simp only [step, reset]
      split
      · exact follows_filterPayments follows.full fun _ => rfl
      · rename_i empty
        rw [ne_eq, not_not, follows.full] at empty
        refine ⟨follows.full, fun nonempty => absurd (sort_eq_nil_iff.mp empty) nonempty, ?_⟩
        rw [follows.shown, empty]
        rfl

/-- The list on the screen is the full one filtered by the settings of the last
    filtering event. -/
theorem filteredPayments_pageAfter (toLowerCase : String → String) (order : DueDateSort)
    (payments : List Payment) (events : List Event) :
    (pageAfter toLowerCase order payments events).filteredPayments =
      (order.sort payments).filter ((lastFiltered events).admits toLowerCase) := by
  have follows : ∀ page observed, Follows toLowerCase order payments observed page →
      Follows toLowerCase order payments (events.foldl Observed.after observed)
        (events.foldl (step toLowerCase) page) := by
    induction events with
    | nil => exact fun _ _ follows => follows
    | cons e events ih => exact fun _ _ follows => ih _ _ (follows_step follows e)
  exact (follows _ _ (follows_initState toLowerCase order payments)).shown

/-- What is shown is exact after every sequence of events, and determined by the
    settings at the last filtering event. -/
theorem payments_filter_exact (toLowerCase : String → String) (order : DueDateSort)
    (payments : List Payment) (events : List Event) :
    Exact toLowerCase payments (lastFiltered events)
        (pageAfter toLowerCase order payments events).filteredPayments ∧
      ∀ events', lastFiltered events' = lastFiltered events →
        (pageAfter toLowerCase order payments events').filteredPayments =
          (pageAfter toLowerCase order payments events).filteredPayments := by
  refine ⟨⟨?_, ?_⟩, fun events' same => ?_⟩
  · rw [filteredPayments_pageAfter]
    exact (order.perm payments).filter _
  · rw [filteredPayments_pageAfter]
    exact (order.ordered payments).filter _
  · rw [filteredPayments_pageAfter, filteredPayments_pageAfter, same]

/-! ## Reset -/

theorem lastFiltered_concat_reset (events : List Event) :
    lastFiltered (events ++ [.reset]) = {} := by
  rw [lastFiltered, List.foldl_append]
  rfl

/-- The settings that the page opens with, and that reset restores, leave a payment
    out only for its amount. -/
theorem admits_default (payment : Payment) :
    ({} : Settings).admits toLowerCase payment =
      inRange ⟨.finite 0, .finite 100000⟩ payment := by
  simp [Settings.admits]

/-- Reset shows every payment, as often as it occurs, exactly if all amounts are in
    the range that it sets. -/
theorem reset_shows_all_iff (toLowerCase : String → String) (order : DueDateSort)
    (payments : List Payment) (events : List Event) :
    (pageAfter toLowerCase order payments (events ++ [.reset])).filteredPayments.Perm payments ↔
      ∀ payment ∈ payments, inRange ⟨.finite 0, .finite 100000⟩ payment = true := by
  rw [filteredPayments_pageAfter, lastFiltered_concat_reset]
  have sorted := order.perm payments
  constructor
  · intro all payment member
    have count := all.length_eq.trans sorted.length_eq.symm
    have asked := List.length_filter_eq_length_iff.mp count payment (sorted.mem_iff.mpr member)
    rwa [admits_default] at asked
  · intro small
    rw [List.filter_eq_self.mpr fun payment member => ?_]
    · exact sorted
    · rw [admits_default]
      exact small payment (sorted.mem_iff.mp member)

/-- A payment of 150000 is not shown after a reset. -/
theorem reset_hides_large_payment :
    ¬ (pageAfter id .stable [⟨"5", "Asha Rao", 0, .finite 150000⟩]
      [.reset]).filteredPayments.Perm [⟨"5", "Asha Rao", 0, .finite 150000⟩] := by
  intro same
  have single : DueDateSort.stable.sort [⟨"5", "Asha Rao", 0, .finite 150000⟩] =
      [⟨"5", "Asha Rao", 0, .finite 150000⟩] := List.perm_singleton.mp (DueDateSort.stable.perm _)
  rw [filteredPayments_pageAfter, single] at same
  exact absurd same.length_eq (by decide +kernel)

/-- The slider's track runs from 0 to 100000. -/
def RangeValues.onTrack (values : RangeValues) : Prop :=
  (Double.finite 0).le values.start = true ∧ values.stop.le (.finite 100000) = true

theorem onTrack_default : ({} : Settings).amountRange.onTrack :=
  ⟨by decide +kernel, by decide +kernel⟩

/-- While the slider is on its track, so is every range that is filtered by. -/
theorem onTrack_lastFiltered {events : List Event}
    (track : ∀ values, .slider values ∈ events → values.onTrack) :
    (lastFiltered events).amountRange.onTrack := by
  have kept : ∀ observed : Observed, observed.current.amountRange.onTrack →
      observed.lastFiltered.amountRange.onTrack →
        (events.foldl Observed.after observed).lastFiltered.amountRange.onTrack := by
    induction events with
    | nil => exact fun _ _ last => last
    | cons e events ih =>
        intro observed current last
        have rest := ih fun values later => track values (List.mem_cons_of_mem _ later)
        cases e with
        | typed value => exact rest _ current current
        | slider values => exact rest _ (track values List.mem_cons_self) last
        | search | filter => exact rest _ current current
        | reset => exact rest _ onTrack_default onTrack_default
  exact kept {} onTrack_default onTrack_default

/-- With the slider on its track, no event brings a payment of another amount back. -/
theorem inRange_of_shown {events : List Event}
    (track : ∀ values, .slider values ∈ events → values.onTrack) :
    ∀ payment ∈ (pageAfter toLowerCase order payments events).filteredPayments,
      inRange ⟨.finite 0, .finite 100000⟩ payment = true := by
  intro payment inside
  rw [filteredPayments_pageAfter] at inside
  have asked := List.of_mem_filter inside
  obtain ⟨low, high⟩ := onTrack_lastFiltered track
  simp only [Settings.admits, inRange, Bool.and_eq_true] at asked ⊢
  exact ⟨Double.le_trans low asked.2.1, Double.le_trans asked.2.2 high⟩

end Udhar.PaymentsPage
