import Udhar.Bills
import Udhar.Lib.Run

/-! # The Add Rent form

The date that the user picks is kept in three places: `selectedDate`, the text in
the field, and the text that will be submitted. The first two change when a new
date is picked. The third takes whatever `_selectDate` returns, and that is the
empty text when the picker is cancelled or closed on the date already selected.
-/

namespace Udhar.AddRent

open Lib

def daysIn (year month : ℕ) : ℕ :=
  if month = 2 then
    if year % 4 = 0 ∧ (year % 100 ≠ 0 ∨ year % 400 = 0) then 29 else 28
  else if month ∈ [4, 6, 9, 11] then 30
  else 31

/-- A day of the calendar. -/
structure Date where
  year : ℕ
  month : ℕ
  day : ℕ
  valid : 1 ≤ month ∧ month ≤ 12 ∧ 1 ≤ day ∧ day ≤ daysIn year month
  deriving DecidableEq

namespace Date

/-- The dates between `firstDate` and `lastDate` of the picker. -/
def allowed (d : Date) : Bool :=
  2000 ≤ d.year && (d.year < 2025 || d.year = 2025 && d.month = 1 && d.day = 1)

def twoDigits (n : ℕ) : String := (if n < 10 then "0" else "") ++ toString n

def monthName (month : ℕ) : String :=
  (["Jan", "Feb", "Mar", "Apr", "May", "Jun", "Jul", "Aug", "Sep", "Oct", "Nov",
    "Dec"][month - 1]?).getD ""

/-- `DateFormat('dd/MM/yy')`. -/
def ddMMyy (d : Date) : String :=
  twoDigits d.day ++ "/" ++ twoDigits d.month ++ "/" ++ twoDigits (d.year % 100)

/-- `DateFormat('dd MMM')`. -/
def ddMMM (d : Date) : String := twoDigits d.day ++ " " ++ monthName d.month

theorem ddMMyy_ne_empty (d : Date) : d.ddMMyy ≠ "" := by
  intro empty
  have chars := congrArg String.toList empty
  simp [ddMMyy] at chars

end Date

/-- The fields of `_AddRentScreenState`: the texts of its controllers, the date it
    has selected, the text in the date field and `rentData['dueDate']`. Nothing
    reads `pickedAnew`: whether the picker, when it was closed last, was closed on
    a date that was not selected already. -/
structure Form where
  title : String := ""
  balance : String := ""
  selectedDate : Option Date := none
  dueDate : Option String := none
  rentDueDate : String := ""
  pickedAnew : Bool := false

inductive Event where
  | typeTitle (text : String)
  | typeBalance (text : String)
  | closePicker (picked : Option Date)
  | submit

/-- `_selectDate` once the picker is closed: what it sets and what it returns. -/
def Form.selectDate (f : Form) (picked : Option Date) : Form × String :=
  match picked with
  | some d =>
      if some d ≠ f.selectedDate then
        ({ f with selectedDate := some d, dueDate := some d.ddMMM, pickedAnew := true }, d.ddMMyy)
      else ({ f with pickedAnew := false }, "")
  | none => ({ f with pickedAnew := false }, "")

/-- What `_submitForm` validates and adds. -/
def Form.rentForm (f : Form) : RentForm := ⟨f.title, f.balance, f.rentDueDate⟩

/-- One interaction; `none` for a date that the picker does not offer. -/
def step (f : Form) : Event → Option Form
  | .typeTitle text => some { f with title := text }
  | .typeBalance text => some { f with balance := text }
  | .closePicker picked =>
      if picked.all Date.allowed then
        some { (f.selectDate picked).1 with rentDueDate := (f.selectDate picked).2 }
      else none
  | .submit => some f

/-- The document has the very date that the form displays, and an empty text only
    where none is displayed. -/
structure DueDateAgrees (f : Form) : Prop where
  displayed : f.dueDate = f.selectedDate.map Date.ddMMM
  written : f.rentForm.rentData "dueDate" =
    some (.string ((f.selectedDate.map Date.ddMMyy).getD ""))

instance : DecidablePred DueDateAgrees := fun f =>
  decidable_of_iff (f.dueDate = f.selectedDate.map Date.ddMMM ∧
      f.rentForm.rentData "dueDate" = some (.string ((f.selectedDate.map Date.ddMMyy).getD "")))
    ⟨fun both => ⟨both.1, both.2⟩, fun agrees => ⟨agrees.displayed, agrees.written⟩⟩

/-- A submission that passes validation writes the date on display. -/
def writesShownDate (f : Form) : Event → Bool
  | .submit => !f.rentForm.validate || DueDateAgrees f
  | _ => true

/-- A submission that passes validation comes before any date was chosen, or after
    the picker was closed last on a date that was not selected already. -/
def pickedLast (f : Form) : Event → Bool
  | .submit => !f.rentForm.validate || f.selectedDate = none || f.pickedAnew
  | _ => true

/-! ## What the picker leaves -/

/-- The three places after any number of interactions. -/
structure Kept (f : Form) : Prop where
  displayed : f.dueDate = f.selectedDate.map Date.ddMMM
  written : f.rentDueDate =
    if f.pickedAnew then (f.selectedDate.map Date.ddMMyy).getD "" else ""

theorem kept_step {f f' : Form} {e : Event} (kept : Kept f) (stepped : step f e = some f') :
    Kept f' := by
  cases e with
  | typeTitle | typeBalance | submit =>
      cases stepped
      exact ⟨kept.displayed, kept.written⟩
  | closePicker picked =>
      simp only [step] at stepped
      split at stepped
      swap
      · cases stepped
      cases stepped
      cases picked with
      | none => exact ⟨kept.displayed, rfl⟩
      | some d =>
          by_cases anew : some d ≠ f.selectedDate
          · simp only [Form.selectDate, anew, ne_eq, not_false_eq_true, if_true]
            exact ⟨rfl, rfl⟩
          · simp only [Form.selectDate, anew, if_false]
            exact ⟨kept.displayed, rfl⟩

theorem agrees_iff {f : Form} (kept : Kept f) :
    DueDateAgrees f ↔ f.selectedDate = none ∨ f.pickedAnew = true := by
  have rent : f.rentForm.rentData "dueDate" = some (.string f.rentDueDate) := rfl
  constructor
  · intro agrees
    have written := agrees.written
    rw [rent, kept.written] at written
    cases anew : f.pickedAnew with
    | true => exact .inr rfl
    | false =>
        rw [anew] at written
        cases selected : f.selectedDate with
        | none => exact .inl rfl
        | some d =>
            rw [selected] at written
            exact absurd (Value.string.inj (Option.some.inj written)).symm d.ddMMyy_ne_empty
  · intro condition
    refine ⟨kept.displayed, ?_⟩
    rw [rent, kept.written]
    rcases condition with none | anew
    · rw [none]
      cases f.pickedAnew <;> rfl
    · rw [anew]
      rfl

/-- Whatever the user does with the form, every submission writes the date on
    display exactly if none comes after the picker was cancelled or closed on the
    date already selected. -/
theorem shown_date_written_iff (es : List Event) :
    Meets step (fun f e => writesShownDate f e) {} es ↔
      Meets step (fun f e => pickedLast f e) {} es := by
  have start : Kept {} := ⟨rfl, rfl⟩
  have same : ∀ f e, Kept f → (writesShownDate f e = true ↔ pickedLast f e = true) := by
    intro f e kept
    cases e with
    | submit =>
        simp only [writesShownDate, pickedLast, Bool.or_eq_true, decide_eq_true_eq,
          agrees_iff kept, or_assoc]
    | _ => rfl
  constructor
  · intro meets
    exact meets.trade (fun _ _ _ _ kept => kept_step kept)
      (fun f e writes kept => (same f e kept).mp writes) start
  · intro meets
    exact meets.trade (fun _ _ _ _ kept => kept_step kept)
      (fun f e picked kept => (same f e kept).mpr picked) start

/-- The first of April. -/
def firstOfApril : Date := ⟨2024, 4, 1, by decide⟩

/-- The date is picked, the picker is opened again and cancelled: the form still
    displays the date, and the document is written without. -/
theorem cancelled_picker_drops_date :
    (∃ f, run step {} [.typeTitle "Flat", .typeBalance "500", .closePicker (some firstOfApril),
        .closePicker none] = some f ∧ f.rentForm.validate = true ∧ f.dueDate = some "01 Apr" ∧
      f.rentForm.dueDate = "") ∧
    ¬ Meets step (fun f e => writesShownDate f e) {} [.typeTitle "Flat", .typeBalance "500",
      .closePicker (some firstOfApril), .closePicker none, .submit] :=
  ⟨run_reaches _ _ _ (by decide +kernel), by decide +kernel⟩

end Udhar.AddRent
