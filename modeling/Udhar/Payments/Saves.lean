import Udhar.Payments.Steps
import Mathlib.Logic.Function.Iterate
import Mathlib.Tactic.Ring

/-! # Taps on the bill forms

`_onValidate` and `_submitForm` await the `add` of the new bill before they leave
the page, and nothing keeps a second tap from starting a second run meanwhile.
Every tap on a valid form adds a document of its own, in whatever order the adds
complete.
-/

namespace Udhar.Payments

open Lib

variable {s : State} {u : Uid}

/-- The contents of one of the two bill forms. -/
inductive BillForm where
  | card (form : CardForm)
  | rent (form : RentForm)

namespace BillForm

def kind : BillForm → BillKind
  | .card _ => .cards
  | .rent _ => .rents

/-- The document that the handler adds. -/
def data : BillForm → Fields
  | .card form => form.cardData
  | .rent form => form.rentData

/-- The form passes its validators. What the card form accepts is up to its
    package. -/
def valid : BillForm → Bool
  | .card _ => true
  | .rent form => form.validate

/-- The run that a tap starts. -/
def save (u : Uid) (form : BillForm) : BillSave := ⟨u, form.kind, form.data, .pending⟩

end BillForm

end Udhar.Payments
