import Udhar.EditProfile
import Udhar.Email
import Udhar.SignUp

/-! # The forms that write profiles

Sign-up shows an error text under a field while it is typed into, but no field
has a validator, so the button asks for nothing. The address and the password
are sent as they are, and the form is read again for the profile once the
account exists. Edit Profile has validators; what they have passed is trimmed
afterwards.
-/

namespace Udhar.Forms

open Lib Dart Email SignUp
open EditProfile (Page)

/-- The text fields of the sign-up form. -/
inductive Field where
  | name
  | email
  | phoneNumber
  | password
  deriving DecidableEq

/-- The error text that `onChanged` puts under a field. -/
def Field.error (field : Field) (value : String) : Option String :=
  match field with
  | .name => if value = "" then some "Please enter your name" else none
  | .email => if isValidEmail value then none else some "Please enter a valid email"
  | .phoneNumber =>
      if length value ≤ 9 then some "Phone number must be at least 10 digits" else none
  | .password =>
      if length value < 6 then some "Password must be at least 6 characters long" else none

/-- The `validator` that a field is built with. -/
def Field.validator : Field → Option (String → Option String)
  | .name | .email | .phoneNumber | .password => none

/-- The sign-up screen, with the number of its registrations that Firebase Auth
    has not answered yet. -/
structure SignUpPage where
  text : Field → String := fun _ => ""
  errorText : Field → Option String := fun _ => none
  registering : ℕ := 0
  dialog : Option Dialog := none
  snackBar : Option String := none

/-- `_formKey.currentState!.validate()`. -/
def SignUpPage.validate (page : SignUpPage) : Bool :=
  [Field.name, .email, .phoneNumber, .password].all fun field =>
    (field.validator.bind (· (page.text field))).isNone

def SignUpPage.form (page : SignUpPage) : SignUpForm :=
  ⟨page.text .name, page.text .email, page.text .phoneNumber, page.text .password⟩

/-- The user types into a field. -/
def SignUpPage.type (page : SignUpPage) (field : Field) (text : String) : SignUpPage :=
  { page with
    text := Function.update page.text field text
    errorText := Function.update page.errorText field (field.error text) }

/-- What the forms send: a registration as it was pressed, and the users document that
    a sign-up or a save leaves in the store. Firebase Auth gets the address and the
    password of a registration; the phone number in the form goes with the document. -/
inductive Sent where
  | registration (email phoneNumber password : String)
  | profile (d : Fields)
  | save (d : Fields)

/-- The two forms, the saves that wait for the upload of a picture, and all that
    was sent. -/
structure State where
  signUp : SignUpPage := {}
  editProfile : Page := {}
  uploading : List Page := []
  sent : List Sent := []

/-- How a write ends is part of the event that makes it: what goes wrong with the
    profile of a sign-up, and the document that an update finds, if it succeeds. -/
inductive Event where
  | type (field : Field) (text : String)
  | signUp
  | createUser (failure setProfile : Option CallError)
  | editProfile (stored : Option Fields) (e : EditProfile.Event)
  | saveChanges (found : Option Fields)
  | uploadImage (i : ℕ) (url : Option String) (found : Option Fields)

def State.send (s : State) (x : Sent) : State := { s with sent := s.sent ++ [x] }

/-- The update that ends `updateUserInformation`. -/
def State.update (s : State) (page : Page) (uploaded : String) (found : Option Fields) : State :=
  match found with
  | some d => s.send (.save (d.update (page.userInformation uploaded)))
  | none => s

/-- The SIGN UP button. -/
def State.pressSignUp (s : State) : State :=
  if s.signUp.validate then
    if s.signUp.form.email = adminEmail then
      { s with signUp := { s.signUp with dialog := some adminDialog } }
    else
      { s with signUp := { s.signUp with registering := s.signUp.registering + 1 } }.send
        (.registration s.signUp.form.email s.signUp.form.phoneNumber s.signUp.form.password)
  else { s with signUp := { s.signUp with snackBar := some "Please fill input correctly" } }

/-- A registration goes on with the answer of Firebase Auth. -/
def State.userCreated (s : State) (failure setProfile : Option CallError) : State :=
  let shows dialog : State := { s with signUp := { s.signUp with
    registering := s.signUp.registering - 1, dialog := some dialog } }
  match failure, setProfile with
  | some e, _ | none, some e => shows e.dialog
  | none, none => (shows successDialog).send (.profile s.signUp.form.profileData)

/-- One step of the two forms; `none` when the event cannot happen. -/
def step (s : State) : Event → Option State
  | .type field text => some { s with signUp := s.signUp.type field text }
  | .signUp => some s.pressSignUp
  | .createUser failure setProfile =>
      if s.signUp.registering = 0 then none else some (s.userCreated failure setProfile)
  | .editProfile stored e => do
      let page ← EditProfile.step stored s.editProfile e
      some { s with editProfile := page }
  | .saveChanges found =>
      if s.editProfile.validate then
        if s.editProfile.image.isSome then
          some { s with uploading := s.uploading ++ [s.editProfile] }
        else some (s.update s.editProfile "" found)
      else some s
  | .uploadImage i url found => do
      let page ← s.uploading[i]?
      let s := { s with uploading := s.uploading.eraseIdx i }
      some (url.elim s fun url => s.update page url found)

/-! ## What should be sent -/

/-- The rule on phone numbers: its error text asks for ten digits, and the check that
    shows the text counts all characters. -/
inductive PhoneRule where
  | digits
  | displayed

def PhoneRule.accepts : PhoneRule → String → Bool
  | .digits, phone => 10 ≤ phone.toList.countP Char.isDigit
  | .displayed, phone => (Field.phoneNumber.error phone).isNone

/-- The document has a text under `key` that passes the check. -/
def Holds (d : Fields) (key : String) (check : String → Bool) : Prop :=
  ∃ text, d key = some (.string text) ∧ check text = true

def notBlank (text : String) : Bool := trim text ≠ ""

/-- What is sent keeps the rules that the forms display. -/
def Sent.Valid (rule : PhoneRule) : Sent → Prop
  | .registration email phoneNumber password => isValidEmail email = true ∧
      rule.accepts phoneNumber = true ∧ 6 ≤ length password
  | .profile d => Holds d "name" notBlank ∧ Holds d "email" isValidEmail ∧
      Holds d "phoneNumber" rule.accepts
  | .save d => Holds d "name" notBlank ∧ Holds d "dob" (· ≠ "") ∧ Holds d "Address" (· ≠ "")

/-- No text of the form is blank. -/
def filledIn (page : Page) : Bool :=
  [EditProfile.Field.name, .dob, .address].all fun field => notBlank (page.text field)

/-- When SIGN UP sends a registration, a valid address, a phone number and a password of
    six characters are in the form; when the profile is stored, so are a name, a valid
    address and a phone number; and a save that is stored was pressed on a form
    without blank texts. -/
def typedWell (rule : PhoneRule) (s : State) : Event → Bool
  | .signUp => s.signUp.form.email = adminEmail || isValidEmail s.signUp.form.email &&
      rule.accepts s.signUp.form.phoneNumber && 6 ≤ length s.signUp.form.password
  | .createUser none none => notBlank s.signUp.form.name && isValidEmail s.signUp.form.email &&
      rule.accepts s.signUp.form.phoneNumber
  | .saveChanges (some _) =>
      s.editProfile.validate → s.editProfile.image = none → filledIn s.editProfile
  | .uploadImage i (some _) (some _) => s.uploading[i]?.all filledIn
  | _ => true

/-! ## The error texts -/

variable {s s' : State} {rule : PhoneRule}

/-- An error text is the one for the text of its field, unless that field was never
    typed into. -/
def ErrorsShown (s : State) : Prop :=
  ∀ field, s.signUp.errorText field = field.error (s.signUp.text field) ∨
    s.signUp.errorText field = none ∧ s.signUp.text field = ""

theorem errorsShown_step {e : Event} (shown : ErrorsShown s) (stepped : step s e = some s') :
    ErrorsShown s' := by
  cases e with
  | type field text =>
      obtain rfl := Option.some.inj stepped
      intro other
      by_cases same : other = field
      · subst same
        simp only [SignUpPage.type, Function.update_self, true_or]
      · simp only [SignUpPage.type, Function.update_of_ne same]
        exact shown other
  | signUp =>
      obtain rfl := Option.some.inj stepped
      unfold State.pressSignUp
      split_ifs <;> exact shown
  | createUser failure setProfile =>
      simp only [step, Option.ite_none_left_eq_some] at stepped
      obtain ⟨_, taken⟩ := stepped
      obtain rfl := Option.some.inj taken
      cases failure <;> cases setProfile <;> exact shown
  | editProfile stored e =>
      obtain ⟨page, _, rest⟩ := Option.bind_eq_some_iff.mp stepped
      obtain rfl := Option.some.inj rest
      exact shown
  | saveChanges found =>
      simp only [step] at stepped
      split_ifs at stepped <;> obtain rfl := Option.some.inj stepped
      · exact shown
      · cases found <;> exact shown
      · exact shown
  | uploadImage i url found =>
      obtain ⟨page, _, rest⟩ := Option.bind_eq_some_iff.mp stepped
      obtain rfl := Option.some.inj rest
      cases url <;> cases found <;> exact shown

theorem errors_shown {es : List Event} (played : run step {} es = some s) : ErrorsShown s :=
  run_invariant (fun _ _ _ shown stepped => errorsShown_step shown stepped) played
    fun _ => .inr ⟨rfl, rfl⟩

/-- The button does not ask whether an error text is shown. -/
theorem signUp_validates (page : SignUpPage) : page.validate = true := rfl

/-! ## What is sent -/

/-- All that was sent keeps the rules. -/
def State.Valid (rule : PhoneRule) (s : State) : Prop := ∀ x ∈ s.sent, x.Valid rule

theorem valid_send_iff {x : Sent} :
    (s.send x).Valid rule ↔ s.Valid rule ∧ x.Valid rule := by
  simp only [State.Valid, State.send, List.forall_mem_append, List.forall_mem_singleton]

theorem holds_iff (check : String → Bool) {d : Fields} {key text : String}
    (found : d key = some (.string text)) : Holds d key check ↔ check text = true := by
  constructor
  · rintro ⟨other, same, passed⟩
    rw [found] at same
    rwa [Value.string.inj (Option.some.inj same)]
  · exact fun passed => ⟨text, found, passed⟩

theorem valid_profile_iff (form : SignUpForm) :
    (Sent.profile form.profileData).Valid rule ↔ notBlank form.name = true ∧
      isValidEmail form.email = true ∧ rule.accepts form.phoneNumber = true :=
  and_congr (holds_iff _ rfl) (and_congr (holds_iff _ rfl) (holds_iff _ rfl))

/-- The trimmed texts that a save writes are not empty exactly if the typed ones are
    not blank. -/
theorem valid_save_iff (page : Page) (uploaded : String) (d : Fields) :
    (Sent.save (d.update (page.userInformation uploaded))).Valid rule ↔ filledIn page = true := by
  have name := holds_iff notBlank (EditProfile.update_field page uploaded d .name)
  have dob := holds_iff (· ≠ "") (EditProfile.update_field page uploaded d .dob)
  have address := holds_iff (· ≠ "") (EditProfile.update_field page uploaded d .address)
  apply (and_congr name (and_congr dob address)).trans
  simp only [filledIn, List.all_cons, List.all_nil, Bool.and_true, Bool.and_eq_true, notBlank,
    trim_trim]

theorem valid_update_iff (page : Page) (uploaded : String) (found : Option Fields) :
    (s.update page uploaded found).Valid rule ↔
      s.Valid rule ∧ (found.isSome = true → filledIn page = true) := by
  cases found with
  | none => simp [State.update]
  | some d =>
      rw [State.update, valid_send_iff, valid_save_iff]
      simp

theorem valid_pressSignUp_iff :
    s.pressSignUp.Valid rule ↔ s.Valid rule ∧ typedWell rule s .signUp = true := by
  rw [State.pressSignUp, if_pos (signUp_validates _)]
  by_cases admin : s.signUp.form.email = adminEmail
  · rw [if_pos admin]
    exact (and_iff_left (by simp [typedWell, admin])).symm
  · rw [if_neg admin, valid_send_iff]
    exact and_congr_right fun _ => by simp [Sent.Valid, typedWell, admin, and_assoc]

theorem valid_userCreated_iff (failure setProfile : Option CallError) :
    (s.userCreated failure setProfile).Valid rule ↔
      s.Valid rule ∧ typedWell rule s (.createUser failure setProfile) = true := by
  cases failure with
  | some e => exact (and_iff_left rfl).symm
  | none =>
      cases setProfile with
      | some e => exact (and_iff_left rfl).symm
      | none =>
          refine valid_send_iff.trans (and_congr_right fun _ => ?_)
          simp only [valid_profile_iff, typedWell, Bool.and_eq_true, and_assoc]

/-- A step sends nothing that breaks the rules exactly if the texts it sends were
    well typed. -/
theorem valid_step_iff {e : Event} (stepped : step s e = some s') :
    s'.Valid rule ↔ s.Valid rule ∧ typedWell rule s e = true := by
  cases e with
  | type field text =>
      obtain rfl := Option.some.inj stepped
      exact (and_iff_left rfl).symm
  | signUp =>
      obtain rfl := Option.some.inj stepped
      exact valid_pressSignUp_iff
  | createUser failure setProfile =>
      simp only [step, Option.ite_none_left_eq_some] at stepped
      obtain rfl := Option.some.inj stepped.2
      exact valid_userCreated_iff failure setProfile
  | editProfile stored e =>
      obtain ⟨page, _, rest⟩ := Option.bind_eq_some_iff.mp stepped
      obtain rfl := Option.some.inj rest
      exact (and_iff_left rfl).symm
  | saveChanges found =>
      simp only [step] at stepped
      split_ifs at stepped with valid picture <;> obtain rfl := Option.some.inj stepped
      · refine (and_iff_left ?_).symm
        cases found with
        | none => rfl
        | some d => simp [typedWell, Option.isSome_iff_ne_none.mp picture]
      · rw [valid_update_iff]
        apply and_congr_right
        intro _
        cases found with
        | none => simp [typedWell]
        | some d => simp [typedWell, valid, Option.not_isSome_iff_eq_none.mp picture]
      · refine (and_iff_left ?_).symm
        cases found with
        | none => rfl
        | some d => simp [typedWell, valid]
  | uploadImage i url found =>
      obtain ⟨page, waiting, rest⟩ := Option.bind_eq_some_iff.mp stepped
      obtain rfl := Option.some.inj rest
      cases url with
      | none => exact (and_iff_left rfl).symm
      | some url =>
          refine (valid_update_iff page url found).trans (and_congr_right fun _ => ?_)
          cases found with
          | none => simp [typedWell]
          | some d => simp [typedWell, waiting]

/-- Through any edits and presses on the two forms, everything that is sent keeps the
    rules, on either reading of the rule on phone numbers, exactly if the texts were
    well typed whenever something was sent. -/
theorem only_valid_profiles_sent_iff {es : List Event} (rule : PhoneRule) (fresh : s.sent = [])
    (played : run step s es = some s') :
    (∀ x ∈ s'.sent, x.Valid rule) ↔ Meets step (fun s e => typedWell rule s e = true) s es := by
  have none : s.Valid rule := by
    rw [State.Valid, fresh]
    exact fun _ member => nomatch member
  have decided := run_iff_meets (P := State.Valid rule)
    (G := fun s e => typedWell rule s e = true) (fun _ _ _ stepped => valid_step_iff stepped) played
  exact decided.trans (and_iff_right none)

/-- A sign-up and a save with all fields filled in. -/
def filledForms : List Event :=
  [.type .name "Asha", .type .email "asha@example.com", .type .phoneNumber "9876543210",
    .type .password "secret1", .signUp, .createUser none none,
    .editProfile (some EditProfile.signedUp) (.fetchUserData true),
    .editProfile none (.type .dob "01/02/1999"), .editProfile none (.type .address "Pune"),
    .saveChanges (some EditProfile.signedUp)]

theorem filled_forms_send_valid_profiles : ∃ s, run step {} filledForms = some s ∧
    s.sent.length = 3 ∧ ∀ x ∈ s.sent, x.Valid .digits := by
  obtain ⟨s, played, three⟩ := run_reaches step {} filledForms (P := fun s => s.sent.length = 3)
    (by decide +kernel)
  exact ⟨s, played, three, (only_valid_profiles_sent_iff .digits rfl played).mpr
    (by decide +kernel)⟩

/-- SIGN UP on the untouched form registers an empty address and stores an empty
    profile; and blanks pass the validators of Edit Profile. -/
theorem untouched_form_is_sent :
    (∃ s, run step {} [.signUp, .createUser none none] = some s ∧
      .registration "" "" "" ∈ s.sent ∧ ¬ ∀ x ∈ s.sent, x.Valid .displayed) ∧
    ∃ s, run step {} [.editProfile none (.type .name " "), .editProfile none (.type .dob " "),
        .editProfile none (.type .address " "), .saveChanges (some EditProfile.signedUp)] = some s ∧
      ¬ ∀ x ∈ s.sent, x.Valid .displayed := by
  refine ⟨⟨_, rfl, List.mem_cons_self, fun valid => ?_⟩, ⟨_, rfl, fun valid => ?_⟩⟩
  · obtain ⟨accepted, _⟩ := valid _ List.mem_cons_self
    exact absurd accepted (by decide +kernel)
  · have stored := (valid_save_iff _ _ _).mp (valid _ List.mem_cons_self)
    exact absurd stored (by decide +kernel)

end Udhar.Forms
