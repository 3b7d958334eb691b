import Udhar.Firestore
import Udhar.Lib.Run

/-! # Sign-up

Registration makes two remote calls, one after the other: Firebase Auth creates
the account, then Firestore stores the profile. One handler catches the failures
of both and shows the same kind of dialog, so a failure of the second call
leaves an account that has no profile and can be neither used nor registered
again.
-/

namespace Udhar.SignUp

open Lib

/-- The texts of the sign-up form. -/
structure SignUpForm where
  name : String
  email : String
  phoneNumber : String
  password : String
  deriving DecidableEq

/-- What a remote call throws: a `FirebaseAuthException` with its code, or
    anything else with its text. -/
inductive CallError where
  | firebaseAuth (code : String)
  | other (e : String)
  deriving DecidableEq

structure Dialog where
  title : String
  content : String
  deriving DecidableEq

/-- An account of Firebase Auth, with the form it was registered with. -/
structure Account where
  uid : Uid
  form : SignUpForm
  deriving DecidableEq

/-- Firebase Auth: the accounts, the uid of the next one and the current user. -/
structure Auth where
  accounts : List Account
  nextUid : Uid
  currentUser : Option Uid
  issued : ∀ a ∈ accounts, a.uid < nextUid

/-- Firebase Auth tells addresses apart by their lower-cased text. The letters of an
    address are ASCII; names, which the search pages lower-case, may have any. -/
def emailKey (email : String) : List Char := email.toList.map Char.toLower

/-- The account that a registration creates. -/
def Auth.register (auth : Auth) (form : SignUpForm) : Auth where
  accounts := auth.accounts ++ [⟨auth.nextUid, form⟩]
  nextUid := auth.nextUid + 1
  currentUser := some auth.nextUid
  issued := by
    intro a member
    rcases List.mem_append.mp member with old | new
    · exact Nat.lt_succ_of_lt (auth.issued a old)
    · obtain rfl := List.mem_singleton.mp new
      exact Nat.lt_succ_self _

/-- `createUserWithEmailAndPassword`. `failure` is what else may go wrong with
    the call; an address that has an account is refused in any case. -/
def Auth.createUser (auth : Auth) (form : SignUpForm) (failure : Option CallError) :
    Except CallError Auth :=
  match failure with
  | some e => .error e
  | none =>
      if auth.accounts.any (emailKey ·.form.email = emailKey form.email) then
        .error (.firebaseAuth "email-already-in-use")
      else .ok (auth.register form)

def adminEmail : String := "admin@gmail.com"

/-- The document that a registration stores under its uid. -/
def SignUpForm.profileData (form : SignUpForm) : Fields := .ofList
  [("name", .string form.name), ("email", .string form.email),
    ("phoneNumber", .string form.phoneNumber)]

/-! ## Dialogs -/

def successDialog : Dialog := ⟨"Sign Up Success", "You have successfully signed up!"⟩

def adminDialog : Dialog := ⟨"Sign Up Error", "You are not allowed to sign up as an admin"⟩

def errorMessage (code : String) : String :=
  if code = "weak-password" then "The password provided is too weak."
  else if code = "email-already-in-use" then "The account already exists for that email."
  else "An error occurred : " ++ code

def CallError.dialog : CallError → Dialog
  | .firebaseAuth code => ⟨"Sign Up Error", errorMessage code⟩
  | .other e => ⟨"Sign Up Error", "An error occurred: " ++ e⟩

theorem CallError.dialog_title (e : CallError) : e.dialog.title = "Sign Up Error" := by
  cases e <;> rfl

/-! ## Attempts -/

/-- The two services. A uid that was not issued yet has no document. -/
structure State where
  auth : Auth
  db : Database
  unissued : ∀ uid, auth.nextUid ≤ uid → db.users uid = none

/-- Nobody has registered. -/
def State.init : State :=
  ⟨⟨[], 0, none, fun _ member => nomatch member⟩, .empty, fun _ _ => rfl⟩

/-- The account is created, its profile is not stored. -/
def State.register (s : State) (form : SignUpForm) : State where
  auth := s.auth.register form
  db := s.db
  unissued uid later := s.unissued uid (Nat.le_of_succ_le later)

/-- The profile of the account just created is stored. -/
def State.setProfile (s : State) (form : SignUpForm) : State where
  auth := s.auth.register form
  db := s.db.setUser s.auth.nextUid form.profileData
  unissued uid later := by
    rw [Database.users_setUser_of_ne _ _ _ (Nat.ne_of_gt later)]
    exact s.unissued uid (Nat.le_of_succ_le later)

/-- A press of the button, and what goes wrong with its two calls. The form stays as it
    is meanwhile: the handler reads it again before the second call. -/
structure Attempt where
  form : SignUpForm
  createUser : Option CallError
  setProfile : Option CallError

/-- `signUpWithEmailAndPassword`: the state it leaves and the dialog it shows. -/
def signUpWithEmailAndPassword (s : State) (a : Attempt) : State × Dialog :=
  if a.form.email = adminEmail then (s, adminDialog)
  else
    match s.auth.createUser a.form a.createUser with
    | .error e => (s, e.dialog)
    | .ok _ =>
        match a.setProfile with
        | some e => (s.register a.form, e.dialog)
        | none => (s.setProfile a.form, successDialog)

def step (s : State) (a : Attempt) : Option State := some (signUpWithEmailAndPassword s a).1

/-- Every account has the document that its registration stores. -/
def State.HasProfiles (s : State) : Prop :=
  ∀ a ∈ s.auth.accounts, ∃ d, s.db.users a.uid = some d ∧ d "name" = some (.string a.form.name) ∧
    d "email" = some (.string a.form.email) ∧
    d "phoneNumber" = some (.string a.form.phoneNumber)

/-- An attempt that ends in the error dialog has left accounts and profiles alone. -/
def ErrorLeavesState (s : State) (a : Attempt) : Prop :=
  (signUpWithEmailAndPassword s a).2.title = "Sign Up Error" →
    (signUpWithEmailAndPassword s a).1.auth.accounts = s.auth.accounts ∧
      (signUpWithEmailAndPassword s a).1.db.users = s.db.users

/-- An attempt that creates the account also stores the profile. -/
def profileFollows (s : State) (a : Attempt) : Bool :=
  a.form.email = adminEmail ||
    match s.auth.createUser a.form a.createUser with
    | .error _ => true
    | .ok _ => a.setProfile.isNone

/-- What an attempt comes to. -/
theorem signUp_cases (s : State) (a : Attempt) :
    profileFollows s a = true ∧ (signUpWithEmailAndPassword s a).1 = s ∨
      profileFollows s a = true ∧
        signUpWithEmailAndPassword s a = (s.setProfile a.form, successDialog) ∨
      profileFollows s a = false ∧ (signUpWithEmailAndPassword s a).1 = s.register a.form := by
  unfold signUpWithEmailAndPassword profileFollows
  by_cases admin : a.form.email = adminEmail
  · simp only [admin, if_true, decide_true, Bool.true_or, and_self, true_or]
  simp only [admin, if_false, decide_false, Bool.false_or]
  cases s.auth.createUser a.form a.createUser with
  | error e => exact .inl ⟨rfl, rfl⟩
  | ok =>
      cases a.setProfile with
      | none => exact .inr (.inl ⟨rfl, rfl⟩)
      | some e => exact .inr (.inr ⟨rfl, rfl⟩)

theorem hasProfiles_init : State.init.HasProfiles := fun _ none => nomatch none

theorem hasProfiles_setProfile {s : State} (form : SignUpForm) (profiles : s.HasProfiles) :
    (s.setProfile form).HasProfiles := by
  intro a member
  rcases List.mem_append.mp member with old | new
  · obtain ⟨d, stored, fields⟩ := profiles a old
    have other : a.uid ≠ s.auth.nextUid := Nat.ne_of_lt (s.auth.issued a old)
    exact ⟨d, (Database.users_setUser_of_ne s.db _ _ other).trans stored, fields⟩
  · obtain rfl := List.mem_singleton.mp new
    exact ⟨form.profileData, Function.update_self _ _ _, rfl, rfl, rfl⟩

/-- An account whose profile was not stored has none. -/
theorem not_hasProfiles_register (s : State) (form : SignUpForm) :
    ¬ (s.register form).HasProfiles := by
  intro profiles
  obtain ⟨d, stored, _⟩ := profiles ⟨s.auth.nextUid, form⟩
    (List.mem_append_right _ (List.mem_singleton_self _))
  have absent := s.unissued s.auth.nextUid (Nat.le_refl _)
  rw [State.register, absent] at stored
  cases stored

theorem hasProfiles_step_iff {s s' : State} {a : Attempt} (profiles : s.HasProfiles)
    (stepped : step s a = some s') : s'.HasProfiles ↔ profileFollows s a = true := by
  obtain rfl := Option.some.inj stepped
  rcases signUp_cases s a with ⟨follows, same⟩ | ⟨follows, stored⟩ | ⟨fails, registered⟩
  · rw [same]
    exact iff_of_true profiles follows
  · rw [stored]
    exact iff_of_true (hasProfiles_setProfile a.form profiles) follows
  · rw [registered, fails]
    exact iff_of_false (not_hasProfiles_register s a.form) Bool.false_ne_true

theorem errorLeavesState_of_follows {s : State} {a : Attempt}
    (follows : profileFollows s a = true) : ErrorLeavesState s a := by
  intro failed
  rcases signUp_cases s a with ⟨_, same⟩ | ⟨_, stored⟩ | ⟨fails, _⟩
  · rw [same]
    exact ⟨rfl, rfl⟩
  · rw [stored] at failed
    change successDialog.title = "Sign Up Error" at failed
    exact absurd failed (by decide)
  · rw [follows] at fails
    cases fails

/-- Through any sequence of attempts, every account has its profile and no
    attempt that reports an error has changed anything, exactly if no attempt
    creates the account and then fails to store the profile. -/
theorem accounts_have_profiles_iff {s u : State} {attempts : List Attempt}
    (profiles : s.HasProfiles) (played : run step s attempts = some u) :
    Always step State.HasProfiles s attempts ∧ Meets step ErrorLeavesState s attempts ↔
      Meets step (fun s a => profileFollows s a) s attempts := by
  have decided := always_iff_meets (I := fun _ => True) (E := fun _ => True)
    (G := fun s a => profileFollows s a = true) (fun _ _ _ _ _ _ _ => trivial)
    (fun _ _ _ _ _ profiles stepped => hasProfiles_step_iff profiles stepped)
    played (fun _ _ => trivial) trivial profiles
  constructor
  · exact fun both => decided.mp both.1
  · exact fun meets => ⟨decided.mpr meets, meets.mono fun _ _ => errorLeavesState_of_follows⟩

def asha : SignUpForm := ⟨"Asha", "asha@example.com", "9876543210", "secret1"⟩

theorem retried_registration_has_profile :
    (∃ s, run step .init [⟨asha, some (.firebaseAuth "weak-password"), none⟩, ⟨asha, none, none⟩,
      ⟨asha, none, none⟩] = some s) ∧
    Always step State.HasProfiles .init [⟨asha, some (.firebaseAuth "weak-password"), none⟩,
      ⟨asha, none, none⟩, ⟨asha, none, none⟩] ∧
    Meets step ErrorLeavesState .init [⟨asha, some (.firebaseAuth "weak-password"), none⟩,
      ⟨asha, none, none⟩, ⟨asha, none, none⟩] :=
  ⟨⟨_, rfl⟩, (accounts_have_profiles_iff hasProfiles_init rfl).mpr
    (by decide +kernel)⟩

/-- The profile write fails: the dialog reports an error, the account has no
    profile, and a second attempt is refused because the account exists. -/
theorem failed_profile_write_locks_the_address :
    ∃ s, run step .init [⟨asha, none, some (.other "unavailable")⟩] = some s ∧
      ¬ s.HasProfiles ∧ (signUpWithEmailAndPassword s ⟨asha, none, none⟩).2 =
        ⟨"Sign Up Error", "The account already exists for that email."⟩ := by
  refine ⟨State.register .init asha, ?_, not_hasProfiles_register .init asha, by decide +kernel⟩
  have fails : (signUpWithEmailAndPassword .init ⟨asha, none, some (.other "unavailable")⟩).1 =
      State.register .init asha := rfl
  rw [run, step, fails]
  rfl

end Udhar.SignUp
