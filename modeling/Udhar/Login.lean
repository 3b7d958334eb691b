import Udhar.App

/-! # Login and the reserved address

The admin is no account of Firebase Auth: sign-up refuses the admin's address and
login sends it to the admin page instead of asking Firebase. Both compare the raw
text, Firebase the lower-cased one. Accounts and logins agree as long as nobody
registers another spelling of the admin's address.
-/

namespace Udhar.Login

open Lib SignUp
open App (uidOf createUser_eq_ok)

def adminPassword : String := "admin"

/-- What `login` shows. -/
inductive Outcome where
  | adminPage
  | homePage (user : Uid)
  | dialog (shown : Dialog)
  deriving DecidableEq

/-- `signInWithEmailAndPassword`. `failure` is what else may go wrong with the call. -/
def signIn (auth : Auth) (email password : String) (failure : Option CallError) :
    Except CallError Uid :=
  match failure with
  | some e => .error e
  | none =>
      match auth.accounts.find? (emailKey ·.form.email = emailKey email) with
      | some a =>
          if a.form.password = password then .ok a.uid
          else .error (.firebaseAuth "invalid-credential")
      | none => .error (.firebaseAuth "invalid-credential")

def incorrect : String := "Incorrect Email or Password. Please try again."

/-- The dialog for a call that has thrown. -/
def errorDialog : CallError → Dialog
  | .firebaseAuth code =>
      ⟨"Login Error",
        if code = "invalid-credential" then incorrect else "An error occurred : " ++ code ++ " "⟩
  | .other e => ⟨"Login Error", "An error occurred: " ++ e⟩

/-- `login` with the texts of its two fields. -/
def login (auth : Auth) (email password : String) (failure : Option CallError) : Outcome :=
  if email = adminEmail then
    if password = adminPassword then .adminPage else .dialog ⟨"Login Error", incorrect⟩
  else
    match signIn auth email password failure with
    | .ok user => .homePage user
    | .error e => .dialog (errorDialog e)

/-- No account has the admin's address in any spelling, and every account is opened
    by its password and any spelling of its address. -/
structure Agrees (s : State) : Prop where
  reserved : ∀ a ∈ s.auth.accounts, emailKey a.form.email ≠ emailKey adminEmail
  opens : ∀ a ∈ s.auth.accounts, ∀ email, emailKey email = emailKey a.form.email →
    login s.auth email a.form.password none = .homePage a.uid

/-- The attempt does not create an account under another spelling of the admin's
    address. -/
def sparesAdmin (s : State) (a : Attempt) : Bool :=
  emailKey a.form.email ≠ emailKey adminEmail || a.form.email = adminEmail ||
    match s.auth.createUser a.form a.createUser with
    | .ok _ => false
    | .error _ => true

/-- Firebase keeps addresses apart. -/
def Distinct (s : State) : Prop := (s.auth.accounts.map (emailKey ·.form.email)).Nodup

/-! ## One attempt -/

/-- An attempt leaves the accounts alone, or adds one under a new address. -/
theorem signUp_accounts (s : State) (a : Attempt) :
    (signUpWithEmailAndPassword s a).1.auth.accounts = s.auth.accounts ∧ sparesAdmin s a = true ∨
      (signUpWithEmailAndPassword s a).1.auth.accounts =
          s.auth.accounts ++ [⟨s.auth.nextUid, a.form⟩] ∧
        uidOf s.auth a.form.email = none ∧
        (sparesAdmin s a = true ↔ emailKey a.form.email ≠ emailKey adminEmail) := by
  unfold signUpWithEmailAndPassword sparesAdmin
  by_cases admin : a.form.email = adminEmail
  · simp [admin]
  cases created : s.auth.createUser a.form a.createUser with
  | error e => simp [admin]
  | ok auth' =>
      obtain ⟨_, fresh⟩ := createUser_eq_ok created
      right
      simp only [admin, if_false]
      refine ⟨?_, fresh, by simp⟩
      cases a.setProfile <;> rfl

theorem distinct_step {s s' : State} {a : Attempt} (distinct : Distinct s)
    (stepped : step s a = some s') : Distinct s' := by
  obtain rfl := Option.some.inj stepped
  rcases signUp_accounts s a with ⟨same, _⟩ | ⟨added, fresh, _⟩
  · rwa [Distinct, same]
  · rw [Distinct, added, List.map_append, List.map_singleton, ← List.concat_eq_append]
    refine List.Nodup.concat ?_ distinct
    intro member
    obtain ⟨b, inside, same⟩ := List.mem_map.mp member
    rw [uidOf, Option.map_eq_none_iff, List.find?_eq_none] at fresh
    exact fresh b inside (decide_eq_true same)

/-- Where addresses are kept apart and the admin's is free, every account can be
    opened. -/
theorem agrees_of_reserved {s : State} (distinct : Distinct s)
    (reserved : ∀ a ∈ s.auth.accounts, emailKey a.form.email ≠ emailKey adminEmail) :
    Agrees s := by
  refine ⟨reserved, ?_⟩
  intro a member email same
  have notAdmin : email ≠ adminEmail := by
    rintro rfl
    exact reserved a member same.symm
  have found : s.auth.accounts.find? (emailKey ·.form.email = emailKey email) = some a := by
    cases search : s.auth.accounts.find? (emailKey ·.form.email = emailKey email) with
    | none => exact absurd (decide_eq_true same.symm) (List.find?_eq_none.mp search a member)
    | some b =>
        have spelled : emailKey b.form.email = emailKey email := by
          simpa only [decide_eq_true_eq] using List.find?_some search
        exact congrArg some (List.inj_on_of_nodup_map distinct (List.mem_of_find?_eq_some search)
          member (spelled.trans same))
  simp only [login, notAdmin, if_false, signIn, found, if_true]

theorem agrees_step_iff {s s' : State} {a : Attempt} (distinct : Distinct s) (agrees : Agrees s)
    (stepped : step s a = some s') : Agrees s' ↔ sparesAdmin s a = true := by
  have distinct' := distinct_step distinct stepped
  obtain rfl := Option.some.inj stepped
  rcases signUp_accounts s a with ⟨same, spares⟩ | ⟨added, _, spares⟩
  · refine iff_of_true (agrees_of_reserved distinct' ?_) spares
    rw [same]
    exact agrees.reserved
  · rw [spares]
    constructor
    · intro agrees'
      apply agrees'.reserved ⟨s.auth.nextUid, a.form⟩
      rw [added]
      exact List.mem_append_right _ (List.mem_singleton_self _)
    · intro other
      apply agrees_of_reserved distinct'
      rw [added]
      intro b member
      rcases List.mem_append.mp member with old | new
      · exact agrees.reserved b old
      · obtain rfl := List.mem_singleton.mp new
        exact other

/-- Through any sequence of sign-ups, the admin's address stays reserved and every
    account can be opened by any spelling of its address, exactly if no attempt
    creates an account under another spelling of the admin's address. -/
theorem sign_up_and_login_agree_iff (attempts : List Attempt) :
    Always step Agrees .init attempts ↔
      Meets step (fun s a => sparesAdmin s a) .init attempts := by
  have total : ∀ s a, (step s a).isSome = true := fun _ _ => rfl
  obtain ⟨u, played⟩ := run_total total .init attempts
  exact always_iff_meets (I := Distinct) (E := fun _ => True)
    (fun _ _ _ _ distinct _ stepped => distinct_step distinct stepped)
    (fun _ _ _ _ distinct agrees stepped => agrees_step_iff distinct agrees stepped)
    played (fun _ _ => trivial) List.nodup_nil
    ⟨fun _ none => (nomatch none), fun _ none => (nomatch none)⟩

/-- A registration under another spelling of the admin's address. -/
def disguised : Attempt := ⟨⟨"Asha", "Admin@gmail.com", "9876543210", "secret1"⟩, none, none⟩

/-- The account is created, and its own address in lower case does not open it. -/
theorem admin_spelling_is_registered : ∃ s, run step .init [disguised] = some s ∧
    ¬ Agrees s ∧ login s.auth "Admin@gmail.com" "secret1" none = .homePage 0 ∧
    login s.auth "admin@gmail.com" "secret1" none = .dialog ⟨"Login Error", incorrect⟩ := by
  obtain ⟨s, played, opened, refused, account⟩ := run_reaches step .init [disguised]
    (P := fun s => login s.auth "Admin@gmail.com" "secret1" none = .homePage 0 ∧
      login s.auth "admin@gmail.com" "secret1" none = .dialog ⟨"Login Error", incorrect⟩ ∧
      s.auth.accounts = [⟨0, disguised.form⟩]) (by decide +kernel)
  refine ⟨s, played, fun agrees => ?_, opened, refused⟩
  have member : ⟨0, disguised.form⟩ ∈ s.auth.accounts := by
    rw [account]
    exact List.mem_singleton_self _
  exact agrees.reserved _ member (by decide +kernel)

end Udhar.Login
