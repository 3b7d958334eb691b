import Udhar.EditProfile
import Udhar.Payments.Owners
import Udhar.SignUp
import Udhar.Writes

/-! # The whole app

All sessions of all users over one database: the payment and bill pages, sign-ups
and the saves of the Edit Profile page. As on the payment pages, one event resumes
one handler at the remote operation it awaits, and every operation may fail.
Whatever the order of the events, the payment history only grows, bills are only
added and paid, and a session writes nothing under another user.
-/

namespace Udhar.App

open Lib SignUp EditProfile
open Payments (getElem?_map_append getElem?_map_set)

/-- What `signUpWithEmailAndPassword` waits for. -/
inductive SignUpStage where
  | createUser
  | set (uid : Uid)
  | shown (dialog : Dialog)

/-- A run of `signUpWithEmailAndPassword` on a form that is not edited meanwhile. -/
structure SignUpRun where
  form : SignUpForm
  stage : SignUpStage

/-- The run up to its first remote call. -/
def SignUpRun.start (form : SignUpForm) : SignUpRun :=
  ⟨form, if form.email = adminEmail then .shown adminDialog else .createUser⟩

/-- Resume a sign-up; `failure` is what its remote call throws. -/
def SignUpRun.advance (auth : Auth) (db : Database) (r : SignUpRun) (failure : Option CallError) :
    Option (Auth × Database × SignUpRun) :=
  match r.stage with
  | .createUser =>
      match auth.createUser r.form failure with
      | .ok auth' => some (auth', db, { r with stage := .set auth.nextUid })
      | .error e => some (auth, db, { r with stage := .shown e.dialog })
  | .set uid =>
      match failure with
      | none => some (auth, db.setUser uid r.form.profileData, { r with
          stage := .shown successDialog })
      | some e => some (auth, db, { r with stage := .shown e.dialog })
  | .shown _ => none

/-- An open Edit Profile page. -/
structure EditProfilePage where
  user : Uid
  page : Page

/-- What `updateUserInformation` waits for. -/
inductive UpdateStage where
  | uploadImage
  | update (userInformation : List (String × Value))
  | done
  | threw

/-- A run of `updateUserInformation` with the page's fields as it was called. -/
structure ProfileSave where
  page : ℕ
  user : Uid
  form : Page
  stage : UpdateStage

/-- The run up to its first remote call: without a new picture there is no upload. -/
def ProfileSave.start (p : ℕ) (user : Uid) (form : Page) : ProfileSave :=
  ⟨p, user, form, if form.image.isSome then .uploadImage else .update (form.userInformation "")⟩

/-- Resume a save; `result` is the url of a finished upload, and `none` where the
    remote operation fails. -/
def ProfileSave.advance (db : Database) (r : ProfileSave) (result : Option String) :
    Option (Database × ProfileSave) :=
  match r.stage, result with
  | .uploadImage, some url => some (db, { r with stage := .update (r.form.userInformation url) })
  | .update userInformation, some _ =>
      match db.updateUser r.user userInformation with
      | some db' => some (db', { r with stage := .done })
      | none => some (db, { r with stage := .threw })
  | .uploadImage, none | .update _, none => some (db, { r with stage := .threw })
  | .done, _ | .threw, _ => none

/-- The database is the one of the payment pages. -/
structure State where
  payments : Payments.State
  auth : Auth
  signUps : List SignUpRun
  editPages : List EditProfilePage
  profileSaves : List ProfileSave

def State.db (s : State) : Database := s.payments.db

def State.withDb (s : State) (db : Database) : State :=
  { s with payments := { s.payments with db } }

/-- No page is open. -/
def State.init (auth : Auth) (db : Database) : State := ⟨.init db, auth, [], [], []⟩

inductive Event where
  | payments (e : Payments.Event)
  | signUp (form : SignUpForm)
  | resumeSignUp (index : ℕ) (failure : Option CallError)
  | openEditProfile (user : Uid)
  | edit (index : ℕ) (e : EditProfile.Event)
  | saveChanges (index : ℕ)
  | resumeSave (index : ℕ) (result : Option String)

/-- Take one step; `none` when the event cannot happen. -/
def step (s : State) : Event → Option State
  | .payments e => do
      let payments ← Payments.step s.payments e
      some { s with payments }
  | .signUp form => some { s with signUps := s.signUps ++ [.start form] }
  | .resumeSignUp i failure => do
      let r ← s.signUps[i]?
      let (auth', db', r') ← r.advance s.auth s.db failure
      some { s.withDb db' with auth := auth', signUps := s.signUps.set i r' }
  | .openEditProfile user => some { s with editPages := s.editPages ++ [⟨user, {}⟩] }
  | .edit i e => do
      let edited ← s.editPages[i]?
      let page ← EditProfile.step (s.db.users edited.user) edited.page e
      some { s with editPages := s.editPages.set i { edited with page } }
  | .saveChanges i => do
      let edited ← s.editPages[i]?
      if edited.page.validate then
        some { s with profileSaves := s.profileSaves ++ [.start i edited.user edited.page] }
      else some s
  | .resumeSave i result => do
      let r ← s.profileSaves[i]?
      let (db', r') ← r.advance s.db result
      some { s.withDb db' with profileSaves := s.profileSaves.set i r' }

/-! ## Sessions -/

/-- The account that an address has. -/
def uidOf (auth : Auth) (email : String) : Option Uid :=
  (auth.accounts.find? (emailKey ·.form.email = emailKey email)).map Account.uid

/-- The user for whom the page was built on which the event happens. -/
def paymentsSession (s : Payments.State) : Payments.Event → Option Uid
  | .openPage user | .validateCard user _ _ | .submitRent user _ => some user
  | .payNow p => s.pageUser p
  | .paymentSuccess i _ _ | .paymentError i _ _ | .externalWallet i _ =>
      s.orders[i]?.bind fun o => s.pageUser o.page
  | .fetch i _ => s.fetches[i]?.bind fun f => s.pageUser f.page
  | .settle i _ => s.settlements[i]?.bind fun t => s.pageUser t.page
  | .save i _ => s.saves[i]?.map Payments.BillSave.user

/-- The user in whose session an event happens. A sign-up belongs to the account
    that has its address. -/
def session (s : State) : Event → Option Uid
  | .payments e => paymentsSession s.payments e
  | .signUp form => uidOf s.auth form.email
  | .resumeSignUp i _ => s.signUps[i]?.bind fun r => uidOf s.auth r.form.email
  | .openEditProfile user => some user
  | .edit i _ | .saveChanges i => s.editPages[i]?.map EditProfilePage.user
  | .resumeSave i _ =>
      s.profileSaves[i]?.bind fun r => s.editPages[r.page]?.map EditProfilePage.user

/-- Handlers work for the user of their page, and a profile is stored under the
    account of the form's address. -/
structure Owned (s : State) : Prop where
  payments : s.payments.Owned
  signUps : ∀ r ∈ s.signUps, ∀ uid, r.stage = .set uid → uidOf s.auth r.form.email = some uid
  profileSaves : ∀ r ∈ s.profileSaves,
    s.editPages[r.page]?.map EditProfilePage.user = some r.user

/-- What a step writes, and for whom. -/
def Confined (session : Option Uid) (db db' : Database) : Prop :=
  db' = db ∨ ∃ u, session = some u ∧ Write u db db'

theorem payments_confined {s s' : Payments.State} {e : Payments.Event} (own : s.Owned)
    (stepped : Payments.step s e = some s') : Confined (paymentsSession s e) s.db s'.db := by
  cases e with
  | settle i ok =>
      obtain ⟨t, _, _, _, _, found, _, advanced, rfl⟩ := Payments.step_settle stepped
      have mine : paymentsSession s (.settle i ok) = some t.user := by
        simp only [paymentsSession, found, Option.bind_some]
        exact own.settlements t (List.mem_of_getElem? found)
      cases Payments.Settlement.advance_move advanced with
      | record => exact .inr ⟨_, mine, .record _⟩
      | commit k => exact .inr ⟨_, mine, .settle k _⟩
      | read | reset | threw => exact .inl rfl
  | save i =>
      obtain ⟨b, _, _, found, advanced, rfl⟩ := Payments.step_save stepped
      obtain ⟨_, ⟨_, rfl, _⟩ | ⟨_, rfl, _⟩⟩ := Payments.BillSave.advance_cases advanced
      · refine .inr ⟨b.user, ?_, .bill _ _⟩
        simp only [paymentsSession, found, Option.map_some]
      · exact .inl rfl
  | paymentSuccess =>
      obtain ⟨_, _, _, _, _, _, rfl⟩ := Payments.step_paymentSuccess stepped
      exact .inl rfl
  | _ => exact .inl (Payments.step_quiet rfl stepped).1

/-! ## Sign-ups and saves -/

theorem createUser_eq_ok {auth auth' : Auth} {form : SignUpForm} {failure : Option CallError}
    (created : auth.createUser form failure = .ok auth') :
    auth' = auth.register form ∧ uidOf auth form.email = none := by
  unfold Auth.createUser at created
  split at created
  · cases created
  · split at created
    · cases created
    · rename_i absent
      obtain rfl := Except.ok.inj created
      refine ⟨rfl, ?_⟩
      rw [uidOf, Option.map_eq_none_iff, List.find?_eq_none]
      simpa only [Bool.not_eq_true, List.any_eq_false] using absent

/-- An account keeps its address. -/
theorem uidOf_register {auth : Auth} {email : String} {uid : Uid} (form : SignUpForm)
    (account : uidOf auth email = some uid) : uidOf (auth.register form) email = some uid := by
  obtain ⟨a, found, rfl⟩ := Option.map_eq_some_iff.mp account
  rw [uidOf, Auth.register, List.find?_append, found, Option.some_or, Option.map_some]

theorem uidOf_register_self {auth : Auth} {form : SignUpForm}
    (fresh : uidOf auth form.email = none) :
    uidOf (auth.register form) form.email = some auth.nextUid := by
  rw [uidOf, Option.map_eq_none_iff] at fresh
  rw [uidOf, Auth.register, List.find?_append, fresh, Option.none_or]
  simp only [List.find?_cons, decide_true, Option.map_some]

/-- What resuming a sign-up can do. -/
inductive SignUpRun.Move (auth : Auth) (db : Database) (r : SignUpRun) :
    Auth → Database → SignUpRun → Prop where
  | created (fresh : uidOf auth r.form.email = none) :
      SignUpRun.Move auth db r (auth.register r.form) db { r with stage := .set auth.nextUid }
  | stored {uid : Uid} (stage : r.stage = .set uid) :
      SignUpRun.Move auth db r auth (db.setUser uid r.form.profileData)
        { r with stage := .shown successDialog }
  | failed (e : CallError) :
      SignUpRun.Move auth db r auth db { r with stage := .shown e.dialog }

theorem SignUpRun.advance_move {auth auth' : Auth} {db db' : Database} {r r' : SignUpRun}
    {failure : Option CallError} (advanced : r.advance auth db failure = some (auth', db', r')) :
    r.Move auth db auth' db' r' := by
  unfold SignUpRun.advance at advanced
  split at advanced
  · split at advanced
    · rename_i created
      obtain ⟨rfl, fresh⟩ := createUser_eq_ok created
      cases advanced
      exact .created fresh
    · cases advanced
      exact .failed _
  · rename_i stage
    split at advanced
    · cases advanced
      exact .stored stage
    · cases advanced
      exact .failed _
  · cases advanced

theorem ProfileSave.advance_cases {db db' : Database} {r r' : ProfileSave} {result : Option String}
    (advanced : r.advance db result = some (db', r')) :
    r'.page = r.page ∧ r'.user = r.user ∧ (db' = db ∨ ∃ d, db' = db.setUser r.user d) := by
  unfold ProfileSave.advance at advanced
  split at advanced
  · cases advanced
    exact ⟨rfl, rfl, .inl rfl⟩
  · split at advanced
    · rename_i updated
      obtain ⟨d, _, rfl⟩ := Database.updateUser_eq_some updated
      cases advanced
      exact ⟨rfl, rfl, .inr ⟨_, rfl⟩⟩
    · cases advanced
      exact ⟨rfl, rfl, .inl rfl⟩
  all_goals first
    | cases advanced; exact ⟨rfl, rfl, .inl rfl⟩
    | cases advanced

/-- Resume the sign-up that was started last. -/
theorem resume_last {s : State} {runs : List SignUpRun} {r r' : SignUpRun} {auth' : Auth}
    {db' : Database} {failure : Option CallError} (last : s.signUps = runs ++ [r])
    (advanced : r.advance s.auth s.db failure = some (auth', db', r')) :
    step s (.resumeSignUp runs.length failure) =
      some { s.withDb db' with auth := auth', signUps := runs ++ [r'] } := by
  have found : s.signUps[runs.length]? = some r := by
    rw [last, List.getElem?_append_right (Nat.le_refl _), Nat.sub_self, List.getElem?_cons_zero]
  have replaced : s.signUps.set runs.length r' = runs ++ [r'] := by
    rw [last, List.set_append_right _ _ (Nat.le_refl _), Nat.sub_self, List.set_cons_zero]
  simp only [step, found, advanced, replaced, Option.bind_eq_bind, Option.bind_some]

/-- An attempt to sign up is a run of the app that nothing interrupts: it ends
    with the same accounts, the same database and the same dialog. -/
theorem signUp_plays {s : State} {t : SignUp.State} (auth : s.auth = t.auth) (db : s.db = t.db)
    (a : Attempt) : ∃ es s', run step s es = some s' ∧
      s'.auth = (signUpWithEmailAndPassword t a).1.auth ∧
      s'.db = (signUpWithEmailAndPassword t a).1.db ∧
      s'.signUps = s.signUps ++ [⟨a.form, .shown (signUpWithEmailAndPassword t a).2⟩] := by
  let pressed : State := { s with signUps := s.signUps ++ [.start a.form] }
  have press : step s (.signUp a.form) = some pressed := rfl
  unfold signUpWithEmailAndPassword
  by_cases admin : a.form.email = adminEmail
  · refine ⟨[.signUp a.form], pressed, run_cons.mpr ⟨_, press, rfl⟩, ?_⟩
    simp only [pressed, admin, if_true, SignUpRun.start]
    exact ⟨auth, db, trivial⟩
  have started : pressed.signUps = s.signUps ++ [⟨a.form, .createUser⟩] := by
    simp only [pressed, SignUpRun.start, admin, if_false]
  simp only [admin, if_false]
  cases called : t.auth.createUser a.form a.createUser with
  | error e =>
      have advanced : SignUpRun.advance pressed.auth pressed.db ⟨a.form, .createUser⟩ a.createUser =
          some (pressed.auth, pressed.db, ⟨a.form, .shown e.dialog⟩) := by
        simp only [SignUpRun.advance, pressed, auth, called]
      exact ⟨[.signUp a.form, .resumeSignUp s.signUps.length a.createUser], _,
        run_cons.mpr ⟨_, press, run_cons.mpr ⟨_, resume_last started advanced, rfl⟩⟩, auth, db, rfl⟩
  | ok auth' =>
      obtain ⟨rfl, _⟩ := createUser_eq_ok called
      have advanced : SignUpRun.advance pressed.auth pressed.db ⟨a.form, .createUser⟩ a.createUser =
          some (t.auth.register a.form, pressed.db, ⟨a.form, .set t.auth.nextUid⟩) := by
        simp only [SignUpRun.advance, pressed, auth, called]
      let created : State := { pressed with
        auth := t.auth.register a.form
        signUps := s.signUps ++ [⟨a.form, .set t.auth.nextUid⟩] }
      have create : step pressed (.resumeSignUp s.signUps.length a.createUser) = some created :=
        resume_last started advanced
      have played : ∀ failure s', step created (.resumeSignUp s.signUps.length failure) = some s' →
          run step s [.signUp a.form, .resumeSignUp s.signUps.length a.createUser,
            .resumeSignUp s.signUps.length failure] = some s' := fun failure s' last =>
        run_cons.mpr ⟨_, press, run_cons.mpr ⟨_, create, run_cons.mpr ⟨_, last, rfl⟩⟩⟩
      cases a.setProfile with
      | none =>
          have stored : created.db.setUser t.auth.nextUid a.form.profileData =
              t.db.setUser t.auth.nextUid a.form.profileData := by rw [← db]; rfl
          exact ⟨_, _, played none _ (resume_last rfl rfl), rfl, stored, rfl⟩
      | some e => exact ⟨_, _, played (some e) _ (resume_last rfl rfl), rfl, db, rfl⟩

/-! ## Steps -/

variable {s s' : State}

theorem step_payments {e : Payments.Event} (stepped : step s (.payments e) = some s') :
    ∃ payments, Payments.step s.payments e = some payments ∧ s' = { s with payments } := by
  obtain ⟨payments, taken, rest⟩ := Option.bind_eq_some_iff.mp stepped
  exact ⟨payments, taken, (Option.some.inj rest).symm⟩

theorem step_resumeSignUp {i : ℕ} {failure : Option CallError}
    (stepped : step s (.resumeSignUp i failure) = some s') :
    ∃ r auth' db' r', s.signUps[i]? = some r ∧ r.Move s.auth s.db auth' db' r' ∧
      s' = { s.withDb db' with auth := auth', signUps := s.signUps.set i r' } := by
  obtain ⟨r, found, rest⟩ := Option.bind_eq_some_iff.mp stepped
  obtain ⟨⟨auth', db', r'⟩, advanced, rest⟩ := Option.bind_eq_some_iff.mp rest
  exact ⟨r, auth', db', r', found, SignUpRun.advance_move advanced, (Option.some.inj rest).symm⟩

theorem step_edit {i : ℕ} {e : EditProfile.Event} (stepped : step s (.edit i e) = some s') :
    ∃ edited page, s.editPages[i]? = some edited ∧
      s' = { s with editPages := s.editPages.set i { edited with page } } := by
  obtain ⟨edited, found, rest⟩ := Option.bind_eq_some_iff.mp stepped
  obtain ⟨page, _, rest⟩ := Option.bind_eq_some_iff.mp rest
  exact ⟨edited, page, found, (Option.some.inj rest).symm⟩

theorem step_saveChanges {i : ℕ} (stepped : step s (.saveChanges i) = some s') :
    ∃ edited, s.editPages[i]? = some edited ∧ (s' = s ∨ edited.page.validate = true ∧
      s' = { s with profileSaves := s.profileSaves ++ [.start i edited.user edited.page] }) := by
  obtain ⟨edited, found, rest⟩ := Option.bind_eq_some_iff.mp stepped
  refine ⟨edited, found, ?_⟩
  split at rest
  · rename_i valid
    exact .inr ⟨valid, (Option.some.inj rest).symm⟩
  · exact .inl (Option.some.inj rest).symm

theorem step_resumeSave {i : ℕ} {result : Option String}
    (stepped : step s (.resumeSave i result) = some s') :
    ∃ r db' r', s.profileSaves[i]? = some r ∧ r.advance s.db result = some (db', r') ∧
      s' = { s.withDb db' with profileSaves := s.profileSaves.set i r' } := by
  obtain ⟨r, found, rest⟩ := Option.bind_eq_some_iff.mp stepped
  obtain ⟨⟨db', r'⟩, advanced, rest⟩ := Option.bind_eq_some_iff.mp rest
  exact ⟨r, db', r', found, advanced, (Option.some.inj rest).symm⟩

/-- A step of the app is one of the payment and bill pages, or these see at most a
    profile change. -/
theorem step_payments_cases {e : Event} (stepped : step s e = some s') :
    (∃ p, e = .payments p ∧ Payments.step s.payments p = some s'.payments) ∨
      (∀ p, e ≠ .payments p) ∧ (s'.payments = s.payments ∨
        ∃ u d, s'.payments = { s.payments with db := s.db.setUser u d }) := by
  cases e with
  | payments p =>
      obtain ⟨payments, taken, rfl⟩ := step_payments stepped
      exact .inl ⟨p, rfl, taken⟩
  | signUp | openEditProfile =>
      obtain rfl := Option.some.inj stepped
      exact .inr ⟨nofun, .inl rfl⟩
  | resumeSignUp =>
      obtain ⟨_, _, _, _, _, move, rfl⟩ := step_resumeSignUp stepped
      cases move with
      | created | failed => exact .inr ⟨nofun, .inl rfl⟩
      | stored => exact .inr ⟨nofun, .inr ⟨_, _, rfl⟩⟩
  | edit =>
      obtain ⟨_, _, _, rfl⟩ := step_edit stepped
      exact .inr ⟨nofun, .inl rfl⟩
  | saveChanges =>
      obtain ⟨_, _, rfl | ⟨_, rfl⟩⟩ := step_saveChanges stepped <;> exact .inr ⟨nofun, .inl rfl⟩
  | resumeSave =>
      obtain ⟨_, _, _, _, advanced, rfl⟩ := step_resumeSave stepped
      obtain ⟨_, _, rfl | ⟨_, rfl⟩⟩ := ProfileSave.advance_cases advanced
      · exact .inr ⟨nofun, .inl rfl⟩
      · exact .inr ⟨nofun, .inr ⟨_, _, rfl⟩⟩

theorem owned_withDb (own : s.payments.Owned) (db : Database) : (s.withDb db).payments.Owned :=
  ⟨own.fetches, own.orders, own.settlements⟩

theorem owned_init (auth : Auth) (db : Database) : Owned (.init auth db) :=
  ⟨.init db, fun _ none => (nomatch none), fun _ none => (nomatch none)⟩

theorem owned_step {e : Event} (own : Owned s) (stepped : step s e = some s') : Owned s' := by
  cases e with
  | payments e =>
      obtain ⟨payments, taken, rfl⟩ := step_payments stepped
      exact ⟨own.payments.preserved taken, own.signUps, own.profileSaves⟩
  | signUp form =>
      obtain rfl := Option.some.inj stepped
      refine ⟨own.payments, forall_mem_concat own.signUps fun uid stage => ?_,
        own.profileSaves⟩
      unfold SignUpRun.start at stage
      split at stage <;> cases stage
  | resumeSignUp i failure =>
      obtain ⟨r, auth', db', r', found, move, rfl⟩ := step_resumeSignUp stepped
      refine ⟨owned_withDb own.payments db', fun q member uid stage => ?_, own.profileSaves⟩
      rcases List.mem_or_eq_of_mem_set member with old | rfl
      · have account := own.signUps q old uid stage
        cases move with
        | created => exact uidOf_register _ account
        | stored | failed => exact account
      · cases move with
        | created fresh =>
            cases stage
            exact uidOf_register_self fresh
        | stored | failed => cases stage
  | openEditProfile user =>
      obtain rfl := Option.some.inj stepped
      exact ⟨own.payments, own.signUps,
        fun r member => getElem?_map_append (own.profileSaves r member)⟩
  | edit i e =>
      obtain ⟨edited, page, found, rfl⟩ := step_edit stepped
      have kept :=
        getElem?_map_set (f := EditProfilePage.user) (b := { edited with page }) found rfl
      exact ⟨own.payments, own.signUps, fun r member =>
        (kept r.page).trans (own.profileSaves r member)⟩
  | saveChanges i =>
      obtain ⟨edited, found, rfl | ⟨_, rfl⟩⟩ := step_saveChanges stepped
      · exact own
      · refine ⟨own.payments, own.signUps, forall_mem_concat own.profileSaves ?_⟩
        exact Option.map_eq_some_iff.mpr ⟨edited, found, rfl⟩
  | resumeSave i result =>
      obtain ⟨r, db', r', found, advanced, rfl⟩ := step_resumeSave stepped
      obtain ⟨page, user, _⟩ := ProfileSave.advance_cases advanced
      refine ⟨owned_withDb own.payments db', own.signUps,
        forall_mem_set own.profileSaves ?_⟩
      rw [page, user]
      exact own.profileSaves r (List.mem_of_getElem? found)

/-- Every step writes at most one thing, for the user of its session. -/
theorem step_confined {e : Event} (own : Owned s) (stepped : step s e = some s') :
    Confined (session s e) s.db s'.db := by
  cases e with
  | payments e =>
      obtain ⟨payments, taken, rfl⟩ := step_payments stepped
      exact payments_confined own.payments taken
  | signUp | openEditProfile =>
      obtain rfl := Option.some.inj stepped
      exact .inl rfl
  | resumeSignUp i failure =>
      obtain ⟨r, auth', db', r', found, move, rfl⟩ := step_resumeSignUp stepped
      cases move with
      | created | failed => exact .inl rfl
      | @stored uid stage =>
          refine .inr ⟨uid, ?_, .profile _⟩
          simp only [session, found, Option.bind_some]
          exact own.signUps r (List.mem_of_getElem? found) uid stage
  | edit i e =>
      obtain ⟨_, _, _, rfl⟩ := step_edit stepped
      exact .inl rfl
  | saveChanges i =>
      obtain ⟨_, _, rfl | ⟨_, rfl⟩⟩ := step_saveChanges stepped <;> exact .inl rfl
  | resumeSave i result =>
      obtain ⟨r, db', r', found, advanced, rfl⟩ := step_resumeSave stepped
      obtain ⟨_, _, rfl | ⟨d, rfl⟩⟩ := ProfileSave.advance_cases advanced
      · exact .inl rfl
      · refine .inr ⟨r.user, ?_, .profile _⟩
        simp only [session, found, Option.bind_some]
        exact own.profileSaves r (List.mem_of_getElem? found)

theorem Confined.grows {session : Option Uid} {db db' : Database}
    (confined : Confined session db db') : Grows db db' := by
  rcases confined with rfl | ⟨_, _, write⟩
  · exact refl_of Grows _
  · exact write.grows

theorem Confined.sameFor {session : Option Uid} {db db' : Database} {v : Uid}
    (confined : Confined session db db') (other : session ≠ some v) : SameFor v db db' := by
  rcases confined with rfl | ⟨u, mine, write⟩
  · exact .refl v _
  · exact write.sameFor fun same => other (same ▸ mine)

/-- The step changes no document of a user in whose session it is not. -/
def LeavesOthers (s : State) (e : Event) : Prop :=
  ∀ s', step s e = some s' → ∀ v, session s e ≠ some v → SameFor v s.db s'.db

/-- From any state that the app can reach, whatever happens next: the payment
    history only grows, bills are only added and paid, and no step of a session
    changes a document of another user. -/
theorem history_and_bills_append_only {auth : Auth} {db : Database} {before es : List Event}
    (reached : run step (.init auth db) before = some s) (played : run step s es = some s') :
    Grows s.db s'.db ∧ Meets step LeavesOthers s es := by
  have own : Owned s := run_invariant (fun _ _ _ => owned_step) reached (owned_init auth db)
  constructor
  · exact run_relates State.db (fun _ _ _ => owned_step)
      (fun _ _ _ own stepped => (step_confined own stepped).grows) played own
  · exact Meets.of_invariant (fun _ _ _ => owned_step)
      (fun _ _ own _ stepped _ other => (step_confined own stepped).sameFor other) es own

/-- The account of the one user. -/
def oneAccount : Auth where
  accounts := [⟨0, asha⟩]
  nextUid := 1
  currentUser := some 0
  issued a member := by
    obtain rfl := List.mem_singleton.mp member
    exact Nat.zero_lt_one

/-- Asha's settlement stops after its Cards commit while another user signs up. -/
def signUpDuringSettlement : List Event :=
  [.signUp ⟨"Ravi", "ravi@example.com", "9123456780", "secret2"⟩,
    .payments (.paymentSuccess 0 "pay_1" "2024-03-14 10:00:00.000"), .payments (.settle 0 true),
    .resumeSignUp 0 none, .payments (.settle 0 true), .payments (.settle 0 true),
    .resumeSignUp 0 none, .payments (.settle 0 false)]

theorem sign_up_during_settlement_append_only : ∃ s s',
    run step (.init oneAccount Payments.oneCard) (Payments.pressPayNow.map .payments) = some s ∧
    run step s signUpDuringSettlement = some s' ∧
    Grows s.db s'.db ∧ Meets step LeavesOthers s signUpDuringSettlement := by
  obtain ⟨s, reached, played⟩ := run_reaches step (.init oneAccount Payments.oneCard)
    (Payments.pressPayNow.map .payments)
    (P := fun s => (run step s signUpDuringSettlement).isSome = true) (by decide +kernel)
  obtain ⟨s', played⟩ := Option.isSome_iff_exists.mp played
  exact ⟨s, s', reached, played, history_and_bills_append_only reached played⟩

end Udhar.App
