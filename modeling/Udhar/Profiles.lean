import Udhar.App
import Udhar.Forms
import Udhar.Readers

/-! # Profiles

A profile is stored in two steps: Firebase Auth creates the account with the texts
as they were when SIGN UP was pressed, and once it has answered the form is read
again for the document. Edit Profile updates the document later. Whatever is typed
meanwhile, every page that reads profiles can read all of them, and nobody's address
or phone number changes; but a profile has the address of its account only if the
field was left alone until the account existed.
-/

namespace Udhar.Profiles

open Lib SignUp Search
open EditProfile (Page)
open App (EditProfilePage ProfileSave createUser_eq_ok uidOf)
open Forms (SignUpPage Field)
open Readers (customAppBar navBarPage profilePage)

/-! ## Registrations and saves -/

/-- What `signUpWithEmailAndPassword` waits for. -/
inductive Stage where
  | createUser
  | set (uid : Uid) (data : Fields)
  | shown (dialog : Dialog)

/-- A run of `signUpWithEmailAndPassword` with the texts at the press. -/
structure Registration where
  page : ℕ
  form : SignUpForm
  stage : Stage

structure State where
  auth : Auth
  db : Database
  signUpPages : List SignUpPage
  registrations : List Registration
  editPages : List EditProfilePage
  profileSaves : List ProfileSave

/-- Nobody has registered, and no page is open. -/
def State.init : State := ⟨SignUp.State.init.auth, .empty, [], [], [], []⟩

inductive Event where
  | openSignUp
  | type (page : ℕ) (field : Field) (text : String)
  | signUp (page : ℕ)
  | resumeSignUp (index : ℕ) (failure : Option CallError)
  | openEditProfile (user : Uid)
  | edit (index : ℕ) (e : EditProfile.Event)
  | saveChanges (index : ℕ)
  | resumeSave (index : ℕ) (result : Option String)

/-- Resume a registration. The controllers of its page are read for the document when
    the account has been created. -/
def Registration.advance (auth : Auth) (db : Database) (page : SignUpPage) (r : Registration)
    (failure : Option CallError) : Option (Auth × Database × Registration) :=
  match r.stage with
  | .createUser =>
      match auth.createUser r.form failure with
      | .ok auth' => some (auth', db, { r with stage := .set auth.nextUid page.form.profileData })
      | .error e => some (auth, db, { r with stage := .shown e.dialog })
  | .set uid data =>
      match failure with
      | none => some (auth, db.setUser uid data, { r with stage := .shown successDialog })
      | some e => some (auth, db, { r with stage := .shown e.dialog })
  | .shown _ => none

/-- Take one step; `none` when the event cannot happen. -/
def step (s : State) : Event → Option State
  | .openSignUp => some { s with signUpPages := s.signUpPages ++ [{}] }
  | .type p field text => do
      let page ← s.signUpPages[p]?
      some { s with signUpPages := s.signUpPages.set p (page.type field text) }
  | .signUp p => do
      let page ← s.signUpPages[p]?
      if page.validate then
        let stage := if page.form.email = adminEmail then .shown adminDialog else .createUser
        some { s with registrations := s.registrations ++ [⟨p, page.form, stage⟩] }
      else some s
  | .resumeSignUp i failure => do
      let r ← s.registrations[i]?
      let page ← s.signUpPages[r.page]?
      let (auth', db', r') ← r.advance s.auth s.db page failure
      some { s with auth := auth', db := db', registrations := s.registrations.set i r' }
  | .openEditProfile user => some { s with editPages := s.editPages ++ [⟨user, {}⟩] }
  | .edit i e => do
      let edited ← s.editPages[i]?
      let page ← EditProfile.step (s.db.users edited.user) edited.page e
      some { s with editPages := s.editPages.set i { edited with page } }
  | .saveChanges i => do
      let edited ← s.editPages[i]?
      if edited.page.validate then
        some { s with profileSaves := s.profileSaves ++ [.start i edited.user edited.page] }
      else some s
  | .resumeSave i result => do
      let r ← s.profileSaves[i]?
      let (db', r') ← r.advance s.db result
      some { s with db := db', profileSaves := s.profileSaves.set i r' }

/-! ## Documents -/

/-- The texts that every reader of profiles needs are there, and the others are texts
    where they are there. -/
structure WellFormed (d : Fields) : Prop where
  required : ∀ key ∈ ["name", "email", "phoneNumber"], ∃ text, d key = some (.string text)
  optional : ∀ key ∈ ["dob", "Address", "profilePictureUrl"], ∃ text,
    asNullableString (d key) = some text

/-- What an update of Edit Profile leaves alone. -/
structure Keeps (d d' : Fields) : Prop where
  email : d' "email" = d "email"
  phoneNumber : d' "phoneNumber" = d "phoneNumber"

theorem wellFormed_profileData (form : SignUpForm) : WellFormed form.profileData := by
  constructor
  · simp only [List.forall_mem_cons]
    exact ⟨⟨_, rfl⟩, ⟨_, rfl⟩, ⟨_, rfl⟩, fun _ none => nomatch none⟩
  · simp only [List.forall_mem_cons]
    exact ⟨⟨none, rfl⟩, ⟨none, rfl⟩, ⟨none, rfl⟩, fun _ none => nomatch none⟩

theorem keeps_userInformation (page : Page) (uploaded : String) (d : Fields) :
    Keeps d (d.update (page.userInformation uploaded)) := ⟨rfl, rfl⟩

theorem wellFormed_userInformation (page : Page) (uploaded : String) {d : Fields}
    (wellFormed : WellFormed d) : WellFormed (d.update (page.userInformation uploaded)) := by
  have before := wellFormed.required
  simp only [List.forall_mem_cons] at before
  obtain ⟨_, email, phone, _⟩ := before
  constructor
  · simp only [List.forall_mem_cons]
    exact ⟨⟨_, rfl⟩, email, phone, fun _ none => nomatch none⟩
  · simp only [List.forall_mem_cons]
    refine ⟨⟨_, rfl⟩, ⟨_, rfl⟩, ?_, fun _ none => nomatch none⟩
    have url : d.update (page.userInformation uploaded) "profilePictureUrl" =
        some (page.imageURL uploaded) := rfl
    rw [url, Page.imageURL]
    cases page.image with
    | some => exact ⟨_, rfl⟩
    | none =>
        cases page.imageURL2 with
        | none => exact ⟨_, rfl⟩
        | some => exact ⟨_, rfl⟩

/-! ## Steps -/

/-- The update that a save waits for comes from the fields of a page. -/
def ofPage (r : ProfileSave) : Prop :=
  ∀ info, r.stage = .update info → ∃ page uploaded, info = Page.userInformation page uploaded

/-- The account whose document a registration is about to store. -/
def Registration.pendingUid (r : Registration) : Option Uid :=
  match r.stage with
  | .set uid _ => some uid
  | .createUser | .shown _ => none

/-- What a step does to the accounts and the documents. -/
inductive Effect (s : State) (e : Event) (s' : State) : Prop where
  | started (rs : List Registration) (ps : List ProfileSave)
      (other : ∀ i failure, e ≠ .resumeSignUp i failure) (auth : s'.auth = s.auth)
      (db : s'.db = s.db) (registrations : s'.registrations = s.registrations ++ rs)
      (profileSaves : s'.profileSaves = s.profileSaves ++ ps)
      (waits : ∀ r ∈ rs, r.pendingUid = none) (forms : ∀ r ∈ ps, ofPage r)
  | created {i : ℕ} {r : Registration} {page : SignUpPage} {failure : Option CallError}
      (event : e = .resumeSignUp i failure) (found : s.registrations[i]? = some r)
      (stage : r.stage = .createUser) (shown : s.signUpPages[r.page]? = some page)
      (called : s.auth.createUser r.form failure = .ok (s.auth.register r.form))
      (fresh : uidOf s.auth r.form.email = none) (auth : s'.auth = s.auth.register r.form)
      (db : s'.db = s.db) (profileSaves : s'.profileSaves = s.profileSaves)
      (registrations : s'.registrations = s.registrations.set i
        { r with stage := .set s.auth.nextUid page.form.profileData })
  | stored {i : ℕ} {r : Registration} {uid : Uid} {data : Fields} {dialog : Dialog}
      (event : e = .resumeSignUp i none) (found : s.registrations[i]? = some r)
      (stage : r.stage = .set uid data)
      (auth : s'.auth = s.auth) (db : s'.db = s.db.setUser uid data)
      (profileSaves : s'.profileSaves = s.profileSaves)
      (registrations : s'.registrations = s.registrations.set i { r with stage := .shown dialog })
  | failed {i : ℕ} {r : Registration} {failure : Option CallError} {dialog : Dialog}
      (event : e = .resumeSignUp i failure) (found : s.registrations[i]? = some r)
      (refused : r.stage = .createUser → ∀ auth, s.auth.createUser r.form failure ≠ .ok auth)
      (auth : s'.auth = s.auth) (db : s'.db = s.db)
      (profileSaves : s'.profileSaves = s.profileSaves)
      (registrations : s'.registrations = s.registrations.set i { r with stage := .shown dialog })
  | resumed {i : ℕ} (r' : ProfileSave) (other : ∀ i failure, e ≠ .resumeSignUp i failure)
      (form : ofPage r') (auth : s'.auth = s.auth) (db : s'.db = s.db)
      (registrations : s'.registrations = s.registrations)
      (profileSaves : s'.profileSaves = s.profileSaves.set i r')
  | updated {i : ℕ} {r : ProfileSave} (other : ∀ i failure, e ≠ .resumeSignUp i failure)
      (found : s.profileSaves[i]? = some r) {info : List (String × Value)} {d : Fields}
      (stage : r.stage = .update info) (present : s.db.users r.user = some d)
      (auth : s'.auth = s.auth) (db : s'.db = s.db.setUser r.user (d.update info))
      (registrations : s'.registrations = s.registrations)
      (profileSaves : s'.profileSaves = s.profileSaves.set i { r with stage := .done })

theorem ofPage_of_ended {r : ProfileSave} (ended : ∀ info, r.stage ≠ .update info) : ofPage r :=
  fun info stage => absurd stage (ended info)

theorem ofPage_start (p : ℕ) (user : Uid) (form : Page) : ofPage (.start p user form) := by
  intro info stage
  unfold ProfileSave.start at stage
  split at stage
  · cases stage
  · cases stage
    exact ⟨form, "", rfl⟩

variable {s s' : State}

theorem effect_resumeSave {i : ℕ} {result : Option String}
    (stepped : step s (.resumeSave i result) = some s') : Effect s (.resumeSave i result) s' := by
  obtain ⟨r, found, rest⟩ := Option.bind_eq_some_iff.mp stepped
  obtain ⟨⟨db', r'⟩, advanced, rest⟩ := Option.bind_eq_some_iff.mp rest
  obtain rfl := Option.some.inj rest
  unfold ProfileSave.advance at advanced
  split at advanced
  · rename_i url _
    cases advanced
    refine .resumed _ nofun ?_ rfl rfl rfl rfl
    intro info stage
    cases stage
    exact ⟨r.form, url, rfl⟩
  · rename_i info _ stage
    split at advanced
    · rename_i updated
      obtain ⟨d, present, rfl⟩ := Database.updateUser_eq_some updated
      cases advanced
      exact .updated nofun found stage present rfl rfl rfl rfl
    · cases advanced
      exact .resumed _ nofun (ofPage_of_ended (by simp)) rfl rfl rfl rfl
  all_goals first
    | cases advanced
      exact .resumed _ nofun (ofPage_of_ended (by simp)) rfl rfl rfl rfl
    | cases advanced

theorem effect_resumeSignUp {i : ℕ} {failure : Option CallError}
    (stepped : step s (.resumeSignUp i failure) = some s') :
    Effect s (.resumeSignUp i failure) s' := by
  obtain ⟨r, found, rest⟩ := Option.bind_eq_some_iff.mp stepped
  obtain ⟨page, shown, rest⟩ := Option.bind_eq_some_iff.mp rest
  obtain ⟨⟨auth', db', r'⟩, advanced, rest⟩ := Option.bind_eq_some_iff.mp rest
  obtain rfl := Option.some.inj rest
  unfold Registration.advance at advanced
  split at advanced
  · rename_i stage
    split at advanced
    · rename_i called
      obtain ⟨rfl, fresh⟩ := createUser_eq_ok called
      cases advanced
      exact .created rfl found stage shown called fresh rfl rfl rfl rfl
    · rename_i refused
      cases advanced
      refine .failed rfl found (fun _ auth called => ?_) rfl rfl rfl rfl
      rw [refused] at called
      cases called
  · rename_i uid data stage
    split at advanced
    · cases advanced
      exact .stored rfl found stage rfl rfl rfl rfl
    · cases advanced
      refine .failed rfl found (fun waits => ?_) rfl rfl rfl rfl
      rw [stage] at waits
      cases waits
  · cases advanced

theorem step_effect {e : Event} (stepped : step s e = some s') : Effect s e s' := by
  have quiet : ∀ {e : Event} {t : State}, (∀ i failure, e ≠ .resumeSignUp i failure) →
      t.auth = s.auth → t.db = s.db →
      t.registrations = s.registrations → t.profileSaves = s.profileSaves → Effect s e t :=
    fun other auth db registrations saves => .started [] [] other auth db
      (registrations.trans (List.append_nil _).symm) (saves.trans (List.append_nil _).symm)
      (fun _ none => nomatch none) (fun _ none => nomatch none)
  cases e with
  | openSignUp | openEditProfile =>
      obtain rfl := Option.some.inj stepped
      exact quiet nofun rfl rfl rfl rfl
  | type p field text =>
      obtain ⟨page, _, rest⟩ := Option.bind_eq_some_iff.mp stepped
      obtain rfl := Option.some.inj rest
      exact quiet nofun rfl rfl rfl rfl
  | signUp p =>
      obtain ⟨page, _, rest⟩ := Option.bind_eq_some_iff.mp stepped
      split at rest
      · obtain rfl := Option.some.inj rest
        refine .started _ [] nofun rfl rfl rfl (List.append_nil _).symm
          (List.forall_mem_singleton.mpr ?_) (fun _ none => nomatch none)
        by_cases admin : page.form.email = adminEmail
        · simp only [admin, if_true, Registration.pendingUid]
        · simp only [admin, if_false, Registration.pendingUid]
      · obtain rfl := Option.some.inj rest
        exact quiet nofun rfl rfl rfl rfl
  | resumeSignUp => exact effect_resumeSignUp stepped
  | edit i e =>
      obtain ⟨edited, _, rest⟩ := Option.bind_eq_some_iff.mp stepped
      obtain ⟨page, _, rest⟩ := Option.bind_eq_some_iff.mp rest
      obtain rfl := Option.some.inj rest
      exact quiet nofun rfl rfl rfl rfl
  | saveChanges i =>
      obtain ⟨edited, _, rest⟩ := Option.bind_eq_some_iff.mp stepped
      split at rest
      · obtain rfl := Option.some.inj rest
        exact .started [] _ nofun rfl rfl (List.append_nil _).symm rfl (fun _ none => nomatch none)
          (List.forall_mem_singleton.mpr (ofPage_start _ _ _))
      · obtain rfl := Option.some.inj rest
        exact quiet nofun rfl rfl rfl rfl
  | resumeSave => exact effect_resumeSave stepped

/-! ## Every profile belongs to an account and can be read -/

/-- What holds of accounts, documents and waiting handlers in every run. -/
structure Registered (s : State) : Prop where
  uids : ∀ a ∈ s.auth.accounts, ∀ b ∈ s.auth.accounts, a.uid = b.uid → a = b
  addresses : ∀ a ∈ s.auth.accounts, ∀ b ∈ s.auth.accounts,
    emailKey a.form.email = emailKey b.form.email → a = b
  profiles : ∀ u d, s.db.users u = some d → (∃ a ∈ s.auth.accounts, a.uid = u) ∧ WellFormed d
  pending : ∀ r ∈ s.registrations, ∀ uid data, r.stage = .set uid data →
    (∃ a ∈ s.auth.accounts, a.uid = uid) ∧ WellFormed data ∧ s.db.users uid = none
  once : KeysApart Registration.pendingUid s.registrations
  updates : ∀ r ∈ s.profileSaves, ofPage r

namespace Registered

theorem pendingUid_eq_some {r : Registration} {uid : Uid} (waits : r.pendingUid = some uid) :
    ∃ data, r.stage = .set uid data := by
  unfold Registration.pendingUid at waits
  split at waits
  · rename_i data stage
    obtain rfl := Option.some.inj waits
    exact ⟨data, stage⟩
  · cases waits
  · cases waits

theorem init : Registered .init where
  uids _ none := nomatch none
  addresses _ none := nomatch none
  profiles _ _ none := nomatch none
  pending _ none := nomatch none
  once := .nil
  updates _ none := nomatch none

theorem register (registered : Registered s) {i : ℕ} {r : Registration} {form : SignUpForm}
    (fresh : uidOf s.auth r.form.email = none)
    (auth : s'.auth = s.auth.register r.form) (db : s'.db = s.db)
    (profileSaves : s'.profileSaves = s.profileSaves)
    (registrations : s'.registrations = s.registrations.set i
      { r with stage := .set s.auth.nextUid form.profileData }) : Registered s' := by
  have known : ∀ uid, (∃ a ∈ s.auth.accounts, a.uid = uid) → uid ≠ s.auth.nextUid := by
    rintro uid ⟨a, member, rfl⟩
    exact Nat.ne_of_lt (s.auth.issued a member)
  have kept : ∀ uid, (∃ a ∈ s.auth.accounts, a.uid = uid) →
      ∃ a ∈ s'.auth.accounts, a.uid = uid := by
    rintro uid ⟨a, member, rfl⟩
    rw [auth]
    exact ⟨a, List.mem_append_left _ member, rfl⟩
  have new : ∃ a ∈ s'.auth.accounts, a.uid = s.auth.nextUid := by
    rw [auth]
    exact ⟨_, List.mem_append_right _ (List.mem_singleton_self _), rfl⟩
  refine ⟨?_, ?_, ?_, ?_, ?_, ?_⟩
  · rw [auth]
    exact injective_concat registered.uids fun a member => known a.uid ⟨a, member, rfl⟩
  · rw [auth]
    apply injective_concat registered.addresses
    simpa [uidOf] using fresh
  · rw [db]
    intro u d present
    obtain ⟨account, wellFormed⟩ := registered.profiles u d present
    exact ⟨kept u account, wellFormed⟩
  · rw [db, registrations]
    apply forall_mem_set
    · intro q member uid data stage
      obtain ⟨account, wellFormed, absent⟩ := registered.pending q member uid data stage
      exact ⟨kept uid account, wellFormed, absent⟩
    · intro uid data stage
      cases stage
      refine ⟨new, wellFormed_profileData form, Option.eq_none_iff_forall_ne_some.mpr ?_⟩
      intro d present
      exact known _ (registered.profiles _ d present).1 rfl
  · rw [registrations]
    apply registered.once.set
    intro uid here j q at' there
    obtain rfl := Option.some.inj here
    obtain ⟨data, stage⟩ := pendingUid_eq_some there
    have account := (registered.pending q (List.mem_of_getElem? at') _ data stage).1
    exact absurd rfl (known _ account)
  · rw [profileSaves]
    exact registered.updates

theorem start (registered : Registered s) {rs : List Registration} {ps : List ProfileSave}
    (auth : s'.auth = s.auth) (db : s'.db = s.db)
    (registrations : s'.registrations = s.registrations ++ rs)
    (profileSaves : s'.profileSaves = s.profileSaves ++ ps)
    (waits : ∀ r ∈ rs, r.pendingUid = none) (forms : ∀ r ∈ ps, ofPage r) : Registered s' := by
  refine ⟨?_, ?_, ?_, ?_, ?_, ?_⟩
  · rw [auth]
    exact registered.uids
  · rw [auth]
    exact registered.addresses
  · rw [auth, db]
    exact registered.profiles
  · rw [auth, db, registrations]
    refine List.forall_mem_append.mpr ⟨registered.pending, fun r member uid data stage => ?_⟩
    have none := waits r member
    simp only [Registration.pendingUid, stage, reduceCtorEq] at none
  · rw [registrations]
    exact registered.once.append waits
  · rw [profileSaves]
    exact List.forall_mem_append.mpr ⟨registered.updates, forms⟩

theorem fail (registered : Registered s) {i : ℕ} {r : Registration} {dialog : Dialog}
    (auth : s'.auth = s.auth) (db : s'.db = s.db) (profileSaves : s'.profileSaves = s.profileSaves)
    (registrations : s'.registrations = s.registrations.set i { r with stage := .shown dialog }) :
    Registered s' := by
  refine ⟨?_, ?_, ?_, ?_, ?_, ?_⟩
  · rw [auth]
    exact registered.uids
  · rw [auth]
    exact registered.addresses
  · rw [auth, db]
    exact registered.profiles
  · rw [auth, db, registrations]
    exact forall_mem_set registered.pending fun _ _ ended => nomatch ended
  · rw [registrations]
    exact registered.once.set fun _ ended => nomatch ended
  · rw [profileSaves]
    exact registered.updates

/-- No other registration stores the document of the same account. -/
theorem store (registered : Registered s) {i : ℕ} {r : Registration} {uid : Uid} {data : Fields}
    {dialog : Dialog} (found : s.registrations[i]? = some r) (stage : r.stage = .set uid data)
    (auth : s'.auth = s.auth) (db : s'.db = s.db.setUser uid data)
    (profileSaves : s'.profileSaves = s.profileSaves)
    (registrations : s'.registrations = s.registrations.set i { r with stage := .shown dialog }) :
    Registered s' := by
  have waits : r.pendingUid = some uid := by simp only [Registration.pendingUid, stage]
  obtain ⟨account, wellFormed, _⟩ :=
    registered.pending r (List.mem_of_getElem? found) uid data stage
  refine ⟨?_, ?_, ?_, ?_, ?_, ?_⟩
  · rw [auth]
    exact registered.uids
  · rw [auth]
    exact registered.addresses
  · rw [auth, db]
    intro u d present
    by_cases same : u = uid
    · subst same
      rw [Database.users_setUser_self] at present
      obtain rfl := Option.some.inj present
      exact ⟨account, wellFormed⟩
    · rw [Database.users_setUser_of_ne _ _ _ same] at present
      exact registered.profiles u d present
  · rw [auth, db, registrations]
    intro q member uid' data' stage'
    obtain ⟨j, inside⟩ := List.mem_iff_getElem?.mp member
    rw [List.getElem?_set] at inside
    split at inside
    · split at inside
      · obtain rfl := Option.some.inj inside
        cases stage'
      · cases inside
    · rename_i apart
      obtain ⟨account', wellFormed', absent⟩ :=
        registered.pending q (List.mem_of_getElem? inside) uid' data' stage'
      refine ⟨account', wellFormed', ?_⟩
      rw [Database.users_setUser_of_ne _ _ _ ?_]
      · exact absent
      · rintro rfl
        have also : q.pendingUid = some uid' := by simp only [Registration.pendingUid, stage']
        exact apart (registered.once i j r q uid' found inside waits also)
  · rw [registrations]
    exact registered.once.set fun _ ended => nomatch ended
  · rw [profileSaves]
    exact registered.updates

theorem resume (registered : Registered s) {i : ℕ} {r : ProfileSave} (form : ofPage r)
    (auth : s'.auth = s.auth) (db : s'.db = s.db)
    (registrations : s'.registrations = s.registrations)
    (profileSaves : s'.profileSaves = s.profileSaves.set i r) : Registered s' := by
  refine ⟨?_, ?_, ?_, ?_, ?_, ?_⟩
  · rw [auth]
    exact registered.uids
  · rw [auth]
    exact registered.addresses
  · rw [auth, db]
    exact registered.profiles
  · rw [auth, db, registrations]
    exact registered.pending
  · rw [registrations]
    exact registered.once
  · rw [profileSaves]
    exact forall_mem_set registered.updates form

/-- An update finds a stored document, so no registration is about to store it. -/
theorem update (registered : Registered s) {i : ℕ} {r : ProfileSave}
    (found : s.profileSaves[i]? = some r) {info : List (String × Value)} {d : Fields}
    (stage : r.stage = .update info) (present : s.db.users r.user = some d)
    (auth : s'.auth = s.auth) (db : s'.db = s.db.setUser r.user (d.update info))
    (registrations : s'.registrations = s.registrations)
    (profileSaves : s'.profileSaves = s.profileSaves.set i { r with stage := .done }) :
    Registered s' := by
  obtain ⟨page, uploaded, rfl⟩ := registered.updates r (List.mem_of_getElem? found) info stage
  obtain ⟨account, wellFormed⟩ := registered.profiles r.user d present
  refine ⟨?_, ?_, ?_, ?_, ?_, ?_⟩
  · rw [auth]
    exact registered.uids
  · rw [auth]
    exact registered.addresses
  · rw [auth, db]
    intro u d' stored
    by_cases same : u = r.user
    · subst same
      rw [Database.users_setUser_self] at stored
      obtain rfl := Option.some.inj stored
      exact ⟨account, wellFormed_userInformation page uploaded wellFormed⟩
    · rw [Database.users_setUser_of_ne _ _ _ same] at stored
      exact registered.profiles u d' stored
  · rw [auth, db, registrations]
    intro q member uid data stage'
    obtain ⟨account', wellFormed', absent⟩ := registered.pending q member uid data stage'
    refine ⟨account', wellFormed', ?_⟩
    rw [Database.users_setUser_of_ne _ _ _ ?_]
    · exact absent
    · rintro rfl
      rw [present] at absent
      cases absent
  · rw [registrations]
    exact registered.once
  · rw [profileSaves]
    exact forall_mem_set registered.updates (ofPage_of_ended (by simp))

theorem preserved {e : Event} (registered : Registered s) (stepped : step s e = some s') :
    Registered s' := by
  cases step_effect stepped with
  | started rs ps _ auth db registrations profileSaves waits forms =>
      exact registered.start auth db registrations profileSaves waits forms
  | created _ _ _ _ _ fresh auth db profileSaves registrations =>
      exact registered.register fresh auth db profileSaves registrations
  | stored _ found stage auth db profileSaves registrations =>
      exact registered.store found stage auth db profileSaves registrations
  | failed _ _ _ auth db profileSaves registrations =>
      exact registered.fail auth db profileSaves registrations
  | resumed r' _ form auth db registrations profileSaves =>
      exact registered.resume form auth db registrations profileSaves
  | updated _ found stage present auth db registrations profileSaves =>
      exact registered.update found stage present auth db registrations profileSaves

end Registered

/-! ## Readers -/

/-- Every page that reads profiles can read all of them, and every profile is the one
    of an account. -/
structure Readable (s : State) : Prop where
  listed : ∀ documents : List (Uid × Fields),
    (∀ document ∈ documents, s.db.users document.1 = some document.2) →
      (viewUserPage.records documents).2 = true
  bars : ∀ numberToString u,
    (customAppBar numberToString (s.db.users u)).isSome = (s.db.users u).isSome ∧
      (navBarPage (s.db.users u)).isSome = (s.db.users u).isSome
  shown : ∀ toUpperCase numberToString u,
    (profilePage toUpperCase numberToString (s.db.users u)).isSome = (s.db.users u).isSome
  loaded : ∀ u (page : Page), page.load = .reading → ∃ page',
    EditProfile.step (s.db.users u) page (.fetchUserData true) = some page' ∧ page'.load = .done
  named : ∀ u, (Payments.storedName (s.db.users u)).isSome = (s.db.users u).isSome
  accounts : ∀ u d, s.db.users u = some d → ∃ a ∈ s.auth.accounts, a.uid = u
  addresses : ∀ a ∈ s.auth.accounts, ∀ b ∈ s.auth.accounts,
    emailKey a.form.email = emailKey b.form.email → a = b

theorem assigned_isSome {v : Option Value} {text : Option String}
    (nullable : asNullableString v = some text) : ∃ t, EditProfile.assigned v = some t := by
  unfold asNullableString at nullable
  split at nullable
  · exact ⟨_, rfl⟩
  · exact ⟨_, rfl⟩
  · exact ⟨_, rfl⟩
  · cases nullable
  · cases nullable

/-- A load that can assign every field ends. -/
theorem assign_done {d : Fields} {fields : List EditProfile.Field}
    (texts : ∀ field ∈ fields, ∃ t, EditProfile.assigned (d field.key) = some t)
    (url : ∃ t, EditProfile.assigned (d "profilePictureUrl") = some t) (page : Page) :
    (page.assign d fields).load = .done := by
  induction fields generalizing page with
  | nil =>
      obtain ⟨t, assigned⟩ := url
      simp only [Page.assign, assigned]
  | cons field fields ih =>
      obtain ⟨⟨t, assigned⟩, rest⟩ := List.forall_mem_cons.mp texts
      simp only [Page.assign, assigned]
      exact ih rest (page.fill field t)

namespace WellFormed

variable {d : Fields} (wellFormed : WellFormed d)

include wellFormed

theorem record (uid : Uid) : ∃ user, viewUserPage.record (uid, d) = some user ∧ user.uid = uid ∧
    d "email" = some (.string user.email) ∧ d "phoneNumber" = some (.string user.phone) := by
  have texts := wellFormed.required
  have urls := wellFormed.optional
  simp only [List.forall_mem_cons] at texts urls
  obtain ⟨⟨name, hasName⟩, ⟨email, hasEmail⟩, ⟨phone, hasPhone⟩, _⟩ := texts
  obtain ⟨_, _, ⟨image, hasImage⟩, _⟩ := urls
  refine ⟨⟨uid, name, email, phone, image⟩, ?_, rfl, hasEmail, hasPhone⟩
  simp only [viewUserPage, hasName, hasEmail, hasPhone, hasImage, asString, Option.bind_eq_bind,
    Option.bind_some]

theorem bars (numberToString : ℚ → String) :
    (customAppBar numberToString (some d)).isSome = true ∧ (navBarPage (some d)).isSome = true := by
  obtain ⟨name, hasName⟩ := wellFormed.required "name" (by simp)
  obtain ⟨image, hasImage⟩ := wellFormed.optional "profilePictureUrl" (by simp)
  have nullable : asNullableString (some (.string name)) = some (some name) := rfl
  simp only [customAppBar, navBarPage, Readers.textOr, hasName, hasImage, nullable,
    Option.bind_eq_bind, Option.bind_some, Option.map_some, Option.isSome_some, and_self]

theorem profile (toUpperCase : String → String) (numberToString : ℚ → String) :
    (profilePage toUpperCase numberToString (some d)).isSome = true := by
  have texts := wellFormed.required
  have others := wellFormed.optional
  simp only [List.forall_mem_cons] at texts others
  obtain ⟨_, ⟨email, hasEmail⟩, ⟨phone, hasPhone⟩, _⟩ := texts
  obtain ⟨⟨dob, hasDob⟩, ⟨address, hasAddress⟩, ⟨image, hasImage⟩, _⟩ := others
  have nullable : ∀ t : String, asNullableString (some (.string t)) = some (some t) := fun _ => rfl
  simp only [profilePage, Readers.textOr, hasEmail, hasPhone, hasDob, hasAddress, hasImage,
    nullable, Option.bind_eq_bind, Option.bind_some, Option.map_some, Option.isSome_some]

theorem load (page : Page) : (page.fetched (some d)).load = .done := by
  have texts := wellFormed.required
  have others := wellFormed.optional
  simp only [List.forall_mem_cons] at texts others
  obtain ⟨⟨name, hasName⟩, _⟩ := texts
  obtain ⟨⟨_, hasDob⟩, ⟨_, hasAddress⟩, ⟨_, hasImage⟩, _⟩ := others
  apply assign_done
  · simp only [List.forall_mem_cons, EditProfile.Field.key]
    exact ⟨⟨name, by rw [hasName]; rfl⟩, assigned_isSome hasDob, assigned_isSome hasAddress,
      fun _ none => nomatch none⟩
  · exact assigned_isSome hasImage

end WellFormed

theorem Registered.readable (registered : Registered s) : Readable s where
  listed documents stored := by
    induction documents with
    | nil => rfl
    | cons document documents ih =>
        obtain ⟨here, rest⟩ := List.forall_mem_cons.mp stored
        obtain ⟨user, read, _⟩ := (registered.profiles _ _ here).2.record document.1
        rw [Kind.records, mapUntil, read]
        exact ih rest
  bars numberToString u := by
    cases present : s.db.users u with
    | none => exact ⟨rfl, rfl⟩
    | some d => exact (registered.profiles u d present).2.bars numberToString
  shown toUpperCase numberToString u := by
    cases present : s.db.users u with
    | none => rfl
    | some d => exact (registered.profiles u d present).2.profile toUpperCase numberToString
  loaded u page reading := by
    refine ⟨page.fetched (s.db.users u), ?_, ?_⟩
    · simp only [EditProfile.step, reading, if_true]
    · cases present : s.db.users u with
      | none => rfl
      | some d => exact (registered.profiles u d present).2.load page
  named u := by
    cases present : s.db.users u with
    | none => rfl
    | some d =>
        obtain ⟨name, text⟩ :=
          (registered.profiles u d present).2.required "name" List.mem_cons_self
        simp only [Payments.storedName, Option.bind_some, text, Option.isSome_some]
  accounts u d present := (registered.profiles u d present).1
  addresses := registered.addresses

/-- In every run, whatever is typed and whichever operations fail: the admin's list of
    users, the profile page, Edit Profile and the payment page can read every profile
    that is stored, and no two of these belong to one address. -/
theorem profiles_readable {es : List Event} (played : run step .init es = some s) : Readable s :=
  (run_invariant (fun _ _ _ => Registered.preserved) played .init).readable

/-! ## What stays -/

/-- Profiles stay, with the address and the phone number they were stored with. -/
def Stay (db db' : Database) : Prop :=
  ∀ u d, db.users u = some d → ∃ d', db'.users u = some d' ∧ Keeps d d'

instance : Std.Refl Stay where
  refl _ _ d present := ⟨d, present, rfl, rfl⟩

instance : IsTrans Database Stay where
  trans _ _ _ first second u d present := by
    obtain ⟨d', present', kept⟩ := first u d present
    obtain ⟨d'', present'', kept'⟩ := second u d' present'
    exact ⟨d'', present'', kept'.email.trans kept.email,
      kept'.phoneNumber.trans kept.phoneNumber⟩

theorem stay_step {e : Event} (registered : Registered s) (stepped : step s e = some s') :
    Stay s.db s'.db := by
  cases step_effect stepped with
  | stored _ found stage _ db =>
      intro u d present
      have absent := (registered.pending _ (List.mem_of_getElem? found) _ _ stage).2.2
      refine ⟨d, ?_, rfl, rfl⟩
      rw [db, Database.users_setUser_of_ne]
      · exact present
      · rintro rfl
        rw [absent] at present
        cases present
  | @updated _ r _ found info d stage present _ db =>
      obtain ⟨page, uploaded, rfl⟩ := registered.updates r (List.mem_of_getElem? found) info stage
      intro u d' stored
      rw [db]
      by_cases same : u = r.user
      · subst same
        obtain rfl := Option.some.inj (present.symm.trans stored)
        exact ⟨_, Database.users_setUser_self _ _ _, keeps_userInformation page uploaded _⟩
      · exact ⟨d', (Database.users_setUser_of_ne _ _ _ same).trans stored, rfl, rfl⟩
  | started _ _ _ _ db | created _ _ _ _ _ _ _ db | failed _ _ _ _ db | resumed _ _ _ _ db =>
      rw [db]
      exact refl_of Stay _

/-- From every state that can be reached, whatever happens next: no profile disappears,
    and none gets another address or phone number. -/
theorem address_and_phone_number_stay {before es : List Event}
    (reached : run step .init before = some s) (played : run step s es = some s') :
    Stay s.db s'.db :=
  run_relates State.db (fun _ _ _ => Registered.preserved) (fun _ _ _ => stay_step) played
    (run_invariant (fun _ _ _ => Registered.preserved) reached .init)

/-! ## The address of the account -/

/-- Every profile, stored or about to be stored, has the address of its account. -/
structure AddressesAgree (s : State) : Prop where
  stored : ∀ a ∈ s.auth.accounts, ∀ d, s.db.users a.uid = some d →
    d "email" = some (.string a.form.email)
  pending : ∀ r ∈ s.registrations, ∀ data, ∀ a ∈ s.auth.accounts, r.stage = .set a.uid data →
    data "email" = some (.string a.form.email)

/-- When an account is created, its form still has the address that was sent. -/
def readsSameAddress (s : State) : Event → Bool
  | .resumeSignUp i failure =>
      s.registrations[i]?.all fun r => s.signUpPages[r.page]?.all fun page =>
        match r.stage, s.auth.createUser r.form failure with
        | .createUser, .ok _ => page.form.email = r.form.email
        | _, _ => true
  | _ => true

theorem readsSameAddress_of_other {e : Event} (other : ∀ i failure, e ≠ .resumeSignUp i failure) :
    readsSameAddress s e = true := by
  cases e with
  | resumeSignUp i failure => exact absurd rfl (other i failure)
  | _ => rfl

theorem AddressesAgree.created_iff (registered : Registered s) (agree : AddressesAgree s) {i : ℕ}
    {r : Registration} {form : SignUpForm} (found : s.registrations[i]? = some r)
    (auth : s'.auth = s.auth.register r.form) (db : s'.db = s.db)
    (registrations : s'.registrations = s.registrations.set i
      { r with stage := .set s.auth.nextUid form.profileData }) :
    AddressesAgree s' ↔ form.email = r.form.email := by
  have known : ∀ uid, (∃ a ∈ s.auth.accounts, a.uid = uid) → uid ≠ s.auth.nextUid := by
    rintro uid ⟨a, member, rfl⟩
    exact Nat.ne_of_lt (s.auth.issued a member)
  have sent : form.profileData "email" = some (.string form.email) := rfl
  constructor
  · intro agree'
    have waits : { r with stage := .set s.auth.nextUid form.profileData } ∈ s'.registrations := by
      rw [registrations]
      exact List.mem_set (List.getElem?_eq_some_iff.mp found).1 _
    have account : (⟨s.auth.nextUid, r.form⟩ : Account) ∈ s'.auth.accounts := by
      rw [auth]
      exact List.mem_append_right _ (List.mem_singleton_self _)
    have same := agree'.pending _ waits _ _ account rfl
    rw [sent] at same
    exact Value.string.inj (Option.some.inj same)
  · intro same
    constructor
    · rw [auth, db]
      apply forall_mem_concat agree.stored
      intro d present
      exact absurd rfl (known _ (registered.profiles _ d present).1)
    · rw [auth, registrations]
      apply forall_mem_set
      · intro q member data
        apply forall_mem_concat (agree.pending q member data)
        intro stage
        exact absurd rfl (known _ (registered.pending q member _ data stage).1)
      · intro data
        apply forall_mem_concat
        · intro a member stage
          obtain ⟨same, _⟩ := Stage.set.inj stage
          exact absurd same.symm (known _ ⟨a, member, rfl⟩)
        · intro stage
          cases stage
          rw [sent, same]

/-- A step keeps the addresses together exactly if it creates no account whose form has
    another address by then. -/
theorem AddressesAgree.step_iff {e : Event} (registered : Registered s) (agree : AddressesAgree s)
    (stepped : step s e = some s') : AddressesAgree s' ↔ readsSameAddress s e = true := by
  cases step_effect stepped with
  | started rs ps other auth db registrations _ waits =>
      refine iff_of_true ⟨?_, ?_⟩ (readsSameAddress_of_other other)
      · rw [auth, db]
        exact agree.stored
      · rw [auth, registrations]
        refine List.forall_mem_append.mpr ⟨agree.pending, fun r member data a _ stage => ?_⟩
        have none := waits r member
        simp only [Registration.pendingUid, stage, reduceCtorEq] at none
  | created event found stage shown called _ auth db _ registrations =>
      rw [agree.created_iff registered found auth db registrations, event]
      simp only [readsSameAddress, found, shown, stage, called, Option.all_some, decide_eq_true_eq]
  | @stored i r uid data dialog event found stage auth db _ registrations =>
      refine iff_of_true ⟨?_, ?_⟩ ?_
      · rw [auth, db]
        intro a member d present
        by_cases same : a.uid = uid
        · subst same
          rw [Database.users_setUser_self] at present
          obtain rfl := Option.some.inj present
          exact agree.pending r (List.mem_of_getElem? found) data a member stage
        · rw [Database.users_setUser_of_ne _ _ _ same] at present
          exact agree.stored a member d present
      · rw [auth, registrations]
        exact forall_mem_set agree.pending fun _ _ _ ended => nomatch ended
      · simp [event, readsSameAddress, found, stage]
  | @failed i r failure dialog event found refused auth db _ registrations =>
      refine iff_of_true ⟨?_, ?_⟩ ?_
      · rw [auth, db]
        exact agree.stored
      · rw [auth, registrations]
        exact forall_mem_set agree.pending fun _ _ _ ended => nomatch ended
      · rw [event]
        simp only [readsSameAddress, found, Option.all_some]
        split
        · rename_i auth' stage called
          exact absurd called (refused stage auth')
        · simp
  | resumed _ other _ auth db registrations =>
      refine iff_of_true ⟨?_, ?_⟩ (readsSameAddress_of_other other)
      · rw [auth, db]
        exact agree.stored
      · rw [auth, registrations]
        exact agree.pending
  | @updated i r other found info d stage present auth db registrations =>
      obtain ⟨page, uploaded, rfl⟩ := registered.updates r (List.mem_of_getElem? found) info stage
      refine iff_of_true ⟨?_, ?_⟩ (readsSameAddress_of_other other)
      · rw [auth, db]
        intro a member d' stored
        by_cases same : a.uid = r.user
        · rw [same, Database.users_setUser_self] at stored
          obtain rfl := Option.some.inj stored
          rw [(keeps_userInformation page uploaded d).email]
          exact agree.stored a member d (same ▸ present)
        · rw [Database.users_setUser_of_ne _ _ _ same] at stored
          exact agree.stored a member d' stored
      · rw [auth, registrations]
        exact agree.pending

/-- In every run, all profiles have the addresses of their accounts all the way exactly
    if, whenever Firebase Auth has created an account, the address in its form is the
    one that SIGN UP has sent. -/
theorem profiles_have_account_address_iff {es : List Event}
    (played : run step .init es = some s) : Always step AddressesAgree .init es ↔
      Meets step (fun s e => readsSameAddress s e) .init es :=
  always_iff_meets (E := fun _ => True) (fun _ _ _ _ registered _ stepped =>
    registered.preserved stepped) (fun _ _ _ _ registered agree stepped =>
      agree.step_iff registered stepped) played (fun _ _ => trivial) .init
    ⟨fun _ none => (nomatch none), fun _ none => (nomatch none)⟩

/-! ## Two registrations -/

/-- Asha registers and edits her profile. -/
def ashaRegisters : List Event :=
  [.openSignUp, .type 0 .name "Asha", .type 0 .email "asha@example.com",
    .type 0 .phoneNumber "9876543210", .type 0 .password "secret1", .signUp 0,
    .resumeSignUp 0 none, .resumeSignUp 0 none, .openEditProfile 0, .edit 0 (.fetchUserData true),
    .edit 0 (.type .dob "1 Jan"), .edit 0 (.type .address "12 MG Road"), .saveChanges 0]

theorem asha_can_be_read : ∃ s, run step .init ashaRegisters = some s ∧
    (s.db.users 0).isSome = true ∧ Readable s := by
  obtain ⟨s, played, present⟩ := run_reaches step .init ashaRegisters
    (P := fun s => (s.db.users 0).isSome = true) (by decide +kernel)
  exact ⟨s, played, present, profiles_readable played⟩

theorem asha_keeps_address_and_phone_number : ∃ s s', run step .init ashaRegisters = some s ∧
    run step s [.resumeSave 0 (some "")] = some s' ∧ Stay s.db s'.db := by
  obtain ⟨s, reached, more⟩ := run_reaches step .init ashaRegisters
    (P := fun s => (run step s [.resumeSave 0 (some "")]).isSome = true) (by decide +kernel)
  obtain ⟨s', played⟩ := Option.isSome_iff_exists.mp more
  exact ⟨s, s', reached, played, address_and_phone_number_stay reached played⟩

/-- The address is corrected while Firebase creates the account: the profile has an
    address under which nobody can log in. -/
theorem address_edited_meanwhile_is_stored : ∃ s, run step .init (ashaRegisters.take 6 ++
      [.type 0 .email "asha@example.org", .resumeSignUp 0 none, .resumeSignUp 0 none]) = some s ∧
    ¬ Always step AddressesAgree .init (ashaRegisters.take 6 ++
      [.type 0 .email "asha@example.org", .resumeSignUp 0 none, .resumeSignUp 0 none]) := by
  obtain ⟨s, played, _⟩ := run_reaches step .init (ashaRegisters.take 6 ++
    [.type 0 .email "asha@example.org", .resumeSignUp 0 none, .resumeSignUp 0 none])
    (P := fun _ => True) (by decide +kernel)
  refine ⟨s, played, fun always => ?_⟩
  have reads := (profiles_have_account_address_iff played).mp always
  exact absurd reads (by decide +kernel)

end Udhar.Profiles
