import Udhar.Attended
import Udhar.Login
import Udhar.Readers

/-! # Devices

All devices over one database. No rule of the database guards a user's documents:
a page writes under the user it was built for, the routes hand that user on, and
only `login` brings a user to a device. What has been written for a user therefore
goes back to a login with the user's password, but not to the last one on the
device: the pages that logout leaves on the stack still write. What a page awaits may
come late and then moves the navigator while any other page is on top.
-/

namespace Udhar.Devices

open Lib SignUp
open Navigation (Route UserPage)
open Readers (customAppBar navBarPage)

/-- What is behind the pages, and the navigator of each device. -/
structure State where
  app : App.State
  devices : List Navigation.State

def State.db (s : State) : Database := s.app.db

def State.auth (s : State) : Auth := s.app.auth

/-- The app has just been started on every device. -/
def State.init (auth : Auth) (db : Database) (devices : ℕ) : State :=
  ⟨.init auth db, List.replicate devices .init⟩

inductive Event where
  | login (device : ℕ) (email password : String) (failure : Option CallError)
  | navigate (device : ℕ) (e : Navigation.Event)
  | reply (device : ℕ) (e : Navigation.Event)
  | gesture (device : ℕ) (e : App.Event)
  | resume (e : App.Event)

/-- What `login` does to the navigator. -/
def navigated : Login.Outcome → Navigation.Event
  | .adminPage => .login .admin
  | .homePage user => .login (.user user)
  | .dialog _ => .loginError

/-- The navigator moves without `login`. -/
def withoutLogin : Navigation.Event → Bool
  | .login _ | .loginError => false
  | _ => true

/-- What the page starts that is opened. -/
def opened : Navigation.Event → Option App.Event
  | .follow (.user u .paymentForm) => some (.payments (.openPage u))
  | .follow (.user u .editProfile) => some (.openEditProfile u)
  | _ => none

/-- What a page offers: the side menu and the app bar are built from the profile of the
    page's user. Whether the bar is built does not depend on how it prints a number. -/
def offers (db : Database) : Route → Navigation.Event → Bool
  | .user u .navBar, .follow _ | .user u .navBar, .logout => (navBarPage (db.users u)).isSome
  | .user u _, .follow (.user _ target) =>
      !Navigation.customAppBar.contains target || (customAppBar (fun _ => "") (db.users u)).isSome
  | _, _ => true

/-- The page for a gesture, and `none` for what is not one. -/
def pageOf (s : App.State) : App.Event → Option Route
  | .payments (.payNow p) => (s.payments.pageUser p).map (.user · .paymentForm)
  | .payments (.validateCard user _ _) => some (.user user .addCards)
  | .payments (.submitRent user _) => some (.user user .addRent)
  | .signUp _ => some .signUp
  | .edit i (.type _ _) | .edit i (.changeProfilePhoto _) | .saveChanges i =>
      s.editPages[i]?.map fun edited => .user edited.user .editProfile
  | _ => none

/-- A handler goes on or the gateway reports, wherever the user is by now. -/
def resumes : App.Event → Bool
  | .payments (.openPage _) | .payments (.payNow _) | .payments (.validateCard _ _ _)
  | .payments (.submitRent _ _) => false
  | .payments _ | .resumeSignUp _ _ | .resumeSave _ _ | .edit _ (.fetchUserData _) => true
  | _ => false

/-- Take one step; `none` when the event cannot happen. A gesture counts for every
    page of its kind and user, also where a device shows another one of them, and a late
    answer may come for every page that could have asked. -/
def step (s : State) : Event → Option State
  | .login d email password failure => do
      let nav ← s.devices[d]?
      let e := navigated (Login.login s.auth email password failure)
      let nav' ← (Navigation.step nav e).or (nav.reply e)
      some { s with devices := s.devices.set d nav' }
  | .navigate d e => do
      guard (withoutLogin e)
      let nav ← s.devices[d]?
      guard (nav.stack.head?.all (offers s.db · e))
      let nav' ← Navigation.step nav e
      let app ← (opened e).elim (some s.app) (App.step s.app)
      some { app, devices := s.devices.set d nav' }
  | .reply d e => do
      guard (withoutLogin e)
      let nav ← s.devices[d]?
      let nav' ← nav.reply e
      some { s with devices := s.devices.set d nav' }
  | .gesture d e => do
      let nav ← s.devices[d]?
      let page ← pageOf s.app e
      guard (nav.stack.head? = some page)
      let app ← App.step s.app e
      some { s with app }
  | .resume e => do
      guard (resumes e)
      let app ← App.step s.app e
      some { s with app }

/-- The user whom the event logs in. -/
def loggedIn (s : State) : Event → Option Uid
  | .login _ email password failure =>
      match Login.login s.auth email password failure with
      | .homePage user => some user
      | _ => none
  | _ => none

/-- A device has a page of the user, shown or below others. -/
def State.OnStack (s : State) (u : Uid) : Prop :=
  ∃ nav ∈ s.devices, ∃ r ∈ nav.stack, r.owner = some (.user u)

/-- The user for whom a page opens or a bill's form is submitted. -/
def starts : App.Event → Option Uid
  | .payments (.openPage user) | .payments (.validateCard user _ _)
  | .payments (.submitRent user _) | .openEditProfile user => some user
  | _ => none

variable {s s' : State} {u : Uid}

/-! ## Steps -/

/-- The navigator moves by a gesture or by a late answer. -/
def Moved (nav : Navigation.State) (e : Navigation.Event) (nav' : Navigation.State) : Prop :=
  Navigation.step nav e = some nav' ∨ nav.reply e = some nav'

theorem step_login {d : ℕ} {email password : String} {failure : Option CallError}
    (stepped : step s (.login d email password failure) = some s') :
    ∃ nav nav', s.devices[d]? = some nav ∧
      Moved nav (navigated (Login.login s.auth email password failure)) nav' ∧
      s' = { s with devices := s.devices.set d nav' } := by
  obtain ⟨nav, device, rest⟩ := Option.bind_eq_some_iff.mp stepped
  obtain ⟨nav', moved, rest⟩ := Option.bind_eq_some_iff.mp rest
  refine ⟨nav, nav', device, ?_, (Option.some.inj rest).symm⟩
  exact (Option.or_eq_some_iff.mp moved).imp_right And.right

theorem step_reply {d : ℕ} {e : Navigation.Event} (stepped : step s (.reply d e) = some s') :
    ∃ nav nav', withoutLogin e = true ∧ s.devices[d]? = some nav ∧ nav.reply e = some nav' ∧
      s' = { s with devices := s.devices.set d nav' } := by
  obtain ⟨_, guarded, rest⟩ := Option.bind_eq_some_iff.mp stepped
  obtain ⟨nav, device, rest⟩ := Option.bind_eq_some_iff.mp rest
  obtain ⟨nav', moved, rest⟩ := Option.bind_eq_some_iff.mp rest
  exact ⟨nav, nav', (Option.guard_eq_some' _).mp guarded, device, moved,
    (Option.some.inj rest).symm⟩

theorem step_navigate {d : ℕ} {e : Navigation.Event}
    (stepped : step s (.navigate d e) = some s') :
    ∃ nav nav', withoutLogin e = true ∧ s.devices[d]? = some nav ∧
      nav.stack.head?.all (offers s.db · e) = true ∧
      Navigation.step nav e = some nav' ∧ s'.devices = s.devices.set d nav' ∧
      (opened e = none ∧ s'.app = s.app ∨
        ∃ a, opened e = some a ∧ App.step s.app a = some s'.app) := by
  obtain ⟨_, guarded, rest⟩ := Option.bind_eq_some_iff.mp stepped
  obtain ⟨nav, device, rest⟩ := Option.bind_eq_some_iff.mp rest
  obtain ⟨_, offered, rest⟩ := Option.bind_eq_some_iff.mp rest
  obtain ⟨nav', moved, rest⟩ := Option.bind_eq_some_iff.mp rest
  obtain ⟨app, started, rest⟩ := Option.bind_eq_some_iff.mp rest
  obtain rfl := Option.some.inj rest
  refine ⟨nav, nav', (Option.guard_eq_some' _).mp guarded, device,
    (Option.guard_eq_some' _).mp offered, moved, rfl, ?_⟩
  cases opens : opened e with
  | none =>
      rw [opens] at started
      exact .inl ⟨rfl, (Option.some.inj started).symm⟩
  | some a =>
      rw [opens] at started
      exact .inr ⟨a, rfl, started⟩

theorem step_gesture {d : ℕ} {a : App.Event} (stepped : step s (.gesture d a) = some s') :
    ∃ nav page app, s.devices[d]? = some nav ∧ pageOf s.app a = some page ∧
      nav.stack.head? = some page ∧ App.step s.app a = some app ∧ s' = { s with app } := by
  obtain ⟨nav, device, rest⟩ := Option.bind_eq_some_iff.mp stepped
  obtain ⟨page, made, rest⟩ := Option.bind_eq_some_iff.mp rest
  obtain ⟨_, guarded, rest⟩ := Option.bind_eq_some_iff.mp rest
  obtain ⟨app, taken, rest⟩ := Option.bind_eq_some_iff.mp rest
  exact ⟨nav, page, app, device, made, (Option.guard_eq_some' _).mp guarded, taken,
    (Option.some.inj rest).symm⟩

theorem step_resume {a : App.Event} (stepped : step s (.resume a) = some s') :
    ∃ app, resumes a = true ∧ App.step s.app a = some app ∧ s' = { s with app } := by
  obtain ⟨_, guarded, rest⟩ := Option.bind_eq_some_iff.mp stepped
  obtain ⟨app, taken, rest⟩ := Option.bind_eq_some_iff.mp rest
  exact ⟨app, (Option.guard_eq_some' _).mp guarded, taken, (Option.some.inj rest).symm⟩

/-- Where the owner of a route comes from that is on the stack after a move: from one below,
    from nowhere, or from a login. -/
def OwnerFrom (nav : Navigation.State) (e : Navigation.Event) (r : Route) : Prop :=
  (∃ under ∈ nav.stack, r.owner = under.owner) ∨ r.owner = none ∨
    ∃ p, e = .login p ∧ r.owner = some p

theorem ownerFrom_login {nav : Navigation.State} (p : Navigation.Principal) :
    OwnerFrom nav (.login p) p.home := by
  refine .inr (.inr ⟨p, rfl, ?_⟩)
  cases p <;> rfl

theorem OwnerFrom.of_mem {nav : Navigation.State} {e : Navigation.Event} {r : Route}
    (kept : r ∈ nav.stack) : OwnerFrom nav e r := .inl ⟨r, kept, rfl⟩

theorem OwnerFrom.of_replace {nav : Navigation.State} {e : Navigation.Event} {r new : Route}
    (from' : OwnerFrom nav e new) (member : r ∈ new :: nav.stack.tail) : OwnerFrom nav e r := by
  rcases List.mem_cons.mp member with rfl | old
  · exact from'
  · exact .of_mem (List.mem_of_mem_tail old)

theorem OwnerFrom.of_push {nav : Navigation.State} {e : Navigation.Event} {r new : Route}
    (from' : OwnerFrom nav e new) (member : r ∈ new :: nav.stack) : OwnerFrom nav e r := by
  rcases List.mem_cons.mp member with rfl | old
  · exact from'
  · exact .of_mem old

theorem owner_after_step {nav nav' : Navigation.State} {e : Navigation.Event} {r : Route}
    (move : Navigation.Move nav e nav') (member : r ∈ nav'.stack) : OwnerFrom nav e r := by
  cases move with
  | stay => exact .of_mem member
  | push _ stack link =>
      refine .of_push (.inl ⟨_, ?_, link⟩) member
      rw [stack]
      exact List.mem_cons_self
  | replace _ _ _ nobody => exact .of_replace (.inr (.inl nobody)) member
  | login p => exact .of_replace (ownerFrom_login p) member
  | logout => exact .of_replace (.inr (.inl rfl)) member
  | pop => exact .of_mem (List.mem_of_mem_tail member)

/-- An answer pushes a page of the user whose page has asked. -/
theorem owner_after_reply {nav nav' : Navigation.State} {e : Navigation.Event} {r : Route}
    (replied : nav.reply e = some nav') (member : r ∈ nav'.stack) : OwnerFrom nav e r := by
  obtain ⟨⟨page, inside, answers⟩, rfl⟩ := Navigation.reply_eq_some replied
  cases e with
  | login p => exact .of_replace (ownerFrom_login p) member
  | signedUp => exact .of_push (.inr (.inl rfl)) member
  | otpVerified | logout => exact .of_replace (.inr (.inl rfl)) member
  | resetSent => exact .of_mem (List.mem_of_mem_tail member)
  | follow target =>
      have link := Navigation.link_of_answers answers
      exact .of_push (.inl ⟨page, inside, Navigation.owner_of_link link⟩) member
  | splashOver | loginError | openSignUp | openForgotPassword | back => exact .of_mem member

theorem owner_after_move {nav nav' : Navigation.State} {e : Navigation.Event} {r : Route}
    (moved : Moved nav e nav') (member : r ∈ nav'.stack) : OwnerFrom nav e r := by
  rcases moved with stepped | replied
  · exact owner_after_step (Navigation.step_move stepped) member
  · exact owner_after_reply replied member

/-- A link hands the user of its page on. -/
theorem owner_of_follow {nav nav' : Navigation.State} {target : Route}
    (moved : Navigation.step nav (.follow target) = some nav') :
    ∃ under ∈ nav.stack, under.owner = target.owner := by
  simp only [Navigation.step] at moved
  split at moved
  · rename_i top rest stack
    split at moved
    · rename_i link
      exact ⟨top, by rw [stack]; exact List.mem_cons_self, (Navigation.owner_of_link link).symm⟩
    · cases moved
  · cases moved

/-- A navigator that moves brings a user to its device only by a login. -/
theorem onStack_set {d : ℕ} {nav nav' : Navigation.State} {e : Navigation.Event}
    (device : s.devices[d]? = some nav) (moved : Moved nav e nav')
    (devices : s'.devices = s.devices.set d nav') (here : s'.OnStack u) :
    s.OnStack u ∨ e = .login (.user u) := by
  obtain ⟨shown, member, r, inside, owner⟩ := here
  rw [devices] at member
  rcases List.mem_or_eq_of_mem_set member with old | rfl
  · exact .inl ⟨shown, old, r, inside, owner⟩
  rcases owner_after_move moved inside with
    ⟨under, below, same⟩ | nobody | ⟨p, rfl, mine⟩
  · exact .inl ⟨nav, List.mem_of_getElem? device, under, below, same ▸ owner⟩
  · rw [owner] at nobody
    cases nobody
  · rw [owner] at mine
    exact .inr (congrArg _ (Option.some.inj mine).symm)

theorem onStack_step {e : Event} (stepped : step s e = some s') (here : s'.OnStack u) :
    s.OnStack u ∨ loggedIn s e = some u := by
  cases e with
  | login d email password failure =>
      obtain ⟨nav, nav', device, moved, rfl⟩ := step_login stepped
      refine (onStack_set device moved rfl here).imp_right fun event => ?_
      cases outcome : Login.login s.auth email password failure with
      | homePage user =>
          rw [outcome] at event
          cases event
          simp only [loggedIn, outcome]
      | adminPage | dialog =>
          rw [outcome] at event
          cases event
  | navigate d e =>
      obtain ⟨nav, nav', without, device, _, moved, devices, _⟩ := step_navigate stepped
      rcases onStack_set device (.inl moved) devices here with old | rfl
      · exact .inl old
      · cases without
  | reply d e =>
      obtain ⟨nav, nav', without, device, replied, rfl⟩ := step_reply stepped
      rcases onStack_set device (.inr replied) rfl here with old | rfl
      · exact .inl old
      · cases without
  | gesture =>
      obtain ⟨_, _, _, _, _, _, _, rfl⟩ := step_gesture stepped
      exact .inl here
  | resume =>
      obtain ⟨_, _, _, rfl⟩ := step_resume stepped
      exact .inl here

/-- A step takes at most one step of the app, and what that starts for a user starts
    on a page of the user. -/
theorem step_app {e : Event} (stepped : step s e = some s') :
    s'.app = s.app ∨ ∃ a, App.step s.app a = some s'.app ∧
      ∀ u, starts a = some u → s.OnStack u := by
  cases e with
  | login =>
      obtain ⟨_, _, _, _, rfl⟩ := step_login stepped
      exact .inl rfl
  | reply =>
      obtain ⟨_, _, _, _, _, rfl⟩ := step_reply stepped
      exact .inl rfl
  | navigate d e =>
      obtain ⟨nav, nav', _, device, _, moved, _, ⟨_, same⟩ | ⟨a, opens, taken⟩⟩ :=
        step_navigate stepped
      · exact .inl same
      refine .inr ⟨a, taken, fun u start => ?_⟩
      obtain ⟨page, rfl⟩ : ∃ page, e = .follow (.user u page) := by
        unfold opened at opens
        split at opens
        · cases opens
          cases start
          exact ⟨_, rfl⟩
        · cases opens
          cases start
          exact ⟨_, rfl⟩
        · cases opens
      exact ⟨nav, List.mem_of_getElem? device, owner_of_follow moved⟩
  | gesture d a =>
      obtain ⟨nav, page, app, device, made, shown, taken, rfl⟩ := step_gesture stepped
      refine .inr ⟨a, taken, fun u start => ?_⟩
      refine ⟨nav, List.mem_of_getElem? device, page, List.mem_of_head? shown, ?_⟩
      unfold starts at start
      split at start <;> cases start <;> cases made <;> rfl
  | resume a =>
      obtain ⟨app, resumed, taken, rfl⟩ := step_resume stepped
      refine .inr ⟨a, taken, fun u start => ?_⟩
      unfold starts at start
      split at start <;> first
        | cases resumed
        | cases start

/-! ## Writes without a login -/

/-- Nothing in the app works for the user, except perhaps a registration. -/
structure Apart (s : App.State) (u : Uid) : Prop where
  pages : ∀ p, s.payments.pageUser p ≠ some u
  saves : ∀ b ∈ s.payments.saves, b.user ≠ u
  editPages : ∀ edited ∈ s.editPages, edited.user ≠ u

theorem apart_payments {s s' : Payments.State} {e : Payments.Event}
    (pages : ∀ p, s.pageUser p ≠ some u) (saves : ∀ b ∈ s.saves, b.user ≠ u)
    (stepped : Payments.step s e = some s') (other : starts (.payments e) ≠ some u) :
    (∀ p, s'.pageUser p ≠ some u) ∧ ∀ b ∈ s'.saves, b.user ≠ u := by
  constructor
  · intro p here
    rcases Payments.step_pageUser stepped p with same | ⟨_, user, rfl, page⟩
    · exact pages p (same ▸ here)
    · rw [page] at here
      exact other here
  · rintro b member rfl
    rcases Payments.step_save_origin stepped member with
      ⟨b', old, user, _⟩ | ⟨_, rfl, _⟩ | ⟨_, rfl, _⟩
    · exact saves b' old user.symm
    · exact other rfl
    · exact other rfl

theorem Apart.step {s s' : App.State} {a : App.Event} (apart : Apart s u)
    (stepped : App.step s a = some s') (other : starts a ≠ some u) : Apart s' u := by
  obtain ⟨pages, saves, editPages⟩ := apart
  cases a with
  | payments e =>
      obtain ⟨payments, taken, rfl⟩ := App.step_payments stepped
      obtain ⟨pages', saves'⟩ := apart_payments pages saves taken other
      exact ⟨pages', saves', editPages⟩
  | signUp =>
      obtain rfl := Option.some.inj stepped
      exact ⟨pages, saves, editPages⟩
  | openEditProfile user =>
      obtain rfl := Option.some.inj stepped
      exact ⟨pages, saves, forall_mem_concat editPages fun same => other (congrArg some same)⟩
  | resumeSignUp =>
      obtain ⟨_, _, _, _, _, _, rfl⟩ := App.step_resumeSignUp stepped
      exact ⟨pages, saves, editPages⟩
  | edit =>
      obtain ⟨edited, page, found, rfl⟩ := App.step_edit stepped
      exact ⟨pages, saves,
        forall_mem_set editPages (editPages edited (List.mem_of_getElem? found))⟩
  | saveChanges =>
      obtain ⟨_, _, rfl | ⟨_, rfl⟩⟩ := App.step_saveChanges stepped <;>
        exact ⟨pages, saves, editPages⟩
  | resumeSave =>
      obtain ⟨_, _, _, _, _, rfl⟩ := App.step_resumeSave stepped
      exact ⟨pages, saves, editPages⟩

/-- The only session of a user for whom nothing works is a registration. -/
theorem Apart.session {s : App.State} {a : App.Event} (apart : Apart s u)
    (other : starts a ≠ some u) (mine : App.session s a = some u) :
    (∃ form, a = .signUp form) ∨ ∃ i failure, a = .resumeSignUp i failure := by
  cases a with
  | signUp form => exact .inl ⟨form, rfl⟩
  | resumeSignUp i failure => exact .inr ⟨i, failure, rfl⟩
  | openEditProfile => exact absurd mine other
  | edit i | saveChanges i =>
      obtain ⟨edited, found, user⟩ := Option.map_eq_some_iff.mp mine
      exact absurd user (apart.editPages edited (List.mem_of_getElem? found))
  | resumeSave =>
      obtain ⟨r, _, here⟩ := Option.bind_eq_some_iff.mp mine
      obtain ⟨edited, found, user⟩ := Option.map_eq_some_iff.mp here
      exact absurd user (apart.editPages edited (List.mem_of_getElem? found))
  | payments e =>
      exfalso
      cases e with
      | openPage | validateCard | submitRent => exact other mine
      | payNow p => exact apart.pages p mine
      | paymentSuccess | paymentError | externalWallet | fetch | settle =>
          obtain ⟨_, _, here⟩ := Option.bind_eq_some_iff.mp mine
          exact apart.pages _ here
      | save =>
          obtain ⟨b, found, user⟩ := Option.map_eq_some_iff.mp mine
          exact apart.saves b (List.mem_of_getElem? found) user

/-- Where nothing works for a user, only a registration writes, and that only the
    profile. -/
theorem Apart.writes {s s' : App.State} {a : App.Event} (apart : Apart s u) (own : App.Owned s)
    (stepped : App.step s a = some s') (other : starts a ≠ some u) :
    (∀ c, s'.db.docs u c = s.db.docs u c) ∧ (s'.db.users u = s.db.users u ∨
      ∃ r ∈ s.signUps, r.stage = .set u) := by
  have unchanged : SameFor u s.db s'.db → (∀ c, s'.db.docs u c = s.db.docs u c) ∧
      (s'.db.users u = s.db.users u ∨ ∃ r ∈ s.signUps, r.stage = .set u) := fun same =>
    ⟨same.docs, .inl same.profile⟩
  by_cases mine : App.session s a = some u
  · rcases apart.session other mine with ⟨form, rfl⟩ | ⟨i, failure, rfl⟩
    · obtain rfl := Option.some.inj stepped
      exact unchanged (.refl u _)
    · obtain ⟨r, _, _, _, found, move, rfl⟩ := App.step_resumeSignUp stepped
      cases move with
      | created | failed => exact unchanged (.refl u _)
      | @stored uid stage =>
          refine ⟨fun _ => rfl, ?_⟩
          by_cases same : u = uid
          · subst same
            exact .inr ⟨r, List.mem_of_getElem? found, stage⟩
          · exact .inl (Database.users_setUser_of_ne s.db uid r.form.profileData same)
  · exact unchanged ((App.step_confined own stepped).sameFor mine)

/-- A step starts a registration, resumes one, or leaves them and the accounts alone. -/
theorem step_signUps {s s' : App.State} {a : App.Event} (stepped : App.step s a = some s') :
    s'.auth = s.auth ∧ (s'.signUps = s.signUps ∨
        ∃ form, s'.signUps = s.signUps ++ [.start form]) ∨
      ∃ i r auth' db' r', s.signUps[i]? = some r ∧ r.Move s.auth s.db auth' db' r' ∧
        s'.auth = auth' ∧ s'.signUps = s.signUps.set i r' := by
  cases a with
  | payments =>
      obtain ⟨_, _, rfl⟩ := App.step_payments stepped
      exact .inl ⟨rfl, .inl rfl⟩
  | signUp form =>
      obtain rfl := Option.some.inj stepped
      exact .inl ⟨rfl, .inr ⟨form, rfl⟩⟩
  | openEditProfile =>
      obtain rfl := Option.some.inj stepped
      exact .inl ⟨rfl, .inl rfl⟩
  | resumeSignUp i =>
      obtain ⟨r, auth', db', r', found, move, rfl⟩ := App.step_resumeSignUp stepped
      exact .inr ⟨i, r, auth', db', r', found, move, rfl, rfl⟩
  | edit =>
      obtain ⟨_, _, _, rfl⟩ := App.step_edit stepped
      exact .inl ⟨rfl, .inl rfl⟩
  | saveChanges =>
      obtain ⟨_, _, rfl | ⟨_, rfl⟩⟩ := App.step_saveChanges stepped <;>
        exact .inl ⟨rfl, .inl rfl⟩
  | resumeSave =>
      obtain ⟨_, _, _, _, _, rfl⟩ := App.step_resumeSave stepped
      exact .inl ⟨rfl, .inl rfl⟩

/-- No account is ever removed. -/
theorem account_stays {s s' : App.State} {a : App.Event} (stepped : App.step s a = some s')
    {account : Account} (member : account ∈ s.auth.accounts) : account ∈ s'.auth.accounts := by
  rcases step_signUps stepped with ⟨same, _⟩ | ⟨_, _, _, _, _, _, move, same, _⟩
  · rwa [same]
  · rw [same]
    cases move with
    | created => exact List.mem_append_left _ member
    | stored | failed => exact member

/-- A registration that has its account is in the state of a new account. -/
structure Registering (auth : Auth) (s : App.State) : Prop where
  issued : auth.nextUid ≤ s.auth.nextUid
  fresh : ∀ r ∈ s.signUps, ∀ uid, r.stage = .set uid → auth.nextUid ≤ uid

theorem Registering.step {auth : Auth} {s s' : App.State} {a : App.Event}
    (registering : Registering auth s) (stepped : App.step s a = some s') :
    Registering auth s' := by
  obtain ⟨issued, fresh⟩ := registering
  rcases step_signUps stepped with
    ⟨same, runs | ⟨form, runs⟩⟩ | ⟨_, r, auth', _, r', _, move, same, runs⟩
  · exact ⟨by rwa [same], by rwa [runs]⟩
  · refine ⟨by rwa [same], ?_⟩
    rw [runs]
    refine forall_mem_concat fresh fun uid stage => ?_
    unfold App.SignUpRun.start at stage
    split at stage <;> cases stage
  · have resumed : auth.nextUid ≤ auth'.nextUid ∧
        ∀ uid, r'.stage = .set uid → auth.nextUid ≤ uid := by
      cases move with
      | created =>
          refine ⟨Nat.le_succ_of_le issued, fun uid stage => ?_⟩
          cases stage
          exact issued
      | stored | failed => exact ⟨issued, fun uid stage => by cases stage⟩
    constructor
    · rw [same]
      exact resumed.1
    · rw [runs]
      exact forall_mem_set fresh resumed.2

/-- The run has registered the user's account. -/
def Registered (auth : Auth) (u : Uid) (s : State) : Prop :=
  auth.nextUid ≤ u ∧ ∃ a ∈ s.auth.accounts, a.uid = u

/-- Nobody has acted for the user since the start. -/
structure Untouched (auth : Auth) (db : Database) (u : Uid) (s : State) : Prop where
  offStack : ¬ s.OnStack u
  apart : Apart s.app u
  own : App.Owned s.app
  registering : Registering auth s.app
  docs : ∀ c, s.db.docs u c = db.docs u c
  profile : s.db.users u = db.users u ∨ Registered auth u s

theorem Untouched.init (auth : Auth) (db : Database) (devices : ℕ) (u : Uid) :
    Untouched auth db u (.init auth db devices) where
  offStack := by
    rintro ⟨nav, member, r, inside, owner⟩
    obtain rfl := List.eq_of_mem_replicate member
    obtain rfl := List.mem_singleton.mp inside
    cases owner
  apart := ⟨fun _ none => (nomatch none), fun _ none => (nomatch none),
    fun _ none => (nomatch none)⟩
  own := App.owned_init auth db
  registering := ⟨Nat.le_refl _, fun _ none => (nomatch none)⟩
  docs _ := rfl
  profile := .inl rfl

theorem Untouched.step {auth : Auth} {db : Database} {e : Event}
    (untouched : Untouched auth db u s) (stepped : step s e = some s')
    (other : loggedIn s e ≠ some u) : Untouched auth db u s' := by
  obtain ⟨offStack, apart, own, registering, docs, profile⟩ := untouched
  have offStack' : ¬ s'.OnStack u := fun here =>
    (onStack_step stepped here).elim offStack other
  rcases step_app stepped with same | ⟨a, taken, starting⟩
  · have profile' : s'.db.users u = db.users u ∨ Registered auth u s' := by
      simp only [State.db, State.auth, Registered, same]
      exact profile
    refine ⟨offStack', same ▸ apart, same ▸ own, same ▸ registering, ?_, profile'⟩
    rw [State.db, same]
    exact docs
  have idle : starts a ≠ some u := fun start => offStack (starting u start)
  obtain ⟨docs', written⟩ := apart.writes own taken idle
  refine ⟨offStack', apart.step taken idle, App.owned_step own taken, registering.step taken,
    fun c => (docs' c).trans (docs c), ?_⟩
  rcases written with same | ⟨r, running, stage⟩
  · rcases profile with kept | ⟨later, a, member, uid⟩
    · exact .inl (same.trans kept)
    · exact .inr ⟨later, a, account_stays taken member, uid⟩
  · obtain ⟨a, found, uid⟩ := Option.map_eq_some_iff.mp (own.signUps r running u stage)
    exact .inr ⟨registering.fresh r running u stage, a,
      account_stays taken (List.mem_of_find?_eq_some found), uid⟩

/-- The event is a login with the address and the password of the user's account. -/
def PasswordTyped (s : State) (u : Uid) : Event → Prop
  | .login _ email password _ => ∃ a ∈ s.auth.accounts, a.uid = u ∧
      emailKey a.form.email = emailKey email ∧ a.form.password = password
  | _ => False

theorem passwordTyped_of_loggedIn {e : Event} (here : loggedIn s e = some u) :
    PasswordTyped s u e := by
  cases e with
  | login d email password failure =>
      unfold loggedIn Login.login Login.signIn at here
      grind [PasswordTyped]
  | navigate | reply | gesture | resume => cases here

/-- Whatever happens on any number of devices, in any order: a user's documents change
    only after a login with the password of the user's account, but for the profile
    that the registration of the account stores. -/
theorem documents_change_after_login {auth : Auth} {db : Database} {devices : ℕ}
    {es : List Event} (played : run step (.init auth db devices) es = some s)
    (changed : ¬ SameFor u db s.db) :
    (∃ t e, Happens step (.init auth db devices) es t e ∧ PasswordTyped t u e) ∨
      (∀ c, s.db.docs u c = db.docs u c) ∧ (∀ a ∈ auth.accounts, a.uid ≠ u) ∧
        ∃ a ∈ s.auth.accounts, a.uid = u := by
  by_cases typed : ∃ t e, Happens step (.init auth db devices) es t e ∧ PasswordTyped t u e
  · exact .inl typed
  right
  have meets : Meets step (fun t e => loggedIn t e ≠ some u) (.init auth db devices) es :=
    (meets_happens step _ es).mono fun t e happens here =>
      typed ⟨t, e, happens, passwordTyped_of_loggedIn here⟩
  have untouched : Untouched auth db u s :=
    run_invariant_of_meets (fun _ _ _ other untouched stepped => untouched.step stepped other)
      played meets (.init auth db devices u)
  rcases untouched.profile with same | ⟨later, account⟩
  · exact absurd ⟨same, untouched.docs⟩ changed
  · refine ⟨untouched.docs, fun a member uid => ?_, account⟩
    exact Nat.not_le_of_lt (auth.issued a member) (uid ▸ later)

/-- Asha has an account and a profile. -/
def ashaStored : Database := Database.empty.setUser 0 SignUp.asha.profileData

/-- Asha logs in and out, goes back and adds a rent. -/
def rentAfterLogout : List Event :=
  [.navigate 0 .splashOver, .login 0 "asha@example.com" "secret1" none,
    .navigate 0 (.follow (.user 0 .navBar)), .navigate 0 .logout, .navigate 0 .back,
    .navigate 0 (.follow (.user 0 .navBar)), .navigate 0 (.follow (.user 0 .addRent)),
    .gesture 0 (.payments (.submitRent 0 ⟨"Flat", "9000", "2024-04-01"⟩)),
    .resume (.payments (.save 0 true))]

theorem rent_after_logout_follows_login : ∃ s,
    run step (.init App.oneAccount ashaStored 1) rentAfterLogout = some s ∧
    (s.db.bills 0 .rents).keys = [0] ∧
    ∃ t e, Happens step (.init App.oneAccount ashaStored 1) rentAfterLogout t e ∧
      PasswordTyped t 0 e := by
  obtain ⟨s, played, added⟩ := run_reaches step (.init App.oneAccount ashaStored 1) rentAfterLogout
    (P := fun s => (s.db.bills 0 .rents).keys = [0]) (by decide +kernel)
  have changed : ¬ SameFor 0 ashaStored s.db := by
    intro same
    rw [Database.bills, same.docs] at added
    cases added
  refine ⟨s, played, added, ?_⟩
  rcases documents_change_after_login played changed with typed | ⟨_, absent, _⟩
  · exact typed
  · exact absurd rfl (absent ⟨0, SignUp.asha⟩ (List.mem_singleton_self _))

end Udhar.Devices
