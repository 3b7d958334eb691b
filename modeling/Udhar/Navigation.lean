import Udhar.Firestore
import Udhar.Lib.Run

/-! # The navigation stack

The pages push one another without end, login and logout replace the top route,
and back pops it. A page shows its owner's data, so it should be on top only
while its owner is logged in. Logout replaces nothing but the side menu: the
pages below it stay on the stack, and only popping down to them can show a page
whose owner is not logged in. A gesture is one step: what it awaits is over
before the next gesture; `Attended` has the answers that come late.
-/

namespace Udhar.Navigation

open Lib

/-- The pages built for a user. -/
inductive UserPage where
  | home
  | navBar
  | displayCards
  | viewRent
  | paymentForm
  | transactions
  | addCards
  | addRent
  | profile
  | editProfile
  | settings
  | notification
  deriving DecidableEq

/-- The pages of the admin. -/
inductive AdminPage where
  | adminPage
  | adminNav
  | viewUsers
  | viewData
  | payments
  | notifications
  deriving DecidableEq

inductive Route where
  | splash
  | login
  | signUp
  | otpVerification
  | forgotPassword
  | user (u : Uid) (page : UserPage)
  | admin (page : AdminPage)
  deriving DecidableEq

inductive Principal where
  | user (u : Uid)
  | admin
  deriving DecidableEq

inductive AuthEvent where
  | login (p : Principal)
  | logout
  deriving DecidableEq

/-- Whose page a route shows. -/
def Route.owner : Route → Option Principal
  | .user u _ => some (.user u)
  | .admin _ => some .admin
  | _ => none

/-- The page that `login` opens for a principal. -/
def Principal.home : Principal → Route
  | .user u => .user u .home
  | .admin => .admin .adminPage

/-! ## Links -/

/-- What the icons of `CustomAppBar` push. -/
def customAppBar : List UserPage := [.navBar, .home, .notification]

/-- What the icons of `AdminAppBar` push. -/
def adminAppBar : List AdminPage := [.adminNav, .adminPage, .notifications]

/-- What a user's page pushes. -/
def UserPage.links : UserPage → List UserPage
  | .home => customAppBar ++ [.paymentForm, .displayCards, .viewRent, .transactions]
  | .navBar => [.home, .displayCards, .viewRent, .paymentForm, .transactions, .addCards, .addRent,
      .profile, .settings, .notification]
  | .viewRent => customAppBar ++ [.addRent]
  | .addCards => customAppBar ++ [.displayCards]
  | .addRent => customAppBar ++ [.viewRent]
  | .profile => customAppBar ++ [.editProfile]
  | .editProfile => customAppBar ++ [.profile]
  | .displayCards | .paymentForm | .transactions | .settings | .notification => customAppBar

/-- What an admin page pushes. -/
def AdminPage.links : AdminPage → List AdminPage
  | .adminPage => adminAppBar ++ [.viewUsers, .payments, .notifications]
  | .adminNav => [.adminPage, .viewUsers, .payments, .notifications]
  | .viewUsers => adminAppBar ++ [.viewData]
  | .viewData => []
  | .payments | .notifications => adminAppBar

/-- The routes a page pushes when one of its links is tapped; a user's pages hand
    their own user on. -/
def Route.links : Route → List Route
  | .user u page => page.links.map (.user u)
  | .admin page => page.links.map .admin
  | .signUp | .otpVerification => [.login]
  | .splash | .login | .forgotPassword => []

/-! ## The stack machine -/

/-- The navigator's stack, top first, and the last login or logout. Nothing reads
    `session`: it counts the routes on top that were opened since the last
    logout, or the one that a pop below these has uncovered. -/
structure State where
  stack : List Route
  lastAuth : Option AuthEvent
  session : ℕ

/-- The splash screen of a fresh start. -/
def State.init : State := ⟨[.splash], none, 1⟩

inductive Event where
  | splashOver
  | login (p : Principal)
  | loginError
  | openSignUp
  | openForgotPassword
  | signedUp
  | otpVerified
  | resetSent
  | follow (target : Route)
  | logout
  | back

/-- `Navigator.push`. -/
def State.push (s : State) (r : Route) : State :=
  { s with stack := r :: s.stack, session := s.session + 1 }

/-- `Navigator.pushReplacement`. -/
def State.pushReplacement (s : State) (r : Route) : State := { s with stack := r :: s.stack.tail }

/-- `Navigator.pop`. -/
def State.pop (s : State) : State :=
  { s with stack := s.stack.tail, session := max 1 (s.session - 1) }

/-- The top route is the one the event is a gesture on. -/
def State.on (s : State) (r : Route) (next : State) : Option State :=
  if s.stack.head? = some r then some next else none

def step (s : State) : Event → Option State
  | .splashOver => s.on .splash (s.pushReplacement .login)
  | .login p => s.on .login { s.pushReplacement p.home with lastAuth := some (.login p) }
  | .loginError => s.on .login s
  | .openSignUp => s.on .login (s.pushReplacement .signUp)
  | .openForgotPassword => s.on .login (s.pushReplacement .forgotPassword)
  | .signedUp => s.on .signUp (s.push .otpVerification)
  | .otpVerified => s.on .otpVerification (s.pushReplacement .login)
  | .resetSent => s.on .forgotPassword s.pop
  | .follow target =>
      match s.stack with
      | top :: _ => if target ∈ top.links then some (s.push target) else none
      | [] => none
  | .logout =>
      match s.stack with
      | .user _ .navBar :: _ | .admin .adminNav :: _ =>
          some { s.pushReplacement .login with lastAuth := some .logout, session := 1 }
      | _ => none
  | .back =>
      match s.stack with
      | _ :: _ :: _ => some s.pop
      | _ => some s

/-- The route shows nobody's page, or that of the principal who logged in last. -/
def State.allows (s : State) (r : Route) : Bool :=
  r.owner.all fun p => s.lastAuth = some (.login p)

/-- The page on top belongs to the principal who is logged in. -/
def State.ShowsOwner (s : State) : Prop := ∀ r, s.stack.head? = some r → s.allows r = true

/-- A pop stays among the routes opened since the last logout, or uncovers a
    route that may be shown. -/
def staysInSession (s : State) : Event → Bool
  | .back | .resetSent => 1 < s.session || s.stack[1]?.all s.allows
  | _ => true

/-! ## The invariant -/

/-- The routes of the session below the top may be shown, and below a route that
    is nobody's page all are. -/
structure Sound (s : State) : Prop where
  below : ∀ r ∈ (s.stack.take s.session).tail, s.allows r = true
  auth : (s.stack.take s.session).Pairwise fun above under =>
    above.owner = none → under.owner = none

variable {s s' : State}

theorem on_eq_some {r : Route} {next : State} (stepped : s.on r next = some s') :
    s' = next ∧ ∃ rest, s.stack = r :: rest := by
  unfold State.on at stepped
  split at stepped
  · rename_i top
    exact ⟨(Option.some.inj stepped).symm, List.head?_eq_some_iff.mp top⟩
  · cases stepped

theorem allows_of_owner_none {r : Route} (nobody : r.owner = none) : s.allows r = true := by
  simp only [State.allows, nobody, Option.all_none]

/-- Links stay with the owner. -/
theorem owner_of_link {r target : Route} (link : target ∈ r.links) : target.owner = r.owner := by
  cases r with
  | user u page =>
      obtain ⟨_, _, rfl⟩ := List.mem_map.mp link
      rfl
  | admin page =>
      obtain ⟨_, _, rfl⟩ := List.mem_map.mp link
      rfl
  | signUp | otpVerification =>
      obtain rfl := List.mem_singleton.mp link
      rfl
  | splash | login | forgotPassword => cases link

namespace Sound

theorem init : Sound State.init where
  below _ member := nomatch member
  auth := List.pairwise_singleton _ _

/-- Pushing on a route that may be shown. -/
theorem push {top r : Route} {rest : List Route} (sound : Sound s) (stack : s.stack = top :: rest)
    (shown : s.allows top = true) (link : r.owner = top.owner) : Sound (s.push r) := by
  obtain ⟨below, auth⟩ := sound
  have pushed : (s.push r).stack.take (s.push r).session = r :: s.stack.take s.session := rfl
  rw [stack] at below auth pushed
  constructor
  · rw [pushed]
    intro r' member
    cases opened : s.session with
    | zero => rw [opened] at member; cases member
    | succ n =>
        rw [opened] at member below
        rcases List.mem_cons.mp member with rfl | deeper
        · exact shown
        · exact below r' deeper
  · rw [pushed]
    refine List.pairwise_cons.mpr ⟨?_, auth⟩
    intro under member nobody
    cases opened : s.session with
    | zero => rw [opened] at member; cases member
    | succ n =>
        rw [opened] at member auth
        rcases List.mem_cons.mp member with rfl | deeper
        · rw [← link, nobody]
        · exact (List.pairwise_cons.mp auth).1 under deeper (link ▸ nobody)

/-- Replacing a route that is nobody's page, with or without a login. -/
theorem pushReplacement {top : Route} {rest : List Route} (sound : Sound s)
    (stack : s.stack = top :: rest) (nobody : top.owner = none) (r : Route)
    (lastAuth : Option AuthEvent) : Sound { s.pushReplacement r with lastAuth } := by
  have replaced : (s.pushReplacement r).stack = r :: rest := by
    rw [State.pushReplacement, stack]
    rfl
  cases opened : s.session with
  | zero =>
      constructor <;> simp [State.pushReplacement, opened]
  | succ n =>
      have auth := sound.auth
      rw [stack, opened] at auth
      obtain ⟨under, deeper⟩ := List.pairwise_cons.mp auth
      have session : (s.pushReplacement r).stack.take (s.pushReplacement r).session =
          r :: rest.take n := by
        rw [replaced, State.pushReplacement, opened]
        rfl
      constructor
      · change ∀ r' ∈ ((s.pushReplacement r).stack.take (s.pushReplacement r).session).tail, _
        rw [session]
        exact fun r' member => allows_of_owner_none (under r' member nobody)
      · change ((s.pushReplacement r).stack.take (s.pushReplacement r).session).Pairwise _
        rw [session]
        exact List.pairwise_cons.mpr ⟨fun r' member _ => under r' member nobody, deeper⟩

theorem pop {top : Route} {rest : List Route} (sound : Sound s) (stack : s.stack = top :: rest) :
    Sound s.pop := by
  obtain ⟨below, auth⟩ := sound
  rw [stack] at below auth
  match opened : s.session with
  | n + 2 =>
      rw [opened] at below auth
      have popped : s.pop.stack.take s.pop.session = rest.take (n + 1) := by
        have fewer : max 1 (n + 2 - 1) = n + 1 := by omega
        simp only [State.pop, stack, opened, List.tail_cons, fewer]
      constructor
      · rw [popped]
        exact fun r member => below r (List.mem_of_mem_tail member)
      · rw [popped]
        exact (List.pairwise_cons.mp auth).2
  | 0 | 1 =>
      have popped : s.pop.stack.take s.pop.session = rest.take 1 := by
        simp [State.pop, stack, opened]
      constructor
      · rw [popped]
        cases rest <;> exact fun r member => nomatch member
      · rw [popped]
        cases rest with
        | nil => exact List.Pairwise.nil
        | cons => exact List.pairwise_singleton _ _

/-- Whether the route that a pop uncovers may be shown. -/
theorem showsOwner_pop (sound : Sound s) : s.pop.ShowsOwner ↔
    (1 < s.session || s.stack[1]?.all s.allows) = true := by
  have uncovered : s.pop.ShowsOwner ↔ s.stack[1]?.all s.allows = true := by
    have head : s.pop.stack.head? = s.stack[1]? := by
      rw [State.pop, List.head?_eq_getElem?, List.getElem?_tail]
    rw [State.ShowsOwner, head, Option.all_eq_true]
    rfl
  rw [uncovered, Bool.or_eq_true, decide_eq_true_eq]
  refine ⟨.inr, ?_⟩
  rintro (inside | allowed)
  · rw [Option.all_eq_true]
    intro r found
    apply sound.below r
    have here : (s.stack.take s.session)[1]? = some r := by
      rw [List.getElem?_take_of_lt inside, found]
    rw [← List.getElem?_tail] at here
    exact List.mem_of_getElem? here
  · exact allowed

end Sound

theorem showsOwner_cons {r : Route} {rest : List Route} (stack : s.stack = r :: rest) :
    s.ShowsOwner ↔ s.allows r = true := by
  simp only [State.ShowsOwner, stack, List.head?_cons, Option.some.injEq, forall_eq']

/-- What a step does, told from the owners of the routes. -/
inductive Move (s : State) : Event → State → Prop where
  | stay {e : Event} (stays : staysInSession s e = true) : Move s e s
  | push {e : Event} {top r : Route} {rest : List Route} (stays : staysInSession s e = true)
      (stack : s.stack = top :: rest) (link : r.owner = top.owner) : Move s e (s.push r)
  | replace {e : Event} {top r : Route} {rest : List Route} (stays : staysInSession s e = true)
      (stack : s.stack = top :: rest) (nobody : top.owner = none) (nobody' : r.owner = none) :
      Move s e (s.pushReplacement r)
  | login (p : Principal) {top : Route} {rest : List Route} (stack : s.stack = top :: rest)
      (nobody : top.owner = none) :
      Move s (.login p) { s.pushReplacement p.home with lastAuth := some (.login p) }
  | logout : Move s .logout
      { s.pushReplacement .login with lastAuth := some .logout, session := 1 }
  | pop {e : Event} {top : Route} {rest : List Route} (pops : e = .back ∨ e = .resetSent)
      (stack : s.stack = top :: rest) : Move s e s.pop

theorem step_move {e : Event} (stepped : step s e = some s') : Move s e s' := by
  cases e with
  | splashOver | openSignUp | openForgotPassword | otpVerified =>
      obtain ⟨rfl, rest, stack⟩ := on_eq_some stepped
      exact .replace rfl stack rfl rfl
  | login p =>
      obtain ⟨rfl, rest, stack⟩ := on_eq_some stepped
      exact .login p stack rfl
  | loginError =>
      obtain ⟨rfl, _⟩ := on_eq_some stepped
      exact .stay rfl
  | signedUp =>
      obtain ⟨rfl, rest, stack⟩ := on_eq_some stepped
      exact .push rfl stack rfl
  | resetSent =>
      obtain ⟨rfl, rest, stack⟩ := on_eq_some stepped
      exact .pop (.inr rfl) stack
  | follow target =>
      simp only [step] at stepped
      split at stepped
      · rename_i top rest stack
        split at stepped
        · rename_i link
          obtain rfl := Option.some.inj stepped
          exact .push rfl stack (owner_of_link link)
        · cases stepped
      · cases stepped
  | logout =>
      simp only [step] at stepped
      split at stepped
      · obtain rfl := Option.some.inj stepped
        exact .logout
      · obtain rfl := Option.some.inj stepped
        exact .logout
      · cases stepped
  | back =>
      simp only [step] at stepped
      split at stepped
      · rename_i stack
        obtain rfl := Option.some.inj stepped
        exact .pop (.inl rfl) stack
      · rename_i last
        obtain rfl := Option.some.inj stepped
        refine .stay ?_
        have alone : s.stack[1]? = none := by
          match stack : s.stack with
          | [] | [_] => rfl
          | top :: under :: rest => exact absurd stack (last top under rest)
        simp only [staysInSession, alone, Option.all_none, Bool.or_true]

theorem Move.sound {e : Event} (move : Move s e s') (sound : Sound s) (shows : s.ShowsOwner) :
    Sound s' := by
  cases move with
  | stay => exact sound
  | push _ stack link => exact sound.push stack ((showsOwner_cons stack).mp shows) link
  | @replace _ _ r _ _ stack nobody => exact sound.pushReplacement stack nobody r s.lastAuth
  | login p stack nobody => exact sound.pushReplacement stack nobody p.home (some (.login p))
  | logout => exact ⟨fun _ member => (nomatch member), List.pairwise_singleton _ _⟩
  | pop _ stack => exact sound.pop stack

/-- Only a pop can show a page whose owner is not logged in. -/
theorem Move.showsOwner_iff {e : Event} (move : Move s e s') (sound : Sound s)
    (shows : s.ShowsOwner) : s'.ShowsOwner ↔ staysInSession s e = true := by
  cases move with
  | stay stays => exact iff_of_true shows stays
  | push stays stack link =>
      refine iff_of_true ((showsOwner_cons rfl).mpr ?_) stays
      have top := (showsOwner_cons stack).mp shows
      simp only [State.allows, link] at top ⊢
      exact top
  | replace stays _ _ nobody =>
      exact iff_of_true ((showsOwner_cons rfl).mpr (allows_of_owner_none nobody)) stays
  | login p =>
      refine iff_of_true ((showsOwner_cons rfl).mpr ?_) rfl
      cases p <;> simp [State.allows, Principal.home, Route.owner]
  | logout => exact iff_of_true ((showsOwner_cons rfl).mpr (allows_of_owner_none rfl)) rfl
  | pop pops =>
      rw [sound.showsOwner_pop]
      rcases pops with rfl | rfl <;> rfl

/-- The page on top belongs to the principal who is logged in, all the way,
    exactly if no pop goes below the routes opened since the last logout to a
    page of somebody else. -/
theorem shows_owner_iff_stays_in_session {es : List Event}
    (played : run step State.init es = some s) :
    Always step State.ShowsOwner State.init es ↔
      Meets step (fun s e => staysInSession s e) State.init es :=
  always_iff_meets (I := Sound) (E := fun _ => True)
    (fun _ _ _ _ sound shows stepped => (step_move stepped).sound sound shows)
    (fun _ _ _ _ sound shows stepped => (step_move stepped).showsOwner_iff sound shows)
    played (fun _ _ => trivial) .init ((showsOwner_cons rfl).mpr rfl)

/-- User 0 logs in, opens the side menu and logs out. -/
def visit : List Event :=
  [.splashOver, .login (.user 0), .follow (.user 0 .navBar), .logout]

theorem relogin_shows_owner :
    (∃ s, run step State.init (visit ++ [.login .admin, .follow (.admin .adminNav), .back]) =
      some s) ∧
    Always step State.ShowsOwner State.init
      (visit ++ [.login .admin, .follow (.admin .adminNav), .back]) := by
  obtain ⟨s, played, _⟩ := run_reaches step State.init
    (visit ++ [.login .admin, .follow (.admin .adminNav), .back]) (P := fun _ => True) (by decide)
  exact ⟨⟨s, played⟩, (shows_owner_iff_stays_in_session played).mpr (by decide)⟩

/-- Back from the login screen shows the home page of the user who logged out. -/
theorem back_after_logout_shows_home :
    ∃ s, run step State.init (visit ++ [.back]) = some s ∧
      s.stack.head? = some (.user 0 .home) ∧ s.lastAuth = some .logout ∧ ¬ s.ShowsOwner := by
  obtain ⟨s, played, top, out⟩ := run_reaches step State.init (visit ++ [.back])
    (P := fun s => s.stack.head? = some (.user 0 .home) ∧ s.lastAuth = some .logout) (by decide)
  refine ⟨s, played, top, out, fun shows => ?_⟩
  have allowed := shows _ top
  simp [State.allows, Route.owner, out] at allowed

end Udhar.Navigation
