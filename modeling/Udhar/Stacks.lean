import Udhar.Attended

/-! # The stacks that can be reached

Every page but the ones around login keeps what it was pushed on below it, and login,
logout and the ends of sign-up replace the top. What can lie on what is therefore told
by the two pages alone, and a stack can be reached exactly if all its neighbours fit
and its bottom does: nothing bounds its depth, and the pages of any number of users lie
on one another. All this as long as nothing is pressed while an answer is awaited.
-/

namespace Udhar.Navigation

open Lib

/-- The routes that a login screen may become without any push. -/
def Route.atLogin : Route → Bool
  | .login | .signUp | .forgotPassword | .user _ .home | .admin .adminPage => true
  | _ => false

/-- The routes that are replaced by a login screen, and the login screen. -/
def Route.yields : Route → Bool
  | .splash | .login | .otpVerification | .user _ .navBar | .admin .adminNav => true
  | _ => false

/-- What lies on the route can become a login screen. -/
def Route.leadsToLogin : Route → Bool
  | .signUp | .otpVerification => true
  | .user _ page => page.links.contains .navBar
  | .admin page => page.links.contains .adminNav
  | .splash | .login | .forgotPassword => false

/-- The second route can lie on the first. -/
def Over (under above : Route) : Prop :=
  above ∈ under.links ∨ under = .signUp ∧ above = .otpVerification ∨
    above.atLogin = true ∧ under.leadsToLogin = true

/-- Every route fits on the one below it, and the one at the bottom there. -/
inductive Stacked : List Route → Prop where
  | bottom {r : Route} (starts : r = .splash ∨ r.atLogin = true) : Stacked [r]
  | above {under above : Route} {rest : List Route} (below : Stacked (under :: rest))
      (fits : Over under above) : Stacked (above :: under :: rest)

theorem Stacked.tail {r : Route} {rest : List Route} (stacked : Stacked (r :: rest)) :
    rest = [] ∨ Stacked rest := by
  cases stacked with
  | bottom => exact .inl rfl
  | above below => exact .inr below

/-- A page below one that yields leads to login. -/
theorem leadsToLogin_of_yields {under above : Route} (fits : Over under above)
    (yields : above.yields = true) : under.leadsToLogin = true := by
  rcases fits with link | ⟨rfl, rfl⟩ | ⟨_, leads⟩
  · cases under with
    | user u page =>
        obtain ⟨target, listed, rfl⟩ := List.mem_map.mp link
        cases target with
        | navBar => exact List.contains_iff_mem.mpr listed
        | _ => cases yields
    | admin page =>
        obtain ⟨target, listed, rfl⟩ := List.mem_map.mp link
        cases target with
        | adminNav => exact List.contains_iff_mem.mpr listed
        | _ => cases yields
    | signUp | otpVerification => rfl
    | splash | login | forgotPassword => cases link
  · rfl
  · exact leads

theorem Stacked.replace {top r : Route} {rest : List Route} (stacked : Stacked (top :: rest))
    (yields : top.yields = true) (becomes : r.atLogin = true) : Stacked (r :: rest) := by
  cases stacked with
  | bottom => exact .bottom (.inr becomes)
  | above below fits =>
      exact .above below (.inr (.inr ⟨becomes, leadsToLogin_of_yields fits yields⟩))

theorem Principal.atLogin_home (p : Principal) : p.home.atLogin = true := by
  cases p <;> rfl

/-! ## Every step keeps the stack in shape -/

/-- The invariant: an empty stack is left when the mail of a bottom route is sent. -/
def InShape (stack : List Route) : Prop := stack = [] ∨ Stacked stack

variable {s s' : State}

theorem InShape.stacked {r : Route} {rest : List Route} (shape : InShape s.stack)
    (stack : s.stack = r :: rest) : Stacked (r :: rest) := by
  rw [stack] at shape
  exact shape.resolve_left (List.cons_ne_nil r rest)

/-- A gesture on a route that yields replaces it. -/
theorem InShape.on {top r : Route} {lastAuth : Option AuthEvent} {session : ℕ}
    (shape : InShape s.stack) (yields : top.yields = true) (becomes : r.atLogin = true)
    (stepped : s.on top { s.pushReplacement r with lastAuth, session } = some s') :
    InShape s'.stack := by
  obtain ⟨rfl, rest, stack⟩ := on_eq_some stepped
  have replaced := (shape.stacked stack).replace yields becomes
  simp only [State.pushReplacement, stack, List.tail_cons]
  exact .inr replaced

theorem inShape_step {e : Event} (shape : InShape s.stack) (stepped : step s e = some s') :
    InShape s'.stack := by
  cases e with
  | splashOver | openSignUp | openForgotPassword | otpVerified =>
      exact shape.on rfl rfl stepped
  | login p => exact shape.on rfl p.atLogin_home stepped
  | loginError =>
      obtain ⟨rfl, _⟩ := on_eq_some stepped
      exact shape
  | signedUp =>
      obtain ⟨rfl, rest, stack⟩ := on_eq_some stepped
      have below := shape.stacked stack
      simp only [State.push, stack]
      exact .inr (.above below (.inr (.inl ⟨rfl, rfl⟩)))
  | resetSent =>
      obtain ⟨rfl, rest, stack⟩ := on_eq_some stepped
      simp only [State.pop, stack, List.tail_cons]
      exact (shape.stacked stack).tail
  | follow target =>
      simp only [step] at stepped
      split at stepped
      · rename_i top rest stack
        split at stepped
        · rename_i link
          obtain rfl := Option.some.inj stepped
          have below := shape.stacked stack
          simp only [State.push, stack]
          exact .inr (.above below (.inl link))
        · cases stepped
      · cases stepped
  | logout =>
      simp only [step] at stepped
      split at stepped
      · rename_i stack
        obtain rfl := Option.some.inj stepped
        simp only [State.pushReplacement, stack, List.tail_cons]
        exact .inr ((shape.stacked stack).replace rfl rfl)
      · rename_i stack
        obtain rfl := Option.some.inj stepped
        simp only [State.pushReplacement, stack, List.tail_cons]
        exact .inr ((shape.stacked stack).replace rfl rfl)
      · cases stepped
  | back =>
      simp only [step] at stepped
      split at stepped
      · rename_i stack
        obtain rfl := Option.some.inj stepped
        simp only [State.pop, stack, List.tail_cons]
        exact (shape.stacked stack).tail
      · obtain rfl := Option.some.inj stepped
        exact shape

/-! ## Every stack in shape can be reached -/

/-- Some gestures lead from a state to a stack. -/
def Leads (s : State) (stack : List Route) : Prop :=
  ∃ es t, run step s es = some t ∧ t.stack = stack

theorem Leads.first {e : Event} {stack : List Route} (stepped : step s e = some s')
    (later : Leads s' stack) : Leads s stack := by
  obtain ⟨es, t, played, reached⟩ := later
  exact ⟨e :: es, t, run_cons.mpr ⟨s', stepped, played⟩, reached⟩

theorem Leads.one {e : Event} (stepped : step s e = some s') : Leads s s'.stack :=
  .first stepped ⟨[], s', rfl, rfl⟩

theorem Leads.trans {middle stack : List Route} (first : Leads s middle)
    (later : ∀ t, t.stack = middle → Leads t stack) : Leads s stack := by
  obtain ⟨es, t, played, reached⟩ := first
  obtain ⟨es', u, played', reached'⟩ := later t reached
  exact ⟨es ++ es', u, run_append.mpr ⟨t, played, played'⟩, reached'⟩

theorem leads_of_login {r : Route} {rest : List Route} (stack : s.stack = .login :: rest)
    (becomes : r.atLogin = true) : Leads s (r :: rest) := by
  have opens : ∀ e t, step s e = s.on .login t → t.stack = r :: rest → Leads s (r :: rest) := by
    intro e t gesture top
    have stepped := gesture.trans (on_top stack t)
    exact top ▸ Leads.one stepped
  have replaced : (s.pushReplacement r).stack = r :: rest := by
    rw [State.pushReplacement, stack, List.tail_cons]
  cases r with
  | login => exact ⟨[], s, rfl, stack⟩
  | signUp => exact opens .openSignUp _ rfl replaced
  | forgotPassword => exact opens .openForgotPassword _ rfl replaced
  | user u page =>
      cases page with
      | home => exact opens (.login (.user u)) _ rfl replaced
      | _ => cases becomes
  | admin page =>
      cases page with
      | adminPage => exact opens (.login .admin) _ rfl replaced
      | _ => cases becomes
  | splash | otpVerification => cases becomes

/-- From a page that leads to login, a login screen can be put on it. -/
theorem leads_to_login {under : Route} {rest : List Route} (stack : s.stack = under :: rest)
    (leads : under.leadsToLogin = true) : Leads s (.login :: under :: rest) := by
  have logsOut : ∀ menu : Route, menu ∈ under.links →
      (∀ t : State, t.stack = menu :: under :: rest → step t .logout =
        some { t.pushReplacement .login with lastAuth := some .logout, session := 1 }) →
      Leads s (.login :: under :: rest) := by
    intro menu link logout
    have top : (s.push menu).stack = menu :: under :: rest := by rw [State.push, stack]
    have replaced := Leads.one (logout (s.push menu) top)
    simp only [State.pushReplacement, top, List.tail_cons] at replaced
    exact .first (step_follow stack link) replaced
  cases under with
  | signUp | otpVerification =>
      have pushed := Leads.one (step_follow stack List.mem_cons_self)
      rw [State.push, stack] at pushed
      exact pushed
  | user u page =>
      apply logsOut (.user u .navBar)
      · exact List.mem_map_of_mem (List.contains_iff_mem.mp leads)
      · intro t menu
        simp only [step, menu]
  | admin page =>
      apply logsOut (.admin .adminNav)
      · exact List.mem_map_of_mem (List.contains_iff_mem.mp leads)
      · intro t menu
        simp only [step, menu]
  | splash | login | forgotPassword => cases leads

theorem leads_over {under above : Route} {rest : List Route} (stack : s.stack = under :: rest)
    (fits : Over under above) : Leads s (above :: under :: rest) := by
  rcases fits with link | ⟨rfl, rfl⟩ | ⟨becomes, leads⟩
  · have pushed := Leads.one (step_follow stack link)
    rw [State.push, stack] at pushed
    exact pushed
  · have pushed := Leads.one (show step s .signedUp = some _ from on_top stack _)
    rw [State.push, stack] at pushed
    exact pushed
  · exact (leads_to_login stack leads).trans fun t top => leads_of_login top becomes

theorem gestures_reach_iff (stack : List Route) :
    (∃ es s, run step State.init es = some s ∧ s.stack = stack) ↔ stack = [] ∨ Stacked stack := by
  have bottom : ∀ r : Route, r.atLogin = true → Leads .init [r] := by
    intro r becomes
    exact .first (show step .init .splashOver = some _ from on_top rfl _)
      (leads_of_login rfl becomes)
  constructor
  · rintro ⟨es, s, played, rfl⟩
    exact run_invariant (P := fun s => InShape s.stack) (fun _ _ _ => inShape_step) played
      (.inr (.bottom (.inl rfl)))
  · rintro (rfl | stacked)
    · -- The mail of a forgotten password pops its screen, also the last one.
      exact (bottom .forgotPassword rfl).trans fun t top => by
        have popped := Leads.one (show step t .resetSent = some _ from on_top top _)
        rw [State.pop, top] at popped
        exact popped
    · induction stacked with
      | @bottom r starts =>
          rcases starts with rfl | becomes
          · exact ⟨[], .init, rfl, rfl⟩
          · exact bottom r becomes
      | above _ fits ih => exact Leads.trans ih fun t top => leads_over top fits

/-- Where every answer is awaited, the stacks that the app can reach are the empty one and
    those in which every route fits on the one below it, and the last one at the bottom. -/
theorem stack_reachable_iff (stack : List Route) :
    (∃ es w, run Waiting.step Waiting.init es = some w ∧
      Meets Waiting.step (fun w e => w.attended e) Waiting.init es ∧ w.nav.stack = stack) ↔
      stack = [] ∨ Stacked stack := by
  rw [← gestures_reach_iff]
  constructor
  · rintro ⟨es, w, played, calm, rfl⟩
    obtain ⟨es', moved⟩ := (Waiting.attended_reaches_iff w.nav).mp ⟨es, w, played, calm, rfl⟩
    exact ⟨es', w.nav, moved, rfl⟩
  · rintro ⟨es, s, moved, rfl⟩
    obtain ⟨es', w, played, calm, rfl⟩ := (Waiting.attended_reaches_iff s).mpr ⟨es, moved⟩
    exact ⟨es', w, played, calm, rfl⟩

/-- Two users and the admin on one stack. -/
example : Stacked [.admin .adminNav, .admin .adminPage, .user 1 .home, .user 0 .home] := by
  refine .above (.above (.above (.bottom (.inr rfl)) ?_) ?_) ?_
  · exact .inr (.inr (by decide))
  · exact .inr (.inr (by decide))
  · exact .inl (by decide)

/-- SIGN UP, then Login while the account is created: the page after the sign-up comes to
    lie on the login screen, on which it does not fit. -/
example : (∃ es w, run Waiting.step .init es = some w ∧
      w.nav.stack = [.otpVerification, .login, .signUp]) ∧
    ¬ Stacked [.otpVerification, .login, .signUp] := by
  constructor
  · exact ⟨[.gesture .splashOver, .gesture .openSignUp, .ask, .gesture (.follow .login),
      .answer .signUp (some .signedUp)], run_reaches Waiting.step .init _ (by decide)⟩
  · rintro (_ | ⟨_, link | ⟨under, _⟩ | ⟨above, _⟩⟩)
    · cases link
    · cases under
    · cases above

end Udhar.Navigation
