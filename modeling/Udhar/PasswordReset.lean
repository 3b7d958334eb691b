import Udhar.Navigation

/-! # The way back from a password reset

Before a user is logged in there are five screens. A button that asks Firebase
leaves the screen as it is; the answer opens dialogs, or after a reset mail pops
a route, whatever is on top by then. `ForgotPasswordScreen` pops to go back to
the login screen, but the login screen opened it with `pushReplacement`.
-/

namespace Udhar.PasswordReset

open Lib

/-- The dialogs by what their OK does after it has closed them. -/
inductive Dialog where
  | error
  | signedUp
  | accountLinked
  deriving DecidableEq

inductive Screen where
  | splash
  | login
  | signUp
  | otpVerification
  | forgotPassword
  | dialog (d : Dialog)
  deriving DecidableEq

def Screen.isPage : Screen → Bool
  | .dialog _ => false
  | _ => true

/-- The dialogs that an answer to a page can open. None for a failed reset, which
    shows a snack bar, and for an answer to a page that is no longer mounted. A
    login that succeeds leaves these screens. -/
def Screen.answers : Screen → List (List Dialog)
  | .login => [[.error], []]
  | .signUp => [[.signedUp], [.error], []]
  | .otpVerification => [[.accountLinked], [.error], [.error, .error], []]
  | .forgotPassword => [[]]
  | .splash | .dialog _ => []

/-- The pages with the button 'Already have an account? Login'. -/
def Screen.LinksToLogin (r : Screen) : Prop := r = .signUp ∨ r = .otpVerification

theorem Screen.LinksToLogin.isPage {r : Screen} (link : r.LinksToLogin) : r.isPage = true := by
  rcases link with rfl | rfl <;> rfl

/-- The navigator's stack, top first, and the pages whose requests are not answered
    yet. -/
structure State where
  stack : List Screen
  pending : List Screen
  deriving DecidableEq

def State.init : State := ⟨[.splash], []⟩

inductive Event where
  | splashOver
  | openSignUp
  | openForgotPassword
  | openLogin
  | send
  | answered (page : Screen) (dialogs : List Dialog)
  | resetSent
  | ok
  | back
  deriving DecidableEq

/-- `Navigator.push`. -/
def State.push (s : State) (r : Screen) : State := { s with stack := r :: s.stack }

/-- `Navigator.pushReplacement`. -/
def State.pushReplacement (s : State) (r : Screen) : State :=
  { s with stack := r :: s.stack.tail }

/-- `Navigator.pop`. -/
def State.pop (s : State) : State := { s with stack := s.stack.tail }

/-- The button is on the top screen. -/
def State.on (s : State) (r : Screen) (next : State) : Option State :=
  if s.stack.head? = some r then some next else none

/-- A page may outlast its route for as long as the transition takes, so that an
    answer can still act for a page that has been left. -/
def step (s : State) : Event → Option State
  | .splashOver => s.on .splash (s.pushReplacement .login)
  | .openSignUp => s.on .login (s.pushReplacement .signUp)
  | .openForgotPassword => s.on .login (s.pushReplacement .forgotPassword)
  | .openLogin =>
      match s.stack with
      | .signUp :: _ | .otpVerification :: _ => some (s.push .login)
      | _ => none
  | .send =>
      match s.stack with
      | top :: _ => if top.answers = [] then none else some { s with pending := top :: s.pending }
      | [] => none
  | .answered page dialogs =>
      if page ∈ s.pending ∧ dialogs ∈ page.answers then
        some ⟨dialogs.map .dialog ++ s.stack, s.pending.erase page⟩
      else none
  | .resetSent =>
      if .forgotPassword ∈ s.pending then
        some { s.pop with pending := s.pending.erase .forgotPassword }
      else none
  | .ok =>
      match s.stack with
      | .dialog .error :: _ => some s.pop
      | .dialog .signedUp :: _ => some (s.pop.push .otpVerification)
      | .dialog .accountLinked :: _ => some (s.pop.pushReplacement .login)
      | _ => none
  | .back =>
      match s.stack with
      | _ :: _ :: _ => some s.pop
      | _ => some s

/-- A step leaves a screen on the stack, and the pop after a reset leaves a login
    screen on top. -/
def ReturnsToLogin (s : State) (e : Event) : Prop :=
  ∀ t, step s e = some t → t.stack ≠ [] ∧
    (e = .resetSent → s.stack.head? = some .forgotPassword → t.stack.head? = some .login)

/-- Below the screen that sent the mail there is a login screen; if that screen has
    been left, there is at least some route below the top one. -/
def overLogin (s : State) : Event → Prop
  | .resetSent => .forgotPassword ∈ s.pending →
      if s.stack.head? = some .forgotPassword then s.stack[1]? = some .login
      else 2 ≤ s.stack.length
  | _ => True

/-- No reset mail is sent. -/
def unsent (s : State) (e : Event) : Prop := e = .resetSent → .forgotPassword ∉ s.pending

/-- Nothing is pressed while an answer is awaited. -/
def attended (s : State) : Event → Prop
  | .answered _ _ | .resetSent => True
  | _ => s.pending = []

variable {s t : State} {e : Event}

theorem on_eq_some {r : Screen} {next : State} (stepped : s.on r next = some t) :
    t = next ∧ ∃ rest, s.stack = r :: rest := by
  unfold State.on at stepped
  split at stepped
  · rename_i top
    exact ⟨(Option.some.inj stepped).symm, List.head?_eq_some_iff.mp top⟩
  · cases stepped

theorem openLogin_eq_some (stepped : step s .openLogin = some t) :
    t = s.push .login ∧ ∃ r rest, s.stack = r :: rest ∧ r.LinksToLogin := by
  simp only [step] at stepped
  split at stepped <;> cases stepped
  · exact ⟨rfl, _, _, ‹_›, .inl rfl⟩
  · exact ⟨rfl, _, _, ‹_›, .inr rfl⟩

theorem stack_pushReplacement {r r' : Screen} {rest : List Screen} (stack : s.stack = r :: rest) :
    (s.pushReplacement r').stack = r' :: rest := by
  rw [State.pushReplacement, stack]
  rfl

/-! ## What lies at the bottom -/

/-- The first route of the stack is a page. -/
def Grounded (stack : List Screen) : Prop :=
  ∃ above page, stack = above ++ [page] ∧ page.isPage = true

namespace Grounded

variable {stack rest : List Screen} {r : Screen}

theorem ne_nil (grounded : Grounded stack) : stack ≠ [] := by
  obtain ⟨above, page, rfl, -⟩ := grounded
  exact List.concat_ne_nil page above

theorem append (grounded : Grounded stack) (over' : List Screen) : Grounded (over' ++ stack) := by
  obtain ⟨above, page, rfl, bottom⟩ := grounded
  exact ⟨over' ++ above, page, (List.append_assoc _ _ _).symm, bottom⟩

theorem cons (grounded : Grounded stack) : Grounded (r :: stack) := grounded.append [r]

/-- What is left when something is taken off the top. -/
theorem tail (grounded : Grounded stack) (nonempty : stack.tail ≠ []) : Grounded stack.tail := by
  obtain ⟨above, page, rfl, bottom⟩ := grounded
  cases above with
  | nil => exact absurd rfl nonempty
  | cons first above => exact ⟨above, page, rfl, bottom⟩

theorem replace (grounded : Grounded stack) (page : r.isPage = true) :
    Grounded (r :: stack.tail) := by
  by_cases last : stack.tail = []
  · rw [last]
    exact ⟨[], r, rfl, page⟩
  · exact (grounded.tail last).cons

/-- A dialog lies on something. -/
theorem under_dialog {d : Dialog} (grounded : Grounded stack) (top : stack = .dialog d :: rest) :
    Grounded stack.tail := by
  apply grounded.tail
  intro empty
  obtain ⟨above, page, whole, bottom⟩ := grounded
  cases above with
  | nil =>
      rw [top] at whole
      obtain rfl := (List.cons.inj whole).1
      cases bottom
  | cons first above =>
      rw [whole] at empty
      exact List.concat_ne_nil page above empty

end Grounded

/-- Only the pop after a reset can take the last route off. -/
theorem grounded_step (grounded : Grounded s.stack) (stepped : step s e = some t)
    (lands : e = .resetSent → t.stack ≠ []) : Grounded t.stack := by
  cases e with
  | splashOver | openSignUp | openForgotPassword =>
      obtain ⟨rfl, -⟩ := on_eq_some stepped
      exact grounded.replace rfl
  | openLogin =>
      obtain ⟨rfl, -⟩ := openLogin_eq_some stepped
      exact grounded.cons
  | send =>
      simp only [step] at stepped
      split at stepped
      · split at stepped <;> cases stepped
        exact grounded
      · cases stepped
  | answered page dialogs =>
      simp only [step] at stepped
      split at stepped <;> cases stepped
      exact grounded.append _
  | resetSent =>
      simp only [step] at stepped
      split at stepped <;> cases stepped
      exact grounded.tail (lands rfl)
  | ok =>
      simp only [step] at stepped
      split at stepped <;> cases stepped
      · exact grounded.under_dialog ‹_›
      · exact (grounded.under_dialog ‹_›).cons
      · exact (grounded.under_dialog ‹_›).replace rfl
  | back =>
      simp only [step] at stepped
      split at stepped
      · rename_i stack
        cases stepped
        apply grounded.tail
        rw [stack]
        exact List.cons_ne_nil _ _
      · cases stepped
        exact grounded

/-! ## What the pop uncovers -/

theorem resetSent_eq_some (stepped : step s .resetSent = some t) :
    .forgotPassword ∈ s.pending ∧ t.stack = s.stack.tail := by
  simp only [step] at stepped
  split at stepped <;> cases stepped
  exact ⟨‹_›, rfl⟩

theorem overLogin_resetSent (asked : .forgotPassword ∈ s.pending) :
    overLogin s .resetSent ↔ s.stack.tail ≠ [] ∧
      (s.stack.head? = some .forgotPassword → s.stack.tail.head? = some .login) := by
  have under : s.stack[1]? = s.stack.tail.head? := by
    rw [List.head?_eq_getElem?, List.getElem?_tail]
  have more : 2 ≤ s.stack.length ↔ s.stack.tail ≠ [] := by
    rw [← List.length_pos_iff, List.length_tail]
    omega
  simp only [overLogin, asked, true_implies, under, more]
  split
  · rename_i top
    refine ⟨fun login => ⟨?_, fun _ => login⟩, fun lands => lands.2 top⟩
    intro empty
    rw [empty] at login
    cases login
  · rename_i top
    exact ⟨fun nonempty => ⟨nonempty, fun top' => absurd top' top⟩, And.left⟩

/-- One step: what the pop has to find. -/
theorem returns_iff_overLogin (grounded : Grounded s.stack) :
    ReturnsToLogin s e ↔ overLogin s e := by
  by_cases reset : e = .resetSent
  · subst reset
    by_cases asked : .forgotPassword ∈ s.pending
    · rw [overLogin_resetSent asked]
      constructor
      · intro returns
        obtain ⟨nonempty, lands⟩ := returns _ (if_pos asked)
        exact ⟨nonempty, lands rfl⟩
      · rintro ⟨nonempty, lands⟩ t stepped
        rw [(resetSent_eq_some stepped).2]
        exact ⟨nonempty, fun _ => lands⟩
    · refine iff_of_true (fun t stepped => ?_) (fun asked' => absurd asked' asked)
      exact absurd (resetSent_eq_some stepped).1 asked
  · refine iff_of_true (fun t stepped => ⟨?_, fun reset' => absurd reset' reset⟩) ?_
    · exact (grounded_step grounded stepped fun reset' => absurd reset' reset).ne_nil
    · cases e with
      | resetSent => exact absurd rfl reset
      | _ => trivial

theorem grounded_of_returns (s : State) (e : Event) (t : State) (returns : ReturnsToLogin s e)
    (grounded : Grounded s.stack) (stepped : step s e = some t) : Grounded t.stack :=
  grounded_step grounded stepped fun _ => (returns t stepped).1

theorem grounded_init : Grounded State.init.stack := ⟨[], .splash, rfl, rfl⟩

theorem meets_returns_iff (es : List Event) :
    Meets step ReturnsToLogin .init es ↔ Meets step overLogin .init es := by
  constructor
  · intro returns
    exact returns.trade grounded_of_returns
      (fun _ _ returns grounded => (returns_iff_overLogin grounded).mp returns) grounded_init
  · intro under
    refine under.trade (fun s e t under grounded => ?_)
      (fun _ _ under grounded => (returns_iff_overLogin grounded).mpr under) grounded_init
    exact grounded_of_returns s e t ((returns_iff_overLogin grounded).mpr under) grounded

/-! ## When every answer is awaited -/

/-- At most one page waits for an answer, the one on top; the dialogs above a page
    are left from an answer to it; and only pages that push lie below. -/
structure Layered (s : State) (dialogs : List Dialog) (page : Screen) (rest : List Screen) :
    Prop where
  whole : s.stack = dialogs.map .dialog ++ page :: rest
  isPage : page.isPage = true
  answer : dialogs = [] ∨ dialogs ∈ page.answers
  below : ∀ r ∈ rest, r.LinksToLogin
  waiting : s.pending = [] ∨ s.pending = [page] ∧ dialogs = []

def InOrder (s : State) : Prop := ∃ dialogs page rest, Layered s dialogs page rest

variable {dialogs : List Dialog} {page : Screen} {rest : List Screen}

/-- A page without dialogs. -/
theorem InOrder.of_page (whole : s.stack = page :: rest) (isPage : page.isPage = true)
    (below : ∀ r ∈ rest, r.LinksToLogin)
    (waiting : s.pending = [] ∨ s.pending = [page]) : InOrder s :=
  ⟨[], page, rest, whole, isPage, .inl rfl, below, waiting.imp_right fun asked => ⟨asked, rfl⟩⟩

theorem inOrder_init : InOrder .init :=
  .of_page rfl rfl (fun _ none => (nomatch none)) (.inl rfl)

theorem answers_tail {d : Dialog} (answer : d :: dialogs ∈ page.answers) :
    dialogs = [] ∨ dialogs ∈ page.answers := by
  cases page <;> simp [Screen.answers] at answer ⊢ <;> grind

theorem answers_signedUp (answer : .signedUp :: dialogs ∈ page.answers) :
    dialogs = [] ∧ page = .signUp := by
  cases page <;> simp_all [Screen.answers]

theorem answers_accountLinked (answer : .accountLinked :: dialogs ∈ page.answers) :
    dialogs = [] ∧ page = .otpVerification := by
  cases page <;> simp_all [Screen.answers]

namespace Layered

theorem on_page {r : Screen} {under : List Screen} (layered : Layered s dialogs page rest)
    (stack : s.stack = r :: under) (top : r.isPage = true) :
    dialogs = [] ∧ page = r ∧ rest = under := by
  have whole := layered.whole
  rw [stack] at whole
  cases dialogs with
  | nil =>
      obtain ⟨rfl, rfl⟩ := List.cons.inj whole
      exact ⟨rfl, rfl, rfl⟩
  | cons d dialogs =>
      obtain rfl := (List.cons.inj whole).1
      cases top

theorem on_dialog {d : Dialog} {under : List Screen} (layered : Layered s dialogs page rest)
    (stack : s.stack = .dialog d :: under) :
    ∃ left, dialogs = d :: left ∧ under = left.map .dialog ++ page :: rest := by
  have whole := layered.whole
  rw [stack] at whole
  cases dialogs with
  | nil =>
      obtain rfl := (List.cons.inj whole).1
      cases layered.isPage
  | cons d' left =>
      obtain ⟨same, under⟩ := List.cons.inj whole
      cases same
      exact ⟨left, rfl, under⟩

/-- Closing the top dialog. -/
theorem close {d : Dialog} {left : List Dialog} (layered : Layered s (d :: left) page rest)
    (idle : s.pending = []) : InOrder s.pop := by
  refine ⟨left, page, rest, ?_, layered.isPage, ?_, layered.below, .inl idle⟩
  · rw [State.pop, layered.whole]
    rfl
  · exact answers_tail (layered.answer.resolve_left (List.cons_ne_nil _ _))

theorem openLogin {r : Screen} {under : List Screen} (layered : Layered s dialogs page rest)
    (stack : s.stack = r :: under) (link : r.LinksToLogin) (idle : s.pending = []) :
    InOrder (s.push .login) := by
  obtain ⟨-, -, rfl⟩ := layered.on_page stack link.isPage
  have below := List.forall_mem_cons.mpr ⟨link, layered.below⟩
  rw [← stack] at below
  exact .of_page rfl rfl below (.inl idle)

theorem send {top : Screen} {under : List Screen} (layered : Layered s dialogs page rest)
    (stack : s.stack = top :: under) (asks : top.answers ≠ []) (idle : s.pending = []) :
    InOrder { s with pending := top :: s.pending } := by
  have isPage : top.isPage = true := by
    cases top with
    | dialog d => exact absurd rfl asks
    | _ => rfl
  obtain ⟨rfl, rfl, rfl⟩ := layered.on_page stack isPage
  refine .of_page stack isPage layered.below (.inr ?_)
  rw [idle]

/-- Only the page on top waits for an answer. -/
theorem of_asked {asker : Screen} (layered : Layered s dialogs page rest)
    (asked : asker ∈ s.pending) : asker = page ∧ dialogs = [] ∧ s.pending = [page] := by
  rcases layered.waiting with idle | ⟨waits, closed⟩
  · rw [idle] at asked
    cases asked
  · rw [waits, List.mem_singleton] at asked
    exact ⟨asked, closed, waits⟩

theorem answered {asker : Screen} {opened : List Dialog} (layered : Layered s dialogs page rest)
    (asked : asker ∈ s.pending) (answer : opened ∈ asker.answers) :
    InOrder ⟨opened.map .dialog ++ s.stack, s.pending.erase asker⟩ := by
  obtain ⟨rfl, rfl, waits⟩ := layered.of_asked asked
  refine ⟨opened, asker, rest, ?_, layered.isPage, .inr answer, layered.below, .inl ?_⟩
  · rw [layered.whole]
    rfl
  · simp only [waits, List.erase_cons_head]

theorem under_signedUp {under : List Screen} (layered : Layered s dialogs page rest)
    (stack : s.stack = .dialog .signedUp :: under) : under = .signUp :: rest := by
  obtain ⟨left, rfl, below⟩ := layered.on_dialog stack
  obtain ⟨rfl, rfl⟩ := answers_signedUp (layered.answer.resolve_left (List.cons_ne_nil _ _))
  exact below

theorem under_accountLinked {under : List Screen} (layered : Layered s dialogs page rest)
    (stack : s.stack = .dialog .accountLinked :: under) : under = .otpVerification :: rest := by
  obtain ⟨left, rfl, below⟩ := layered.on_dialog stack
  obtain ⟨rfl, rfl⟩ := answers_accountLinked (layered.answer.resolve_left (List.cons_ne_nil _ _))
  exact below

theorem signedUp {under : List Screen} (layered : Layered s dialogs page rest)
    (stack : s.stack = .dialog .signedUp :: under) (idle : s.pending = []) :
    InOrder (s.pop.push .otpVerification) := by
  have landed : (s.pop.push .otpVerification).stack = .otpVerification :: .signUp :: rest := by
    rw [State.push, State.pop, stack, layered.under_signedUp stack]
    rfl
  exact .of_page landed rfl (List.forall_mem_cons.mpr ⟨.inl rfl, layered.below⟩) (.inl idle)

theorem accountLinked {under : List Screen} (layered : Layered s dialogs page rest)
    (stack : s.stack = .dialog .accountLinked :: under) (idle : s.pending = []) :
    InOrder (s.pop.pushReplacement .login) := by
  have landed : (s.pop.pushReplacement .login).stack = .login :: rest := by
    rw [State.pushReplacement, State.pop, stack, layered.under_accountLinked stack]
    rfl
  exact .of_page landed rfl layered.below (.inl idle)

theorem back {top next : Screen} {under : List Screen} (layered : Layered s dialogs page rest)
    (stack : s.stack = top :: next :: under) (idle : s.pending = []) : InOrder s.pop := by
  cases dialogs with
  | cons d left => exact layered.close idle
  | nil =>
      have whole := layered.whole
      rw [stack] at whole
      obtain ⟨-, rfl⟩ := List.cons.inj whole
      obtain ⟨link, below⟩ := List.forall_mem_cons.mp layered.below
      have uncovered : s.pop.stack = next :: under := by
        rw [State.pop, stack]
        rfl
      exact .of_page uncovered link.isPage below (.inl idle)

end Layered

theorem inOrder_step (awaits : attended s e) (quiet : unsent s e) (inOrder : InOrder s)
    (stepped : step s e = some t) : InOrder t := by
  obtain ⟨dialogs, page, rest, layered⟩ := inOrder
  cases e with
  | splashOver | openSignUp | openForgotPassword =>
      obtain ⟨rfl, under, stack⟩ := on_eq_some stepped
      obtain ⟨rfl, rfl, rfl⟩ := layered.on_page stack rfl
      exact .of_page (stack_pushReplacement stack) rfl layered.below (.inl awaits)
  | openLogin =>
      obtain ⟨rfl, r, under, stack, link⟩ := openLogin_eq_some stepped
      exact layered.openLogin stack link awaits
  | send =>
      simp only [step] at stepped
      split at stepped
      · split at stepped <;> cases stepped
        exact layered.send ‹_› ‹_› awaits
      · cases stepped
  | answered asker opened =>
      simp only [step] at stepped
      split at stepped <;> cases stepped
      rename_i found
      exact layered.answered found.1 found.2
  | resetSent => exact absurd (resetSent_eq_some stepped).1 (quiet rfl)
  | ok =>
      simp only [step] at stepped
      split at stepped <;> cases stepped
      · rename_i stack
        obtain ⟨left, rfl, -⟩ := layered.on_dialog stack
        exact layered.close awaits
      · exact layered.signedUp ‹_› awaits
      · exact layered.accountLinked ‹_› awaits
  | back =>
      simp only [step] at stepped
      split at stepped <;> cases stepped
      · exact layered.back ‹_› awaits
      · exact ⟨dialogs, page, rest, layered⟩

/-- In order, a login screen is never covered, so that a reset cannot uncover one. -/
theorem unsent_of_returns (inOrder : InOrder s) (returns : ReturnsToLogin s e) : unsent s e := by
  rintro rfl asked
  obtain ⟨dialogs, page, rest, layered⟩ := inOrder
  obtain ⟨rfl, rfl, -⟩ := layered.of_asked asked
  have stack : s.stack = .forgotPassword :: rest := layered.whole
  have lands := (returns _ (if_pos asked)).2 rfl
  simp only [State.pop, stack, List.head?_cons, List.tail_cons, true_implies] at lands
  have link := layered.below .login (List.mem_of_head? lands)
  rcases link with other | other <;> cases other

theorem returns_of_unsent (inOrder : InOrder s) (awaits : attended s e) (quiet : unsent s e) :
    ReturnsToLogin s e := by
  intro t stepped
  obtain ⟨dialogs, page, rest, layered⟩ := inOrder_step awaits quiet inOrder stepped
  constructor
  · rw [layered.whole]
    exact List.append_ne_nil_of_right_ne_nil _ (List.cons_ne_nil _ _)
  · rintro rfl
    exact absurd (resetSent_eq_some stepped).1 (quiet rfl)

/-- A reset finds its way back to the login screen, and the stack is never empty,
    exactly if every mail is sent from above a login screen. As long as every answer
    is awaited none is, so that this holds exactly if no mail is sent. -/
theorem returns_to_login_iff (es : List Event) :
    (Meets step ReturnsToLogin .init es ↔ Meets step overLogin .init es) ∧
      (Meets step attended .init es →
        (Meets step ReturnsToLogin .init es ↔ Meets step unsent .init es)) := by
  refine ⟨meets_returns_iff es, fun awaits => ⟨fun returns => ?_, fun quiet => ?_⟩⟩
  · refine (awaits.and returns).trade (P := InOrder) (fun s e t both inOrder stepped => ?_)
      (fun s e both inOrder => unsent_of_returns inOrder both.2) inOrder_init
    exact inOrder_step both.1 (unsent_of_returns inOrder both.2) inOrder stepped
  · exact (awaits.and quiet).trade (P := InOrder)
      (fun s e t both inOrder stepped => inOrder_step both.1 both.2 inOrder stepped)
      (fun s e both inOrder => returns_of_unsent inOrder both.1 both.2) inOrder_init

/-- From the login screen that the app starts with, a reset empties the stack; from
    one that the sign-up screen opened, it leads to the sign-up screen. -/
theorem reset_leaves_no_login :
    run step .init [.splashOver, .openForgotPassword, .send, .resetSent] = some ⟨[], []⟩ ∧
    run step .init [.splashOver, .openSignUp, .openLogin, .openForgotPassword, .send,
      .resetSent] = some ⟨[.signUp], []⟩ ∧
    ¬ Meets step ReturnsToLogin .init [.splashOver, .openForgotPassword, .send, .resetSent] := by
  refine ⟨by decide, by decide, fun returns => ?_⟩
  have opened := returns.2 _ rfl
  have sent := (opened.2 _ rfl).2 _ rfl
  exact (sent.1 _ rfl).1 rfl

/-- Late answers can put one login screen on top of another. -/
example : run step .init [.splashOver, .openSignUp, .send, .openLogin,
    .answered .signUp [.signedUp], .ok, .send, .answered .otpVerification [.accountLinked], .ok,
    .openForgotPassword, .send, .resetSent] = some ⟨[.login, .signUp], []⟩ := by
  decide

/-! ## The navigator of the whole app

When every answer is awaited, a run through these screens is one of the app's
navigator, in which a gesture is one step and dialogs are left out.
-/

def Screen.route : Screen → Option Navigation.Route
  | .splash => some .splash
  | .login => some .login
  | .signUp => some .signUp
  | .otpVerification => some .otpVerification
  | .forgotPassword => some .forgotPassword
  | .dialog _ => none

/-- In order, or left without a screen by a reset. -/
def Calm (s : State) : Prop := s.stack = [] ∧ s.pending = [] ∨ InOrder s

/-- The navigator has the pages of the stack on its own. -/
structure Shows (s : State) (n : Navigation.State) : Prop where
  calm : Calm s
  pages : n.stack = s.stack.filterMap Screen.route

theorem step_empty (empty : s.stack = []) (idle : s.pending = [])
    (stepped : step s e = some t) : t = s := by
  cases e <;> simp_all [step, State.on]

theorem calm_resetSent (inOrder : InOrder s) (stepped : step s .resetSent = some t) :
    ∃ rest, s.stack = .forgotPassword :: rest ∧ t.stack = rest ∧ Calm t := by
  obtain ⟨dialogs, page, rest, layered⟩ := inOrder
  obtain ⟨asked, popped⟩ := resetSent_eq_some stepped
  obtain ⟨rfl, rfl, waits⟩ := layered.of_asked asked
  have stack : s.stack = .forgotPassword :: rest := layered.whole
  have idle : t.pending = [] := by
    simp only [step, asked, if_true, Option.some.injEq] at stepped
    simp only [← stepped, waits, List.erase_cons_head]
  rw [stack, List.tail_cons] at popped
  refine ⟨rest, stack, popped, ?_⟩
  cases rest with
  | nil => exact .inl ⟨popped, idle⟩
  | cons r rest =>
      obtain ⟨link, below⟩ := List.forall_mem_cons.mp layered.below
      exact .inr (.of_page popped link.isPage below (.inl idle))

/-- What a step is for the navigator, if it is a gesture there. -/
def gesture (s : State) : Event → Option Navigation.Event
  | .splashOver => some .splashOver
  | .openSignUp => some .openSignUp
  | .openForgotPassword => some .openForgotPassword
  | .openLogin => some (.follow .login)
  | .resetSent => some .resetSent
  | .ok =>
      match s.stack with
      | .dialog .signedUp :: _ => some .signedUp
      | .dialog .accountLinked :: _ => some .otpVerified
      | _ => none
  | .back =>
      match s.stack with
      | .dialog _ :: _ => none
      | _ => some .back
  | .send | .answered _ _ => none

theorem navigator_on {n next : Navigation.State} {r : Navigation.Route}
    {under : List Navigation.Route} (stack : n.stack = r :: under) : n.on r next = some next := by
  rw [Navigation.State.on, stack]
  exact if_pos rfl

@[simp] theorem filterMap_route_dialogs (dialogs : List Dialog) (stack : List Screen) :
    (dialogs.map Screen.dialog ++ stack).filterMap Screen.route = stack.filterMap Screen.route := by
  induction dialogs with
  | nil => rfl
  | cons d dialogs ih => exact ih

theorem filterMap_route_page (isPage : page.isPage = true) :
    ∃ r, ∀ rest, (page :: rest).filterMap Screen.route = r :: rest.filterMap Screen.route := by
  cases page with
  | dialog d => cases isPage
  | _ => exact ⟨_, fun _ => rfl⟩

theorem gesture_back (isPage : page.isPage = true) (stack : s.stack = page :: rest) :
    gesture s .back = some .back := by
  simp only [gesture, stack]
  cases page with
  | dialog d => cases isPage
  | _ => rfl

/-- A step is the gesture of the navigator, or nothing. -/
theorem shows_step {n : Navigation.State} (awaits : attended s e) (inOrder : InOrder s)
    (pages : n.stack = s.stack.filterMap Screen.route) (stepped : step s e = some t) :
    ∃ m, run Navigation.step n (gesture s e).toList = some m ∧
      m.stack = t.stack.filterMap Screen.route := by
  cases e with
  | splashOver | openSignUp | openForgotPassword =>
      obtain ⟨rfl, rest, stack⟩ := on_eq_some stepped
      rw [stack] at pages
      refine ⟨n.pushReplacement _, run_cons.mpr ⟨_, navigator_on pages, rfl⟩, ?_⟩
      rw [stack_pushReplacement stack, Navigation.State.pushReplacement, pages]
      rfl
  | openLogin =>
      obtain ⟨rfl, r, rest, stack, link⟩ := openLogin_eq_some stepped
      have followed : Navigation.step n (.follow .login) = some (n.push .login) := by
        rw [stack] at pages
        rcases link with rfl | rfl <;> simp [Navigation.step, pages, Screen.route,
          Navigation.Route.links]
      exact ⟨n.push .login, run_cons.mpr ⟨_, followed, rfl⟩, congrArg _ pages⟩
  | send =>
      simp only [step] at stepped
      split at stepped
      · split at stepped <;> cases stepped
        exact ⟨n, rfl, pages⟩
      · cases stepped
  | answered asker opened =>
      simp only [step] at stepped
      split at stepped <;> cases stepped
      refine ⟨n, rfl, ?_⟩
      rw [pages, filterMap_route_dialogs]
  | resetSent =>
      obtain ⟨rest, stack, popped, -⟩ := calm_resetSent inOrder stepped
      rw [stack] at pages
      refine ⟨n.pop, run_cons.mpr ⟨_, navigator_on pages, rfl⟩, ?_⟩
      rw [Navigation.State.pop, pages, popped]
      rfl
  | ok =>
      obtain ⟨dialogs, page, rest, layered⟩ := inOrder
      simp only [step] at stepped
      split at stepped
      · rename_i under stack
        cases stepped
        refine ⟨n, by simp only [gesture, stack]; rfl, ?_⟩
        rw [pages, State.pop, stack]
        rfl
      · rename_i under stack
        have tapped : gesture s .ok = some .signedUp := by simp only [gesture, stack]
        rw [stack, layered.under_signedUp stack] at pages
        cases stepped
        refine ⟨n.push .otpVerification, ?_, ?_⟩
        · rw [tapped]
          exact run_cons.mpr ⟨_, navigator_on pages, rfl⟩
        · rw [Navigation.State.push, State.push, State.pop, stack, layered.under_signedUp stack,
            pages]
          rfl
      · rename_i under stack
        have tapped : gesture s .ok = some .otpVerified := by simp only [gesture, stack]
        rw [stack, layered.under_accountLinked stack] at pages
        cases stepped
        refine ⟨n.pushReplacement .login, ?_, ?_⟩
        · rw [tapped]
          exact run_cons.mpr ⟨_, navigator_on pages, rfl⟩
        · rw [Navigation.State.pushReplacement, State.pushReplacement, State.pop, stack,
            layered.under_accountLinked stack, pages]
          rfl
      · cases stepped
  | back =>
      obtain ⟨dialogs, page, rest, layered⟩ := inOrder
      have whole := layered.whole
      cases dialogs with
      | cons d left =>
          have closes : gesture s .back = none := by simp only [gesture, whole]; rfl
          rw [closes]
          simp only [step] at stepped
          split at stepped <;> cases stepped
          · refine ⟨n, rfl, ?_⟩
            rw [pages, State.pop, whole]
            rfl
          · exact ⟨n, rfl, pages⟩
      | nil =>
          change s.stack = page :: rest at whole
          obtain ⟨r, routes⟩ := filterMap_route_page layered.isPage
          rw [gesture_back layered.isPage whole]
          have pages' := pages
          rw [whole, routes] at pages'
          cases rest with
          | nil =>
              simp only [step, whole, Option.some.injEq] at stepped
              subst stepped
              refine ⟨n, run_cons.mpr ⟨n, ?_, rfl⟩, pages⟩
              simp only [Navigation.step, pages', List.filterMap_nil]
          | cons next under =>
              have link := layered.below next List.mem_cons_self
              obtain ⟨r', routes'⟩ := filterMap_route_page link.isPage
              rw [routes'] at pages'
              simp only [step, whole, Option.some.injEq] at stepped
              subst stepped
              refine ⟨n.pop, run_cons.mpr ⟨n.pop, ?_, rfl⟩, ?_⟩
              · simp only [Navigation.step, pages']
              · rw [Navigation.State.pop, pages', State.pop, whole, List.tail_cons, List.tail_cons,
                  routes']

theorem calm_step (awaits : attended s e) (inOrder : InOrder s) (stepped : step s e = some t) :
    Calm t := by
  by_cases reset : e = .resetSent
  · subst reset
    obtain ⟨_, _, _, calm⟩ := calm_resetSent inOrder stepped
    exact calm
  · exact .inr (inOrder_step awaits (fun reset' => absurd reset' reset) inOrder stepped)

/-- As long as every answer is awaited, the pages on the stack are what the app's
    navigator has after some of its gestures. -/
theorem attended_run_is_navigation {es : List Event} (played : run step .init es = some s)
    (awaits : Meets step attended .init es) :
    ∃ ds m, run Navigation.step Navigation.State.init ds = some m ∧
      m.stack = s.stack.filterMap Screen.route := by
  have simulate : ∀ (s : State) (e : Event) (t : State) (n : Navigation.State), attended s e →
      Shows s n → step s e = some t → ∃ ds m, run Navigation.step n ds = some m ∧ Shows t m := by
    intro s e t n awaits shown stepped
    rcases shown.calm with ⟨empty, idle⟩ | inOrder
    · obtain rfl := step_empty empty idle stepped
      exact ⟨[], n, rfl, shown⟩
    · obtain ⟨m, moved, pages⟩ := shows_step awaits inOrder shown.pages stepped
      exact ⟨_, m, moved, calm_step awaits inOrder stepped, pages⟩
  have start : Shows .init Navigation.State.init := ⟨.inr inOrder_init, rfl⟩
  obtain ⟨ds, m, moved, shown⟩ := run_simulated simulate played awaits start
  exact ⟨ds, m, moved, shown.pages⟩

end Udhar.PasswordReset
