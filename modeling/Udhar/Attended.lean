import Mathlib.Data.Option.Basic
import Udhar.Navigation

/-! # Answers that are awaited

A gesture that awaits something is over only once it is there, and until then every
other gesture is possible. What comes late moves the navigator whatever is on top by
then, as long as the page that asked is still on the stack. Where nothing is pressed
while an answer is awaited, the navigator goes the way of the gestures alone.
-/

namespace Udhar.Navigation

open Lib

/-! ## Answers -/

/-- What a page may do to the navigator once what it awaits is there; the admin's login
    awaits nothing. The dialog after a sign-up or a verification is part of the answer. -/
def Route.answers : Route → Event → Bool
  | .login, .login (.user _) | .login, .loginError => true
  | .signUp, .signedUp => true
  | .otpVerification, .otpVerified => true
  | .forgotPassword, .resetSent => true
  | .user _ .navBar, .logout | .admin .adminNav, .logout => true
  | .user u .addCards, .follow target => target = .user u .displayCards
  | .user u .addRent, .follow target => target = .user u .viewRent
  | _, _ => false

/-- The pages that may await something before they move the navigator. -/
def Route.asks : Route → Bool
  | .login | .signUp | .otpVerification | .forgotPassword | .admin .adminNav => true
  | .user _ page => page ∈ [.navBar, .addCards, .addRent]
  | _ => false

/-- What an answer does, whatever is on top. -/
def State.answer (s : State) : Event → State
  | .login p => { s.pushReplacement p.home with lastAuth := some (.login p) }
  | .signedUp => s.push .otpVerification
  | .otpVerified => s.pushReplacement .login
  | .resetSent => s.pop
  | .follow target => s.push target
  | .logout => { s.pushReplacement .login with lastAuth := some .logout, session := 1 }
  | _ => s

/-- An answer to a page that is on the stack. -/
def State.reply (s : State) (e : Event) : Option State :=
  if s.stack.any (·.answers e) then some (s.answer e) else none

variable {s s' : State} {e : Event} {page : Route}

theorem on_top {r : Route} {rest : List Route} (stack : s.stack = r :: rest) (next : State) :
    s.on r next = some next := by
  rw [State.on, stack, List.head?_cons, if_pos rfl]

theorem step_follow {r target : Route} {rest : List Route} (stack : s.stack = r :: rest)
    (link : target ∈ r.links) : step s (.follow target) = some (s.push target) := by
  simp only [step, stack, link, if_true]

/-- The pages that an answer pushes. -/
theorem follow_of_answers {target : Route} (answers : page.answers (.follow target) = true) :
    ∃ u, page = .user u .addCards ∧ target = .user u .displayCards ∨
      page = .user u .addRent ∧ target = .user u .viewRent := by
  cases page with
  | user u page =>
      cases page with
      | addCards => exact ⟨u, .inl ⟨rfl, of_decide_eq_true answers⟩⟩
      | addRent => exact ⟨u, .inr ⟨rfl, of_decide_eq_true answers⟩⟩
      | _ => cases answers
  | admin page => cases page <;> cases answers
  | splash | login | signUp | otpVerification | forgotPassword => cases answers

/-- They have a link as well. -/
theorem link_of_answers {target : Route} (answers : page.answers (.follow target) = true) :
    target ∈ page.links := by
  obtain ⟨u, ⟨rfl, rfl⟩ | ⟨rfl, rfl⟩⟩ := follow_of_answers answers
  · exact List.mem_map_of_mem (by decide)
  · exact List.mem_map_of_mem (by decide)

/-- To the page on top the answer is the gesture. -/
theorem step_of_answers {rest : List Route} (stack : s.stack = page :: rest)
    (answers : page.answers e = true) : step s e = some (s.answer e) := by
  unfold Route.answers at answers
  split at answers <;> first
    | cases answers; done
    -- the screens around login
    | exact on_top stack _
    -- the pages after an add
    | exact step_follow stack (link_of_answers answers)
    -- logout
    | simp only [step, stack, State.answer]

theorem reply_eq_some (replied : s.reply e = some s') :
    (∃ page ∈ s.stack, page.answers e = true) ∧ s' = s.answer e := by
  unfold State.reply at replied
  split at replied
  · rename_i asked
    exact ⟨List.any_eq_true.mp asked, (Option.some.inj replied).symm⟩
  · cases replied

/-! ## Asking -/

/-- A navigator, and the pages that wait for an answer. -/
structure Waiting where
  nav : State
  pending : List Route

namespace Waiting

def init : Waiting := ⟨.init, []⟩

inductive Event where
  | gesture (e : Navigation.Event)
  | ask
  | answer (page : Route) (e : Option Navigation.Event)

/-- Take one step; `none` when the event cannot happen. An answer that moves the navigator
    needs its page, and one that does not, such as a failure, does not. -/
def step (w : Waiting) : Event → Option Waiting
  | .gesture e => do
      guard (!w.nav.stack.head?.any (·.answers e))
      let nav ← Navigation.step w.nav e
      some { w with nav }
  | .ask => do
      let top ← w.nav.stack.head?
      guard top.asks
      some { w with pending := top :: w.pending }
  | .answer page e => do
      guard (page ∈ w.pending ∧ e.all fun e => page ∈ w.nav.stack ∧ page.answers e)
      some ⟨e.elim w.nav w.nav.answer, w.pending.erase page⟩

/-- Nothing is pressed while an answer is awaited. -/
def attended (w : Waiting) : Event → Bool
  | .answer _ _ => true
  | _ => w.pending.isEmpty

/-- The state of the navigator, and at most the page on top waits. -/
def Shows (w : Waiting) (s : State) : Prop :=
  w.nav = s ∧ ∀ page ∈ w.pending, w.pending = [page] ∧ s.stack.head? = some page

variable {w w' : Waiting} {e : Event}

theorem step_gesture {e : Navigation.Event} (stepped : step w (.gesture e) = some w') :
    ∃ nav, Navigation.step w.nav e = some nav ∧ w' = { w with nav } := by
  obtain ⟨_, _, rest⟩ := Option.bind_eq_some_iff.mp stepped
  obtain ⟨nav, moved, rest⟩ := Option.bind_eq_some_iff.mp rest
  exact ⟨nav, moved, (Option.some.inj rest).symm⟩

theorem step_ask (stepped : step w .ask = some w') :
    ∃ top, w.nav.stack.head? = some top ∧ w' = { w with pending := top :: w.pending } := by
  obtain ⟨top, shown, rest⟩ := Option.bind_eq_some_iff.mp stepped
  obtain ⟨_, _, rest⟩ := Option.bind_eq_some_iff.mp rest
  exact ⟨top, shown, (Option.some.inj rest).symm⟩

theorem step_answer {page : Route} {e : Option Navigation.Event}
    (stepped : step w (.answer page e) = some w') :
    page ∈ w.pending ∧ (∀ move, e = some move → page.answers move = true) ∧
      w' = ⟨e.elim w.nav w.nav.answer, w.pending.erase page⟩ := by
  obtain ⟨_, guarded, rest⟩ := Option.bind_eq_some_iff.mp stepped
  obtain ⟨asked, answers⟩ := (Option.guard_eq_some' _).mp guarded
  refine ⟨asked, fun move some => ?_, (Option.some.inj rest).symm⟩
  rw [some, Option.all_some, decide_eq_true_eq] at answers
  exact answers.2

theorem pending_of_attended (shows : w.Shows s) (idle : w.pending.isEmpty = true) : w = ⟨s, []⟩ := by
  obtain ⟨rfl, -⟩ := shows
  rw [← List.isEmpty_iff.mp idle]

theorem shows_idle (s : State) : Shows ⟨s, []⟩ s := ⟨rfl, fun _ none => nomatch none⟩

/-- An attended step is a gesture of the navigator or nothing to it. -/
theorem gesture_of_step {s : State} (calm : attended w e = true) (shows : w.Shows s)
    (stepped : step w e = some w') :
    ∃ es s', run Navigation.step s es = some s' ∧ w'.Shows s' := by
  cases e with
  | gesture e =>
      obtain rfl := pending_of_attended shows calm
      obtain ⟨nav, moved, rfl⟩ := step_gesture stepped
      exact ⟨[e], nav, run_cons.mpr ⟨nav, moved, rfl⟩, shows_idle nav⟩
  | ask =>
      obtain rfl := pending_of_attended shows calm
      obtain ⟨top, shown, rfl⟩ := step_ask stepped
      refine ⟨[], s, rfl, rfl, fun page asked => ?_⟩
      obtain rfl := List.mem_singleton.mp asked
      exact ⟨rfl, shown⟩
  | answer page e =>
      obtain ⟨asked, answers, rfl⟩ := step_answer stepped
      obtain ⟨rfl, waits⟩ := shows
      obtain ⟨alone, top⟩ := waits page asked
      rw [alone, List.erase_cons_head]
      cases e with
      | none => exact ⟨[], w.nav, rfl, shows_idle w.nav⟩
      | some e =>
          obtain ⟨rest, stack⟩ := List.head?_eq_some_iff.mp top
          have moved := step_of_answers stack (answers e rfl)
          exact ⟨[e], w.nav.answer e, run_cons.mpr ⟨_, moved, rfl⟩, shows_idle _⟩

theorem asks_of_answers {page : Route} {e : Navigation.Event} (answers : page.answers e = true) :
    page.asks = true := by
  unfold Route.answers at answers
  split at answers <;> first
    | rfl
    | cases answers

/-- A gesture of the navigator is one step, or a question and its answer. -/
theorem step_of_gesture {s s' : State} {e : Navigation.Event}
    (moved : Navigation.step s e = some s') :
    ∃ es, run (restrict step fun w e => attended w e) ⟨s, []⟩ es = some ⟨s', []⟩ := by
  by_cases awaited : s.stack.head?.any (·.answers e) = true
  · obtain ⟨top, shown, answers⟩ := (Option.any_eq_true _ _).mp awaited
    obtain ⟨rest, stack⟩ := List.head?_eq_some_iff.mp shown
    obtain rfl := Option.some.inj ((step_of_answers stack answers).symm.trans moved)
    have inside : top ∈ s.stack := List.mem_of_head? shown
    have asked : step ⟨s, []⟩ .ask = some ⟨s, [top]⟩ := by
      simp only [step, shown, asks_of_answers answers, Option.bind_eq_bind, Option.bind_some,
        guard, if_true, Option.pure_def]
    have answered : step ⟨s, [top]⟩ (.answer top (some e)) = some ⟨s.answer e, []⟩ := by
      simp [step, inside, answers]
    refine ⟨[.ask, .answer top (some e)], run_restrict.mpr ⟨?_, ?_⟩⟩
    · exact run_cons.mpr ⟨_, asked, run_cons.mpr ⟨_, answered, rfl⟩⟩
    · exact ⟨rfl, fun _ _ => ⟨rfl, fun _ _ => trivial⟩⟩
  · have taken : step ⟨s, []⟩ (.gesture e) = some ⟨s', []⟩ := by
      simp [step, awaited, moved]
    refine ⟨[.gesture e], run_restrict.mpr ⟨run_cons.mpr ⟨_, taken, rfl⟩, rfl, fun _ _ => trivial⟩⟩

/-- In the runs in which nothing is pressed while an answer is awaited, the navigator is
    where gestures alone can bring it. -/
theorem attended_reaches_iff (s : State) :
    (∃ es w, run step init es = some w ∧ Meets step (fun w e => attended w e) init es ∧
      w.nav = s) ↔ ∃ es, run Navigation.step .init es = some s := by
  constructor
  · rintro ⟨es, w, played, calm, rfl⟩
    have simulate : ∀ w e w' s, attended w e = true → w.Shows s → step w e = some w' →
        ∃ es s', run Navigation.step s es = some s' ∧ w'.Shows s' :=
      fun _ _ _ _ calm shows stepped => gesture_of_step calm shows stepped
    obtain ⟨es', s, moved, shows⟩ := run_simulated simulate played calm (shows_idle .init)
    exact ⟨es', shows.1 ▸ moved⟩
  · rintro ⟨es, moved⟩
    have simulate : ∀ s e s' w, True → w = ⟨s, []⟩ → Navigation.step s e = some s' →
        ∃ es w', run (restrict step fun w e => attended w e) w es = some w' ∧ w' = ⟨s', []⟩ := by
      rintro s e s' _ - rfl moved
      obtain ⟨es, played⟩ := step_of_gesture moved
      exact ⟨es, _, played, rfl⟩
    obtain ⟨es', w, played, rfl⟩ :=
      run_simulated simulate moved (.of_events fun _ _ _ => trivial) rfl
    obtain ⟨played, calm⟩ := run_restrict.mp played
    exact ⟨es', _, played, calm, rfl⟩

end Waiting

end Udhar.Navigation
