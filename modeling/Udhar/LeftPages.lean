import Udhar.Devices

/-! # Pages that logout leaves

Logout replaces the side menu alone, so the page that has opened the menu stays on the
stack and can be shown again. A user's debt can therefore be raised without the
password exactly as long as some device has a page of the user on its stack, or a
save of the user is on its way; and logging out never changes that.
-/

namespace Udhar.Devices

open Lib SignUp
open Navigation (Route UserPage)
open Readers (customAppBar navBarPage)

variable {s s' : State} {u : Uid}

/-- A bill of the user may be added before the user logs in again. -/
def CanBeBilled (s : State) (u : Uid) : Prop :=
  ∃ es t, run step s es = some t ∧ Meets step (fun t e => loggedIn t e ≠ some u) s es ∧
    ∃ k, ∃ x ∈ (t.db.bills u k).keys, x ∉ (s.db.bills u k).keys

/-- A bill of the user is being saved. -/
def Saving (s : Payments.State) (u : Uid) : Prop :=
  ∃ b ∈ s.saves, b.user = u ∧ b.stage = .pending

/-! ## No bill without a page -/

theorem saving_of_concat {saves : List Payments.BillSave} {user : Uid} {k : BillKind}
    {data : Fields} (other : user ≠ u)
    (here : ∃ b ∈ saves ++ [⟨user, k, data, .pending⟩], b.user = u ∧ b.stage = .pending) :
    ∃ b ∈ saves, b.user = u ∧ b.stage = .pending := by
  obtain ⟨b, member, mine, pending⟩ := here
  rcases List.mem_append.mp member with old | new
  · exact ⟨b, old, mine, pending⟩
  · obtain rfl := List.mem_singleton.mp new
    exact absurd mine other

/-- Only a save adds a bill, and only a form starts a save. -/
theorem payments_unbilled {s s' : Payments.State} {e : Payments.Event}
    (stepped : Payments.step s e = some s') (other : starts (.payments e) ≠ some u)
    (idle : ¬ Saving s u) :
    ¬ Saving s' u ∧ ∀ k, (s'.db.bills u k).keys = (s.db.bills u k).keys := by
  cases e with
  | openPage =>
      obtain rfl := Payments.step_openPage stepped
      exact ⟨idle, fun _ => rfl⟩
  | payNow =>
      obtain ⟨_, _, rfl⟩ := Payments.step_payNow stepped
      exact ⟨idle, fun _ => rfl⟩
  | paymentSuccess =>
      obtain ⟨_, _, _, _, _, _, rfl⟩ := Payments.step_paymentSuccess stepped
      exact ⟨idle, fun _ => rfl⟩
  | paymentError | externalWallet =>
      obtain ⟨_, _, _, rfl⟩ := Payments.close_eq_some stepped
      exact ⟨idle, fun _ => rfl⟩
  | fetch =>
      obtain ⟨_, _, _, _, _, _, _, rfl⟩ := Payments.step_fetch stepped
      exact ⟨idle, fun _ => rfl⟩
  | settle =>
      obtain ⟨t, _, _, _, _, _, _, advanced, rfl⟩ := Payments.step_settle stepped
      refine ⟨idle, fun k => ?_⟩
      cases Payments.Settlement.advance_move advanced with
      | record => rw [Database.bills, Database.docs_add_of_ne _ _ _ _ (by simp), Database.bills]
      | commit => exact Database.keys_updateDocs ..
      | read | reset | threw => rfl
  | validateCard user form =>
      rcases Payments.step_validateCard stepped with ⟨_, rfl⟩ | ⟨_, rfl⟩
      · exact ⟨idle, fun _ => rfl⟩
      · exact ⟨fun here => idle (saving_of_concat (fun same => other (congrArg some same)) here),
          fun _ => rfl⟩
  | submitRent user form =>
      rcases Payments.step_submitRent stepped with ⟨_, rfl⟩ | ⟨_, rfl⟩
      · exact ⟨idle, fun _ => rfl⟩
      · exact ⟨fun here => idle (saving_of_concat (fun same => other (congrArg some same)) here),
          fun _ => rfl⟩
  | save =>
      obtain ⟨b, _, b', found, advanced, rfl⟩ := Payments.step_save stepped
      have member := List.mem_of_getElem? found
      obtain ⟨pending, saved⟩ := Payments.BillSave.advance_cases advanced
      have apart : u ≠ b.user := fun mine => idle ⟨b, member, mine.symm, pending⟩
      constructor
      · rintro ⟨b'', inside, mine, waiting⟩
        rcases List.mem_or_eq_of_mem_set inside with old | rfl
        · exact idle ⟨b'', old, mine, waiting⟩
        · rcases saved with ⟨_, _, rfl⟩ | ⟨_, _, rfl⟩ <;> cases waiting
      · intro k
        rcases saved with ⟨_, rfl, _⟩ | ⟨_, rfl, _⟩
        · rw [Database.bills, Database.docs_add_of_ne _ _ _ _ (by simp [apart]), Database.bills]
        · rfl

theorem app_unbilled {s s' : App.State} {a : App.Event} (stepped : App.step s a = some s')
    (other : starts a ≠ some u) (idle : ¬ Saving s.payments u) :
    ¬ Saving s'.payments u ∧ ∀ k, (s'.db.bills u k).keys = (s.db.bills u k).keys := by
  rcases App.step_payments_cases stepped with ⟨p, rfl, taken⟩ | ⟨_, same | ⟨v, d, same⟩⟩
  · exact payments_unbilled taken other idle
  · simp only [App.State.db, same, implies_true, and_true]
    exact idle
  · simp only [App.State.db, same]
    exact ⟨idle, fun _ => rfl⟩

/-- No device has a page of the user, nothing is being saved, and no bill has been added. -/
structure Unbilled (db : Database) (u : Uid) (s : State) : Prop where
  offStack : ¬ s.OnStack u
  idle : ¬ Saving s.app.payments u
  keys : ∀ k, (s.db.bills u k).keys = (db.bills u k).keys

theorem Unbilled.step {db : Database} {e : Event} (unbilled : Unbilled db u s)
    (stepped : step s e = some s') (other : loggedIn s e ≠ some u) : Unbilled db u s' := by
  obtain ⟨offStack, idle, keys⟩ := unbilled
  have offStack' : ¬ s'.OnStack u := fun here =>
    (onStack_step stepped here).elim offStack other
  rcases step_app stepped with same | ⟨a, taken, starting⟩
  · refine ⟨offStack', same ▸ idle, ?_⟩
    rw [State.db, same]
    exact keys
  · obtain ⟨idle', keys'⟩ :=
      app_unbilled taken (fun start => offStack (starting u start)) idle
    exact ⟨offStack', idle', fun k => (keys' k).trans (keys k)⟩

/-! ## A bill from every page -/

/-- The navigator moves without a login, to a page that the one on top offers and that
    starts nothing. -/
def Quiet (db : Database) (nav : Navigation.State) (e : Navigation.Event) : Prop :=
  withoutLogin e = true ∧ opened e = none ∧ nav.stack.head?.all (offers db · e) = true

/-- Quiet moves of its navigator are moves of the device. -/
theorem run_navigate {d : ℕ} {nav nav' : Navigation.State} {es : List Navigation.Event}
    (played : run Navigation.step nav es = some nav')
    (silent : Meets Navigation.step (Quiet s.db) nav es) (device : s.devices[d]? = some nav) :
    run step s (es.map (.navigate d)) = some { s with devices := s.devices.set d nav' } := by
  induction es generalizing s nav with
  | nil =>
      cases played
      obtain ⟨_, rfl⟩ := List.getElem?_eq_some_iff.mp device
      rw [List.map_nil, run_nil, List.set_getElem_self]
  | cons e es ih =>
      obtain ⟨middle, moved, rest⟩ := run_cons.mp played
      obtain ⟨⟨free, nothing, offered⟩, later⟩ := silent
      have inside := (List.getElem?_eq_some_iff.mp device).1
      have first : step s (.navigate d e) =
          some { s with devices := s.devices.set d middle } := by
        simp only [step, free, device, offered, moved, nothing, Option.bind_eq_bind,
          Option.bind_some, guard, if_true, Option.pure_def, Option.elim_none]
      have next : (s.devices.set d middle)[d]? = some middle := List.getElem?_set_self inside
      have others := ih (s := { s with devices := s.devices.set d middle }) rest
        (later middle moved) next
      rw [List.set_set] at others
      exact run_cons.mpr ⟨_, first, others⟩

/-- Going back shows every page of a stack again. -/
theorem run_back {nav : Navigation.State} {above below : List Route} {r : Route}
    (stack : nav.stack = above ++ r :: below) :
    ∃ nav', run Navigation.step nav (List.replicate above.length .back) = some nav' ∧
      nav'.stack = r :: below := by
  induction above generalizing nav with
  | nil => exact ⟨nav, rfl, stack⟩
  | cons top above ih =>
      have popped : Navigation.step nav .back = some nav.pop := by
        cases above <;> simp only [Navigation.step, stack, List.cons_append, List.nil_append]
      have under : nav.pop.stack = above ++ r :: below := by
        rw [Navigation.State.pop, stack, List.cons_append, List.tail_cons]
      obtain ⟨nav', later, shown⟩ := ih under
      exact ⟨nav', run_cons.mpr ⟨_, popped, later⟩, shown⟩

theorem quiet_back (db : Database) (nav : Navigation.State) : Quiet db nav .back := by
  refine ⟨rfl, rfl, ?_⟩
  rw [Option.all_eq_true]
  intro r _
  unfold offers
  split <;> first
    | contradiction
    | rfl

/-- Where the side menu is built, the app bar is. -/
theorem bar_of_menu {document : Option Fields} (menu : (navBarPage document).isSome = true)
    (numberToString : ℚ → String) : (customAppBar numberToString document).isSome = true := by
  obtain ⟨bar, built⟩ := Option.isSome_iff_exists.mp menu
  obtain ⟨userData, rfl, rest⟩ := Option.bind_eq_some_iff.mp built
  obtain ⟨url, text, _⟩ := Option.bind_eq_some_iff.mp rest
  simp only [customAppBar, text, Option.bind_eq_bind, Option.bind_some, Option.isSome_some]

/-- From every page of a user two links at most lead to the form for a rent. -/
theorem run_to_addRent {db : Database} {nav : Navigation.State} {page : UserPage}
    {rest : List Route} (built : (navBarPage (db.users u)).isSome = true)
    (stack : nav.stack = .user u page :: rest) :
    ∃ es nav', run Navigation.step nav es = some nav' ∧
      Meets Navigation.step (Quiet db) nav es ∧
      nav'.stack.head? = some (.user u .addRent) := by
  have menu : ∀ {nav : Navigation.State} {rest : List Route},
      nav.stack = .user u .navBar :: rest →
      Navigation.step nav (.follow (.user u .addRent)) = some (nav.push (.user u .addRent)) ∧
        Quiet db nav (.follow (.user u .addRent)) := by
    intro nav rest stack
    refine ⟨Navigation.step_follow stack
      (List.mem_map_of_mem (show UserPage.addRent ∈ UserPage.navBar.links by decide)), rfl, rfl, ?_⟩
    rw [stack]
    exact built
  by_cases here : page = .navBar
  · subst here
    obtain ⟨moved, silent⟩ := menu stack
    exact ⟨[.follow (.user u .addRent)], _, run_cons.mpr ⟨_, moved, run_nil _⟩,
      ⟨silent, fun _ _ => trivial⟩, rfl⟩
  · have link : UserPage.navBar ∈ page.links := by
      cases page <;> first
        | exact absurd rfl here
        | decide
    have first := Navigation.step_follow stack (List.mem_map_of_mem link)
    have offered : Quiet db nav (.follow (.user u .navBar)) := by
      refine ⟨rfl, rfl, ?_⟩
      rw [stack, List.head?_cons, Option.all_some]
      have bar := bar_of_menu built fun _ => ""
      unfold offers
      split <;> simp_all
    have shown : (nav.push (.user u .navBar)).stack = .user u .navBar :: nav.stack := rfl
    obtain ⟨moved, silent⟩ := menu shown
    refine ⟨[.follow (.user u .navBar), .follow (.user u .addRent)], _,
      run_cons.mpr ⟨_, first, run_cons.mpr ⟨_, moved, run_nil _⟩⟩, ⟨offered, fun t opens => ?_⟩, rfl⟩
    obtain rfl := Option.some.inj (first.symm.trans opens)
    exact ⟨silent, fun _ _ => trivial⟩

/-- No user comes back where nobody logs in. -/
theorem meets_of_nobody {es : List Event} (nobody : ∀ e ∈ es, ∀ t, loggedIn t e = none) :
    Meets step (fun t e => loggedIn t e ≠ some u) s es := by
  apply Meets.of_events
  intro e member t here
  rw [nobody e member t] at here
  cases here

/-- A save that is resumed adds its bill. -/
theorem resume_save {i : ℕ} {b : Payments.BillSave} (found : s.app.payments.saves[i]? = some b)
    (pending : b.stage = .pending) :
    ∃ t, step s (.resume (.payments (.save i true))) = some t ∧
      ∃ x ∈ (t.db.bills b.user b.kind).keys, x ∉ (s.db.bills b.user b.kind).keys := by
  have advanced : b.advance s.app.payments.db true =
      some (s.db.add b.user (.bills b.kind) b.data, { b with stage := .done }) := by
    simp only [Payments.BillSave.advance, pending]
    rfl
  let t : State := { s with app := { s.app with payments := { s.app.payments with
    db := s.db.add b.user (.bills b.kind) b.data
    saves := s.app.payments.saves.set i { b with stage := .done } } } }
  refine ⟨t, ?_, s.db.store.nextId, ?_, s.db.nextId_absent b.user (.bills b.kind)⟩
  · simp only [step, resumes, App.step, Payments.step, found, advanced, Option.bind_eq_bind,
      Option.bind_some, guard, if_true, Option.pure_def, t]
  · have stored : (t.db.bills b.user b.kind).keys =
        (s.db.bills b.user b.kind).keys ++ [s.db.store.nextId] := by
      change ((s.db.add b.user (.bills b.kind) b.data).docs b.user (.bills b.kind)).keys = _
      rw [Database.docs_add_self, Collection.keys_insert]
    rw [stored]
    exact List.mem_append_right _ (List.mem_singleton_self _)

theorem canBeBilled_of_saving (saving : Saving s.app.payments u) : CanBeBilled s u := by
  obtain ⟨b, member, rfl, pending⟩ := saving
  obtain ⟨i, found⟩ := List.mem_iff_getElem?.mp member
  obtain ⟨t, resumed, added⟩ := resume_save found pending
  exact ⟨_, t, run_cons.mpr ⟨t, resumed, rfl⟩,
    meets_of_nobody (List.forall_mem_singleton.mpr fun _ => rfl), b.kind, added⟩

/-- A rent submitted on a device is added once its save is resumed. -/
theorem run_submitRent {d : ℕ} {nav : Navigation.State} (device : s.devices[d]? = some nav)
    (form : nav.stack.head? = some (.user u .addRent)) {rent : RentForm}
    (valid : rent.validate = true) :
    ∃ t, run step s [.gesture d (.payments (.submitRent u rent)),
        .resume (.payments (.save s.app.payments.saves.length true))] = some t ∧
      ∃ x ∈ (t.db.bills u .rents).keys, x ∉ (s.db.bills u .rents).keys := by
  let save : Payments.BillSave := ⟨u, .rents, rent.rentData, .pending⟩
  let saving : State := { s with app := { s.app with payments := { s.app.payments with
    saves := s.app.payments.saves ++ [save] } } }
  have submitted : step s (.gesture d (.payments (.submitRent u rent))) = some saving := by
    simp only [step, device, pageOf, form, App.step, Payments.step, valid, Option.bind_eq_bind,
      Option.bind_some, guard, if_true, Option.pure_def, saving, save]
  have waiting : saving.app.payments.saves[s.app.payments.saves.length]? = some save :=
    List.getElem?_concat_length
  obtain ⟨t, resumed, added⟩ := resume_save waiting rfl
  exact ⟨t, run_cons.mpr ⟨saving, submitted, run_cons.mpr ⟨t, resumed, run_nil t⟩⟩, added⟩

theorem page_of_owner {r : Route} (owner : r.owner = some (.user u)) :
    ∃ page, r = .user u page := by
  cases r with
  | user v page =>
      cases owner
      exact ⟨page, rfl⟩
  | _ => cases owner

theorem canBeBilled_of_onStack (built : (navBarPage (s.db.users u)).isSome = true)
    (here : s.OnStack u) : CanBeBilled s u := by
  obtain ⟨nav, shown, r, inside, owner⟩ := here
  obtain ⟨page, rfl⟩ := page_of_owner owner
  obtain ⟨d, device⟩ := List.mem_iff_getElem?.mp shown
  have stays := (List.getElem?_eq_some_iff.mp device).1
  obtain ⟨above, below, stack⟩ := List.append_of_mem inside
  -- The device goes back to the page and on to the form.
  obtain ⟨nav₁, back, top⟩ := run_back stack
  obtain ⟨links, nav₂, linked, silent, form⟩ := run_to_addRent built top
  let s₁ : State := { s with devices := s.devices.set d nav₁ }
  let s₂ : State := { s₁ with devices := s₁.devices.set d nav₂ }
  have returned : run step s _ = some s₁ :=
    run_navigate back (.of_events fun e member t =>
      List.eq_of_mem_replicate member ▸ quiet_back s.db t) device
  have followed : run step s₁ (links.map (.navigate d)) = some s₂ :=
    run_navigate linked silent (List.getElem?_set_self stays)
  have there : s₂.devices[d]? = some nav₂ :=
    List.getElem?_set_self (by rwa [List.length_set])
  obtain ⟨t, saved, added⟩ :=
    run_submitRent there form (show RentForm.validate ⟨"Rent", "1", ""⟩ = true by decide)
  refine ⟨_, t, run_append.mpr ⟨s₁, returned, run_append.mpr ⟨s₂, followed, saved⟩⟩,
    meets_of_nobody ?_, .rents, added⟩
  have moves : ∀ es : List Navigation.Event, ∀ e ∈ es.map (Event.navigate d), ∀ t,
      loggedIn t e = none := fun es => List.forall_mem_map.mpr fun _ _ _ => rfl
  refine List.forall_mem_append.mpr ⟨moves _, List.forall_mem_append.mpr ⟨moves _, ?_⟩⟩
  exact List.forall_mem_cons.mpr ⟨fun _ => rfl, List.forall_mem_singleton.mpr fun _ => rfl⟩

/-- A bill of a user whose side menu can be built can be added before the user logs in
    again exactly if a device has a page of the user on its stack, whoever is logged in
    there, or a save of the user is on its way. -/
theorem can_be_billed_iff (built : (navBarPage (s.db.users u)).isSome = true) :
    CanBeBilled s u ↔ s.OnStack u ∨ Saving s.app.payments u := by
  constructor
  · rintro ⟨es, t, played, meets, k, x, added, absent⟩
    by_contra neither
    obtain ⟨offStack, idle⟩ := not_or.mp neither
    have unbilled : Unbilled s.db u t :=
      run_invariant_of_meets (fun _ _ _ other unbilled stepped => unbilled.step stepped other)
        played meets ⟨offStack, idle, fun _ => rfl⟩
    rw [unbilled.keys] at added
    exact absent added
  · rintro (here | saving)
    · exact canBeBilled_of_onStack built here
    · exact canBeBilled_of_saving saving

/-- Ravi has an account and a profile as well. -/
def ravi : SignUpForm := ⟨"Ravi", "ravi@example.com", "9123456780", "secret2"⟩

def twoAccounts : Auth := App.oneAccount.register ravi

def bothStored : Database := ashaStored.setUser 1 ravi.profileData

/-- Asha logs in and out, and Ravi logs in on her device. -/
def raviAfterAsha : List Event :=
  [.navigate 0 .splashOver, .login 0 "asha@example.com" "secret1" none,
    .navigate 0 (.follow (.user 0 .navBar)), .navigate 0 .logout,
    .login 0 "ravi@example.com" "secret2" none]

/-- Before the first login nobody can add a bill for Asha; while Ravi is logged in on the
    device that she has logged out on, somebody can. -/
theorem billed_below_another_user :
    ¬ CanBeBilled (.init twoAccounts bothStored 1) 0 ∧
    ∃ s, run step (.init twoAccounts bothStored 1) raviAfterAsha = some s ∧
      s.devices.map (·.stack) = [[.user 1 .home, .user 0 .home]] ∧ CanBeBilled s 0 := by
  constructor
  · have nobody : ¬ (.init twoAccounts bothStored 1 : State).OnStack 0 :=
      (Untouched.init twoAccounts bothStored 1 0).offStack
    rw [can_be_billed_iff (by decide +kernel)]
    rintro (here | ⟨_, none, _⟩)
    · exact nobody here
    · cases none
  · obtain ⟨s, played, routes, built⟩ := run_reaches step (.init twoAccounts bothStored 1)
      raviAfterAsha (P := fun s => s.devices.map (·.stack) = [[.user 1 .home, .user 0 .home]] ∧
        (navBarPage (s.db.users 0)).isSome = true) (by decide +kernel)
    refine ⟨s, played, routes, (can_be_billed_iff built).mpr (.inl ?_)⟩
    obtain ⟨nav, shown, stack⟩ := List.mem_map.mp
      (show [.user 1 .home, .user 0 .home] ∈ s.devices.map (·.stack) by rw [routes]; simp)
    refine ⟨nav, shown, .user 0 .home, ?_, rfl⟩
    rw [stack]
    simp

/-! ## Logout -/

/-- Every side menu of a user lies on a page of the user. -/
def Backed : List Route → Prop
  | [] => True
  | above :: rest =>
      (∀ u, above = .user u .navBar → ∃ under ∈ rest.head?, under.owner = some (.user u)) ∧
        Backed rest

theorem Backed.tail {stack : List Route} (backed : Backed stack) : Backed stack.tail := by
  cases stack with
  | nil => trivial
  | cons => exact backed.2

/-- Any page may come on top but the menu. -/
theorem Backed.cons {r : Route} {rest : List Route} (other : ∀ u, r ≠ .user u .navBar)
    (backed : Backed rest) : Backed (r :: rest) :=
  ⟨fun u menu => absurd menu (other u), backed⟩

theorem backed_step {nav nav' : Navigation.State} {e : Navigation.Event}
    (backed : Backed nav.stack) (stepped : Navigation.step nav e = some nav') :
    Backed nav'.stack := by
  cases Navigation.step_move stepped with
  | stay => exact backed
  | @push _ top r rest _ stack link =>
      rw [Navigation.State.push]
      refine ⟨fun u menu => ⟨top, ?_, ?_⟩, backed⟩
      · rw [stack]
        rfl
      · rw [← link, menu]
        rfl
  | replace _ _ _ nobody =>
      refine .cons (fun u menu => ?_) backed.tail
      rw [menu] at nobody
      cases nobody
  | login p => exact .cons (fun u menu => by cases p <;> cases menu) backed.tail
  | logout => exact .cons (fun _ menu => nomatch menu) backed.tail
  | pop => exact backed.tail

theorem backed_reply {nav nav' : Navigation.State} {e : Navigation.Event}
    (backed : Backed nav.stack) (replied : nav.reply e = some nav') : Backed nav'.stack := by
  obtain ⟨⟨page, _, answers⟩, rfl⟩ := Navigation.reply_eq_some replied
  cases e with
  | login p => exact .cons (fun u menu => by cases p <;> cases menu) backed.tail
  | signedUp => exact .cons (fun _ menu => nomatch menu) backed
  | otpVerified | logout => exact .cons (fun _ menu => nomatch menu) backed.tail
  | resetSent => exact backed.tail
  | follow target =>
      obtain ⟨_, ⟨_, rfl⟩ | ⟨_, rfl⟩⟩ := Navigation.follow_of_answers answers <;>
        exact .cons (fun _ menu => nomatch menu) backed
  | splashOver | loginError | openSignUp | openForgotPassword | back => exact backed

/-- On no device a side menu lies on anything but a page of its user. -/
def MenusBacked (s : State) : Prop := ∀ nav ∈ s.devices, Backed nav.stack

theorem menusBacked_init (auth : Auth) (db : Database) (devices : ℕ) :
    MenusBacked (.init auth db devices) := by
  intro nav member
  obtain rfl := List.eq_of_mem_replicate member
  exact .cons (fun _ menu => nomatch menu) trivial

theorem menusBacked_step {e : Event} (backed : MenusBacked s) (stepped : step s e = some s') :
    MenusBacked s' := by
  have moves : ∀ {d : ℕ} {nav nav' : Navigation.State} {e : Navigation.Event},
      s.devices[d]? = some nav → Moved nav e nav' →
      ∀ shown ∈ s.devices.set d nav', Backed shown.stack := by
    intro d nav nav' e device moved
    have before := backed nav (List.mem_of_getElem? device)
    exact forall_mem_set backed (moved.elim (backed_step before) (backed_reply before))
  cases e with
  | login =>
      obtain ⟨_, _, device, moved, rfl⟩ := step_login stepped
      exact moves device moved
  | navigate =>
      obtain ⟨_, _, _, device, _, moved, devices, _⟩ := step_navigate stepped
      rw [MenusBacked, devices]
      exact moves device (.inl moved)
  | reply =>
      obtain ⟨_, _, _, device, replied, rfl⟩ := step_reply stepped
      exact moves device (.inr replied)
  | gesture =>
      obtain ⟨_, _, _, _, _, _, _, rfl⟩ := step_gesture stepped
      exact backed
  | resume =>
      obtain ⟨_, _, _, rfl⟩ := step_resume stepped
      exact backed

/-- Logging out does not end anything: whatever has happened before, after a user has
    logged out on a device a bill of the user can still be added without a login. -/
theorem can_be_billed_after_logout {auth : Auth} {db : Database} {devices d : ℕ}
    {es : List Event} {nav : Navigation.State}
    (played : run step (.init auth db devices) es = some s) (device : s.devices[d]? = some nav)
    (menu : nav.stack.head? = some (.user u .navBar))
    (stepped : step s (.navigate d .logout) = some s') : CanBeBilled s' u := by
  have backed : MenusBacked s :=
    run_invariant (fun _ _ _ => menusBacked_step) played (menusBacked_init auth db devices)
  obtain ⟨rest, stack⟩ := List.head?_eq_some_iff.mp menu
  have lies := backed nav (List.mem_of_getElem? device)
  rw [stack] at lies
  obtain ⟨under, first, owner⟩ := lies.1 u rfl
  have below : under ∈ rest := List.mem_of_head? first
  obtain ⟨nav₀, nav', _, device₀, offered, moved, left, ⟨_, same⟩ | ⟨_, opens, _⟩⟩ :=
    step_navigate stepped
  · obtain rfl := Option.some.inj (device₀.symm.trans device)
    have built : (navBarPage (s.db.users u)).isSome = true := by
      rw [menu] at offered
      exact offered
    have kept : nav'.stack = .login :: rest := by
      simp only [Navigation.step, stack] at moved
      obtain rfl := Option.some.inj moved
      simp only [Navigation.State.pushReplacement, stack, List.tail_cons]
    apply canBeBilled_of_onStack
    · rw [State.db, same]
      exact built
    · refine ⟨nav', ?_, under, ?_, owner⟩
      · rw [left]
        exact List.mem_of_getElem?
          (List.getElem?_set_self (List.getElem?_eq_some_iff.mp device).1)
      · rw [kept]
        exact List.mem_cons_of_mem _ below
  · cases opens

/-- Asha logs in and opens the side menu. -/
def menuOpen : List Event := rentAfterLogout.take 3

theorem rent_can_be_added_after_logout : ∃ s s',
    run step (.init App.oneAccount ashaStored 1) menuOpen = some s ∧
    step s (.navigate 0 .logout) = some s' ∧ CanBeBilled s' 0 := by
  obtain ⟨s, played, shown, left⟩ := run_reaches step (.init App.oneAccount ashaStored 1) menuOpen
    (P := fun s => s.devices[0]?.bind (·.stack.head?) = some (.user 0 .navBar) ∧
      (step s (.navigate 0 .logout)).isSome = true) (by decide +kernel)
  obtain ⟨nav, device, menu⟩ := Option.bind_eq_some_iff.mp shown
  obtain ⟨s', stepped⟩ := Option.isSome_iff_exists.mp left
  exact ⟨s, s', played, stepped, can_be_billed_after_logout played device menu stepped⟩

end Udhar.Devices
