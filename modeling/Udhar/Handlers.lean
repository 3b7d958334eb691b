import Udhar.App
import Udhar.Lib.Descent
import Udhar.Payments.Enabled

/-! # Handlers come to rest

Every asynchronous handler of the app awaits a bounded number of remote calls, and
no handler waits for another one. So whatever the calls come to, the app is at rest
after finitely many of them, if nobody presses anything in the meantime.
-/

namespace Udhar.App

open Lib SignUp EditProfile Payments

/-! ## What is left to do -/

/-- How often a handler can still be resumed at most. -/
def fetchLeft (f : Fetch) : ℕ :=
  match f.stage with
  | .readUser => 4
  | .readCards _ => 3
  | .readRents _ _ => 2
  | .setState _ _ _ => 1
  | .done | .threw => 0

def settlementLeft (t : Settlement) : ℕ :=
  match t.stage with
  | .record => 6
  | .readCards => 5
  | .commitCards _ => 4
  | .readRents => 3
  | .commitRents _ => 2
  | .setState => 1
  | .done | .threw => 0

def saveLeft (b : BillSave) : ℕ :=
  match b.stage with
  | .pending => 1
  | .done | .threw => 0

def signUpLeft (r : SignUpRun) : ℕ :=
  match r.stage with
  | .createUser => 2
  | .set _ => 1
  | .shown _ => 0

def loadLeft (p : EditProfilePage) : ℕ :=
  match p.page.load with
  | .reading => 1
  | .done | .threw => 0

def profileSaveLeft (r : ProfileSave) : ℕ :=
  match r.stage with
  | .uploadImage => 2
  | .update _ => 1
  | .done | .threw => 0

/-- How often some handler can still be resumed at most. -/
def State.left (s : State) : ℕ :=
  (s.payments.fetches.map fetchLeft).sum + (s.payments.settlements.map settlementLeft).sum +
    (s.payments.saves.map saveLeft).sum + (s.signUps.map signUpLeft).sum +
    (s.editPages.map loadLeft).sum + (s.profileSaves.map profileSaveLeft).sum

/-- A handler that may be suspended. -/
inductive Handler where
  | fetch (index : ℕ)
  | settlement (index : ℕ)
  | save (index : ℕ)
  | signUp (index : ℕ)
  | load (index : ℕ)
  | profileSave (index : ℕ)

/-- The handler has been started, and has neither completed nor thrown. -/
def State.suspended (s : State) : Handler → Bool
  | .fetch i => s.payments.fetches[i]?.any (0 < fetchLeft ·)
  | .settlement i => s.payments.settlements[i]?.any (0 < settlementLeft ·)
  | .save i => s.payments.saves[i]?.any (0 < saveLeft ·)
  | .signUp i => s.signUps[i]?.any (0 < signUpLeft ·)
  | .load i => s.editPages[i]?.any (0 < loadLeft ·)
  | .profileSave i => s.profileSaves[i]?.any (0 < profileSaveLeft ·)

/-- The handler that an event resumes. -/
def Event.handler : Event → Option Handler
  | .payments (.fetch i _) => some (.fetch i)
  | .payments (.settle i _) => some (.settlement i)
  | .payments (.save i _) => some (.save i)
  | .resumeSignUp i _ => some (.signUp i)
  | .edit i (.fetchUserData _) => some (.load i)
  | .resumeSave i _ => some (.profileSave i)
  | _ => none

/-- Resume a handler where its remote call succeeds. -/
def Handler.resume : Handler → Event
  | .fetch i => .payments (.fetch i true)
  | .settlement i => .payments (.settle i true)
  | .save i => .payments (.save i true)
  | .signUp i => .resumeSignUp i none
  | .load i => .edit i (.fetchUserData true)
  | .profileSave i => .resumeSave i (some "")

/-! ## Every resumption gets nearer to the end -/

theorem fetchLeft_lt {db : Database} {page page' : PaymentForm} {f f' : Fetch} {ok : Bool}
    (advanced : f.advance db page ok = some (f', page')) : fetchLeft f' < fetchLeft f := by
  unfold Fetch.advance at advanced
  split at advanced <;> grind [fetchLeft]

theorem settlementLeft_lt {db db' : Database} {page page' : PaymentForm} {t t' : Settlement}
    {ok : Bool} (advanced : t.advance db page ok = some (db', page', t')) :
    settlementLeft t' < settlementLeft t := by
  unfold Settlement.advance Settlement.commitPaid at advanced
  split at advanced <;> grind [settlementLeft]

theorem saveLeft_lt {db db' : Database} {b b' : BillSave} {ok : Bool}
    (advanced : b.advance db ok = some (db', b')) : saveLeft b' < saveLeft b := by
  obtain ⟨pending, ⟨_, _, rfl⟩ | ⟨_, _, rfl⟩⟩ := BillSave.advance_cases advanced <;>
    simp [saveLeft, pending]

theorem signUpLeft_lt {auth auth' : Auth} {db db' : Database} {r r' : SignUpRun}
    {failure : Option CallError} (advanced : r.advance auth db failure = some (auth', db', r')) :
    signUpLeft r' < signUpLeft r := by
  unfold SignUpRun.advance at advanced
  split at advanced <;> grind [signUpLeft]

theorem profileSaveLeft_lt {db db' : Database} {r r' : ProfileSave} {result : Option String}
    (advanced : r.advance db result = some (db', r')) : profileSaveLeft r' < profileSaveLeft r := by
  unfold ProfileSave.advance at advanced
  split at advanced <;> grind [profileSaveLeft]

theorem assign_load (d : Fields) (fields : List Field) (page : Page) :
    (page.assign d fields).load ≠ .reading := by
  induction fields generalizing page with
  | nil =>
      unfold Page.assign
      split <;> simp
  | cons field fields ih =>
      unfold Page.assign
      split
      · exact ih _
      · simp

theorem loadLeft_lt {stored : Option Fields} {edited : EditProfilePage} {page : Page} {ok : Bool}
    (loaded : EditProfile.step stored edited.page (.fetchUserData ok) = some page) :
    loadLeft { edited with page } < loadLeft edited := by
  simp only [EditProfile.step] at loaded
  split at loaded
  swap
  · cases loaded
  rename_i reading
  have ended : page.load ≠ .reading := by
    obtain rfl := Option.some.inj loaded
    cases ok with
    | false => simp
    | true =>
        cases stored with
        | none => simp [Page.fetched]
        | some d => exact assign_load d _ _
  have nothing : loadLeft { edited with page } = 0 := by
    unfold loadLeft
    split
    · rename_i still
      exact absurd still ended
    all_goals rfl
  rw [nothing, loadLeft, reading]
  exact Nat.zero_lt_one

variable {s s' : State}

theorem left_step {e : Event} {h : Handler} (resumes : e.handler = some h)
    (stepped : step s e = some s') : s'.left < s.left := by
  unfold State.left
  cases e with
  | payments e =>
      obtain ⟨payments, taken, rfl⟩ := App.step_payments stepped
      cases e with
      | fetch =>
          obtain ⟨_, _, _, _, found, _, advanced, rfl⟩ := Payments.step_fetch taken
          have lower := sum_map_set_lt found (fetchLeft_lt advanced)
          dsimp only
          omega
      | settle =>
          obtain ⟨_, _, _, _, _, found, _, advanced, rfl⟩ := Payments.step_settle taken
          have lower := sum_map_set_lt found (settlementLeft_lt advanced)
          dsimp only
          omega
      | save =>
          obtain ⟨_, _, _, found, advanced, rfl⟩ := Payments.step_save taken
          have lower := sum_map_set_lt found (saveLeft_lt advanced)
          dsimp only
          omega
      | _ => cases resumes
  | resumeSignUp i failure =>
      obtain ⟨r, found, rest⟩ := Option.bind_eq_some_iff.mp stepped
      obtain ⟨⟨auth', db', r'⟩, advanced, rest⟩ := Option.bind_eq_some_iff.mp rest
      obtain rfl := Option.some.inj rest
      have lower := sum_map_set_lt found (signUpLeft_lt advanced)
      simp only [State.withDb]
      omega
  | edit i e =>
      cases e with
      | fetchUserData ok =>
          obtain ⟨edited, found, rest⟩ := Option.bind_eq_some_iff.mp stepped
          obtain ⟨page, loaded, rest⟩ := Option.bind_eq_some_iff.mp rest
          obtain rfl := Option.some.inj rest
          have lower := sum_map_set_lt found (loadLeft_lt loaded)
          dsimp only
          omega
      | _ => cases resumes
  | resumeSave i result =>
      obtain ⟨r, db', r', found, advanced, rfl⟩ := App.step_resumeSave stepped
      have lower := sum_map_set_lt found (profileSaveLeft_lt advanced)
      simp only [State.withDb]
      omega
  | _ => cases resumes

/-! ## No handler waits for another -/

theorem fetch_advances (db : Database) (page : PaymentForm) {f : Fetch} (more : 0 < fetchLeft f) :
    (f.advance db page true).isSome = true := by
  unfold Fetch.advance
  split <;> first
    | grind
    | simp_all [fetchLeft]

theorem settlement_advances (db : Database) (page : PaymentForm) {t : Settlement}
    (more : 0 < settlementLeft t) : (t.advance db page true).isSome = true := by
  unfold Settlement.advance
  split <;> simp_all [settlementLeft]

theorem save_advances (db : Database) {b : BillSave} (more : 0 < saveLeft b) :
    (b.advance db true).isSome = true := by
  unfold BillSave.advance
  split <;> simp_all [saveLeft]

theorem signUp_advances (auth : Auth) (db : Database) {r : SignUpRun} (more : 0 < signUpLeft r) :
    (r.advance auth db none).isSome = true := by
  unfold SignUpRun.advance
  split <;> grind [signUpLeft]

theorem profileSave_advances (db : Database) {r : ProfileSave} (more : 0 < profileSaveLeft r) :
    (r.advance db (some "")).isSome = true := by
  unfold ProfileSave.advance
  split <;> grind [profileSaveLeft]

theorem exists_page {p : ℕ} {u : Uid} (owner : s.payments.pageUser p = some u) :
    ∃ page, s.payments.pages[p]? = some page := by
  obtain ⟨page, shown, _⟩ := Option.map_eq_some_iff.mp owner
  exact ⟨page, shown⟩

theorem resume_enabled (own : Owned s) {h : Handler} (suspended : s.suspended h = true) :
    ∃ s', step s h.resume = some s' := by
  cases h with
  | fetch i =>
      obtain ⟨f, found, more⟩ := (Option.any_eq_true _ _).mp suspended
      obtain ⟨page, shown⟩ := exists_page (own.payments.fetches f (List.mem_of_getElem? found))
      obtain ⟨_, advanced⟩ := Option.isSome_iff_exists.mp
        (fetch_advances s.db page (of_decide_eq_true more))
      exact ⟨_, congrArg (Option.bind · _) (fetch_enabled found shown advanced)⟩
  | settlement i =>
      obtain ⟨t, found, more⟩ := (Option.any_eq_true _ _).mp suspended
      obtain ⟨page, shown⟩ := exists_page (own.payments.settlements t (List.mem_of_getElem? found))
      obtain ⟨_, advanced⟩ := Option.isSome_iff_exists.mp
        (settlement_advances s.db page (of_decide_eq_true more))
      exact ⟨_, congrArg (Option.bind · _) (settle_enabled found shown advanced)⟩
  | save i =>
      obtain ⟨b, found, more⟩ := (Option.any_eq_true _ _).mp suspended
      obtain ⟨_, advanced⟩ := Option.isSome_iff_exists.mp
        (save_advances s.db (of_decide_eq_true more))
      exact ⟨_, congrArg (Option.bind · _) (save_enabled found advanced)⟩
  | signUp i =>
      obtain ⟨r, found, more⟩ := (Option.any_eq_true _ _).mp suspended
      obtain ⟨⟨auth', db', r'⟩, advanced⟩ := Option.isSome_iff_exists.mp
        (signUp_advances s.auth s.db (of_decide_eq_true more))
      refine ⟨{ s.withDb db' with auth := auth', signUps := s.signUps.set i r' }, ?_⟩
      simp only [step, Handler.resume, found, advanced, Option.bind_eq_bind, Option.bind_some]
  | load i =>
      obtain ⟨edited, found, more⟩ := (Option.any_eq_true _ _).mp suspended
      have reading : edited.page.load = .reading := by
        cases load : edited.page.load with
        | reading => rfl
        | done | threw => simp [loadLeft, load] at more
      refine ⟨{ s with editPages := s.editPages.set i { edited with
        page := edited.page.fetched (s.db.users edited.user) } }, ?_⟩
      simp only [step, Handler.resume, found, EditProfile.step, reading, if_true,
        Option.bind_eq_bind, Option.bind_some]
  | profileSave i =>
      obtain ⟨r, found, more⟩ := (Option.any_eq_true _ _).mp suspended
      obtain ⟨⟨db', r'⟩, advanced⟩ := Option.isSome_iff_exists.mp
        (profileSave_advances s.db (of_decide_eq_true more))
      refine ⟨{ s.withDb db' with profileSaves := s.profileSaves.set i r' }, ?_⟩
      simp only [step, Handler.resume, found, advanced, Option.bind_eq_bind, Option.bind_some]

theorem resume_handler (h : Handler) : h.resume.handler = some h := by
  cases h <;> rfl

/-! ## At rest -/

theorem any_eq_false_iff {α : Type} {f : α → ℕ} {l : List α} :
    (∀ i : ℕ, l[i]?.any (0 < f ·) = false) ↔ (l.map f).sum = 0 := by
  rw [sum_map_eq_zero]
  constructor
  · intro none a member
    obtain ⟨i, found⟩ := List.getElem?_of_mem member
    have done := none i
    rw [found] at done
    simpa using done
  · intro none i
    cases found : l[i]? with
    | none => rfl
    | some a => simp [none a (List.mem_of_getElem? found)]

theorem left_eq_zero_iff : s.left = 0 ↔ ∀ h, s.suspended h = false := by
  simp only [State.left, Nat.add_eq_zero_iff, ← any_eq_false_iff]
  constructor
  · rintro ⟨⟨⟨⟨⟨fetches, settlements⟩, saves⟩, signUps⟩, loads⟩, profileSaves⟩ h
    cases h with
    | fetch i => exact fetches i
    | settlement i => exact settlements i
    | save i => exact saves i
    | signUp i => exact signUps i
    | load i => exact loads i
    | profileSave i => exact profileSaves i
  · intro rest
    exact ⟨⟨⟨⟨⟨fun i => rest (.fetch i), fun i => rest (.settlement i)⟩, fun i => rest (.save i)⟩,
      fun i => rest (.signUp i)⟩, fun i => rest (.load i)⟩, fun i => rest (.profileSave i)⟩

/-- Each suspended handler can be resumed, resumptions alone end after a bounded
    number of them, whatever they come to, and some leave no handler suspended. -/
structure ComesToRest (s : State) : Prop where
  resumable : ∀ h, s.suspended h = true → ∃ s', step s h.resume = some s'
  bounded : ∀ es s', (∀ e ∈ es, e.handler.isSome = true) → run step s es = some s' →
    es.length ≤ s.left
  ends : ∃ es s', (∀ e ∈ es, e.handler.isSome = true) ∧ run step s es = some s' ∧
    ∀ h, s'.suspended h = false

/-- Whatever happened before, the handlers of the app never block one another and
    come to rest when nobody presses anything any more. -/
theorem handlers_come_to_rest {auth : Auth} {db : Database} {before : List Event}
    (reached : run step (.init auth db) before = some s) : ComesToRest s := by
  have own : Owned s := run_invariant (fun _ _ _ => owned_step) reached (owned_init auth db)
  have descends : ∀ s (e : Event) t, e.handler.isSome = true → step s e = some t →
      t.left < s.left := by
    intro s e t resumes stepped
    obtain ⟨h, resumes⟩ := Option.isSome_iff_exists.mp resumes
    exact left_step resumes stepped
  refine ⟨fun h => resume_enabled own, fun es s' events played => ?_, ?_⟩
  · have bound := run_length_le descends played events
    omega
  · have progress : ∀ s, Owned s → 0 < s.left →
        ∃ (e : Event) (t : State), e.handler.isSome = true ∧ step s e = some t := by
      intro s own more
      have some_left : ¬ ∀ h, s.suspended h = false := by
        rw [← left_eq_zero_iff]
        omega
      obtain ⟨h, suspended⟩ := not_forall.mp some_left
      obtain ⟨t, resumed⟩ := resume_enabled own (Bool.eq_true_of_not_eq_false suspended)
      exact ⟨h.resume, t, by rw [resume_handler]; rfl, resumed⟩
    obtain ⟨es, s', events, played, rest⟩ :=
      exists_run_to_rest descends (fun _ _ _ => owned_step) progress own
    exact ⟨es, s', events, played, left_eq_zero_iff.mp rest⟩

/-- A payment succeeds while a fetch, a save, a sign-up and a load are suspended. -/
def manySuspended : List Event :=
  pressPayNow.map .payments ++ [.payments (.paymentSuccess 0 "pay_1" "2024-03-14 10:00:00.000"),
    .payments (.settle 0 true), .payments (.submitRent 0 ⟨"Flat", "500", "01/04/24"⟩),
    .signUp ⟨"Ravi", "ravi@example.com", "9123456780", "secret2"⟩, .openEditProfile 0]

theorem many_suspended_come_to_rest : ∃ s,
    run step (.init oneAccount oneCard) manySuspended = some s ∧ s.left = 13 ∧
      ComesToRest s := by
  obtain ⟨s, reached, left⟩ := run_reaches step (.init oneAccount oneCard) manySuspended
    (P := fun s => s.left = 13) (by decide +kernel)
  exact ⟨s, reached, left, handlers_come_to_rest reached⟩

end Udhar.App
