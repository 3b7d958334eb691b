import Udhar.Otp
import Mathlib.Data.Option.Basic

/-! # Verification pages over one Firebase Auth

Any number of devices share the accounts. Each device has a current user of its own and
any number of `OTPVerification` pages. `verifyOTP` is suspended while Firebase links:
meanwhile the current user may change, other codes may be sent and the button be pressed
again. The field of the code judges what is typed only after a delay.
-/

namespace Udhar.Verification

open Lib Otp

/-! ## Pages -/

/-- What `otpController` holds, the value that the running timer will judge, and the one
    judged last. -/
structure OtpField where
  text : String := ""
  timer : Option String := none
  currentOTP : String := ""

structure Page where
  device : ℕ
  otp : OTPVerification
  field : OtpField := {}

def Page.phoneNumber (page : Page) : String := page.otp.formattedPhoneNumber

/-- `onChanged` of the field: a running timer is cancelled and a new one started. -/
def Page.onChanged (page : Page) (text : String) : Page :=
  { page with field := { page.field with text, timer := some text } }

/-- The timer of the field is over. -/
def Page.timerOver (page : Page) (value : String) : Page where
  device := page.device
  otp := { page.otp with otpError := if value = "" then some "Please enter the OTP" else none }
  field := { page.field with timer := none, currentOTP := value }

inductive VerifyStage where
  | linking
  | linked
  | refused
  deriving DecidableEq

/-- A run of `verifyOTP` that has asked Firebase to link the number to user `uid`. -/
structure VerifyRun where
  page : ℕ
  uid : Uid
  verificationId : String
  smsCode : String
  stage : VerifyStage

/-! ## The system -/

/-- The accounts are the uids below `nextUid`. Nothing reads `created`: it lists the numbers
    for which an automatic sign-in has created an account. -/
structure State where
  nextUid : Uid
  phone : Uid → Option String
  currentUser : ℕ → Option Uid
  pages : List Page
  runs : List VerifyRun
  created : List String

/-- Firebase Auth as a device sees it. -/
def State.auth (s : State) (device : ℕ) : Auth := ⟨s.nextUid, s.phone, s.currentUser device⟩

/-- Nobody is signed in anywhere. -/
def State.init (auth : Auth) : State := ⟨auth.nextUid, auth.phone, fun _ => none, [], [], []⟩

inductive Event where
  | createUser (device : ℕ)
  | authStateChanged (device : ℕ) (user : Option Uid)
  | openPage (device : ℕ) (phoneNumber : String)
  | callback (page : ℕ) (e : Otp.Event)
  | onChanged (page : ℕ) (text : String)
  | timerOver (page : ℕ)
  | verifyOTP (page : ℕ)
  | answered (index : ℕ) (failure : Option String)

/-- What `resendOTP` and its callbacks do; the button is not among them. -/
def isCallback : Otp.Event → Bool
  | .verifyOTP _ _ => false
  | _ => true

def step (s : State) : Event → Option State
  | .createUser device =>
      some { s with
        nextUid := s.nextUid + 1
        currentUser := Function.update s.currentUser device (some s.nextUid) }
  | .authStateChanged device user =>
      if user.all (· < s.nextUid) then
        some { s with currentUser := Function.update s.currentUser device user }
      else none
  | .openPage device phoneNumber =>
      some { s with pages := s.pages ++ [⟨device, { phoneNumber }, {}⟩] }
  | .callback p e => do
      let page ← s.pages[p]?
      guard (isCallback e)
      let t ← Otp.step ⟨s.auth page.device, page.otp, false⟩ e
      some { s with
        nextUid := t.auth.nextUid
        phone := t.auth.phone
        currentUser := Function.update s.currentUser page.device t.auth.currentUser
        pages := s.pages.set p { page with otp := t.page }
        created := s.created ++
          if t.auth.nextUid = s.nextUid then [] else [page.phoneNumber] }
  | .onChanged p text => do
      let page ← s.pages[p]?
      some { s with pages := s.pages.set p (page.onChanged text) }
  | .timerOver p => do
      let page ← s.pages[p]?
      let value ← page.field.timer
      some { s with pages := s.pages.set p (page.timerOver value) }
  | .verifyOTP p => do
      -- The form has no validator that could refuse the code.
      let page ← s.pages[p]?
      match page.otp.verificationId, s.currentUser page.device with
      | none, _ =>
          some { s with pages := s.pages.set p { page with otp := page.otp.show [unknownError] } }
      | some _, none => some s
      | some verificationId, some uid =>
          some { s with runs := s.runs ++ [⟨p, uid, verificationId, page.field.text, .linking⟩] }
  | .answered i failure => do
      let r ← s.runs[i]?
      let page ← s.pages[r.page]?
      guard (r.stage = .linking)
      -- The user is the one that was current when the button was pressed.
      let t := Otp.verifyOTP ⟨⟨s.nextUid, s.phone, some r.uid⟩, page.otp, false⟩ failure
      some { s with
        phone := t.auth.phone
        pages := s.pages.set r.page { page with otp := t.page }
        runs := s.runs.set i { r with stage := if t.accepted then .linked else .refused } }

/-! ## The page and the callbacks -/

/-- How often a page has told its user that the account was linked. -/
def Page.told (page : Page) : ℕ := page.otp.dialogs.count accountLinked

/-- What a page is for and what it has told. -/
def Page.entry (page : Page) : String × ℕ := (page.phoneNumber, page.told)

theorem told_show_other {page : OTPVerification} {dialogs : List Dialog}
    (other : accountLinked ∉ dialogs) :
    (page.show dialogs).dialogs.count accountLinked = page.dialogs.count accountLinked := by
  rw [OTPVerification.show, List.count_append, List.count_eq_zero_of_not_mem other, Nat.add_zero]

/-- An answer links the number, which nobody held, and tells so; or it changes no account
    and shows other dialogs. -/
theorem verifyOTP_cases {auth : Auth} {page : OTPVerification} {uid : Uid} {failure : Option String}
    {t : Otp.State} (current : auth.currentUser = some uid)
    (answer : Otp.verifyOTP ⟨auth, page, false⟩ failure = t) :
    t.page.formattedPhoneNumber = page.formattedPhoneNumber ∧
    (t.accepted = true ∧ auth.phone uid = none ∧ auth.holder page.formattedPhoneNumber = none ∧
      t.auth.phone = Function.update auth.phone uid (some page.formattedPhoneNumber) ∧
      t.page.dialogs.count accountLinked = page.dialogs.count accountLinked + 1 ∨
    t.accepted = false ∧ t.auth.phone = auth.phone ∧
      t.page.dialogs.count accountLinked = page.dialogs.count accountLinked) := by
  subst answer
  unfold Otp.verifyOTP
  cases page.verificationId with
  | none => exact ⟨rfl, .inr ⟨rfl, rfl, told_show_other (by decide)⟩⟩
  | some verificationId =>
      simp only [current]
      cases linked : auth.linkWithCredential uid page.formattedPhoneNumber failure with
      | ok auth' =>
          unfold Auth.linkWithCredential at linked
          split at linked
          · cases linked
          split at linked
          · cases linked
          split at linked
          · cases linked
          rename_i free unheld
          obtain rfl := Except.ok.inj linked
          refine ⟨rfl, .inl ⟨rfl, by simpa using free, by simpa using unheld, rfl, ?_⟩⟩
          rw [OTPVerification.show, List.count_append, List.count_singleton_self]
      | error code =>
          have other : accountLinked ∉
              [(⟨"Verification Error", errorMessage code⟩ : Dialog), unknownError] := by
            intro member
            rcases List.mem_pair.mp member with same | same
            · exact absurd (congrArg Dialog.title same)
                (show "Account Linked" ≠ "Verification Error" by decide)
            · exact absurd same (by decide)
          refine ⟨?_, .inr ⟨rfl, rfl, ?_⟩⟩
          · dsimp only
            split <;> rfl
          · dsimp only
            split <;> exact told_show_other other

/-- A callback signs an account in at most: one that holds the number, or else a new one
    for it. -/
theorem callback_cases {auth : Auth} {page : OTPVerification} {e : Otp.Event} {t : Otp.State}
    (allowed : isCallback e = true) (stepped : Otp.step ⟨auth, page, false⟩ e = some t) :
    t.page.formattedPhoneNumber = page.formattedPhoneNumber ∧ t.page.dialogs = page.dialogs ∧
    (t.auth = auth ∨
      (∃ uid, auth.phone uid = some page.formattedPhoneNumber ∧
        t.auth = { auth with currentUser := some uid }) ∨
      auth.holder page.formattedPhoneNumber = none ∧
        t.auth = ⟨auth.nextUid + 1,
          Function.update auth.phone auth.nextUid (some page.formattedPhoneNumber),
          some auth.nextUid⟩) := by
  cases e with
  | verifyOTP => cases allowed
  | resendOTP | codeAutoRetrievalTimeout | verificationFailed | codeSent =>
      obtain rfl := Option.some.inj stepped
      exact ⟨rfl, rfl, .inl rfl⟩
  | verificationCompleted failure =>
      cases failure with
      | some code =>
          obtain rfl := Option.some.inj stepped
          exact ⟨rfl, rfl, .inl rfl⟩
      | none =>
          obtain rfl := Option.some.inj stepped
          refine ⟨rfl, rfl, .inr ?_⟩
          simp only [Auth.signInWithCredential]
          cases held : auth.holder page.formattedPhoneNumber with
          | none => exact .inr ⟨rfl, rfl⟩
          | some uid => exact .inl ⟨uid, phone_of_holder held, rfl⟩

/-! ## One step -/

section Steps

variable {s s' : State}

/-- What a step does: to who is signed in, to one page, or to the runs. Only typing starts a
    timer, and where none runs the error under the field changes with an answer only. -/
inductive Move (s : State) : Event → State → Prop where
  | ignored {e : Event} : Move s e s
  | turned {e : Event} {device : ℕ} {next : Uid} {user : Option Uid} (grown : s.nextUid ≤ next)
      (account : ∀ u, user = some u → u < next) : Move s e { s with
        nextUid := next
        currentUser := Function.update s.currentUser device user }
  | opened {e : Event} {page : Page} (untold : page.told = 0) :
      Move s e { s with pages := s.pages ++ [page] }
  | shown {e : Event} {p : ℕ} {page page' : Page} (found : s.pages[p]? = some page)
      (entry : page'.entry = page.entry)
      (sent : page'.otp.verificationId = page.otp.verificationId)
      (settled : (∀ text, e ≠ .onChanged p text) → page.field.timer = none →
        page'.field.timer = none ∧ page'.otp.otpError = page.otp.otpError) :
      Move s e { s with pages := s.pages.set p page' }
  | callback {p : ℕ} {e : Otp.Event} {page : Page} {t : Otp.State} (found : s.pages[p]? = some page)
      (allowed : isCallback e = true)
      (moved : Otp.step ⟨s.auth page.device, page.otp, false⟩ e = some t) :
      Move s (.callback p e) { s with
        nextUid := t.auth.nextUid
        phone := t.auth.phone
        currentUser := Function.update s.currentUser page.device t.auth.currentUser
        pages := s.pages.set p { page with otp := t.page }
        created := s.created ++ if t.auth.nextUid = s.nextUid then [] else [page.phoneNumber] }
  | pressed {p : ℕ} {page : Page} {r : VerifyRun} (found : s.pages[p]? = some page)
      (sent : page.otp.verificationId.isSome = true) (here : r.page = p)
      (current : s.currentUser page.device = some r.uid) (linking : r.stage = .linking) :
      Move s (.verifyOTP p) { s with runs := s.runs ++ [r] }
  | answered {i : ℕ} {failure : Option String} {r : VerifyRun} {page : Page} {t : Otp.State}
      (run : s.runs[i]? = some r) (found : s.pages[r.page]? = some page)
      (linking : r.stage = .linking)
      (answer : Otp.verifyOTP ⟨⟨s.nextUid, s.phone, some r.uid⟩, page.otp, false⟩ failure = t) :
      Move s (.answered i failure) { s with
        phone := t.auth.phone
        pages := s.pages.set r.page { page with otp := t.page }
        runs := s.runs.set i { r with stage := if t.accepted then .linked else .refused } }

theorem step_move {e : Event} (stepped : step s e = some s') : Move s e s' := by
  cases e with
  | createUser device =>
      obtain rfl := Option.some.inj stepped
      exact .turned (Nat.le_succ _) fun u shown =>
        Option.some.inj shown ▸ Nat.lt_succ_self s.nextUid
  | authStateChanged device user =>
      simp only [step, Option.ite_none_right_eq_some, Option.some.injEq] at stepped
      obtain ⟨account, rfl⟩ := stepped
      refine .turned le_rfl ?_
      rintro u rfl
      exact of_decide_eq_true account
  | openPage device phoneNumber =>
      obtain rfl := Option.some.inj stepped
      exact .opened rfl
  | callback p e =>
      obtain ⟨page, found, rest⟩ := Option.bind_eq_some_iff.mp stepped
      obtain ⟨_, guarded, rest⟩ := Option.bind_eq_some_iff.mp rest
      obtain ⟨t, moved, rest⟩ := Option.bind_eq_some_iff.mp rest
      obtain rfl := Option.some.inj rest
      exact .callback found ((Option.guard_eq_some' _).mp guarded) moved
  | onChanged p text =>
      obtain ⟨page, found, rest⟩ := Option.bind_eq_some_iff.mp stepped
      obtain rfl := Option.some.inj rest
      exact .shown found rfl rfl fun unedited => absurd rfl (unedited text)
  | timerOver p =>
      obtain ⟨page, found, rest⟩ := Option.bind_eq_some_iff.mp stepped
      obtain ⟨value, running, rest⟩ := Option.bind_eq_some_iff.mp rest
      obtain rfl := Option.some.inj rest
      refine .shown found rfl rfl fun _ stopped => ?_
      rw [running] at stopped
      cases stopped
  | verifyOTP p =>
      obtain ⟨page, found, rest⟩ := Option.bind_eq_some_iff.mp stepped
      cases sent : page.otp.verificationId with
      | none =>
          rw [sent] at rest
          obtain rfl := Option.some.inj rest
          exact .shown found (Prod.ext rfl (told_show_other (by decide))) rfl fun _ stopped =>
            ⟨stopped, rfl⟩
      | some verificationId =>
          cases current : s.currentUser page.device with
          | none =>
              rw [sent, current] at rest
              obtain rfl := Option.some.inj rest
              exact .ignored
          | some uid =>
              rw [sent, current] at rest
              obtain rfl := Option.some.inj rest
              exact .pressed found (sent ▸ rfl) rfl current rfl
  | answered i failure =>
      obtain ⟨r, run, rest⟩ := Option.bind_eq_some_iff.mp stepped
      obtain ⟨page, found, rest⟩ := Option.bind_eq_some_iff.mp rest
      obtain ⟨_, guarded, rest⟩ := Option.bind_eq_some_iff.mp rest
      obtain rfl := Option.some.inj rest
      exact .answered run found ((Option.guard_eq_some' _).mp guarded) rfl

end Steps

/-! ## One page whose answers come at once -/

/-- One page on one device, which sees what the single page sees. -/
structure Plays (o : Otp.State) (s : State) : Prop where
  auth : s.auth 0 = o.auth
  page : ∃ field, s.pages = [⟨0, o.page, field⟩]

section Single

variable {o o' : Otp.State} {s : State}

/-- Nothing but the record of it depends on whether a credential was accepted before. -/
theorem verifyOTP_accepted (o : Otp.State) (failure : Option String) :
    (Otp.verifyOTP ⟨o.auth, o.page, false⟩ failure).auth = (Otp.verifyOTP o failure).auth ∧
      (Otp.verifyOTP ⟨o.auth, o.page, false⟩ failure).page = (Otp.verifyOTP o failure).page := by
  cases sent : o.page.verificationId with
  | none => simp [Otp.verifyOTP, sent]
  | some verificationId =>
      cases current : o.auth.currentUser with
      | none => simp [Otp.verifyOTP, sent, current]
      | some uid =>
          cases linked : o.auth.linkWithCredential uid o.page.formattedPhoneNumber failure <;>
            simp [Otp.verifyOTP, sent, current, linked]

/-- An answer signs nobody in. -/
theorem verifyOTP_auth (o : Otp.State) (failure : Option String) :
    (Otp.verifyOTP o failure).auth =
      { o.auth with phone := (Otp.verifyOTP o failure).auth.phone } := by
  unfold Otp.verifyOTP
  split
  · rfl
  split
  · rfl
  split
  · rename_i linked
    unfold Auth.linkWithCredential at linked
    split at linked
    · cases linked
    split at linked
    · cases linked
    split at linked
    · cases linked
    cases linked
    rfl
  · rfl

theorem callback_accepted {e : Otp.Event} (allowed : isCallback e = true)
    (stepped : Otp.step o e = some o') :
    ∃ t, Otp.step ⟨o.auth, o.page, false⟩ e = some t ∧ t.auth = o'.auth ∧ t.page = o'.page := by
  cases e with
  | verifyOTP => cases allowed
  | resendOTP | codeAutoRetrievalTimeout | verificationFailed | codeSent =>
      obtain rfl := Option.some.inj stepped
      exact ⟨_, rfl, rfl, rfl⟩
  | verificationCompleted failure =>
      cases failure <;> obtain rfl := Option.some.inj stepped <;> exact ⟨_, rfl, rfl, rfl⟩

theorem plays_callback {e : Otp.Event} (plays : Plays o s) (allowed : isCallback e = true)
    (stepped : Otp.step o e = some o') :
    ∃ s', step s (.callback 0 e) = some s' ∧ Plays o' s' := by
  obtain ⟨field, pages⟩ := plays.page
  obtain ⟨t, moved, auth, page⟩ := callback_accepted allowed stepped
  rw [← plays.auth] at moved
  refine ⟨{ s with
      nextUid := t.auth.nextUid
      phone := t.auth.phone
      currentUser := Function.update s.currentUser 0 t.auth.currentUser
      pages := [⟨0, t.page, field⟩]
      created := s.created ++
        if t.auth.nextUid = s.nextUid then [] else [o.page.formattedPhoneNumber] },
    ?_, ?_, field, by rw [page]⟩
  · simp only [step, pages, List.getElem?_cons_zero, Option.bind_eq_bind, Option.bind_some, allowed,
      guard, if_true, Option.pure_def, moved, List.set_cons_zero, Page.phoneNumber]
  · rw [← auth]
    simp only [State.auth, Function.update_self]

/-- The button is pressed, with the code in the field, and Firebase answers. -/
theorem plays_verifyOTP (plays : Plays o s) (smsCode : String) (failure : Option String) :
    ∃ es s', run step s es = some s' ∧ Plays (Otp.verifyOTP o failure) s' := by
  obtain ⟨field, pages⟩ := plays.page
  have current : s.currentUser 0 = o.auth.currentUser := congrArg Auth.currentUser plays.auth
  cases sent : o.page.verificationId with
  | none =>
      refine ⟨[.verifyOTP 0], { s with pages := [⟨0, o.page.show [unknownError], field⟩] }, ?_, ?_⟩
      · simp [run, step, pages, sent]
      · simp only [Otp.verifyOTP, sent]
        exact ⟨plays.auth, field, rfl⟩
  | some verificationId =>
      cases user : o.auth.currentUser with
      | none =>
          refine ⟨[.verifyOTP 0], s, ?_, ?_⟩
          · simp [run, step, pages, sent, current, user]
          · simpa only [Otp.verifyOTP, sent, user] using plays
      | some uid =>
          have same : (⟨s.nextUid, s.phone, some uid⟩ : Auth) = o.auth := by
            rw [← plays.auth, State.auth, current, user]
          obtain ⟨auth, page⟩ := verifyOTP_accepted o failure
          let t := Otp.verifyOTP ⟨o.auth, o.page, false⟩ failure
          let r : VerifyRun := ⟨0, uid, verificationId, smsCode, .linking⟩
          let typed : State := { s with
            pages := [⟨0, o.page, { field with text := smsCode, timer := some smsCode }⟩] }
          let answered : State := { typed with
            phone := t.auth.phone
            pages := [⟨0, t.page, { field with text := smsCode, timer := some smsCode }⟩]
            runs := s.runs ++ [{ r with stage := if t.accepted then .linked else .refused }] }
          have types : step s (.onChanged 0 smsCode) = some typed := by
            simp only [step, pages, List.getElem?_cons_zero, Option.bind_eq_bind, Option.bind_some,
              List.set_cons_zero, Page.onChanged, typed]
          have presses : step typed (.verifyOTP 0) = some { typed with runs := s.runs ++ [r] } := by
            simp [step, typed, sent, current, user, r]
          have answers : step { typed with runs := s.runs ++ [r] }
              (.answered s.runs.length failure) = some answered := by
            simp [step, typed, answered, r, t, same, guard]
          refine ⟨[.onChanged 0 smsCode, .verifyOTP 0, .answered s.runs.length failure], answered,
            ?_, ?_, { field with text := smsCode, timer := some smsCode }, by rw [← page]⟩
          · exact run_cons.mpr ⟨_, types, run_cons.mpr ⟨_, presses, run_cons.mpr ⟨_, answers, rfl⟩⟩⟩
          · rw [← auth, verifyOTP_auth, ← same]
            simp only [State.auth, answered, typed, current, user, t, same]

/-- What the single page can do, with answers that come at once, a page among others can. -/
theorem otp_run_plays {es : List Otp.Event} (played : run Otp.step o es = some o')
    (plays : Plays o s) : ∃ es' s', run step s es' = some s' ∧ Plays o' s' := by
  refine run_simulated (R := Plays) (G := fun _ _ => True) ?_ played
    (Meets.of_invariant (I := fun _ => True) (fun _ _ _ _ _ => trivial) (fun _ _ _ => trivial) es
      trivial) plays
  intro o e o' s _ plays stepped
  cases allowed : isCallback e with
  | true =>
      obtain ⟨s', moved, plays'⟩ := plays_callback plays allowed stepped
      exact ⟨[.callback 0 e], s', run_cons.mpr ⟨s', moved, rfl⟩, plays'⟩
  | false =>
      cases e with
      | verifyOTP smsCode failure =>
          obtain rfl := Option.some.inj stepped
          exact plays_verifyOTP plays smsCode failure
      | _ => cases allowed

end Single

end Udhar.Verification
