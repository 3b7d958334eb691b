import Udhar.Verification

/-! # The error under the field

`Invalid OTP` is set when Firebase refuses a code, and taken away by the timer that typing
has started half a second before. Which of the two comes first depends on how fast the user
presses and Firebase answers.
-/

namespace Udhar.Verification

open Lib Otp

section Errors

variable {s s' : State} {p i : ℕ}

def invalidOTP : String := "Invalid OTP"

/-- A page shows that its code was refused. -/
def State.ShowsInvalid (s : State) (p : ℕ) : Prop :=
  ∃ page, s.pages[p]? = some page ∧ page.otp.otpError = some invalidOTP

/-- A page shows it, and no timer runs that could take it away. -/
def State.Settled (s : State) (p : ℕ) : Prop :=
  ∃ page, s.pages[p]? = some page ∧ page.field.timer = none ∧ page.otp.otpError = some invalidOTP

/-- Every run is one of a page that has been sent a code. -/
def State.Sent (s : State) : Prop :=
  ∀ r ∈ s.runs, ∃ page, s.pages[r.page]? = some page ∧ page.otp.verificationId.isSome = true

theorem callback_keeps {auth : Auth} {page : OTPVerification} {e : Otp.Event} {t : Otp.State}
    (allowed : isCallback e = true) (stepped : Otp.step ⟨auth, page, false⟩ e = some t) :
    t.page.otpError = page.otpError ∧
      (page.verificationId.isSome = true → t.page.verificationId.isSome = true) := by
  cases e with
  | verifyOTP => cases allowed
  | resendOTP | codeAutoRetrievalTimeout | verificationFailed =>
      obtain rfl := Option.some.inj stepped
      exact ⟨rfl, id⟩
  | codeSent =>
      obtain rfl := Option.some.inj stepped
      exact ⟨rfl, fun _ => rfl⟩
  | verificationCompleted failure =>
      cases failure <;> obtain rfl := Option.some.inj stepped <;> exact ⟨rfl, id⟩

theorem verifyOTP_keeps (s : Otp.State) (failure : Option String) :
    ((Otp.verifyOTP s failure).page.otpError = s.page.otpError ∨
      (Otp.verifyOTP s failure).page.otpError = some invalidOTP) ∧
    (Otp.verifyOTP s failure).page.verificationId = s.page.verificationId := by
  unfold Otp.verifyOTP
  split
  · exact ⟨.inl rfl, rfl⟩
  split
  · exact ⟨.inl rfl, rfl⟩
  split
  · exact ⟨.inl rfl, rfl⟩
  · dsimp only
    split
    · exact ⟨.inr rfl, rfl⟩
    · exact ⟨.inl rfl, rfl⟩

theorem verifyOTP_invalid {s : Otp.State} {uid : Uid}
    (sent : s.page.verificationId.isSome = true) (current : s.auth.currentUser = some uid) :
    (Otp.verifyOTP s (some "invalid-verification-code")).page.otpError = some invalidOTP := by
  obtain ⟨verificationId, sent⟩ := Option.isSome_iff_exists.mp sent
  simp only [Otp.verifyOTP, sent, current, Auth.linkWithCredential, if_true, invalidOTP]

theorem shown_append {Q : Page → Prop} {pages more : List Page}
    (shown : ∃ page, pages[p]? = some page ∧ Q page) :
    ∃ page, (pages ++ more)[p]? = some page ∧ Q page := by
  obtain ⟨page, found, holds⟩ := shown
  have inside : p < pages.length := (List.getElem?_eq_some_iff.mp found).1
  exact ⟨page, by rw [List.getElem?_append_left inside, found], holds⟩

/-- A page that is replaced keeps what its replacement keeps. -/
theorem shown_set {Q : Page → Prop} {pages : List Page} {q : ℕ} {old new : Page}
    (found : pages[q]? = some old) (keep : q = p → Q old → Q new)
    (shown : ∃ page, pages[p]? = some page ∧ Q page) :
    ∃ page, (pages.set q new)[p]? = some page ∧ Q page := by
  obtain ⟨page, there, holds⟩ := shown
  by_cases here : q = p
  · subst here
    obtain rfl := Option.some.inj (found.symm.trans there)
    refine ⟨new, ?_, keep rfl holds⟩
    rw [List.getElem?_set_self (List.getElem?_eq_some_iff.mp found).1]
  · exact ⟨page, by rw [List.getElem?_set_ne here, there], holds⟩

theorem sent_step (s : State) (e : Event) (s' : State) (sent : s.Sent)
    (stepped : step s e = some s') : s'.Sent := by
  cases step_move stepped with
  | ignored | turned => exact sent
  | opened => exact fun r member => shown_append (sent r member)
  | shown found _ same =>
      exact fun r member => shown_set found (fun _ asked => same ▸ asked) (sent r member)
  | callback found allowed moved =>
      intro r member
      exact shown_set found (fun _ => (callback_keeps allowed moved).2) (sent r member)
  | pressed found asked here => exact forall_mem_concat sent ⟨_, here ▸ found, asked⟩
  | @answered i failure r page t run found _ answer =>
      have kept : ∀ r' ∈ s.runs, ∃ page',
          (s.pages.set r.page { page with otp := t.page })[r'.page]? = some page' ∧
            page'.otp.verificationId.isSome = true := by
        intro r' member
        refine shown_set found (fun _ asked => ?_) (sent r' member)
        rwa [← answer, (verifyOTP_keeps _ _).2]
      exact forall_mem_set kept (kept r (List.mem_of_getElem? run))

/-- Where no timer runs the refusal stays, until the code is edited. -/
theorem settled_step {e : Event} (unedited : ∀ text, e ≠ .onChanged p text)
    (settled : s.Settled p) (stepped : step s e = some s') : s'.Settled p := by
  cases step_move stepped with
  | ignored | turned | pressed => exact settled
  | opened => exact shown_append settled
  | shown found _ _ keeps =>
      refine shown_set found (fun here holds => ?_) settled
      obtain ⟨stopped, same⟩ := keeps (here ▸ unedited) holds.1
      exact ⟨stopped, same.trans holds.2⟩
  | callback found allowed moved =>
      refine shown_set found (fun _ holds => ⟨holds.1, ?_⟩) settled
      rw [(callback_keeps allowed moved).1, holds.2]
  | @answered i failure r page t run found _ answer =>
      refine shown_set found (fun _ holds => ⟨holds.1, ?_⟩) settled
      rcases (verifyOTP_keeps ⟨⟨s.nextUid, s.phone, some r.uid⟩, page.otp, false⟩ failure).1 with
        same | invalid
      · rw [← answer, same, holds.2]
      · rw [← answer, invalid]

/-- The page right after its code was refused. -/
theorem refused_page {r : VerifyRun} {page : Page} (sent : s.Sent) (run : s.runs[i]? = some r)
    (shown : s.pages[r.page]? = some page)
    (refused : step s (.answered i (some "invalid-verification-code")) = some s') :
    ∃ page', s'.pages[r.page]? = some page' ∧ page'.field = page.field ∧
      page'.otp.otpError = some invalidOTP := by
  obtain ⟨page', found', asked⟩ := sent r (List.mem_of_getElem? run)
  obtain rfl := Option.some.inj (shown.symm.trans found')
  simp only [step, run, shown, Option.bind_eq_bind, Option.bind_some] at refused
  obtain ⟨_, _, rest⟩ := Option.bind_eq_some_iff.mp refused
  obtain rfl := Option.some.inj rest
  refine ⟨_, List.getElem?_set_self (List.getElem?_eq_some_iff.mp shown).1, rfl, ?_⟩
  exact verifyOTP_invalid asked rfl

end Errors

/-- The error of a refused code is shown until the code is edited, in whatever happens next,
    exactly if the timer of the field was not running when the answer arrived: otherwise the
    timer takes the error away. -/
theorem refusal_shown_until_edited_iff {auth : Auth} {es : List Event} {s s' : State} {i : ℕ}
    {r : VerifyRun} {page : Page} (played : Lib.run step (.init auth) es = some s)
    (run : s.runs[i]? = some r) (shown : s.pages[r.page]? = some page)
    (refused : step s (.answered i (some "invalid-verification-code")) = some s') :
    (∀ es' t, (∀ text, .onChanged r.page text ∉ es') → Lib.run step s' es' = some t →
      t.ShowsInvalid r.page) ↔ page.field.timer = none := by
  have sent := run_invariant sent_step played (fun _ member => by cases member)
  obtain ⟨page', shown', field, invalid⟩ := refused_page sent run shown refused
  constructor
  · intro stays
    cases running : page.field.timer with
    | none => rfl
    | some value =>
        have fires : step s' (.timerOver r.page) =
            some { s' with pages := s'.pages.set r.page (page'.timerOver value) } := by
          simp only [step, shown', field, running, Option.bind_eq_bind, Option.bind_some]
        obtain ⟨after, found, still⟩ := stays [.timerOver r.page] _ (by simp)
          (run_cons.mpr ⟨_, fires, rfl⟩)
        rw [List.getElem?_set_self (List.getElem?_eq_some_iff.mp shown').1] at found
        obtain rfl := Option.some.inj found
        simp only [Page.timerOver] at still
        split at still <;> simp [invalidOTP] at still
  · intro stopped es' t unedited later
    have meets : Meets step (fun _ e => ∀ text, e ≠ .onChanged r.page text) s' es' :=
      ((Meets.of_invariant (I := fun _ => True) (G := fun _ _ => True) (fun _ _ _ _ _ => trivial)
        (fun _ _ _ => trivial) es' trivial).and_events
        (E := fun e => ∀ text, e ≠ .onChanged r.page text)
        (fun e member text same => unedited text (same ▸ member))).mono fun _ _ meets => meets.1
    obtain ⟨after, found, _, still⟩ := run_invariant_of_meets (P := fun t => t.Settled r.page)
      (fun _ _ _ unedited settled stepped => settled_step unedited settled stepped) later meets
      ⟨page', shown', field ▸ stopped, invalid⟩
    exact ⟨after, found, still⟩

/-- A code is typed, the timer runs off and only then the button is pressed. -/
def typedAndPressed : List Event :=
  [.createUser 0, .openPage 0 "9876543210", .callback 0 (.codeSent "v1"), .onChanged 0 "000000",
    .timerOver 0, .verifyOTP 0]

theorem refusal_shown_after_timer :
    ∃ s s', Lib.run step (.init ⟨0, fun _ => none, none⟩) typedAndPressed = some s ∧
      step s (.answered 0 (some "invalid-verification-code")) = some s' ∧
      ∀ es' t, (∀ text, .onChanged 0 text ∉ es') → Lib.run step s' es' = some t →
        t.ShowsInvalid 0 := by
  obtain ⟨s, played, asked, stopped, answers⟩ :=
    run_reaches step (.init ⟨0, fun _ => none, none⟩) typedAndPressed
      (P := fun s => s.runs[0]?.map VerifyRun.page = some 0 ∧
        s.pages[0]?.map (·.field.timer) = some none ∧
        (step s (.answered 0 (some "invalid-verification-code"))).isSome = true) (by decide +kernel)
  obtain ⟨r, run, here⟩ := Option.map_eq_some_iff.mp asked
  obtain ⟨page, shown, stopped⟩ := Option.map_eq_some_iff.mp stopped
  obtain ⟨s', refused⟩ := Option.isSome_iff_exists.mp answers
  have stays := (refusal_shown_until_edited_iff played run (here.symm ▸ shown) refused).mpr stopped
  rw [here] at stays
  exact ⟨s, s', played, refused, stays⟩

end Udhar.Verification
