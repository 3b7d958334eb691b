import Udhar.Firestore
import Udhar.Lib.Run
import Mathlib.Data.List.Range

/-! # Phone verification

The page that follows a sign-up verifies the phone number. A code typed by hand
links the phone to the current account; when the platform verifies the number by
itself, the callback signs in with the credential instead, which makes current
whichever account holds the number, and creates one when there is none.
-/

namespace Udhar.Otp

open Lib

/-! ## Firebase Auth -/

/-- Accounts are the uids below `nextUid`; some have a phone number linked. -/
structure Auth where
  nextUid : Uid
  phone : Uid → Option String
  currentUser : Option Uid

/-- The account that a phone number is linked to. -/
def Auth.holder (auth : Auth) (phoneNumber : String) : Option Uid :=
  (List.range auth.nextUid).find? (auth.phone · = some phoneNumber)

/-- `signInWithCredential` with an accepted phone credential. -/
def Auth.signInWithCredential (auth : Auth) (phoneNumber : String) : Auth :=
  match auth.holder phoneNumber with
  | some uid => { auth with currentUser := some uid }
  | none => ⟨auth.nextUid + 1, Function.update auth.phone auth.nextUid (some phoneNumber),
      some auth.nextUid⟩

/-- `linkWithCredential` of user `uid`; `failure` is the code with which the
    service refuses the credential, if it does. -/
def Auth.linkWithCredential (auth : Auth) (uid : Uid) (phoneNumber : String)
    (failure : Option String) : Except String Auth :=
  match failure with
  | some code => .error code
  | none =>
      if (auth.phone uid).isSome then .error "provider-already-linked"
      else if (auth.holder phoneNumber).isSome then .error "credential-already-in-use"
      else .ok { auth with phone := Function.update auth.phone uid (some phoneNumber) }

/-! ## The page -/

structure Dialog where
  title : String
  content : String
  deriving DecidableEq

/-- The fields of `_OTPVerificationState` and the dialogs it has shown. -/
structure OTPVerification where
  phoneNumber : String
  verificationId : Option String := none
  otpError : Option String := none
  dialogs : List Dialog := []

/-- The number that `resendOTP` asks Firebase to verify. -/
def OTPVerification.formattedPhoneNumber (page : OTPVerification) : String :=
  if "+91".toList.isPrefixOf page.phoneNumber.toList then page.phoneNumber
  else "+91" ++ page.phoneNumber

/-- The text for an error code of `linkWithCredential`. -/
def errorMessage (code : String) : String :=
  match code with
  | "provider-already-linked" => "The provider has already been linked to the user."
  | "invalid-credential" => "The provider's credential is not valid."
  | "credential-already-in-use" =>
      "The account corresponding to the credential already exists, or is already linked to a " ++
        "Firebase User."
  | "invalid-verification-code" => "The verification code entered is invalid."
  | _ => "Unknown error."

def unknownError : Dialog := ⟨"Error", "An unknown error occurred."⟩

def accountLinked : Dialog := ⟨"Account Linked",
  "Your OTP account has been linked with your existing email/password account!"⟩

def OTPVerification.show (page : OTPVerification) (dialogs : List Dialog) : OTPVerification :=
  { page with dialogs := page.dialogs ++ dialogs }

/-- The page and Firebase Auth. Nothing reads `accepted`: a credential for the
    number has been accepted, by either path. -/
structure State where
  auth : Auth
  page : OTPVerification
  accepted : Bool

/-- The page that opens after account `uid` has signed up. -/
def State.start (auth : Auth) (uid : Uid) (phoneNumber : String) : State :=
  ⟨{ auth with currentUser := some uid }, { phoneNumber }, false⟩

/-- `verifyOTP`. -/
def verifyOTP (s : State) (failure : Option String) : State :=
  match s.page.verificationId with
  | none => { s with page := s.page.show [unknownError] }
  | some _ =>
      match s.auth.currentUser with
      | none => s
      | some uid =>
          match s.auth.linkWithCredential uid s.page.formattedPhoneNumber failure with
          | .ok auth => { auth, page := s.page.show [accountLinked], accepted := true }
          | .error code =>
              -- The error handler returns no credential, which `catchError` rejects, so the
              -- outer `catch` shows its dialog as well.
              let page := s.page.show [⟨"Verification Error", errorMessage code⟩, unknownError]
              { s with page :=
                if code = "invalid-verification-code" then
                  { page with otpError := some "Invalid OTP" }
                else page }

inductive Event where
  | resendOTP
  | codeSent (verificationId : String)
  | codeAutoRetrievalTimeout (verificationId : String)
  | verificationFailed (message : String)
  | verificationCompleted (failure : Option String)
  | verifyOTP (smsCode : String) (failure : Option String)

def step (s : State) : Event → Option State
  | .codeSent verificationId =>
      some { s with page := { s.page with verificationId := some verificationId } }
  | .verificationCompleted none =>
      some { s with
        auth := s.auth.signInWithCredential s.page.formattedPhoneNumber
        accepted := true }
  | .verifyOTP _ failure => some (Otp.verifyOTP s failure)
  -- The other callbacks, and a refused automatic sign-in, only print.
  | .resendOTP | .codeAutoRetrievalTimeout _ | .verificationFailed _
  | .verificationCompleted (some _) => some s

/-! ## The account that signed up -/

/-- `uid` is current, no account was created, and once a credential has been
    accepted the phone is linked to `uid`. -/
structure Bound (uid n : Uid) (s : State) : Prop where
  current : s.auth.currentUser = some uid
  only : s.auth.nextUid = n
  linked : s.accepted = true → s.auth.phone uid = some s.page.formattedPhoneNumber

/-- An automatic sign-in is accepted only once the account holds the number. -/
def heldBy (uid : Uid) (s : State) : Event → Bool
  | .verificationCompleted none => s.auth.holder s.page.formattedPhoneNumber = some uid
  | _ => true

variable {uid n : Uid} {s s' : State}

theorem phone_of_holder {auth : Auth} {phoneNumber : String}
    (held : auth.holder phoneNumber = some uid) : auth.phone uid = some phoneNumber := by
  simpa only [decide_eq_true_eq] using List.find?_some held

/-- A code typed by hand leaves the account bound, whatever comes of it. -/
theorem bound_verifyOTP (bound : Bound uid n s) (failure : Option String) :
    Bound uid n (verifyOTP s failure) := by
  obtain ⟨current, only, linked⟩ := bound
  unfold verifyOTP
  split
  · exact ⟨current, only, linked⟩
  · rw [current]
    simp only
    split
    · rename_i auth accepted
      unfold Auth.linkWithCredential at accepted
      split at accepted
      · cases accepted
      split at accepted
      · cases accepted
      split at accepted
      · cases accepted
      cases accepted
      exact ⟨current, only, fun _ => Function.update_self _ _ _⟩
    · split <;> exact ⟨current, only, linked⟩

/-- An automatic sign-in leaves it bound exactly if it holds the number. -/
theorem bound_signIn_iff (bound : Bound uid n s) : Bound uid n { s with
      auth := s.auth.signInWithCredential s.page.formattedPhoneNumber
      accepted := true } ↔ s.auth.holder s.page.formattedPhoneNumber = some uid := by
  cases held : s.auth.holder s.page.formattedPhoneNumber with
  | none =>
      have created : (s.auth.signInWithCredential s.page.formattedPhoneNumber).nextUid = n + 1 := by
        rw [Auth.signInWithCredential, held, ← bound.only]
      refine iff_of_false (fun bound' => ?_) (by simp)
      exact Nat.succ_ne_self n (created.symm.trans bound'.only)
  | some other =>
      have signedIn : s.auth.signInWithCredential s.page.formattedPhoneNumber =
          { s.auth with currentUser := some other } := by
        rw [Auth.signInWithCredential, held]
      rw [signedIn]
      constructor
      · exact fun bound' => bound'.current
      · rintro ⟨rfl⟩
        exact ⟨rfl, bound.only, fun _ => phone_of_holder held⟩

theorem bound_step_iff {e : Event} (bound : Bound uid n s) (stepped : step s e = some s') :
    Bound uid n s' ↔ heldBy uid s e = true := by
  cases e with
  | verificationCompleted failure =>
      cases failure with
      | none =>
          obtain rfl := Option.some.inj stepped
          rw [bound_signIn_iff bound, heldBy, decide_eq_true_eq]
      | some code =>
          obtain rfl := Option.some.inj stepped
          exact iff_of_true bound rfl
  | verifyOTP smsCode failure =>
      obtain rfl := Option.some.inj stepped
      exact iff_of_true (bound_verifyOTP bound failure) rfl
  | codeSent =>
      obtain rfl := Option.some.inj stepped
      exact iff_of_true ⟨bound.current, bound.only, bound.linked⟩ rfl
  | resendOTP | codeAutoRetrievalTimeout | verificationFailed =>
      obtain rfl := Option.some.inj stepped
      exact iff_of_true bound rfl

/-- The verification stays with the account that signed up, all the way, exactly
    if every automatic sign-in finds the number already linked to it. -/
theorem verification_binds_iff {auth : Auth} {phoneNumber : String} {es : List Event}
    (played : run step (State.start auth uid phoneNumber) es = some s) :
    Always step (Bound uid auth.nextUid) (State.start auth uid phoneNumber) es ↔
      Meets step (fun s e => heldBy uid s e) (State.start auth uid phoneNumber) es :=
  always_iff_meets (I := fun _ => True) (E := fun _ => True) (fun _ _ _ _ _ _ _ => trivial)
    (fun _ _ _ _ _ bound stepped => bound_step_iff bound stepped) played (fun _ _ => trivial)
    trivial ⟨rfl, rfl, fun no => by cases no⟩

/-- One account, without a phone number. -/
def oneAccount : Auth := ⟨1, fun _ => none, some 0⟩

theorem typed_code_binds :
    Always step (Bound 0 1) (State.start oneAccount 0 "9876543210")
      [.codeSent "v1", .verifyOTP "000000" (some "invalid-verification-code"), .resendOTP,
        .codeSent "v2", .verifyOTP "123456" none, .verificationCompleted none] := by
  obtain ⟨s, played, _⟩ := run_reaches step (State.start oneAccount 0 "9876543210")
    [.codeSent "v1", .verifyOTP "000000" (some "invalid-verification-code"), .resendOTP,
      .codeSent "v2", .verifyOTP "123456" none, .verificationCompleted none]
    (P := fun _ => True) (by decide +kernel)
  exact (verification_binds_iff played).mpr (by decide +kernel)

/-- The platform verifies the number by itself: a second account is created and
    becomes current, and the one that signed up has no phone number. -/
theorem automatic_verification_switches_account :
    ∃ s, run step (State.start oneAccount 0 "9876543210") [.codeSent "v1",
        .verificationCompleted none] = some s ∧
      s.auth.currentUser = some 1 ∧ s.auth.phone 0 = none ∧ ¬ Bound 0 1 s := by
  obtain ⟨s, played, current, unlinked⟩ := run_reaches step (State.start oneAccount 0 "9876543210")
    [.codeSent "v1", .verificationCompleted none]
    (P := fun s => s.auth.currentUser = some 1 ∧ s.auth.phone 0 = none) (by decide +kernel)
  refine ⟨s, played, current, unlinked, fun bound => ?_⟩
  have other := bound.current
  rw [current] at other
  cases other

end Udhar.Otp
