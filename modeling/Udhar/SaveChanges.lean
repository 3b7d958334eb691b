import Udhar.EditProfile

/-! # Save Changes

The button starts `updateUserInformation` without waiting for it and goes to the
profile page in the same breath. The save then has up to three remote calls to
make: upload the new picture, ask for its url, update the document. Nothing
catches a failure of any of them, and the deployed Storage rules refuse every
upload.
-/

namespace Udhar.SaveChanges

open Lib Dart
open EditProfile (Page)

/-- What a match block of the Storage rules allows. -/
structure StorageRules where
  read : Bool
  write : Bool

/-- `match /{allPaths=**}`: `allow read, write: if false`. -/
def deployedRules : StorageRules := ⟨false, false⟩

/-- What `updateUserInformation` waits for. -/
inductive SaveStage where
  | putFile
  | getDownloadURL
  | update
  | done
  | threw
  deriving DecidableEq

/-- A run of `updateUserInformation` with the page's fields as it was called. What it
    will write is known once it has the url of the picture. -/
structure Save where
  form : Page
  userInformation : Option (List (String × Value))
  stage : SaveStage

/-- The run up to its first remote call: without a new picture there is no upload. -/
def Save.start (form : Page) : Save :=
  if form.image.isSome then ⟨form, none, .putFile⟩
  else ⟨form, some (form.userInformation ""), .update⟩

/-- One press of the button: the stores, the page, the route on top and the save
    that the press has started. `picture` is the user's file in Storage. -/
structure State where
  db : Database
  picture : Option String
  page : Page
  onProfilePage : Bool := false
  save : Option Save := none

inductive Event where
  | saveChanges
  | putFile (ok : Bool)
  | getDownloadURL (url : Option String)
  | update (ok : Bool)

/-- Resume the save at the remote call that the event is about; what a call does
    is up to the network and, for Storage, to the rules. -/
def Save.advance (u : Uid) (db : Database) (picture : Option String) (r : Save) :
    Event → Option (Database × Option String × Save)
  | .saveChanges => none
  | .putFile ok =>
      if r.stage = .putFile then
        if ok && deployedRules.write then
          some (db, r.form.image, { r with stage := .getDownloadURL })
        else some (db, picture, { r with stage := .threw })
      else none
  | .getDownloadURL url =>
      if r.stage = .getDownloadURL then
        match url with
        | some url =>
            if deployedRules.read then
              some (db, picture, { r with
                userInformation := some (r.form.userInformation url), stage := .update })
            else some (db, picture, { r with stage := .threw })
        | none => some (db, picture, { r with stage := .threw })
      else none
  | .update ok =>
      if r.stage = .update then
        match ok, r.userInformation.bind (db.updateUser u ·) with
        | true, some db' => some (db', picture, { r with stage := .done })
        | _, _ => some (db, picture, { r with stage := .threw })
      else none

/-- One step of the page of `u`; `none` when the event cannot happen. -/
def step (u : Uid) (s : State) : Event → Option State
  | .saveChanges =>
      if s.onProfilePage then none
      else if s.page.validate then
        some { s with onProfilePage := true, save := some (.start s.page) }
      else some s
  | e => do
      let r ← s.save
      let (db, picture, r) ← r.advance u s.db s.picture e
      some { s with db, picture, save := some r }

/-- The document holds the texts of the form. -/
def HoldsTexts (page : Page) (d : Fields) : Prop :=
  ∀ field : EditProfile.Field, d field.key = some (.string (trim (page.text field)))

/-- The users document holds the edited values: the three texts and, if a new picture
    was chosen, the url of its upload. -/
def Saved (u : Uid) (s : State) : Prop :=
  ∃ r d, s.save = some r ∧ s.db.users u = some d ∧ HoldsTexts r.form d ∧
    (r.form.image.isSome = true → ∃ info, r.userInformation = some info ∧
      d "profilePictureUrl" = info.lookup "profilePictureUrl")

/-- The save has failed. -/
def State.failed (s : State) : Prop := ∃ r, s.save = some r ∧ r.stage = .threw

/-- The page is left only when everything is saved, and a save that has failed has
    changed nothing and left the page where it was. -/
structure ShowsSaved (u : Uid) (before s : State) : Prop where
  left : s.onProfilePage = true → Saved u s
  failed : s.failed → s.db = before.db ∧ s.picture = before.picture ∧ s.onProfilePage = false

/-- The document already holds the texts of the form. -/
def AlreadyStored (u : Uid) (s : State) : Prop :=
  ∃ d, s.db.users u = some d ∧ HoldsTexts s.page d

/-! ## After the press -/

variable {u : Uid} {before s s' : State}

/-- The state that a press of the button leaves on a valid form. -/
def State.pressed (s : State) : State :=
  { s with onProfilePage := true, save := some (.start s.page) }

theorem step_press (here : s.onProfilePage = false) :
    step u s .saveChanges = some (if s.page.validate then s.pressed else s) := by
  simp only [step, here, Bool.false_eq_true, if_false, State.pressed]
  split <;> rfl

/-- A save that has ended takes no further step. -/
theorem step_ended {r : Save} {e : Event} (opened : s.onProfilePage = true)
    (save : s.save = some r) (ended : r.stage = .done ∨ r.stage = .threw) : step u s e = none := by
  cases e <;> rcases ended with stage | stage <;> simp [step, opened, save, Save.advance, stage]

/-- How the update of the document ends. -/
theorem step_update {r : Save} {info : List (String × Value)} {ok : Bool}
    (save : s.save = some r) (stage : r.stage = .update) (writes : r.userInformation = some info)
    (stepped : step u s (.update ok) = some s') :
    (∃ db', ok = true ∧ s.db.updateUser u info = some db' ∧
      s' = { s with db := db', save := some { r with stage := .done } }) ∨
    (ok = false ∨ s.db.updateUser u info = none) ∧
      s' = { s with save := some { r with stage := .threw } } := by
  obtain ⟨form, known, waiting⟩ := r
  obtain rfl : waiting = .update := stage
  obtain rfl : known = some info := writes
  simp only [step, save, Save.advance, if_true, Option.bind_eq_bind, Option.bind_some] at stepped
  cases ok with
  | false =>
      cases stepped
      exact .inr ⟨.inl rfl, rfl⟩
  | true =>
      cases updated : s.db.updateUser u info with
      | none =>
          rw [updated] at stepped
          cases stepped
          exact .inr ⟨.inr rfl, rfl⟩
      | some db' =>
          rw [updated] at stepped
          cases stepped
          exact .inl ⟨db', rfl, rfl, rfl⟩

/-- Without a new picture a save begins at the update of the document. -/
theorem start_noPicture {page : Page} (noPicture : page.image = none) :
    Save.start page = ⟨page, some (page.userInformation ""), .update⟩ := by
  simp only [Save.start, noPicture, Option.isSome_none, Bool.false_eq_true, if_false]

/-- Without a new picture, the update is all that happens after the press. -/
theorem run_pressed {es : List Event} (noPicture : before.page.image = none)
    (played : run (step u) before.pressed es = some s) : es = [] ∨ ∃ ok, es = [.update ok] := by
  have start := start_noPicture noPicture
  cases es with
  | nil => exact .inl rfl
  | cons e es =>
      obtain ⟨t, first, rest⟩ := run_cons.mp played
      cases e with
      | saveChanges => simp [step, State.pressed] at first
      | putFile | getDownloadURL => simp [step, State.pressed, start, Save.advance] at first
      | update ok =>
          refine .inr ⟨ok, ?_⟩
          cases es with
          | nil => rfl
          | cons e' es =>
              obtain ⟨_, second, _⟩ := run_cons.mp rest
              rcases step_update rfl (by rw [start]) (by rw [start]) first with
                ⟨_, _, _, rfl⟩ | ⟨_, rfl⟩
              · rw [step_ended rfl rfl (.inl rfl)] at second
                cases second
              · rw [step_ended rfl rfl (.inr rfl)] at second
                cases second

/-- A new picture stops the save at the upload, whatever the network does: the rules
    refuse it, and the texts are not written either. -/
theorem new_picture_saves_nothing {es : List Event} (picture : before.page.image.isSome = true)
    (played : run (step u) before.pressed es = some s) :
    s.db = before.db ∧ s.picture = before.picture := by
  have stuck : (s.db = before.db ∧ s.picture = before.picture) ∧ s.onProfilePage = true ∧
      ∃ r, s.save = some r ∧ (r.stage = .putFile ∨ r.stage = .threw) := by
    refine run_invariant (P := fun t => (t.db = before.db ∧ t.picture = before.picture) ∧
      t.onProfilePage = true ∧ ∃ r, t.save = some r ∧ (r.stage = .putFile ∨ r.stage = .threw))
      ?_ played ⟨⟨rfl, rfl⟩, rfl, .start before.page, rfl, .inl ?_⟩
    · rintro t e t' ⟨same, opened, r, save, stage⟩ stepped
      rcases stage with stage | stage
      · cases e with
        | putFile ok =>
            simp only [step, save, Save.advance, stage, if_true, deployedRules, Bool.and_false,
              Bool.false_eq_true, if_false, Option.bind_eq_bind, Option.bind_some] at stepped
            cases stepped
            exact ⟨same, opened, _, rfl, .inr rfl⟩
        | saveChanges | getDownloadURL | update =>
            simp [step, opened, save, Save.advance, stage] at stepped
      · rw [step_ended opened save (.inr stage)] at stepped
        cases stepped
    · rw [Save.start, if_pos picture]
  exact stuck.1

theorem saved_pressed_iff :
    Saved u before.pressed ↔ before.page.image = none ∧ AlreadyStored u before := by
  constructor
  · rintro ⟨r, d, save, found, holds, uploaded⟩
    obtain rfl := Option.some.inj save
    unfold Save.start at holds uploaded
    split at uploaded
    · rename_i picture
      obtain ⟨_, writes, _⟩ := uploaded picture
      cases writes
    · rename_i noPicture
      rw [if_neg noPicture] at holds
      exact ⟨Option.not_isSome_iff_eq_none.mp noPicture, d, found, holds⟩
  · rintro ⟨noPicture, d, found, holds⟩
    have form := congrArg Save.form (start_noPicture noPicture)
    refine ⟨_, d, rfl, found, by rwa [form], fun chosen => ?_⟩
    rw [form, noPicture] at chosen
    cases chosen

/-- Once the document is updated, it holds what the save has written. -/
theorem saved_updated {db' : Database} {r : Save} {page : Page} {uploaded : String}
    (form : r.form = page) (writes : r.userInformation = some (page.userInformation uploaded))
    (updated : before.db.updateUser u (page.userInformation uploaded) = some db')
    (save : s.save = some r) (db : s.db = db') : Saved u s := by
  obtain ⟨d, found, rfl⟩ := Database.updateUser_eq_some updated
  subst form
  refine ⟨r, d.update (r.form.userInformation uploaded), save, ?_, fun field => ?_, fun _ => ?_⟩
  · rw [db]
    exact Function.update_self _ _ _
  · exact EditProfile.update_field r.form uploaded d field
  · exact ⟨_, writes, EditProfile.update_url r.form uploaded d⟩

/-- The route changes with the press, so everything must be saved by then. -/
theorem showsSaved_pressed_iff :
    ShowsSaved u before before.pressed ↔ before.page.image = none ∧ AlreadyStored u before := by
  constructor
  · exact fun shows' => saved_pressed_iff.mp (shows'.left rfl)
  · intro saved
    refine ⟨fun _ => saved_pressed_iff.mpr saved, ?_⟩
    rintro ⟨r, save, threw⟩
    obtain rfl := Option.some.inj save
    rw [start_noPicture saved.1] at threw
    cases threw

/-- The update writes what the document holds already; if it fails, it is too late to
    stay on the page. -/
theorem showsSaved_updated_iff {ok : Bool} (noPicture : before.page.image = none)
    (stored : AlreadyStored u before) (stepped : step u before.pressed (.update ok) = some s) :
    ShowsSaved u before s ↔ ok = true := by
  have start := start_noPicture noPicture
  have writes := congrArg Save.userInformation start
  rcases step_update rfl (by rw [start]) writes stepped with
    ⟨db', rfl, updated, rfl⟩ | ⟨failed | missing, rfl⟩
  · refine iff_of_true ⟨fun _ => saved_updated ?_ ?_ updated rfl rfl, ?_⟩ rfl
    · exact congrArg Save.form start
    · exact writes
    · rintro ⟨r, save, threw⟩
      obtain rfl := Option.some.inj save
      cases threw
  · refine iff_of_false (fun shows' => ?_) (by simp only [failed, Bool.false_eq_true,
      not_false_eq_true])
    cases (shows'.failed ⟨_, rfl, rfl⟩).2.2
  · obtain ⟨d, found, _⟩ := stored
    exact absurd missing (by simp [Database.updateUser, State.pressed, found])

/-- From the press on, the page shows what is saved exactly if nothing was left to
    save and the update goes well. -/
theorem saved_after_press_iff {es : List Event}
    (played : run (step u) before.pressed es = some s) :
    Always (step u) (ShowsSaved u before) before.pressed es ↔
      before.page.image = none ∧ AlreadyStored u before ∧ .update false ∉ es := by
  constructor
  · intro always
    obtain ⟨noPicture, stored⟩ :=
      showsSaved_pressed_iff.mp (always [] before.pressed List.nil_prefix rfl)
    refine ⟨noPicture, stored, fun fails => ?_⟩
    rcases run_pressed noPicture played with rfl | ⟨ok, rfl⟩
    · cases fails
    · obtain rfl : false = ok := Event.update.inj (List.mem_singleton.mp fails)
      have ended := always _ s (List.prefix_refl _) played
      obtain ⟨t, updated, rest⟩ := run_cons.mp played
      cases rest
      cases (showsSaved_updated_iff noPicture stored updated).mp ended
  · rintro ⟨noPicture, stored, succeeds⟩
    have pressed := showsSaved_pressed_iff.mpr ⟨noPicture, stored⟩
    rcases run_pressed noPicture played with rfl | ⟨ok, rfl⟩
    · exact always_nil.mpr pressed
    · refine always_cons.mpr ⟨pressed, fun t updated => always_nil.mpr ?_⟩
      apply (showsSaved_updated_iff noPicture stored updated).mpr
      cases ok with
      | true => rfl
      | false => exact absurd (List.mem_singleton_self _) succeeds

theorem showsSaved_start (here : before.onProfilePage = false) (fresh : before.save = none) :
    ShowsSaved u before before := by
  constructor
  · intro opened
    rw [here] at opened
    cases opened
  · rintro ⟨r, save, _⟩
    rw [fresh] at save
    cases save

/-- A press that the validators refuse changes nothing, and nothing follows it. -/
theorem run_refused {es : List Event} (here : before.onProfilePage = false)
    (fresh : before.save = none) (invalid : before.page.validate = false)
    (played : run (step u) before es = some s) : s = before := by
  refine run_invariant (P := (· = before)) ?_ played rfl
  rintro _ e t rfl stepped
  cases e with
  | saveChanges =>
      rw [step_press here, invalid] at stepped
      exact (Option.some.inj stepped).symm
  | putFile | getDownloadURL | update => simp [step, fresh] at stepped

/-- A press of Save Changes leaves the page only with everything saved, and undoes
    itself when something fails, exactly if the validators refuse it, or no new
    picture is to be saved, the document holds the texts already, and its update
    does not fail. -/
theorem leaves_only_when_saved_iff {es : List Event} (here : before.onProfilePage = false)
    (fresh : before.save = none) (played : run (step u) before (.saveChanges :: es) = some s) :
    Always (step u) (ShowsSaved u before) before (.saveChanges :: es) ↔
      before.page.validate = false ∨
        before.page.image = none ∧ AlreadyStored u before ∧ .update false ∉ es := by
  have start : ShowsSaved u before before := showsSaved_start here fresh
  cases valid : before.page.validate with
  | false =>
      refine iff_of_true (fun pre t _ ran => ?_) (.inl rfl)
      rw [run_refused here fresh valid ran]
      exact start
  | true =>
      have press : step u before .saveChanges = some before.pressed := by
        rw [step_press here, valid, if_pos rfl]
      obtain ⟨t, first, rest⟩ := run_cons.mp played
      obtain rfl := Option.some.inj (press.symm.trans first)
      simp only [always_cons, start, press, Option.some.injEq, forall_eq', true_and,
        Bool.true_eq_false, false_or]
      exact saved_after_press_iff rest

/-- The page with the texts of `withTexts` in its fields. -/
def edited (image : Option String) : Page where
  text
    | .name => "Asha Rao"
    | .dob => "01/02/1999"
    | .address => "Pune"
  imageURL2 := some ""
  image := image
  load := .done

/-- The profile that a save of `edited` stores. -/
def withTexts : Fields := EditProfile.signedUp.update ((edited none).userInformation "")

theorem unchanged_profile_is_saved :
    Always (step 0) (ShowsSaved 0 ⟨.setUser .empty 0 withTexts, none, edited none, false, none⟩)
      ⟨.setUser .empty 0 withTexts, none, edited none, false, none⟩
      [.saveChanges, .update true] :=
  (leaves_only_when_saved_iff rfl rfl rfl).mpr
    (.inr ⟨rfl, ⟨withTexts, rfl, fun field => EditProfile.update_field _ _ _ field⟩, by simp⟩)

/-- The profile page is shown over the old document; and with a new picture, an
    upload that the network lets through is refused by the rules, which drops the
    texts as well. -/
theorem profile_page_shown_over_old_document :
    (∃ s, run (step 0) ⟨.setUser .empty 0 EditProfile.signedUp, none, edited none, false, none⟩
        [.saveChanges] = some s ∧ s.onProfilePage = true ∧ ¬ Saved 0 s) ∧
    ∃ s, run (step 0) ⟨.setUser .empty 0 EditProfile.signedUp, some "old.jpg",
        edited (some "new.jpg"), false, none⟩ [.saveChanges, .putFile true] = some s ∧
      s.failed ∧ s.onProfilePage = true ∧ s.db.users 0 = some EditProfile.signedUp := by
  refine ⟨⟨_, rfl, rfl, ?_⟩, ⟨_, rfl, ⟨_, rfl, rfl⟩, rfl, rfl⟩⟩
  rintro ⟨r, d, save, found, holds, _⟩
  obtain rfl := Option.some.inj save
  obtain rfl := Option.some.inj found
  exact absurd (holds .name) (by decide +kernel)

end Udhar.SaveChanges
