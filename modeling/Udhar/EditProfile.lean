import Udhar.Dart
import Udhar.Firestore
import Udhar.Lib.Run

/-! # Edit Profile

The page loads the user's document into the very controllers the user types in,
and a save writes back all three texts and a picture url. A load that completes
after an edit overwrites it, and a save takes the url from the load unless a new
picture was chosen, with the empty text for one that is missing.
-/

namespace Udhar.EditProfile

open Lib Dart

/-- The text fields of the form. -/
inductive Field where
  | name
  | dob
  | address
  deriving DecidableEq

/-- The key under which a field is stored. -/
def Field.key : Field → String
  | .name => "name"
  | .dob => "dob"
  | .address => "Address"

/-- The validator's text for an empty field. -/
def Field.validator (field : Field) (value : String) : Option String :=
  if value = "" then
    match field with
    | .name => some "Please enter your name"
    | .dob | .address => some "Please enter your address"
  else none

/-- Where `_fetchUserData` stands. -/
inductive LoadStage where
  | reading
  | done
  | threw
  deriving DecidableEq

/-- The fields of `_EditProfilePageState`. Nothing reads `typed` and `filled`:
    the text the user typed last into a field, and whether the load has set the
    field since. -/
structure Page where
  text : Field → String := fun _ => ""
  imageURL2 : Option String := none
  image : Option String := none
  load : LoadStage := .reading
  typed : Field → Option String := fun _ => none
  filled : Field → Bool := fun _ => false

/-- `_controller.text = userData[key] ?? ''`: `none` where the assignment throws. -/
def assigned : Option Value → Option String
  | none | some .null => some ""
  | some (.string s) => some s
  | some (.bool _) | some (.number _) => none

/-- The load sets one field. -/
def Page.fill (page : Page) (field : Field) (text : String) : Page :=
  { page with
    text := Function.update page.text field text
    filled := Function.update page.filled field true }

/-- The assignments of `_fetchUserData`, in order, up to the first that throws. -/
def Page.assign (page : Page) (d : Fields) : List Field → Page
  | [] =>
      match assigned (d "profilePictureUrl") with
      | some url => { page with imageURL2 := some url, load := .done }
      | none => { page with load := .threw }
  | field :: fields =>
      match assigned (d field.key) with
      | some text => (page.fill field text).assign d fields
      | none => { page with load := .threw }

/-- `_fetchUserData` resumes with the snapshot of the user's document. -/
def Page.fetched (page : Page) : Option Fields → Page
  | some d => page.assign d [.name, .dob, .address]
  | none => { page with load := .done }

/-- The user types into a field. -/
def Page.type (page : Page) (field : Field) (text : String) : Page :=
  { page with
    text := Function.update page.text field text
    typed := Function.update page.typed field (some text)
    filled := Function.update page.filled field false }

inductive Event where
  | fetchUserData (ok : Bool)
  | type (field : Field) (text : String)
  | changeProfilePhoto (file : Option String)

/-- One step of the page while the user's document is `stored`. -/
def step (stored : Option Fields) (page : Page) : Event → Option Page
  | .fetchUserData ok =>
      if page.load = .reading then
        some (if ok then page.fetched stored else { page with load := .threw })
      else none
  | .type field text => some (page.type field text)
  | .changeProfilePhoto file => some { page with image := file.or page.image }

/-- `_formKey.currentState?.validate()`. -/
def Page.validate (page : Page) : Bool :=
  [Field.name, .dob, .address].all fun field => (field.validator (page.text field)).isNone

/-- What `updateUserInformation` writes as the picture's url; `uploaded` is the
    url of a new picture's upload. -/
def Page.imageURL (page : Page) (uploaded : String) : Value :=
  match page.image with
  | some _ => .string uploaded
  | none => page.imageURL2.elim .null .string

/-- The update that `updateUserInformation` commits. -/
def Page.userInformation (page : Page) (uploaded : String) : List (String × Value) :=
  [("name", .string (trim (page.text .name))), ("dob", .string (trim (page.text .dob))),
    ("Address", .string (trim (page.text .address))),
    ("profilePictureUrl", page.imageURL uploaded)]

/-! ## What a save should do -/

/-- Missing, or null. -/
def absent (v : Option Value) : Bool := v = none || v = some .null

/-- The committed document `saved` holds what the user typed last, the trimmed
    stored texts elsewhere, the url of the new picture or else the stored one,
    and all other fields of `d`. -/
structure KeepsEdits (page : Page) (uploaded : String) (d saved : Fields) : Prop where
  edited : ∀ field text, page.typed field = some text →
    saved field.key = some (.string (trim text))
  unedited : ∀ field, page.typed field = none →
    ∃ text, d field.key = some (.string text) ∧ saved field.key = some (.string (trim text))
  picture : page.image.isSome = true → saved "profilePictureUrl" = some (.string uploaded)
  noPicture : page.image = none → saved "profilePictureUrl" = d "profilePictureUrl" ∨
    absent (d "profilePictureUrl") = true ∧ absent (saved "profilePictureUrl") = true
  others : ∀ key, key ∉ ["name", "dob", "Address", "profilePictureUrl"] → saved key = d key

/-- The load has overwritten no edit with another text, and a save without a new
    picture comes after the load of a stored url, or without it where there is
    no url. -/
structure LoadedInTime (page : Page) (d : Fields) : Prop where
  texts : ∀ field text, page.typed field = some text → page.filled field = true →
    ∃ stored, d field.key = some (.string stored) ∧ trim text = trim stored
  url : page.image.isSome = true ∨
    (page.load = .done ∧ ∃ url, d "profilePictureUrl" = some (.string url)) ∨
    page.load ≠ .done ∧ absent (d "profilePictureUrl") = true

/-! ## Where the texts come from -/

/-- A filled text is the stored one, any other the one typed last. -/
structure TextsSound (stored : Option Fields) (page : Page) : Prop where
  filled : ∀ field, page.filled field = true →
    ∃ d, stored = some d ∧ assigned (d field.key) = some (page.text field)
  typed : ∀ field, page.filled field = false → page.text field = (page.typed field).getD ""

/-- The url is there exactly after a complete load. -/
structure Sound (stored : Option Fields) (page : Page) : Prop where
  texts : TextsSound stored page
  loaded : page.load = .done → ∀ d, stored = some d →
    ∃ url, assigned (d "profilePictureUrl") = some url ∧ page.imageURL2 = some url
  unloaded : page.load ≠ .done → page.imageURL2 = none

variable {stored : Option Fields} {page page' : Page}

theorem textsSound_fill {d : Fields} (sound : TextsSound (some d) page) {field : Field}
    {text : String} (read : assigned (d field.key) = some text) :
    TextsSound (some d) (page.fill field text) := by
  constructor
  · intro other filled
    by_cases same : other = field
    · subst same
      exact ⟨d, rfl, by simp only [read, Page.fill, Function.update_self]⟩
    · simp only [Page.fill, Function.update_of_ne same] at filled ⊢
      exact sound.filled other filled
  · intro other unfilled
    by_cases same : other = field
    · subst same
      simp only [Page.fill, Function.update_self, Bool.true_eq_false] at unfilled
    · simp only [Page.fill, Function.update_of_ne same] at unfilled ⊢
      exact sound.typed other unfilled

/-- The load fills what it reads before it fails, if it fails. -/
theorem sound_assign {d : Fields} (fields : List Field) (sound : TextsSound (some d) page)
    (fresh : page.imageURL2 = none) : Sound (some d) (page.assign d fields) := by
  induction fields generalizing page with
  | nil =>
      cases read : assigned (d "profilePictureUrl") with
      | some url =>
          simp only [Page.assign, read]
          refine ⟨⟨sound.filled, sound.typed⟩, fun _ d' same => ?_, fun no => absurd rfl no⟩
          obtain rfl := Option.some.inj same
          exact ⟨url, read, rfl⟩
      | none =>
          simp only [Page.assign, read]
          exact ⟨⟨sound.filled, sound.typed⟩, fun no => (by cases no), fun _ => fresh⟩
  | cons field fields ih =>
      cases read : assigned (d field.key) with
      | some text =>
          simp only [Page.assign, read]
          exact ih (textsSound_fill sound read) fresh
      | none =>
          simp only [Page.assign, read]
          exact ⟨⟨sound.filled, sound.typed⟩, fun no => (by cases no), fun _ => fresh⟩

theorem sound_step {e : Event} (sound : Sound stored page)
    (stepped : step stored page e = some page') : Sound stored page' := by
  cases e with
  | fetchUserData ok =>
      simp only [step] at stepped
      split at stepped
      swap
      · cases stepped
      rename_i reading
      have fresh := sound.unloaded (by simp [reading])
      obtain rfl := Option.some.inj stepped
      cases ok with
      | false =>
          exact ⟨⟨sound.texts.filled, sound.texts.typed⟩, fun no => (by cases no), fun _ => fresh⟩
      | true =>
          cases stored with
          | none =>
              exact ⟨⟨sound.texts.filled, sound.texts.typed⟩, fun _ d no => (nomatch no),
                fun no => absurd rfl no⟩
          | some d => exact sound_assign _ sound.texts fresh
  | type field text =>
      obtain rfl := Option.some.inj stepped
      refine ⟨⟨?_, ?_⟩, sound.loaded, sound.unloaded⟩
      · intro other filled
        by_cases same : other = field
        · subst same
          simp only [Page.type, Function.update_self, Bool.false_eq_true] at filled
        · simp only [Page.type, Function.update_of_ne same] at filled ⊢
          exact sound.texts.filled other filled
      · intro other unfilled
        by_cases same : other = field
        · subst same
          simp only [Page.type, Function.update_self, Option.getD_some]
        · simp only [Page.type, Function.update_of_ne same] at unfilled ⊢
          exact sound.texts.typed other unfilled
  | changeProfilePhoto =>
      obtain rfl := Option.some.inj stepped
      exact ⟨⟨sound.texts.filled, sound.texts.typed⟩, sound.loaded, sound.unloaded⟩

theorem sound_init (stored : Option Fields) : Sound stored {} :=
  ⟨⟨fun _ no => (by cases no), fun _ _ => rfl⟩, fun no => (by cases no), fun _ => rfl⟩

/-! ## The committed document -/

theorem text_ne_empty (valid : page.validate = true) (field : Field) : page.text field ≠ "" := by
  simp only [Page.validate, List.all_eq_true] at valid
  have passed := valid field (by cases field <;> simp)
  intro empty
  rw [empty] at passed
  cases field <;> cases passed

theorem update_field (page : Page) (uploaded : String) (d : Fields) (field : Field) :
    d.update (page.userInformation uploaded) field.key =
      some (.string (trim (page.text field))) := by
  cases field <;> rfl

theorem update_url (page : Page) (uploaded : String) (d : Fields) :
    d.update (page.userInformation uploaded) "profilePictureUrl" =
      some (page.imageURL uploaded) := rfl

theorem update_others (page : Page) (uploaded : String) (d : Fields) {key : String}
    (other : key ∉ ["name", "dob", "Address", "profilePictureUrl"]) :
    d.update (page.userInformation uploaded) key = d key := by
  apply Fields.update_of_lookup_none
  simp only [List.mem_cons, List.not_mem_nil, or_false, not_or] at other
  obtain ⟨name, dob, address, url⟩ := other
  simp only [Page.userInformation, List.lookup_cons, List.lookup_nil, beq_eq_false_iff_ne.mpr name,
    beq_eq_false_iff_ne.mpr dob, beq_eq_false_iff_ne.mpr address, beq_eq_false_iff_ne.mpr url]

/-- A filled field that passes its validator was stored as a text. -/
theorem stored_of_filled {d : Fields} (sound : Sound (some d) page) (valid : page.validate = true)
    {field : Field} (filled : page.filled field = true) :
    d field.key = some (.string (page.text field)) := by
  obtain ⟨d', same, read⟩ := sound.texts.filled field filled
  obtain rfl := Option.some.inj same
  have nonempty := text_ne_empty valid field
  unfold assigned at read
  split at read
  · exact absurd (Option.some.inj read).symm nonempty
  · exact absurd (Option.some.inj read).symm nonempty
  · rename_i text found
    rw [found, Option.some.inj read]
  all_goals cases read

/-- The url that a save without a new picture writes is right exactly if the
    load came in time for it. -/
theorem url_kept_iff {d : Fields} (sound : Sound (some d) page) (noPicture : page.image = none)
    (uploaded : String) :
    some (page.imageURL uploaded) = d "profilePictureUrl" ∨
        absent (d "profilePictureUrl") = true ∧ absent (some (page.imageURL uploaded)) = true ↔
      (page.load = .done ∧ ∃ url, d "profilePictureUrl" = some (.string url)) ∨
        page.load ≠ .done ∧ absent (d "profilePictureUrl") = true := by
  by_cases done : page.load = .done
  · obtain ⟨url, read, shown⟩ := sound.loaded done d rfl
    have written : page.imageURL uploaded = .string url := by
      rw [Page.imageURL, noPicture, shown]
      rfl
    rw [written]
    constructor
    · rintro (same | ⟨_, absurdly⟩)
      · exact .inl ⟨done, url, same.symm⟩
      · cases absurdly
    · rintro (⟨_, stored, found⟩ | ⟨notDone, _⟩)
      · rw [found] at read ⊢
        exact .inl (by rw [Option.some.inj read])
      · exact absurd done notDone
  · have written : page.imageURL uploaded = .null := by
      rw [Page.imageURL, noPicture, sound.unloaded done]
      rfl
    rw [written]
    constructor
    · rintro (same | ⟨missing, _⟩)
      · exact .inr ⟨done, by rw [← same]; rfl⟩
      · exact .inr ⟨done, missing⟩
    · rintro (⟨yes, _⟩ | ⟨_, missing⟩)
      · exact absurd yes done
      · exact .inr ⟨missing, rfl⟩

theorem keepsEdits_iff {d : Fields} (sound : Sound (some d) page) (valid : page.validate = true)
    (uploaded : String) :
    KeepsEdits page uploaded d (d.update (page.userInformation uploaded)) ↔
      LoadedInTime page d := by
  constructor
  · intro keeps
    constructor
    · intro field text typed filled
      have edited := keeps.edited field text typed
      rw [update_field] at edited
      exact ⟨_, stored_of_filled sound valid filled,
        (Value.string.inj (Option.some.inj edited)).symm⟩
    · cases chosen : page.image with
      | some file => exact .inl rfl
      | none => exact .inr ((url_kept_iff sound chosen uploaded).mp (keeps.noPicture chosen))
  · intro inTime
    constructor
    · intro field text typed
      rw [update_field]
      cases filled : page.filled field with
      | true =>
          obtain ⟨stored, found, same⟩ := inTime.texts field text typed filled
          have shown := stored_of_filled sound valid filled
          rw [found] at shown
          rw [← Value.string.inj (Option.some.inj shown), same]
      | false => rw [sound.texts.typed field filled, typed, Option.getD_some]
    · intro field untyped
      cases filled : page.filled field with
      | true => exact ⟨_, stored_of_filled sound valid filled, update_field page uploaded d field⟩
      | false =>
          have empty := sound.texts.typed field filled
          rw [untyped] at empty
          exact absurd empty (text_ne_empty valid field)
    · intro chosen
      obtain ⟨file, chosen⟩ := Option.isSome_iff_exists.mp chosen
      rw [update_url, Page.imageURL, chosen]
    · intro noPicture
      rw [update_url]
      refine (url_kept_iff sound noPicture uploaded).mpr (inTime.url.resolve_left ?_)
      simp [noPicture]
    · exact fun key other => update_others page uploaded d other

/-- When a save commits, it keeps the user's edits and everything else exactly
    if the load came in time. -/
theorem save_keeps_edits_iff {db db' : Database} {u : Uid} {d : Fields} {es : List Event}
    {uploaded : String} (found : db.users u = some d)
    (played : run (step (db.users u)) {} es = some page) (valid : page.validate = true)
    (committed : db.updateUser u (page.userInformation uploaded) = some db') :
    (∃ d', db'.users u = some d' ∧ KeepsEdits page uploaded d d') ↔ LoadedInTime page d := by
  have sound : Sound (db.users u) page :=
    run_invariant (fun _ _ _ sound stepped => sound_step sound stepped) played (sound_init _)
  rw [found] at sound
  obtain ⟨d₀, found₀, rfl⟩ := Database.updateUser_eq_some committed
  rw [found] at found₀
  obtain rfl := Option.some.inj found₀
  have stored : (db.setUser u (d.update (page.userInformation uploaded))).users u =
      some (d.update (page.userInformation uploaded)) := Function.update_self _ _ _
  rw [stored, ← keepsEdits_iff sound valid uploaded]
  constructor
  · rintro ⟨d', same, keeps⟩
    obtain rfl := Option.some.inj same
    exact keeps
  · exact fun keeps => ⟨_, rfl, keeps⟩

/-- The document that a sign-up stores. -/
def signedUp : Fields := .ofList [("name", .string "Asha"), ("email", .string "asha@example.com"),
  ("phoneNumber", .string "9876543210")]

/-- The same with a picture. -/
def withPicture : Fields := signedUp.update [("profilePictureUrl", .string "https://pics/0.jpg")]

theorem load_before_edits_keeps_them : ∃ page db',
    run (step (some withPicture)) {} [.fetchUserData true, .type .name " Asha Rao",
      .type .dob "01/02/1999", .type .address "Pune"] = some page ∧
    (Database.empty.setUser 0 withPicture).updateUser 0 (page.userInformation "") = some db' ∧
    ∃ d', db'.users 0 = some d' ∧ KeepsEdits page "" withPicture d' := by
  obtain ⟨page, played, valid, done, kept⟩ := run_reaches (step (some withPicture)) {}
    [.fetchUserData true, .type .name " Asha Rao", .type .dob "01/02/1999", .type .address "Pune"]
    (P := fun page => page.validate = true ∧ page.load = .done ∧
      ∀ field ∈ [Field.name, .dob, .address], page.filled field = false) (by decide +kernel)
  have found : (Database.empty.setUser 0 withPicture).users 0 = some withPicture := rfl
  refine ⟨page, _, played, rfl, (save_keeps_edits_iff found played valid rfl).mpr
    ⟨?_, .inr (.inl ⟨done, _, rfl⟩)⟩⟩
  intro field text _ filled
  rw [kept field (by cases field <;> simp)] at filled
  cases filled

/-- A load that completes after the name was typed undoes the edit; and a save
    without a picture invents an empty url where none was stored. -/
theorem late_load_loses_edit_and_save_invents_url :
    (∃ page, run (step (some withPicture)) {} [.type .name "Asha Rao", .fetchUserData true,
        .type .dob "01/02/1999", .type .address "Pune"] = some page ∧ page.validate = true ∧
      ¬ KeepsEdits page "" withPicture (withPicture.update (page.userInformation ""))) ∧
    ∃ page, run (step (some signedUp)) {} [.fetchUserData true, .type .dob "01/02/1999",
        .type .address "Pune"] = some page ∧ page.validate = true ∧
      ¬ KeepsEdits page "" signedUp (signedUp.update (page.userInformation "")) := by
  constructor
  · obtain ⟨page, played, valid, typed, text⟩ := run_reaches (step (some withPicture)) {}
      [.type .name "Asha Rao", .fetchUserData true, .type .dob "01/02/1999", .type .address "Pune"]
      (P := fun page => page.validate = true ∧ page.typed .name = some "Asha Rao" ∧
        page.text .name = "Asha") (by decide +kernel)
    refine ⟨page, played, valid, fun keeps => ?_⟩
    have edited := keeps.edited .name "Asha Rao" typed
    rw [update_field, text] at edited
    exact absurd edited (by decide +kernel)
  · obtain ⟨page, played, valid, noPicture, url⟩ := run_reaches (step (some signedUp)) {}
      [.fetchUserData true, .type .dob "01/02/1999", .type .address "Pune"]
      (P := fun page => page.validate = true ∧ page.image = none ∧ page.imageURL2 = some "")
      (by decide +kernel)
    refine ⟨page, played, valid, fun keeps => ?_⟩
    have written : page.imageURL "" = .string "" := by
      rw [Page.imageURL, noPicture, url]
      rfl
    have kept := keeps.noPicture noPicture
    rw [update_url, written] at kept
    exact absurd kept (by decide +kernel)

end Udhar.EditProfile
