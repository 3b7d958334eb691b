import Udhar.Profiles

/-! # The store of profiles

What registrations and saves write one after the other is what a simple store would hold:
for each user the document of the registration and, over it, the fields of the save that
was written last. No profile mixes two saves, and no registration takes a save back.
-/

namespace Udhar.ProfileStore

open Lib SignUp Profiles
open EditProfile (Page)
open App (ProfileSave)

/-! ## The store -/

/-- What the store keeps of a user. -/
structure Entry where
  registered : Fields
  saved : Option (List (String × Value))

def Entry.document (entry : Entry) : Fields :=
  entry.saved.elim entry.registered entry.registered.update

inductive Commit where
  | register (user : Uid) (data : Fields)
  | save (user : Uid) (userInformation : List (String × Value))

/-- A user registers once and saves afterwards; a save replaces the one before. -/
def commit (store : Uid → Option Entry) : Commit → Option (Uid → Option Entry)
  | .register user data =>
      if (store user).isSome then none
      else some (Function.update store user (some ⟨data, none⟩))
  | .save user userInformation =>
      (store user).map fun entry =>
        Function.update store user (some { entry with saved := some userInformation })

/-- The write that a step commits. -/
def commits (s : Profiles.State) : Profiles.Event → List Commit
  | .resumeSignUp i none =>
      match s.registrations[i]?.map Registration.stage with
      | some (.set uid data) => [.register uid data]
      | _ => []
  | .resumeSave i (some _) =>
      match s.profileSaves[i]? with
      | some r =>
          match r.stage with
          | .update userInformation =>
              if (s.db.users r.user).isSome then [.save r.user userInformation] else []
          | _ => []
      | none => []
  | _ => []

/-- The documents are those of the store, and what was saved are the fields of a page. -/
structure Holds (s : Profiles.State) (store : Uid → Option Entry) : Prop where
  registered : Registered s
  documents : ∀ u, s.db.users u = (store u).map Entry.document
  fields : ∀ u entry userInformation, store u = some entry →
    entry.saved = some userInformation →
      ∃ page uploaded, userInformation = Page.userInformation page uploaded

/-! ## Documents -/

theorem lookup_eq_none_of_keys {α : Type*} {a b : List (String × α)}
    (same : a.map Prod.fst = b.map Prod.fst) {key : String} (absent : b.lookup key = none) :
    a.lookup key = none := by
  rw [List.lookup_eq_none_iff] at absent ⊢
  intro entry member
  have listed : entry.1 ∈ b.map Prod.fst := same ▸ List.mem_map_of_mem member
  obtain ⟨entry', member', key'⟩ := List.mem_map.mp listed
  exact key' ▸ absent entry' member'

/-- An update of the same fields replaces the one before. -/
theorem update_update {d : Fields} {a b : List (String × Value)}
    (same : a.map Prod.fst = b.map Prod.fst) : (d.update a).update b = d.update b := by
  funext key
  cases found : b.lookup key with
  | none => simp only [Fields.update, found, lookup_eq_none_of_keys same found, Option.none_or]
  | some value => simp only [Fields.update, found, Option.some_or]

section Steps

variable {s s' : Profiles.State} {store : Uid → Option Entry} {e : Profiles.Event}

/-- What a step commits, and what this makes of the documents. -/
theorem step_commits (registered : Registered s) (stepped : Profiles.step s e = some s') :
    commits s e = [] ∧ s'.db.users = s.db.users ∨
    (∃ uid data, commits s e = [.register uid data] ∧ s.db.users uid = none ∧
      s'.db.users = Function.update s.db.users uid (some data)) ∨
    ∃ u info d, commits s e = [.save u info] ∧ s.db.users u = some d ∧
      (∃ page uploaded, info = Page.userInformation page uploaded) ∧
      s'.db.users = Function.update s.db.users u (some (d.update info)) := by
  cases e with
  | openSignUp | openEditProfile =>
      obtain rfl := Option.some.inj stepped
      exact .inl ⟨rfl, rfl⟩
  | type p field text =>
      obtain ⟨page, _, rest⟩ := Option.bind_eq_some_iff.mp stepped
      obtain rfl := Option.some.inj rest
      exact .inl ⟨rfl, rfl⟩
  | signUp p | saveChanges i =>
      obtain ⟨_, _, rest⟩ := Option.bind_eq_some_iff.mp stepped
      split at rest <;> obtain rfl := Option.some.inj rest <;> exact .inl ⟨rfl, rfl⟩
  | edit i e =>
      obtain ⟨edited, _, rest⟩ := Option.bind_eq_some_iff.mp stepped
      obtain ⟨page, _, rest⟩ := Option.bind_eq_some_iff.mp rest
      obtain rfl := Option.some.inj rest
      exact .inl ⟨rfl, rfl⟩
  | resumeSignUp i failure =>
      obtain ⟨r, found, rest⟩ := Option.bind_eq_some_iff.mp stepped
      obtain ⟨page, _, rest⟩ := Option.bind_eq_some_iff.mp rest
      obtain ⟨⟨auth', db', r'⟩, advanced, rest⟩ := Option.bind_eq_some_iff.mp rest
      obtain rfl := Option.some.inj rest
      have pending := registered.pending r (List.mem_of_getElem? found)
      unfold Registration.advance at advanced
      cases stage : r.stage with
      | createUser =>
          simp only [stage] at advanced
          split at advanced <;> cases advanced <;> refine .inl ⟨?_, rfl⟩ <;>
            cases failure <;> simp [commits, found, stage]
      | shown dialog => simp [stage] at advanced
      | set uid data =>
          simp only [stage] at advanced
          cases failure with
          | some failure =>
              cases advanced
              exact .inl ⟨rfl, rfl⟩
          | none =>
              cases advanced
              refine .inr (.inl ⟨uid, data, ?_, (pending uid data stage).2.2, rfl⟩)
              simp [commits, found, stage]
  | resumeSave i result =>
      obtain ⟨r, found, rest⟩ := Option.bind_eq_some_iff.mp stepped
      obtain ⟨⟨db', r'⟩, advanced, rest⟩ := Option.bind_eq_some_iff.mp rest
      obtain rfl := Option.some.inj rest
      have page := registered.updates r (List.mem_of_getElem? found)
      unfold ProfileSave.advance at advanced
      cases stage : r.stage with
      | uploadImage =>
          cases result <;> simp only [stage] at advanced <;> cases advanced <;>
            exact .inl ⟨by simp [commits, found, stage], rfl⟩
      | done => cases result <;> simp [stage] at advanced
      | threw => cases result <;> simp [stage] at advanced
      | update info =>
          cases result with
          | none =>
              simp only [stage] at advanced
              cases advanced
              exact .inl ⟨rfl, rfl⟩
          | some url =>
              simp only [stage] at advanced
              split at advanced
              · rename_i updated
                obtain ⟨d, present, rfl⟩ := Database.updateUser_eq_some updated
                cases advanced
                refine .inr (.inr ⟨r.user, info, d, ?_, present, page info stage, rfl⟩)
                simp [commits, found, stage, present]
              · rename_i missing
                cases advanced
                have absent : s.db.users r.user = none := Option.map_eq_none_iff.mp missing
                exact .inl ⟨by simp [commits, found, stage, absent], rfl⟩

theorem Holds.init : Holds .init fun _ => none where
  registered := .init
  documents _ := rfl
  fields _ _ _ found := by cases found

/-- A registration meets no profile, neither in the database nor in the store. -/
theorem Holds.register (holds : Holds s store) (registered : Registered s') {uid : Uid}
    {data : Fields} (absent : s.db.users uid = none)
    (stored : s'.db.users = Function.update s.db.users uid (some data)) :
    ∃ store', commit store (.register uid data) = some store' ∧ Holds s' store' := by
  have free : store uid = none := by
    rw [holds.documents uid, Option.map_eq_none_iff] at absent
    exact absent
  refine ⟨_, by rw [commit, free]; rfl, registered, ?_, ?_⟩
  · intro u
    rw [stored]
    by_cases same : u = uid
    · rw [same, Function.update_self, Function.update_self]
      rfl
    · rw [Function.update_of_ne same, Function.update_of_ne same, holds.documents u]
  · intro u entry info found saved
    rcases update_eq_some_iff.mp found with ⟨_, rfl⟩ | ⟨_, old⟩
    · cases saved
    · exact holds.fields u entry info old saved

/-- A save meets a profile, and takes the fields of the save before away. -/
theorem Holds.save (holds : Holds s store) (registered : Registered s') {user : Uid}
    {info : List (String × Value)} {d : Fields} (present : s.db.users user = some d)
    (page : ∃ page uploaded, info = Page.userInformation page uploaded)
    (stored : s'.db.users = Function.update s.db.users user (some (d.update info))) :
    ∃ store', commit store (.save user info) = some store' ∧ Holds s' store' := by
  obtain ⟨entry, found, document⟩ :=
    Option.map_eq_some_iff.mp ((holds.documents user).symm.trans present)
  refine ⟨Function.update store user (some { entry with saved := some info }),
    by rw [commit, found]; rfl, registered, ?_, ?_⟩
  · intro u
    rw [stored]
    by_cases same : u = user
    · rw [same, Function.update_self, Function.update_self, Option.map_some, ← document]
      cases saved : entry.saved with
      | none => simp only [Entry.document, saved, Option.elim]
      | some before =>
          obtain ⟨old, url, rfl⟩ := holds.fields user entry before found saved
          obtain ⟨new, url', rfl⟩ := page
          simp only [Entry.document, saved, Option.elim]
          exact congrArg some (update_update rfl)
    · rw [Function.update_of_ne same, Function.update_of_ne same, holds.documents u]
  · intro u entry' info' found' saved
    rcases update_eq_some_iff.mp found' with ⟨_, rfl⟩ | ⟨_, old⟩
    · cases saved
      exact page
    · exact holds.fields u entry' info' old saved

theorem holds_step (holds : Holds s store) (stepped : Profiles.step s e = some s') :
    ∃ store', run commit store (commits s e) = some store' ∧ Holds s' store' := by
  have registered := holds.registered.preserved stepped
  rcases step_commits holds.registered stepped with ⟨none, same⟩ |
    ⟨uid, data, one, absent, stored⟩ | ⟨user, info, d, one, present, page, stored⟩
  · refine ⟨store, by rw [none, run_nil], registered, ?_, holds.fields⟩
    rw [same]
    exact holds.documents
  · obtain ⟨store', committed, holds'⟩ := holds.register registered absent stored
    exact ⟨store', by rw [one]; exact run_cons.mpr ⟨store', committed, rfl⟩, holds'⟩
  · obtain ⟨store', committed, holds'⟩ := holds.save registered present page stored
    exact ⟨store', by rw [one]; exact run_cons.mpr ⟨store', committed, rfl⟩, holds'⟩

end Steps

/-- In every run of registrations and edits, with any number of pages for one user and
    whichever operations fail: what the steps commit, in the order in which they commit it,
    is accepted by the store, and the stored profiles are those that it then holds. -/
theorem profiles_are_last_saves {es : List Profiles.Event} {s : Profiles.State}
    (played : run Profiles.step .init es = some s) :
    ∃ store, run commit (fun _ => none) (trace Profiles.step commits .init es) = some store ∧
      ∀ u, s.db.users u = (store u).map Entry.document := by
  obtain ⟨store, committed, holds⟩ := run_trace (fun _ _ _ _ => holds_step) played .init
  exact ⟨store, committed, holds.documents⟩

/-- Asha has the page open twice. Both saves are on their way when the first is stored. -/
def savedTwice : List Profiles.Event :=
  ashaRegisters ++ [.openEditProfile 0, .edit 1 (.fetchUserData true),
    .edit 1 (.type .dob "2 Feb"), .edit 1 (.type .address "7 Hill Road"), .saveChanges 1,
    .resumeSave 1 (some ""), .resumeSave 0 (some "")]

theorem first_page_saved_last : ∃ s store, run Profiles.step .init savedTwice = some s ∧
    (s.db.users 0).bind (· "Address") = some (.string "12 MG Road") ∧
    run commit (fun _ => none) (trace Profiles.step commits .init savedTwice) = some store ∧
    ∀ u, s.db.users u = (store u).map Entry.document := by
  obtain ⟨s, played, address⟩ := run_reaches Profiles.step .init savedTwice
    (P := fun s => (s.db.users 0).bind (· "Address") = some (.string "12 MG Road"))
    (by decide +kernel)
  obtain ⟨store, committed, holds⟩ := profiles_are_last_saves played
  exact ⟨s, store, played, address, committed, holds⟩

end Udhar.ProfileStore
