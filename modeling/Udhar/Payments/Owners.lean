import Udhar.Payments.Steps

/-! # Whom pages and handlers belong to

A page is built for one user, and the fetches, orders and settlements that start
on it work for that user. Saves of bills belong to the user whose form was
submitted.
-/

namespace Udhar.Payments

open Lib

variable {s s' : State}

/-- The user for whom a page was built. -/
def State.pageUser (s : State) (p : ℕ) : Option Uid := s.pages[p]?.map PaymentForm.user

/-- A page keeps its user, and a new page gets its own. -/
theorem step_pageUser {e : Event} (stepped : step s e = some s') (p : ℕ) :
    s'.pageUser p = s.pageUser p ∨
      p = s.pages.length ∧ ∃ user, e = .openPage user ∧ s'.pageUser p = some user := by
  cases e with
  | openPage user =>
      obtain rfl := step_openPage stepped
      by_cases new : p = s.pages.length
      · subst new
        refine .inr ⟨rfl, user, rfl, ?_⟩
        simp only [State.pageUser, List.getElem?_concat_length, Option.map_some]
      · have same : ∀ page : PaymentForm, (s.pages ++ [page])[p]? = s.pages[p]? := by
          intro page
          rw [List.getElem?_append]
          split
          · rfl
          · rw [List.getElem?_eq_none (by rw [List.length_singleton]; omega),
              List.getElem?_eq_none (by omega)]
        exact .inl (congrArg (Option.map PaymentForm.user) (same _))
  | payNow =>
      obtain ⟨_, _, rfl⟩ := step_payNow stepped
      exact .inl rfl
  | paymentSuccess =>
      obtain ⟨_, _, _, _, _, _, rfl⟩ := step_paymentSuccess stepped
      exact .inl rfl
  | paymentError | externalWallet =>
      obtain ⟨_, _, _, rfl⟩ := close_eq_some stepped
      exact .inl rfl
  | fetch =>
      obtain ⟨_, _, _, _, _, shown, advanced, rfl⟩ := step_fetch stepped
      obtain ⟨_, _, _, user⟩ := (Fetch.advance_move advanced).same
      exact .inl (getElem?_map_set shown user p)
  | settle =>
      obtain ⟨_, _, _, _, _, _, shown, advanced, rfl⟩ := step_settle stepped
      obtain ⟨_, _, _, _, user⟩ := (Settlement.advance_move advanced).same
      exact .inl (getElem?_map_set shown user p)
  | validateCard =>
      rcases step_validateCard stepped with ⟨_, rfl⟩ | ⟨_, rfl⟩ <;> exact .inl rfl
  | submitRent =>
      rcases step_submitRent stepped with ⟨_, rfl⟩ | ⟨_, rfl⟩ <;> exact .inl rfl
  | save =>
      obtain ⟨_, _, _, _, _, rfl⟩ := step_save stepped
      exact .inl rfl

theorem pageUser_kept {e : Event} {p : ℕ} {u : Uid} (stepped : step s e = some s')
    (owner : s.pageUser p = some u) : s'.pageUser p = some u := by
  rcases step_pageUser stepped p with same | ⟨rfl, _⟩
  · rw [same]
    exact owner
  · rw [State.pageUser, List.getElem?_eq_none (Nat.le_refl _)] at owner
    cases owner

/-- Fetches, orders and settlements work for the user of their page. -/
structure State.Owned (s : State) : Prop where
  fetches : ∀ f ∈ s.fetches, s.pageUser f.page = some f.user
  orders : ∀ o ∈ s.orders, s.pageUser o.page = some o.user
  settlements : ∀ t ∈ s.settlements, s.pageUser t.page = some t.user

namespace State.Owned

theorem init (db : Database) : (State.init db).Owned :=
  ⟨fun _ none => (nomatch none), fun _ none => (nomatch none), fun _ none => (nomatch none)⟩

theorem preserved {e : Event} (owned : s.Owned) (stepped : step s e = some s') : s'.Owned := by
  have fetches : ∀ f ∈ s.fetches, s'.pageUser f.page = some f.user :=
    fun f member => pageUser_kept stepped (owned.fetches f member)
  have orders : ∀ o ∈ s.orders, s'.pageUser o.page = some o.user :=
    fun o member => pageUser_kept stepped (owned.orders o member)
  have settlements : ∀ t ∈ s.settlements, s'.pageUser t.page = some t.user :=
    fun t member => pageUser_kept stepped (owned.settlements t member)
  cases e with
  | openPage user =>
      have page : s'.pageUser s.pages.length = some user := by
        obtain rfl := step_openPage stepped
        simp only [State.pageUser, List.getElem?_concat_length, Option.map_some]
      obtain rfl := step_openPage stepped
      refine ⟨List.forall_mem_append.mpr ⟨fetches, ?_⟩, orders, settlements⟩
      exact List.forall_mem_cons.mpr ⟨page, List.forall_mem_singleton.mpr page⟩
  | payNow =>
      obtain ⟨page, shown, rfl⟩ := step_payNow stepped
      have owner := congrArg (Option.map PaymentForm.user) shown
      exact ⟨forall_mem_concat fetches owner, forall_mem_concat orders owner, settlements⟩
  | paymentSuccess =>
      obtain ⟨o, _, found, _, _, _, rfl⟩ := step_paymentSuccess stepped
      have owner := orders o (List.mem_of_getElem? found)
      exact ⟨fetches, forall_mem_set orders owner, forall_mem_concat settlements owner⟩
  | paymentError | externalWallet =>
      obtain ⟨o, found, _, rfl⟩ := close_eq_some stepped
      have owner := orders o (List.mem_of_getElem? found)
      exact ⟨fetches, forall_mem_set orders owner, settlements⟩
  | fetch =>
      obtain ⟨f, _, _, _, found, _, advanced, rfl⟩ := step_fetch stepped
      obtain ⟨page, user, _⟩ := (Fetch.advance_move advanced).same
      refine ⟨forall_mem_set fetches ?_, orders, settlements⟩
      rw [page, user]
      exact fetches f (List.mem_of_getElem? found)
  | settle =>
      obtain ⟨t, _, _, _, _, found, _, advanced, rfl⟩ := step_settle stepped
      obtain ⟨user, _, page, _⟩ := (Settlement.advance_move advanced).same
      refine ⟨fetches, orders, forall_mem_set settlements ?_⟩
      rw [page, user]
      exact settlements t (List.mem_of_getElem? found)
  | validateCard =>
      rcases step_validateCard stepped with ⟨_, rfl⟩ | ⟨_, rfl⟩ <;>
        exact ⟨fetches, orders, settlements⟩
  | submitRent =>
      rcases step_submitRent stepped with ⟨_, rfl⟩ | ⟨_, rfl⟩ <;>
        exact ⟨fetches, orders, settlements⟩
  | save =>
      obtain ⟨_, _, _, _, _, rfl⟩ := step_save stepped
      exact ⟨fetches, orders, settlements⟩

end State.Owned

/-- A save was there before with the same user and data, or a form has just been
    submitted. -/
theorem step_save_origin {e : Event} {b' : BillSave} (stepped : step s e = some s')
    (member : b' ∈ s'.saves) :
    (∃ b ∈ s.saves, b'.user = b.user ∧ b'.kind = b.kind ∧ b'.data = b.data) ∨
      (∃ form, e = .validateCard b'.user form true ∧ b'.kind = .cards ∧
        b'.data = form.cardData) ∨
      ∃ form, e = .submitRent b'.user form ∧ form.validate = true ∧ b'.kind = .rents ∧
        b'.data = form.rentData := by
  cases e with
  | openPage =>
      obtain rfl := step_openPage stepped
      exact .inl ⟨b', member, rfl, rfl, rfl⟩
  | payNow =>
      obtain ⟨_, _, rfl⟩ := step_payNow stepped
      exact .inl ⟨b', member, rfl, rfl, rfl⟩
  | paymentSuccess =>
      obtain ⟨_, _, _, _, _, _, rfl⟩ := step_paymentSuccess stepped
      exact .inl ⟨b', member, rfl, rfl, rfl⟩
  | paymentError | externalWallet =>
      obtain ⟨_, _, _, rfl⟩ := close_eq_some stepped
      exact .inl ⟨b', member, rfl, rfl, rfl⟩
  | fetch =>
      obtain ⟨_, _, _, _, _, _, _, rfl⟩ := step_fetch stepped
      exact .inl ⟨b', member, rfl, rfl, rfl⟩
  | settle =>
      obtain ⟨_, _, _, _, _, _, _, _, rfl⟩ := step_settle stepped
      exact .inl ⟨b', member, rfl, rfl, rfl⟩
  | validateCard user form =>
      rcases step_validateCard stepped with ⟨_, rfl⟩ | ⟨rfl, rfl⟩
      · exact .inl ⟨b', member, rfl, rfl, rfl⟩
      · rcases List.mem_append.mp member with old | new
        · exact .inl ⟨b', old, rfl, rfl, rfl⟩
        · obtain rfl := List.mem_singleton.mp new
          exact .inr (.inl ⟨form, rfl, rfl, rfl⟩)
  | submitRent user form =>
      rcases step_submitRent stepped with ⟨_, rfl⟩ | ⟨valid, rfl⟩
      · exact .inl ⟨b', member, rfl, rfl, rfl⟩
      · rcases List.mem_append.mp member with old | new
        · exact .inl ⟨b', old, rfl, rfl, rfl⟩
        · obtain rfl := List.mem_singleton.mp new
          exact .inr (.inr ⟨form, rfl, valid, rfl, rfl⟩)
  | save =>
      obtain ⟨b, _, _, found, advanced, rfl⟩ := step_save stepped
      rcases List.mem_or_eq_of_mem_set member with old | rfl
      · exact .inl ⟨b', old, rfl, rfl, rfl⟩
      · refine .inl ⟨b, List.mem_of_getElem? found, ?_⟩
        obtain ⟨_, ⟨_, _, rfl⟩ | ⟨_, _, rfl⟩⟩ := BillSave.advance_cases advanced <;>
          exact ⟨rfl, rfl, rfl⟩

end Udhar.Payments
