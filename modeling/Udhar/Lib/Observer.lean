import Udhar.Lib.Run

/-! # Pages over a running system

Pages are opened over a system whose state they read and never change. The system
takes its own steps in between, so what a page has read may be out of date by its
next step. What every page stands in to the present state has to survive the
system's steps; the rules below ask for that once and lead to every run.
-/

namespace Udhar.Lib.Observer

variable {σ ε π ω η : Type*}

/-- A system and the pages that are open over it. -/
structure State (σ π : Type*) where
  system : σ
  pages : List π

inductive Event (ε ω η : Type*) where
  | system (e : ε)
  | opened (w : ω)
  | page (index : ℕ) (e : η)

/-- The event of the system, if it is one. -/
def Event.system? : Event ε ω η → Option ε
  | .system e => some e
  | .opened _ | .page _ _ => none

/-- The events of the system in a run, and the states of the system in which they
    happen. -/
def Seen (system : σ → ε → Option σ) (s : σ) (es : List (Event ε ω η)) : σ → ε → Prop :=
  Happens system s (es.filterMap Event.system?)

/-- One step of the system, a page that opens, or one step of a page. -/
def step (system : σ → ε → Option σ) (new : ω → π) (page : σ → π → η → Option π)
    (s : State σ π) : Event ε ω η → Option (State σ π)
  | .system e => (system s.system e).map fun t => { s with system := t }
  | .opened w => some { s with pages := s.pages ++ [new w] }
  | .page i e => s.pages[i]?.bind fun p =>
      (page s.system p e).map fun p' => { s with pages := s.pages.set i p' }

variable {system : σ → ε → Option σ} {new : ω → π} {page : σ → π → η → Option π}
  {s t : State σ π} {es : List (Event ε ω η)}

theorem step_page {i : ℕ} {e : η} (stepped : step system new page s (.page i e) = some t) :
    ∃ p p', s.pages[i]? = some p ∧ page s.system p e = some p' ∧
      t = { s with pages := s.pages.set i p' } := by
  obtain ⟨p, found, taken⟩ := Option.bind_eq_some_iff.mp stepped
  obtain ⟨p', moved, rfl⟩ := Option.map_eq_some_iff.mp taken
  exact ⟨p, p', found, moved, rfl⟩

/-- Without its pages, a run is a run of the system. -/
theorem run_system (played : run (step system new page) s es = some t) :
    run system s.system (es.filterMap Event.system?) = some t.system := by
  induction es generalizing s with
  | nil =>
      cases played
      rfl
  | cons e es ih =>
      obtain ⟨u, first, rest⟩ := run_cons.mp played
      cases e with
      | system e =>
          obtain ⟨u', moved, rfl⟩ := Option.map_eq_some_iff.mp first
          exact run_cons.mpr ⟨u', moved, ih rest⟩
      | opened w =>
          cases first
          have later := ih rest
          exact later
      | page i e =>
          obtain ⟨_, _, _, _, rfl⟩ := step_page first
          have later := ih rest
          exact later

theorem pages_invariant_of_meets {I : σ → Prop} {H : σ → ε → Prop} {R : σ → π → Prop}
    (keeps : ∀ s e t, H s e → I s → system s e = some t → I t ∧ ∀ p, R s p → R t p)
    (opens : ∀ s w, I s → R s (new w))
    (moves : ∀ s p e p', I s → R s p → page s p e = some p' → R s p')
    (played : run (step system new page) s es = some t)
    (meets : Meets system H s.system (es.filterMap Event.system?))
    (start : I s.system) (shown : ∀ p ∈ s.pages, R s.system p) :
    I t.system ∧ ∀ p ∈ t.pages, R t.system p := by
  induction es generalizing s with
  | nil =>
      cases played
      exact ⟨start, shown⟩
  | cons e es ih =>
      obtain ⟨u, first, rest⟩ := run_cons.mp played
      cases e with
      | system e =>
          obtain ⟨u', moved, rfl⟩ := Option.map_eq_some_iff.mp first
          obtain ⟨kept, related⟩ := keeps _ e u' meets.1 start moved
          exact ih rest (meets.2 u' moved) kept fun p member => related p (shown p member)
      | opened w =>
          cases first
          refine ih rest meets start fun p member => ?_
          rcases List.mem_append.mp member with old | added
          · exact shown p old
          · obtain rfl := List.mem_singleton.mp added
            exact opens _ w start
      | page i e =>
          obtain ⟨p, p', found, moved, rfl⟩ := step_page first
          refine ih rest meets start fun q member => ?_
          rcases List.mem_or_eq_of_mem_set member with old | rfl
          · exact shown q old
          · exact moves _ p e _ start (shown p (List.mem_of_getElem? found)) moved

/-- What relates a page to the system holds of every page in every run, when it holds of
    a new page, no step of the page breaks it and no step of the system breaks it. The
    system may rely on an invariant and on where its steps come from. -/
theorem pages_invariant {s₀ : σ} {I : σ → Prop} {R : σ → π → Prop}
    (keeps : ∀ s e t, Seen system s₀ es s e → I s → system s e = some t →
      I t ∧ ∀ p, R s p → R t p)
    (opens : ∀ s w, I s → R s (new w))
    (moves : ∀ s p e p', I s → R s p → page s p e = some p' → R s p')
    (played : run (step system new page) ⟨s₀, []⟩ es = some t) (start : I s₀) :
    I t.system ∧ ∀ p ∈ t.pages, R t.system p :=
  pages_invariant_of_meets keeps opens moves played (meets_happens system s₀ _) start
    fun _ none => nomatch none

end Udhar.Lib.Observer
