import Mathlib.Data.List.Infix
import Mathlib.Order.Defs.Unbundled

/-! # Runs of event-driven systems

A system is a partial step function: an event that is not enabled in a state
has no successor. Nothing here knows what the states or the events are; the
rules below turn a fact about one step into a fact about every run, with or
without a side condition on the steps taken.
-/

namespace Udhar.Lib

variable {σ ε : Type*} {step : σ → ε → Option σ}

/-- Play a list of events from left to right. -/
def run (step : σ → ε → Option σ) : σ → List ε → Option σ
  | s, [] => some s
  | s, e :: es => (step s e).bind fun t => run step t es

@[simp] theorem run_nil (s : σ) : run step s [] = some s := rfl

theorem run_cons {s u : σ} {e : ε} {es : List ε} :
    run step s (e :: es) = some u ↔ ∃ t, step s e = some t ∧ run step t es = some u := by
  simp only [run, Option.bind_eq_some_iff]

theorem run_append {s u : σ} {es es' : List ε} :
    run step s (es ++ es') = some u ↔ ∃ t, run step s es = some t ∧ run step t es' = some u := by
  induction es generalizing s with
  | nil => simp only [List.nil_append, run_nil, Option.some.injEq, exists_eq_left']
  | cons e es ih =>
      simp only [List.cons_append, run_cons, ih]
      constructor
      · rintro ⟨v, first, t, middle, rest⟩
        exact ⟨t, ⟨v, first, middle⟩, rest⟩
      · rintro ⟨t, ⟨v, first, middle⟩, rest⟩
        exact ⟨v, first, t, middle, rest⟩

/-- Evaluate a run to find a property of the state it ends in. -/
theorem run_reaches (step : σ → ε → Option σ) (s : σ) (es : List ε) {P : σ → Prop}
    [DecidablePred P] (evaluated : (run step s es).any (fun t => decide (P t)) = true) :
    ∃ t, run step s es = some t ∧ P t := by
  obtain ⟨t, reached, holds⟩ := (Option.any_eq_true _ _).mp evaluated
  exact ⟨t, reached, of_decide_eq_true holds⟩

/-- Where every event is always enabled, every list of events is a run. -/
theorem run_total (total : ∀ s e, (step s e).isSome = true) (s : σ) (es : List ε) :
    ∃ t, run step s es = some t := by
  induction es generalizing s with
  | nil => exact ⟨s, rfl⟩
  | cons e es ih =>
      obtain ⟨t, first⟩ := Option.isSome_iff_exists.mp (total s e)
      obtain ⟨u, rest⟩ := ih t
      exact ⟨u, run_cons.mpr ⟨t, first, rest⟩⟩

/-- What every step preserves, every run preserves. -/
theorem run_invariant {P : σ → Prop} (keep : ∀ s e t, P s → step s e = some t → P t)
    {s t : σ} {es : List ε} (played : run step s es = some t) (start : P s) : P t := by
  induction es generalizing s with
  | nil =>
      cases played
      exact start
  | cons e es ih =>
      obtain ⟨u, first, rest⟩ := run_cons.mp played
      exact ih rest (keep s e u start first)

/-- A reflexive and transitive relation that every step respects, as far as an
    observation of the state goes, relates what is seen at the ends of a run. -/
theorem run_relates {τ : Type*} (see : σ → τ) {R : τ → τ → Prop} [Std.Refl R] [IsTrans τ R]
    {I : σ → Prop} (keep : ∀ s e t, I s → step s e = some t → I t)
    (respects : ∀ s e t, I s → step s e = some t → R (see s) (see t))
    {s t : σ} {es : List ε} (played : run step s es = some t) (start : I s) :
    R (see s) (see t) := by
  induction es generalizing s with
  | nil =>
      cases played
      exact refl_of R _
  | cons e es ih =>
      obtain ⟨u, first, rest⟩ := run_cons.mp played
      exact trans_of R (respects s e u start first) (ih rest (keep s e u start first))

/-- Every step of the run meets the side condition `G`, which may read the
    state before the step and the event. -/
def Meets (step : σ → ε → Option σ) (G : σ → ε → Prop) : σ → List ε → Prop
  | _, [] => True
  | s, e :: es => G s e ∧ ∀ t, step s e = some t → Meets step G t es

theorem Meets.mono {G H : σ → ε → Prop} (weaker : ∀ s e, G s e → H s e)
    {s : σ} {es : List ε} (meets : Meets step G s es) : Meets step H s es := by
  induction es generalizing s with
  | nil => trivial
  | cons e es ih => exact ⟨weaker s e meets.1, fun t first => ih (meets.2 t first)⟩

theorem Meets.and {G H : σ → ε → Prop} {s : σ} {es : List ε} (left : Meets step G s es)
    (right : Meets step H s es) : Meets step (fun s e => G s e ∧ H s e) s es := by
  induction es generalizing s with
  | nil => trivial
  | cons e es ih =>
      exact ⟨⟨left.1, right.1⟩, fun t first => ih (left.2 t first) (right.2 t first)⟩

/-- A side condition that an invariant implies is met by every run. -/
theorem Meets.of_invariant {I : σ → Prop} {G : σ → ε → Prop}
    (keep : ∀ s e t, I s → step s e = some t → I t) (each : ∀ s e, I s → G s e)
    {s : σ} (es : List ε) (start : I s) : Meets step G s es := by
  induction es generalizing s with
  | nil => trivial
  | cons e es ih => exact ⟨each s e start, fun t first => ih (keep s e t start first)⟩

/-- A side condition that each event of the run meets in every state. -/
theorem Meets.of_events {G : σ → ε → Prop} {s : σ} {es : List ε}
    (each : ∀ e ∈ es, ∀ s, G s e) : Meets step G s es := by
  induction es generalizing s with
  | nil => trivial
  | cons e es ih =>
      exact ⟨each e List.mem_cons_self s, fun t _ =>
        ih fun e' member => each e' (List.mem_cons_of_mem e member)⟩

/-- A condition on all events of the run can join the side condition. -/
theorem Meets.and_events {G : σ → ε → Prop} {E : ε → Prop} {s : σ} {es : List ε}
    (meets : Meets step G s es) (events : ∀ e ∈ es, E e) :
    Meets step (fun s e => E e ∧ G s e) s es := by
  induction es generalizing s with
  | nil => trivial
  | cons e es ih =>
      exact ⟨⟨events e List.mem_cons_self, meets.1⟩, fun t first =>
        ih (meets.2 t first) fun e' member => events e' (List.mem_cons_of_mem e member)⟩

instance Meets.instDecidable (step : σ → ε → Option σ) (G : σ → ε → Prop)
    [∀ s e, Decidable (G s e)] : ∀ s es, Decidable (Meets step G s es)
  | _, [] => .isTrue trivial
  | s, e :: es =>
      match taken : step s e with
      | none => decidable_of_iff (G s e) (by simp only [Meets, taken, reduceCtorEq,
          false_implies, implies_true, and_true])
      | some t =>
          have := Meets.instDecidable step G t es
          decidable_of_iff (G s e ∧ Meets step G t es) (by simp only [Meets, taken,
            Option.some.injEq, forall_eq'])

/-- The event happens along the run, in the given state. -/
def Happens (step : σ → ε → Option σ) (s : σ) (es : List ε) (t : σ) (e : ε) : Prop :=
  ∃ pre post, es = pre ++ e :: post ∧ run step s pre = some t

/-- Every step of a run is one that happens along it. -/
theorem meets_happens (step : σ → ε → Option σ) (s : σ) (es : List ε) :
    Meets step (Happens step s es) s es := by
  have rest : ∀ post pre t, es = pre ++ post → run step s pre = some t →
      Meets step (Happens step s es) t post := by
    intro post
    induction post with
    | nil => intros; trivial
    | cons e post ih =>
        intro pre t split played
        refine ⟨⟨pre, post, split, played⟩, fun u next => ?_⟩
        apply ih (pre ++ [e]) u
        · rw [split, List.append_assoc, List.singleton_append]
        · exact run_append.mpr ⟨t, played, run_cons.mpr ⟨u, next, rfl⟩⟩
  exact rest es [] s rfl rfl

/-- The invariant rule for runs whose steps all meet a side condition. -/
theorem run_invariant_of_meets {P : σ → Prop} {G : σ → ε → Prop}
    (keep : ∀ s e t, G s e → P s → step s e = some t → P t)
    {s t : σ} {es : List ε} (played : run step s es = some t)
    (meets : Meets step G s es) (start : P s) : P t := by
  induction es generalizing s with
  | nil =>
      cases played
      exact start
  | cons e es ih =>
      obtain ⟨u, first, rest⟩ := run_cons.mp played
      exact ih rest (meets.2 u first) (keep s e u meets.1 start first)

/-- A system whose steps are runs of another, as long as they meet a side condition,
    reaches nothing that the other does not reach. -/
theorem run_simulated {τ δ : Type*} {abstract : τ → δ → Option τ} {R : σ → τ → Prop}
    {G : σ → ε → Prop} (simulate : ∀ s e t a, G s e → R s a → step s e = some t →
      ∃ ds b, run abstract a ds = some b ∧ R t b)
    {s t : σ} {a : τ} {es : List ε} (played : run step s es = some t)
    (meets : Meets step G s es) (start : R s a) :
    ∃ ds b, run abstract a ds = some b ∧ R t b := by
  induction es generalizing s a with
  | nil =>
      cases played
      exact ⟨[], a, rfl, start⟩
  | cons e es ih =>
      obtain ⟨u, first, rest⟩ := run_cons.mp played
      obtain ⟨ds, b, moved, related⟩ := simulate s e u a meets.1 start first
      obtain ⟨ds', c, moved', related'⟩ := ih rest (meets.2 u first) related
      exact ⟨ds ++ ds', c, run_append.mpr ⟨b, moved, moved'⟩, related'⟩

/-- The system that takes only the steps that meet a condition. -/
def restrict (step : σ → ε → Option σ) (G : σ → ε → Prop) [∀ s e, Decidable (G s e)] :
    σ → ε → Option σ :=
  fun s e => if G s e then step s e else none

/-- Its runs are those whose steps all meet the condition. -/
theorem run_restrict {G : σ → ε → Prop} [∀ s e, Decidable (G s e)] {s t : σ} {es : List ε} :
    run (restrict step G) s es = some t ↔ run step s es = some t ∧ Meets step G s es := by
  induction es generalizing s with
  | nil => simp only [run_nil, Meets, and_true]
  | cons e es ih =>
      simp only [run_cons, ih, restrict, Option.ite_none_right_eq_some]
      constructor
      · rintro ⟨u, ⟨meets, first⟩, rest, others⟩
        refine ⟨⟨u, first, rest⟩, meets, fun u' first' => ?_⟩
        obtain rfl := Option.some.inj (first.symm.trans first')
        exact others
      · rintro ⟨⟨u, first, rest⟩, meets, others⟩
        exact ⟨u, ⟨meets, first⟩, rest, others u first⟩

/-- What the steps of a run note down, in their order. -/
def trace {δ : Type*} (step : σ → ε → Option σ) (note : σ → ε → List δ) : σ → List ε → List δ
  | _, [] => []
  | s, e :: es => note s e ++ ((step s e).map fun t => trace step note t es).getD []

/-- Where a system plays, step by step, what the steps of another note down, it plays the
    notes of a whole run. -/
theorem run_trace {τ δ : Type*} {abstract : τ → δ → Option τ} {note : σ → ε → List δ}
    {R : σ → τ → Prop} (simulate : ∀ s e t a, R s a → step s e = some t →
      ∃ b, run abstract a (note s e) = some b ∧ R t b)
    {s t : σ} {a : τ} {es : List ε} (played : run step s es = some t) (start : R s a) :
    ∃ b, run abstract a (trace step note s es) = some b ∧ R t b := by
  induction es generalizing s a with
  | nil =>
      cases played
      exact ⟨a, rfl, start⟩
  | cons e es ih =>
      obtain ⟨u, first, rest⟩ := run_cons.mp played
      obtain ⟨b, noted, related⟩ := simulate s e u a start first
      obtain ⟨c, later, related'⟩ := ih rest related
      refine ⟨c, ?_, related'⟩
      simp only [trace, first, Option.map_some, Option.getD_some]
      exact run_append.mpr ⟨b, noted, later⟩

/-- `P` holds in every state the run passes through, both ends included. -/
def Always (step : σ → ε → Option σ) (P : σ → Prop) (s : σ) (es : List ε) : Prop :=
  ∀ pre t, pre <+: es → run step s pre = some t → P t

theorem always_nil {P : σ → Prop} {s : σ} : Always step P s [] ↔ P s := by
  constructor
  · intro always
    exact always [] s (List.prefix_refl []) rfl
  · intro here pre t before played
    obtain rfl := List.prefix_nil.mp before
    cases played
    exact here

theorem always_cons {P : σ → Prop} {s : σ} {e : ε} {es : List ε} :
    Always step P s (e :: es) ↔ P s ∧ ∀ t, step s e = some t → Always step P t es := by
  constructor
  · intro always
    refine ⟨always [] s List.nil_prefix rfl, ?_⟩
    intro t first pre u before played
    exact always (e :: pre) u (List.cons_prefix_cons.mpr ⟨rfl, before⟩)
      (run_cons.mpr ⟨t, first, played⟩)
  · rintro ⟨here, later⟩ pre u before played
    cases pre with
    | nil =>
        cases played
        exact here
    | cons e' pre =>
        obtain ⟨rfl, inside⟩ := List.cons_prefix_cons.mp before
        obtain ⟨t, first, played⟩ := run_cons.mp played
        exact later t first pre u inside played

/-- What steps that meet a side condition preserve holds all along such a run. -/
theorem Meets.always {P : σ → Prop} {G : σ → ε → Prop}
    (keep : ∀ s e t, G s e → P s → step s e = some t → P t) {s : σ} {es : List ε}
    (meets : Meets step G s es) (start : P s) : Always step P s es := by
  induction es generalizing s with
  | nil => exact always_nil.mpr start
  | cons e es ih =>
      refine always_cons.mpr ⟨start, fun t first => ?_⟩
      exact ih (meets.2 t first) (keep s e t meets.1 start first)

/-- A side condition may be traded for what it implies along an invariant. -/
theorem Meets.trade {P : σ → Prop} {G H : σ → ε → Prop}
    (keep : ∀ s e t, G s e → P s → step s e = some t → P t) (each : ∀ s e, G s e → P s → H s e)
    {s : σ} {es : List ε} (meets : Meets step G s es) (start : P s) : Meets step H s es := by
  induction es generalizing s with
  | nil => trivial
  | cons e es ih =>
      refine ⟨each s e meets.1 start, fun t first => ?_⟩
      exact ih (meets.2 t first) (keep s e t meets.1 start first)

instance Always.instDecidable (step : σ → ε → Option σ) (P : σ → Prop) [DecidablePred P] :
    ∀ s es, Decidable (Always step P s es)
  | s, [] => decidable_of_iff (P s) always_nil.symm
  | s, e :: es =>
      match taken : step s e with
      | none => decidable_of_iff (P s) (by simp only [always_cons, taken, reduceCtorEq,
          false_implies, implies_true, and_true])
      | some t =>
          have := Always.instDecidable step P t es
          decidable_of_iff (P s ∧ Always step P t es) (by simp only [always_cons, taken,
            Option.some.injEq, forall_eq'])

/-- What always holds may be used as a side condition on the steps. -/
theorem Always.meets {P : σ → Prop} {s : σ} {es : List ε} (always : Always step P s es) :
    Meets step (fun s _ => P s) s es := by
  induction es generalizing s with
  | nil => trivial
  | cons e es ih =>
      obtain ⟨here, later⟩ := always_cons.mp always
      exact ⟨here, fun t first => ih (later t first)⟩

/-- `P` holds in some state the run passes through, both ends included. -/
def Sometime (step : σ → ε → Option σ) (P : σ → Prop) (s : σ) (es : List ε) : Prop :=
  ∃ pre t, pre <+: es ∧ run step s pre = some t ∧ P t

theorem Sometime.start {P : σ → Prop} {s : σ} (here : P s) (es : List ε) : Sometime step P s es :=
  ⟨[], s, List.nil_prefix, rfl, here⟩

theorem Sometime.cons {P : σ → Prop} {s t : σ} {e : ε} {es : List ε} (first : step s e = some t)
    (later : Sometime step P t es) : Sometime step P s (e :: es) := by
  obtain ⟨pre, u, before, played, holds⟩ := later
  exact ⟨e :: pre, u, List.cons_prefix_cons.mpr ⟨rfl, before⟩, run_cons.mpr ⟨t, first, played⟩,
    holds⟩

theorem not_sometime {P : σ → Prop} {s : σ} {es : List ε} :
    ¬ Sometime step P s es ↔ Always step (fun t => ¬ P t) s es := by
  simp only [Sometime, Always, not_exists, not_and]

/-- When `G` decides, step by step, whether `P` survives, a run stays inside
    `P` exactly if all its steps meet `G`. The invariant `I` and the condition
    `E` on the events are what the decision may rely on. -/
theorem always_iff_meets {P I : σ → Prop} {G : σ → ε → Prop} {E : ε → Prop}
    (support : ∀ s e t, E e → I s → P s → step s e = some t → I t)
    (decides : ∀ s e t, E e → I s → P s → step s e = some t → (P t ↔ G s e))
    {s u : σ} {es : List ε} (played : run step s es = some u) (events : ∀ e ∈ es, E e)
    (start : I s) (here : P s) : Always step P s es ↔ Meets step G s es := by
  induction es generalizing s with
  | nil => simp only [always_nil, here, Meets]
  | cons e es ih =>
      obtain ⟨t, first, rest⟩ := run_cons.mp played
      have event : E e := events e List.mem_cons_self
      have survives := decides s e t event start here first
      have others : ∀ e' ∈ es, E e' := fun e' member => events e' (List.mem_cons_of_mem e member)
      have later := fun there => ih rest others
        (support s e t event start here first) there
      simp only [always_cons, here, true_and, Meets, first, Option.some.injEq, forall_eq']
      constructor
      · intro always
        have there : P t := always [] t List.nil_prefix rfl
        exact ⟨survives.mp there, (later there).mp always⟩
      · rintro ⟨meets, remaining⟩
        exact (later (survives.mpr meets)).mpr remaining

/-- When every step costs `P` exactly the condition `G`, a run keeps `P` exactly if
    all its steps meet `G`. -/
theorem run_iff_meets {P : σ → Prop} {G : σ → ε → Prop}
    (decides : ∀ s e t, step s e = some t → (P t ↔ P s ∧ G s e))
    {s t : σ} {es : List ε} (played : run step s es = some t) :
    P t ↔ P s ∧ Meets step G s es := by
  induction es generalizing s with
  | nil =>
      cases played
      exact (iff_of_eq (and_true _)).symm
  | cons e es ih =>
      obtain ⟨u, first, rest⟩ := run_cons.mp played
      rw [ih rest, decides s e u first, and_assoc]
      simp only [Meets, first, Option.some.injEq, forall_eq']

end Udhar.Lib
