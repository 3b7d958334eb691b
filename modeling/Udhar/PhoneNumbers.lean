import Udhar.Verification
import Udhar.Lib.Account
import Udhar.Lib.Collection
import Udhar.Lib.Part
import Mathlib.Algebra.GroupWithZero.Nat

/-! # One account for a number

A number reaches an account in two ways: a typed code links it, or an automatic sign-in that
finds nobody creates an account for it. Both may be under way for one number on several
pages at once, and the user may change in between; still only one of them comes through.
-/

namespace Udhar.Verification

open Lib Otp

/-! ## Who holds a number -/

/-- The account that a number is linked to. -/
def State.holder (s : State) (n : String) : Option Uid :=
  (List.range s.nextUid).find? (s.phone · = some n)

def State.held (s : State) (n : String) : ℕ := if (s.holder n).isSome then 1 else 0

def Page.toldOf (n : String) (page : Page) : ℕ := if page.phoneNumber = n then page.told else 0

/-- How often the pages of a number have told it. -/
def State.told (s : State) (n : String) : ℕ := (s.pages.map (Page.toldOf n)).sum

def VerifyRun.linkedOn (p : ℕ) (r : VerifyRun) : ℕ :=
  if r.page = p ∧ r.stage = .linked then 1 else 0

/-- Each number is held by one account at most, and the books on it balance: who holds it has
    held it from the start, was told by a page or created by an automatic sign-in. A page has
    told as many links as its runs have made, and what it has told stays true. -/
structure HeldOnce (s₀ s : State) : Prop where
  one : ∀ n u v, s.phone u = some n → s.phone v = some n → u = v
  booked : ∀ n, s.held n = s₀.held n + s.told n + s.created.count n
  told : ∀ p page, s.pages[p]? = some page →
    page.told = (s.runs.map (VerifyRun.linkedOn p)).sum
  backed : ∀ r ∈ s.runs, r.stage = .linked →
    ∃ page, s.pages[r.page]? = some page ∧ s.phone r.uid = some page.phoneNumber

/-- The invariant: whoever is signed in, is asked to be linked or holds a number has an
    account, and the runs are those of pages. -/
structure Sound (s₀ s : State) : Prop extends HeldOnce s₀ s where
  known : ∀ u n, s.phone u = some n → u < s.nextUid
  current : ∀ device u, s.currentUser device = some u → u < s.nextUid
  running : ∀ r ∈ s.runs, r.uid < s.nextUid ∧ r.page < s.pages.length

section Numbers

variable {s s' : State} {n : String}

theorem holder_isSome_iff (known : ∀ u n, s.phone u = some n → u < s.nextUid) :
    (s.holder n).isSome = true ↔ ∃ u, s.phone u = some n := by
  rw [State.holder, List.find?_isSome]
  constructor
  · rintro ⟨u, _, holds⟩
    exact ⟨u, of_decide_eq_true holds⟩
  · rintro ⟨u, holds⟩
    exact ⟨u, List.mem_range.mpr (known u n holds), decide_eq_true holds⟩

theorem held_congr (same : (s'.holder n).isSome = true ↔ (s.holder n).isSome = true) :
    s'.held n = s.held n := by
  simp only [State.held, same]

theorem held_of_phone (known : ∀ u n, s.phone u = some n → u < s.nextUid)
    (known' : ∀ u n, s'.phone u = some n → u < s'.nextUid) (same : s'.phone = s.phone) :
    s'.held n = s.held n :=
  held_congr (by rw [holder_isSome_iff known, holder_isSome_iff known', same])

/-- Linking a number that nobody holds to an account that has none leaves the holders of
    all other numbers. -/
theorem holds_update_iff {phone : Uid → Option String} {uid : Uid} (free : phone uid = none)
    {m : String} (other : m ≠ n) :
    (∃ u, Function.update phone uid (some n) u = some m) ↔ ∃ u, phone u = some m := by
  constructor
  · rintro ⟨u, holds⟩
    rcases update_eq_some_iff.mp holds with ⟨_, same⟩ | ⟨_, old⟩
    · exact absurd same.symm other
    · exact ⟨u, old⟩
  · rintro ⟨u, holds⟩
    have apart : u ≠ uid := by
      rintro rfl
      rw [free] at holds
      cases holds
    exact ⟨u, update_eq_some_iff.mpr (.inr ⟨apart, holds⟩)⟩

theorem held_of_link (known : ∀ u n, s.phone u = some n → u < s.nextUid)
    (known' : ∀ u n, s'.phone u = some n → u < s'.nextUid) {uid : Uid}
    (linked : s'.phone = Function.update s.phone uid (some n)) (free : s.phone uid = none)
    (unheld : s.holder n = none) (m : String) :
    s'.held m = s.held m + if m = n then 1 else 0 := by
  by_cases same : m = n
  · subst same
    have holds : (s'.holder m).isSome = true :=
      (holder_isSome_iff known').mpr ⟨uid, by rw [linked, Function.update_self]⟩
    simp only [State.held, holds, unheld, if_true, Option.isSome_none, Bool.false_eq_true,
      if_false, Nat.zero_add]
  · rw [if_neg same, Nat.add_zero]
    apply held_congr
    rw [holder_isSome_iff known, holder_isSome_iff known', linked]
    exact holds_update_iff free same

end Numbers

/-! ## The books -/

section Books

variable {s₀ s s' : State} {n : String}

theorem told_congr (entries : s'.pages.map Page.entry = s.pages.map Page.entry) (n : String) :
    s'.told n = s.told n := by
  have amounts : ∀ pages : List Page, pages.map (Page.toldOf n) =
      (pages.map Page.entry).map fun entry => if entry.1 = n then entry.2 else 0 := fun pages => by
    rw [List.map_map]
    rfl
  rw [State.told, State.told, amounts, amounts, entries]

theorem entry_found (entries : s'.pages.map Page.entry = s.pages.map Page.entry) {p : ℕ}
    {page : Page} (found : s.pages[p]? = some page) :
    ∃ page', s'.pages[p]? = some page' ∧ page'.phoneNumber = page.phoneNumber ∧
      page'.told = page.told := by
  have same : (s'.pages.map Page.entry)[p]? = some page.entry := by
    rw [entries, List.getElem?_map, found, Option.map_some]
  rw [List.getElem?_map, Option.map_eq_some_iff] at same
  obtain ⟨page', found', entry⟩ := same
  exact ⟨page', found', congrArg Prod.fst entry, congrArg Prod.snd entry⟩

namespace Sound

theorem init {auth : Auth} (known : ∀ u n, auth.phone u = some n → u < auth.nextUid)
    (one : ∀ n u v, auth.phone u = some n → auth.phone v = some n → u = v) :
    Sound (.init auth) (.init auth) where
  one := one
  booked _ := rfl
  told _ _ found := by cases found
  backed _ member := by cases member
  known := known
  current _ _ shown := by cases shown
  running _ member := by cases member

/-- What changes no number and tells nobody. -/
theorem quiet (sound : Sound s₀ s) (entries : s'.pages.map Page.entry = s.pages.map Page.entry)
    (phone : s'.phone = s.phone) (created : s'.created = s.created)
    (grown : s.nextUid ≤ s'.nextUid)
    (current : ∀ device u, s'.currentUser device = some u → u < s'.nextUid)
    (runs : s'.runs = s.runs) : Sound s₀ s' where
  known := by
    rw [phone]
    exact fun u n holds => (sound.known u n holds).trans_le grown
  one := by
    rw [phone]
    exact sound.one
  booked n := by
    have known : ∀ u n, s'.phone u = some n → u < s'.nextUid := fun u n holds =>
      (sound.known u n (phone ▸ holds)).trans_le grown
    rw [held_of_phone sound.known known phone, sound.booked, told_congr entries, created]
  told p page found := by
    obtain ⟨page', found', _, told⟩ := entry_found entries.symm found
    rw [runs, ← told, sound.told p page' found']
  backed := by
    rw [runs, phone]
    intro r member linked
    obtain ⟨page, found, holds⟩ := sound.backed r member linked
    obtain ⟨page', found', number, _⟩ := entry_found entries found
    exact ⟨page', found', number ▸ holds⟩
  current := current
  running := by
    have length : s'.pages.length = s.pages.length := by
      rw [← List.length_map (f := Page.entry), entries, List.length_map]
    rw [runs, length]
    exact fun r member => ⟨(sound.running r member).1.trans_le grown, (sound.running r member).2⟩

theorem openPage (sound : Sound s₀ s) (page : Page) (untold : page.told = 0) :
    Sound s₀ { s with pages := s.pages ++ [page] } where
  known := sound.known
  one := sound.one
  current := sound.current
  booked n := by
    have same : ({ s with pages := s.pages ++ [page] } : State).told n = s.told n := by
      apply sum_map_append_of_zero
      intro page' member
      obtain rfl := List.mem_singleton.mp member
      rw [Page.toldOf, untold, ite_self]
    rw [same]
    exact sound.booked n
  told p page' found := by
    rcases Nat.lt_trichotomy p s.pages.length with old | rfl | outside
    · rw [List.getElem?_append_left old] at found
      exact sound.told p page' found
    · rw [List.getElem?_concat_length] at found
      obtain rfl := Option.some.inj found
      refine untold.trans (List.sum_eq_zero (List.forall_mem_map.mpr fun r member => ?_)).symm
      rw [VerifyRun.linkedOn, if_neg]
      exact fun here => (sound.running r member).2.ne here.1
    · rw [List.getElem?_eq_none (by simpa using Nat.succ_le_of_lt outside)] at found
      cases found
  backed r member linked := by
    obtain ⟨page', found, holds⟩ := sound.backed r member linked
    exact ⟨page', by rw [List.getElem?_append_left (sound.running r member).2, found], holds⟩
  running r member := by
    rw [List.length_append]
    exact ⟨(sound.running r member).1, Nat.lt_add_right _ (sound.running r member).2⟩

/-- The button is pressed. -/
theorem press (sound : Sound s₀ s) {r : VerifyRun} (linking : r.stage = .linking)
    (account : r.uid < s.nextUid) (paged : r.page < s.pages.length) :
    Sound s₀ { s with runs := s.runs ++ [r] } where
  known := sound.known
  one := sound.one
  current := sound.current
  booked := sound.booked
  told p page found := by
    rw [sound.told p page found, sum_map_append_of_zero]
    intro r' member
    obtain rfl := List.mem_singleton.mp member
    simp [VerifyRun.linkedOn, linking]
  backed := forall_mem_concat sound.backed fun linked => by simp [linking] at linked
  running := forall_mem_concat sound.running ⟨account, paged⟩

/-- An answer that refuses to link. -/
theorem refuse (sound : Sound s₀ s) {i : ℕ} {r : VerifyRun} (found : s.runs[i]? = some r)
    (linking : r.stage = .linking) :
    Sound s₀ { s with runs := s.runs.set i { r with stage := .refused } } where
  known := sound.known
  one := sound.one
  current := sound.current
  booked := sound.booked
  told p page shown := by
    rw [sound.told p page shown, sum_map_set_of_eq _ found]
    simp [VerifyRun.linkedOn, linking]
  backed := forall_mem_set sound.backed fun linked => by cases linked
  running := forall_mem_set sound.running (sound.running r (List.mem_of_getElem? found))

/-- A number that nobody holds goes to an account that has none. -/
theorem one_update (sound : Sound s₀ s) {uid : Uid} (unheld : s.holder n = none) :
    ∀ m u v, Function.update s.phone uid (some n) u = some m →
      Function.update s.phone uid (some n) v = some m → u = v := by
  have nobody : ∀ u, s.phone u ≠ some n := fun u holds => by
    have held := (holder_isSome_iff sound.known).mpr ⟨u, holds⟩
    rw [unheld] at held
    cases held
  intro m u v left right
  rcases update_eq_some_iff.mp left with ⟨rfl, rfl⟩ | ⟨_, oldLeft⟩
  · rcases update_eq_some_iff.mp right with ⟨rfl, _⟩ | ⟨_, oldRight⟩
    · rfl
    · exact absurd oldRight (nobody v)
  · rcases update_eq_some_iff.mp right with ⟨rfl, rfl⟩ | ⟨_, oldRight⟩
    · exact absurd oldLeft (nobody u)
    · exact sound.one m u v oldLeft oldRight

theorem known_update (sound : Sound s₀ s) {uid next : Uid} (grown : s.nextUid ≤ next)
    (account : uid < next) :
    ∀ u m, Function.update s.phone uid (some n) u = some m → u < next := by
  intro u m holds
  rcases update_eq_some_iff.mp holds with ⟨rfl, _⟩ | ⟨_, old⟩
  · exact account
  · exact (sound.known u m old).trans_le grown

/-- An automatic sign-in that finds no holder. -/
theorem create (sound : Sound s₀ s) (unheld : s.holder n = none) :
    Sound s₀ { s with
      nextUid := s.nextUid + 1
      phone := Function.update s.phone s.nextUid (some n)
      created := s.created ++ [n] } := by
  have free : s.phone s.nextUid = none := by
    rw [Option.eq_none_iff_forall_ne_some]
    exact fun m holds => (sound.known _ m holds).ne rfl
  have known := sound.known_update (n := n) (Nat.le_succ s.nextUid) (Nat.lt_succ_self s.nextUid)
  exact {
    known := known
    one := sound.one_update unheld
    current := fun device u shown => (sound.current device u shown).trans (Nat.lt_succ_self _)
    booked := fun m => by
      rw [held_of_link sound.known known rfl free unheld, sound.booked, List.count_append,
        List.count_singleton, ← Nat.add_assoc]
      congr 1
      by_cases same : m = n
      · rw [if_pos same, if_pos (beq_iff_eq.mpr same.symm)]
      · rw [if_neg same, if_neg (mt beq_iff_eq.mp (Ne.symm same))]
    told := sound.told
    backed := fun r member linked => by
      obtain ⟨page, found, holds⟩ := sound.backed r member linked
      exact ⟨page, found, (Function.update_of_ne (sound.running r member).1.ne _ _).trans holds⟩
    running := fun r member =>
      ⟨(sound.running r member).1.trans (Nat.lt_succ_self _), (sound.running r member).2⟩ }

/-- An answer that links the number, and the page that tells it. -/
theorem link (sound : Sound s₀ s) {i : ℕ} {r : VerifyRun} {page page' : Page}
    (run : s.runs[i]? = some r) (found : s.pages[r.page]? = some page)
    (linking : r.stage = .linking) (number : page'.phoneNumber = page.phoneNumber)
    (told : page'.told = page.told + 1) (free : s.phone r.uid = none)
    (unheld : s.holder page.phoneNumber = none)
    (phone : s'.phone = Function.update s.phone r.uid (some page.phoneNumber))
    (pages : s'.pages = s.pages.set r.page page')
    (runs : s'.runs = s.runs.set i { r with stage := .linked })
    (accounts : s'.nextUid = s.nextUid) (current : s'.currentUser = s.currentUser)
    (created : s'.created = s.created) : Sound s₀ s' := by
  have account := sound.running r (List.mem_of_getElem? run)
  have known : ∀ u m, s'.phone u = some m → u < s'.nextUid := by
    rw [phone, accounts]
    exact sound.known_update le_rfl account.1
  have inside : r.page < s.pages.length := account.2
  have kept : ∀ r' ∈ s.runs, r'.stage = .linked →
      ∃ page, s'.pages[r'.page]? = some page ∧ s'.phone r'.uid = some page.phoneNumber := by
    intro r' member linked
    obtain ⟨old, shown, holds⟩ := sound.backed r' member linked
    have other : r'.uid ≠ r.uid := fun same => by
      rw [same, free] at holds
      cases holds
    rw [pages, phone, Function.update_of_ne other, holds]
    by_cases here : r'.page = r.page
    · obtain rfl := Option.some.inj ((here ▸ shown).symm.trans found)
      exact ⟨page', by rw [here, List.getElem?_set_self inside], by rw [number]⟩
    · exact ⟨old, by rw [List.getElem?_set_ne (Ne.symm here), shown], rfl⟩
  exact {
    known := known
    one := by
      rw [phone]
      exact sound.one_update unheld
    current := by
      rw [current, accounts]
      exact sound.current
    booked := fun m => by
      have books := sound.booked m
      have held := held_of_link sound.known known phone free unheld m
      have moved := sum_map_set_add (Page.toldOf m) found page'
      rw [← pages] at moved
      simp only [Page.toldOf, number, told, @eq_comm _ page.phoneNumber m] at moved
      rw [created, State.told, held]
      rw [State.told] at books
      split at moved <;> rename_i same
      · rw [if_pos same]
        omega
      · rw [if_neg same]
        omega
    told := fun p shown found' => by
      have moved := sum_map_set_add (VerifyRun.linkedOn p) run { r with stage := .linked }
      rw [← runs] at moved
      simp only [VerifyRun.linkedOn, linking, reduceCtorEq, and_false, and_true, if_false] at moved
      rw [pages] at found'
      by_cases here : r.page = p
      · subst here
        rw [List.getElem?_set_self inside] at found'
        obtain rfl := Option.some.inj found'
        rw [if_pos rfl, Nat.add_zero] at moved
        rw [told, sound.told _ _ found]
        exact moved.symm
      · rw [List.getElem?_set_ne here] at found'
        rw [if_neg here] at moved
        rw [sound.told p shown found']
        exact moved.symm
    backed := by
      rw [runs]
      refine forall_mem_set kept fun _ => ⟨page', ?_, ?_⟩
      · rw [pages, List.getElem?_set_self inside]
      · rw [phone, Function.update_self, number]
    running := by
      rw [runs, pages, List.length_set, accounts]
      exact forall_mem_set sound.running account }

theorem current_update (sound : Sound s₀ s) {device : ℕ} {user : Option Uid} {next : Uid}
    (grown : s.nextUid ≤ next) (account : ∀ u, user = some u → u < next) :
    ∀ d u, Function.update s.currentUser device user d = some u → u < next := by
  intro d u shown
  by_cases here : d = device
  · rw [here, Function.update_self] at shown
    exact account u shown
  · rw [Function.update_of_ne here] at shown
    exact (sound.current d u shown).trans_le grown

theorem callback (sound : Sound s₀ s) {p : ℕ} {e : Otp.Event} {page : Page} {t : Otp.State}
    (found : s.pages[p]? = some page) (allowed : isCallback e = true)
    (moved : Otp.step ⟨s.auth page.device, page.otp, false⟩ e = some t) :
    Sound s₀ { s with
      nextUid := t.auth.nextUid
      phone := t.auth.phone
      currentUser := Function.update s.currentUser page.device t.auth.currentUser
      pages := s.pages.set p { page with otp := t.page }
      created := s.created ++
        if t.auth.nextUid = s.nextUid then [] else [page.phoneNumber] } := by
  obtain ⟨number, dialogs, outcome⟩ := callback_cases allowed moved
  have entries : (s.pages.set p { page with otp := t.page }).map Page.entry =
      s.pages.map Page.entry :=
    map_set_same found (Prod.ext number (congrArg (List.count accountLinked) dialogs))
  rcases outcome with same | ⟨uid, holds, same⟩ | ⟨unheld, same⟩
  · exact sound.quiet entries (by rw [same]; rfl) (by simp [same, State.auth])
      (by rw [same]; exact le_rfl)
      (by rw [same]; exact sound.current_update le_rfl (sound.current page.device)) rfl
  · refine sound.quiet entries (by rw [same]; rfl) (by simp [same, State.auth])
      (by rw [same]; exact le_rfl) ?_ rfl
    rw [same]
    exact sound.current_update le_rfl fun u shown => Option.some.inj shown ▸ sound.known uid _ holds
  · refine (sound.create (n := page.phoneNumber) unheld).quiet entries (by rw [same]; rfl)
      (by simp [same, State.auth]) (by rw [same]; exact le_rfl) ?_ rfl
    rw [same]
    exact sound.current_update (Nat.le_succ _) fun u shown =>
      Option.some.inj shown ▸ Nat.lt_succ_self s.nextUid

theorem preserved (s : State) (e : Event) (s' : State) (sound : Sound s₀ s)
    (stepped : step s e = some s') : Sound s₀ s' := by
  cases step_move stepped with
  | ignored => exact sound
  | turned grown account =>
      exact sound.quiet rfl rfl rfl grown (sound.current_update grown account) rfl
  | opened untold => exact sound.openPage _ untold
  | shown found entry =>
      exact sound.quiet (map_set_same found entry) rfl rfl le_rfl sound.current rfl
  | callback found allowed moved => exact sound.callback found allowed moved
  | pressed found _ here current linking =>
      exact sound.press linking (sound.current _ _ current)
        (here ▸ (List.getElem?_eq_some_iff.mp found).1)
  | @answered i _ r page t run found linking answer =>
      obtain ⟨number, ⟨accepted, free, unheld, phone, told⟩ | ⟨refused, phone, told⟩⟩ :=
        verifyOTP_cases rfl answer
      · have same : ({ page with otp := t.page } : Page).phoneNumber = page.phoneNumber := number
        refine sound.link run found linking same told free unheld phone rfl ?_ rfl rfl rfl
        rw [accepted, if_pos rfl]
      · refine (sound.refuse run linking).quiet (map_set_same found (Prod.ext number told)) phone
          rfl le_rfl sound.current ?_
        rw [refused]
        rfl

end Sound

/-- A number stays with the account that holds it. -/
theorem phone_step {e : Event} (sound : Sound s₀ s) (stepped : step s e = some s') {u : Uid}
    (holds : s.phone u = some n) : s'.phone u = some n := by
  cases step_move stepped with
  | ignored | turned | opened | shown | pressed => exact holds
  | callback _ allowed moved =>
      obtain ⟨_, _, same | ⟨_, _, same⟩ | ⟨_, same⟩⟩ := callback_cases allowed moved
      · simp only [same]
        exact holds
      · simp only [same]
        exact holds
      · simp only [same]
        exact (Function.update_of_ne (sound.known u n holds).ne _ _).trans holds
  | @answered i _ r _ _ _ _ _ answer =>
      obtain ⟨_, ⟨_, free, _, phone, _⟩ | ⟨_, phone, _⟩⟩ := verifyOTP_cases rfl answer
      · have other : u ≠ r.uid := by
          rintro rfl
          exact absurd (free.symm.trans holds) (by simp)
        simp only [phone]
        exact (Function.update_of_ne other _ _).trans holds
      · simpa only [phone] using holds

end Books

/-- Over any number of devices and pages, in any order of codes, presses, answers, automatic
    sign-ins and logins: each number is held at most once, every holder that was not there at
    the start was told or created for it, and a number that is held stays where it is. -/
theorem numbers_held_once {auth : Auth} (known : ∀ u n, auth.phone u = some n → u < auth.nextUid)
    (one : ∀ n u v, auth.phone u = some n → auth.phone v = some n → u = v)
    {es : List Event} {s : State} (played : run step (.init auth) es = some s) :
    HeldOnce (.init auth) s ∧ ∀ es' t, run step s es' = some t →
      ∀ u n, s.phone u = some n → t.phone u = some n := by
  have sound := run_invariant Sound.preserved played (Sound.init known one)
  refine ⟨sound.toHeldOnce, ?_⟩
  intro es' t later u n holds
  have kept := run_invariant (P := fun t => Sound (.init auth) t ∧ t.phone u = some n)
    (fun t e t' ⟨sound, holds⟩ stepped =>
      ⟨sound.preserved t e t' stepped, phone_step sound stepped holds⟩) later ⟨sound, holds⟩
  exact kept.2

/-- Two users sign up with the same number, one of them spelling it out. Both type the code,
    the first is linked; the second is refused, and then signed in to the first's account. -/
def sameNumberTwice : List Event :=
  [.createUser 0, .openPage 0 "9876543210", .createUser 1, .openPage 1 "+919876543210",
    .callback 0 (.codeSent "v0"), .callback 1 (.codeSent "v1"), .onChanged 0 "123456",
    .onChanged 1 "654321", .verifyOTP 1, .verifyOTP 0, .answered 1 none, .answered 0 none,
    .callback 1 (.verificationCompleted none)]

theorem same_number_held_once :
    ∃ s, run step (.init ⟨0, fun _ => none, none⟩) sameNumberTwice = some s ∧
      s.told "+919876543210" = 1 ∧ s.phone 0 = some "+919876543210" ∧ s.phone 1 = none ∧
      s.currentUser 1 = some 0 ∧ HeldOnce (.init ⟨0, fun _ => none, none⟩) s := by
  obtain ⟨s, played, told, first, second, current⟩ :=
    run_reaches step (.init ⟨0, fun _ => none, none⟩) sameNumberTwice
      (P := fun s => s.told "+919876543210" = 1 ∧ s.phone 0 = some "+919876543210" ∧
        s.phone 1 = none ∧ s.currentUser 1 = some 0) (by decide +kernel)
  exact ⟨s, played, told, first, second, current,
    (numbers_held_once (fun _ _ none => by cases none) (fun _ _ _ none => by cases none) played).1⟩

end Udhar.Verification
