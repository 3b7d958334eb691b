import Udhar.Lib.Regex
import Udhar.Lib.Split

/-! # The check of an e-mail address

`isValidEmail` of the login and of the sign-up screen matches the whole text
against `^[\w-\.]+@([\w-]+\.)+[\w-]{2,4}$`. The pattern tells five kinds of
characters apart, so it is a regular expression over these kinds.
-/

namespace Udhar.Email

open Lib.Regex Lib.Split RegularExpression

/-- What the pattern tells apart. -/
inductive CharKind where
  | word
  | hyphen
  | dot
  | at
  | other
  deriving DecidableEq

/-- `\w` is a letter or digit of ASCII, or the underscore. -/
def kind (c : Char) : CharKind :=
  if c.isAlphanum || c = '_' then .word
  else if c = '-' then .hyphen
  else if c = '.' then .dot
  else if c = '@' then .at
  else .other

/-- `[\w-]`. -/
def labelChar : RegularExpression CharKind := char .word + char .hyphen

/-- `[\w-\.]`. -/
def localChar : RegularExpression CharKind := char .word + char .hyphen + char .dot

/-- `([\w-]+\.)+`. -/
def labels : RegularExpression CharKind := oneOrMore (oneOrMore labelChar * char .dot)

/-- `[\w-]{2,4}`. -/
def lastLabel : RegularExpression CharKind := labelChar ^ 2 + labelChar ^ 3 + labelChar ^ 4

/-- `[\w-\.]+@([\w-]+\.)+[\w-]{2,4}`. -/
def emailRegex : RegularExpression CharKind :=
  oneOrMore localChar * char .at * labels * lastLabel

/-- `emailRegex.hasMatch`: the anchors leave no part of the text out. -/
def isValidEmail (email : String) : Bool := emailRegex.rmatch (email.toList.map kind)

namespace LoginScreen

/-- The login screen has a check of its own, with the same pattern. -/
def isValidEmail (email : String) : Bool := emailRegex.rmatch (email.toList.map kind)

end LoginScreen

/-! ## What it accepts -/

def isLabelKind (k : CharKind) : Bool := k = .word || k = .hyphen

def isLocalKind (k : CharKind) : Bool := isLabelKind k || k = .dot

/-- A way to split an address as the pattern does. -/
structure Parts (ks name : List CharKind) (labels : List (List CharKind))
    (last : List CharKind) : Prop where
  whole : ks = name ++ [.at] ++ (labels.map (· ++ [.dot])).flatten ++ last
  name : name ≠ [] ∧ ∀ k ∈ name, isLocalKind k = true
  some_label : labels ≠ []
  labels : ∀ label ∈ labels, label ≠ [] ∧ ∀ k ∈ label, isLabelKind k = true
  last : (2 ≤ last.length ∧ last.length ≤ 4) ∧ ∀ k ∈ last, isLabelKind k = true

theorem isClass_labelChar : IsClass labelChar isLabelKind :=
  (isClass_char CharKind.word).add (isClass_char CharKind.hyphen)

theorem isClass_localChar : IsClass localChar isLocalKind :=
  isClass_labelChar.add (isClass_char CharKind.dot)

theorem mem_lastLabel {w : List CharKind} : w ∈ lastLabel.matches' ↔
    (2 ≤ w.length ∧ w.length ≤ 4) ∧ ∀ k ∈ w, isLabelKind k = true := by
  simp only [lastLabel, matches'_add, Language.mem_add, isClass_labelChar.mem_pow,
    ← or_and_right]
  apply and_congr_left
  intro _
  omega

/-- The check accepts a text exactly if there is a way to split it. -/
theorem isValidEmail_iff (email : String) : isValidEmail email = true ↔
    ∃ name labels last, Parts (email.toList.map kind) name labels last := by
  rw [isValidEmail, rmatch_iff_matches', emailRegex, matches'_mul, matches'_mul]
  constructor
  · rintro ⟨_, ⟨_, start, _, middle, rfl⟩, last, ending, whole⟩
    obtain ⟨name, started, rfl⟩ := mem_mul_char.mp start
    obtain ⟨labels, some_label, rfl, each⟩ := mem_oneOrMore_char.mp middle
    refine ⟨name, labels, last, whole.symm, isClass_localChar.mem_oneOrMore.mp started,
      some_label, fun label inside => ?_, mem_lastLabel.mp ending⟩
    exact isClass_labelChar.mem_oneOrMore.mp (each label inside)
  · rintro ⟨name, labels, last, parts⟩
    refine ⟨_, ⟨_, mem_mul_char.mpr ⟨name, ?_, rfl⟩, _, mem_oneOrMore_char.mpr
      ⟨labels, parts.some_label, rfl, fun label inside => ?_⟩, rfl⟩, last, ?_, parts.whole.symm⟩
    · exact isClass_localChar.mem_oneOrMore.mpr parts.name
    · exact isClass_labelChar.mem_oneOrMore.mpr (parts.labels label inside)
    · exact mem_lastLabel.mpr parts.last

example : isValidEmail "asha.rao@mail.example.co.in" = true := by decide +kernel
example : isValidEmail "asha@example" = false := by decide +kernel

/-! ## The grammar of an address -/

/-- Letters and digits of ASCII, `_` and `-`. -/
def isLabelChar (c : Char) : Bool := c.isAlphanum || c = '_' || c = '-'

def isLocalChar (c : Char) : Bool := isLabelChar c || c = '.'

/-- The labels of the domain, from left to right. -/
def domainLabels (email : String) : List (List Char) := (after '@' email.toList).splitOn '.'

/-- An address cut at its `@` and its dots, with no choice of how to cut it. -/
structure WellFormed (email : String) : Prop where
  one_at : email.toList.count '@' = 1
  name : before '@' email.toList ≠ [] ∧ ∀ c ∈ before '@' email.toList, isLocalChar c = true
  two_labels : 2 ≤ (domainLabels email).length
  labels : ∀ label ∈ domainLabels email, label ≠ [] ∧ ∀ c ∈ label, isLabelChar c = true
  last : ∀ label ∈ (domainLabels email).getLast?, 2 ≤ label.length ∧ label.length ≤ 4

theorem kind_eq_at {c : Char} : kind c = .at ↔ c = '@' := by
  constructor
  · unfold kind
    grind
  · rintro rfl
    rfl

theorem kind_eq_dot {c : Char} : kind c = .dot ↔ c = '.' := by
  constructor
  · unfold kind
    grind
  · rintro rfl
    rfl

theorem isLabelKind_kind (c : Char) : isLabelKind (kind c) = isLabelChar c := by
  unfold isLabelKind isLabelChar kind
  grind

theorem isLocalKind_kind (c : Char) : isLocalKind (kind c) = isLocalChar c := by
  rw [isLocalKind, isLocalChar, isLabelKind_kind]
  simp only [kind_eq_dot]

theorem forall_localChar {cs : List Char} :
    (∀ k ∈ cs.map kind, isLocalKind k = true) ↔ ∀ c ∈ cs, isLocalChar c = true := by
  simp only [List.forall_mem_map, isLocalKind_kind]

theorem forall_labelChar {cs : List Char} :
    (∀ k ∈ cs.map kind, isLabelKind k = true) ↔ ∀ c ∈ cs, isLabelChar c = true := by
  simp only [List.forall_mem_map, isLabelKind_kind]

theorem at_not_mem_of_local {cs : List Char} (all : ∀ c ∈ cs, isLocalChar c = true) :
    '@' ∉ cs :=
  fun inside => nomatch all '@' inside

theorem Parts.each {ks name : List CharKind} {labels last} (parts : Parts ks name labels last) :
    ∀ label ∈ labels ++ [last], label ≠ [] ∧ ∀ k ∈ label, isLabelKind k = true := by
  refine List.forall_mem_append.mpr ⟨parts.labels, List.forall_mem_singleton.mpr ?_⟩
  refine ⟨fun empty => ?_, parts.last.2⟩
  have long := parts.last.1.1
  rw [empty] at long
  exact absurd long (by decide)

/-- A split that the matcher finds cuts the text at its `@` and its dots. -/
theorem Parts.cut {cs : List Char} {name labels last}
    (parts : Parts (cs.map kind) name labels last) :
    ∃ start domain, cs = start ++ '@' :: domain ∧ start.map kind = name ∧
      (domain.splitOn '.').map (List.map kind) = labels ++ [last] := by
  have whole : cs.map kind = name ++ .at :: [.dot].intercalate (labels ++ [last]) := by
    rw [parts.whole, intercalate_concat]
    simp
  obtain ⟨start, rest, rfl, started, ending⟩ := List.map_eq_append_iff.mp whole
  obtain ⟨c, domain, rfl, symbol, written⟩ := List.map_eq_cons_iff.mp ending
  obtain rfl := kind_eq_at.mp symbol
  have fresh : ∀ label ∈ labels ++ [last], CharKind.dot ∉ label :=
    fun label inside dot => nomatch (parts.each label inside).2 .dot dot
  have cut := List.splitOn_intercalate .dot fresh (List.concat_ne_nil last labels)
  have mapped : (domain.map kind).splitOn .dot = (domain.splitOn '.').map (List.map kind) :=
    splitOn_map fun _ => kind_eq_dot
  rw [← written, mapped] at cut
  exact ⟨start, domain, rfl, started, cut⟩

theorem Parts.wellFormed {email : String} {name labels last}
    (parts : Parts (email.toList.map kind) name labels last) : WellFormed email := by
  obtain ⟨start, domain, whole, rfl, cut⟩ := parts.cut
  have local_chars := forall_localChar.mp parts.name.2
  have start_fresh : '@' ∉ start := at_not_mem_of_local local_chars
  have each : ∀ label ∈ domain.splitOn '.', label ≠ [] ∧ ∀ c ∈ label, isLabelChar c = true := by
    intro label inside
    have member := List.mem_map_of_mem (f := List.map kind) inside
    rw [cut] at member
    obtain ⟨nonempty, all⟩ := parts.each _ member
    exact ⟨fun empty => nonempty (by rw [empty]; rfl), forall_labelChar.mp all⟩
  have domain_fresh : '@' ∉ domain := by
    have dot : isLocalChar '.' = true := rfl
    refine at_not_mem_of_local (forall_mem_of_pieces dot fun label inside c member => ?_)
    rw [isLocalChar, (each label inside).2 c member]
    rfl
  have labels_eq : domainLabels email = domain.splitOn '.' := by
    rw [domainLabels, whole, after_append start_fresh]
  refine ⟨?_, ?_, ?_, ?_, ?_⟩
  · rw [whole, List.count_append, List.count_cons_self, List.count_eq_zero.mpr start_fresh,
      List.count_eq_zero.mpr domain_fresh]
  · rw [whole, before_append start_fresh]
    exact ⟨fun empty => parts.name.1 (by rw [empty]; rfl), local_chars⟩
  · have count := congrArg List.length cut
    have some_label := List.length_pos_iff.mpr parts.some_label
    rw [List.length_map, List.length_append, List.length_singleton] at count
    rw [labels_eq]
    omega
  · rw [labels_eq]
    exact each
  · intro label final
    have same := congrArg List.getLast? cut
    rw [List.getLast?_map, ← labels_eq, final, List.getLast?_concat] at same
    have long := parts.last.1
    rwa [← Option.some.inj same, List.length_map] at long

theorem WellFormed.parts {email : String} (wellFormed : WellFormed email) :
    ∃ name labels last, Parts (email.toList.map kind) name labels last := by
  have member : '@' ∈ email.toList := by
    apply List.count_pos_iff.mp
    rw [wellFormed.one_at]
    exact Nat.one_pos
  have whole := before_append_after member
  have nonempty : domainLabels email ≠ [] := List.splitOn_ne_nil _ _
  obtain ⟨labels, last, cut⟩ := (List.eq_nil_or_concat' _).resolve_left nonempty
  have written : after '@' email.toList = (labels.map (· ++ ['.'])).flatten ++ last := by
    rw [← intercalate_concat, ← cut]
    exact (List.intercalate_splitOn '.').symm
  have each := wellFormed.labels
  have long := wellFormed.last last
  have count := wellFormed.two_labels
  rw [cut] at each long count
  obtain ⟨each, final⟩ := List.forall_mem_append.mp each
  refine ⟨(before '@' email.toList).map kind, labels.map (List.map kind), last.map kind,
    ?_, ?_, ?_, ?_, ?_⟩
  · have ended : List.map kind ∘ (· ++ ['.']) = (· ++ [CharKind.dot]) ∘ List.map kind :=
      funext fun _ => List.map_append
    calc email.toList.map kind
        = (before '@' email.toList ++ '@' :: after '@' email.toList).map kind := by rw [whole]
      _ = _ := by
        rw [written, List.map_append, List.map_cons, List.map_append, List.map_flatten,
          List.map_map, List.map_map, ended, kind_eq_at.mpr rfl]
        simp only [List.append_assoc, List.cons_append, List.nil_append]
  · refine ⟨fun empty => wellFormed.name.1 (List.map_eq_nil_iff.mp empty), ?_⟩
    exact forall_localChar.mpr wellFormed.name.2
  · intro empty
    rw [List.map_eq_nil_iff.mp empty] at count
    exact Nat.not_succ_le_self 1 count
  · intro label inside
    obtain ⟨chars, member, rfl⟩ := List.mem_map.mp inside
    obtain ⟨nonempty, all⟩ := each chars member
    exact ⟨fun empty => nonempty (List.map_eq_nil_iff.mp empty), forall_labelChar.mpr all⟩
  · rw [List.length_map]
    exact ⟨long List.getLast?_concat, forall_labelChar.mpr (List.forall_mem_singleton.mp final).2⟩

/-- Both checks accept exactly the well formed addresses. -/
theorem isValidEmail_iff_wellFormed (email : String) :
    (LoginScreen.isValidEmail email = true ↔ WellFormed email) ∧
      (isValidEmail email = true ↔ WellFormed email) := by
  have exact_check : isValidEmail email = true ↔ WellFormed email := by
    rw [isValidEmail_iff]
    exact ⟨fun ⟨_, _, _, parts⟩ => parts.wellFormed, WellFormed.parts⟩
  exact ⟨exact_check, exact_check⟩

end Udhar.Email
