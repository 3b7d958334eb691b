import Mathlib.Algebra.Order.Field.Rat
import Mathlib.Data.List.DropRight
import Mathlib.Data.Nat.Log
import Mathlib.Data.Nat.Prime.Basic
import Mathlib.Tactic.FieldSimp
import Mathlib.Tactic.Ring

/-! # Decimal literals as exact rationals

Reading and writing of unsigned decimal literals: digits with an optional point
and an optional power of ten. Reading is total on the grammar and exact; writing
covers the rationals that have a finite decimal expansion, in full or in
scientific notation. Reading back what was written gives the number again.
-/

namespace Udhar.Lib.Numeral

/-! ## Reading -/

/-- A nonempty string of decimal digits. -/
def digits (cs : List Char) : Option ℕ :=
  if cs ≠ [] ∧ cs.all Char.isDigit then some (Nat.ofDigitChars 10 cs 0) else none

/-- The optional exponent that ends a literal. -/
def exponent : List Char → Option ℤ
  | [] => some 0
  | 'e' :: cs | 'E' :: cs =>
      match cs with
      | '+' :: ds => (digits ds).map Int.ofNat
      | '-' :: ds => (digits ds).map fun n => -Int.ofNat n
      | ds => (digits ds).map Int.ofNat
  | _ => none

/-- The number whose digits are `ds`, the last `places` of them behind the
    point, times ten to the `e`. -/
def scaled (ds : List Char) (places : ℕ) (e : ℤ) : ℚ :=
  Nat.ofDigitChars 10 ds 0 * 10 ^ (e - places)

/-- An unsigned literal: digits, a point between or beside them, an exponent. -/
def literal (cs : List Char) : Option ℚ :=
  let whole := cs.takeWhile Char.isDigit
  match cs.dropWhile Char.isDigit with
  | '.' :: rest =>
      let behind := rest.takeWhile Char.isDigit
      if whole = [] ∧ behind = [] then none
      else (exponent (rest.dropWhile Char.isDigit)).map (scaled (whole ++ behind) behind.length)
  | rest => if whole = [] then none else (exponent rest).map (scaled whole 0)

/-! ## Numbers with a finite expansion -/

/-- The rationals that some number of decimal places writes out. -/
def IsDecimal (q : ℚ) : Prop := ∃ k : ℕ, q.den ∣ 10 ^ k

theorem isDecimal_of_mul_pow {q : ℚ} {k : ℕ} {n : ℤ} (whole : q * 10 ^ k = n) : IsDecimal q := by
  refine ⟨k, ?_⟩
  have same : q = Rat.divInt n (10 ^ k : ℕ) := by
    rw [Rat.divInt_eq_div, ← whole]
    push_cast
    field_simp
  rw [same]
  exact_mod_cast Rat.den_dvd n (10 ^ k : ℕ)

theorem IsDecimal.mul_pow {q : ℚ} (decimal : IsDecimal q) : ∃ (k : ℕ) (n : ℤ), q * 10 ^ k = n := by
  obtain ⟨k, m, split⟩ := decimal
  refine ⟨k, q.num * m, ?_⟩
  have same : (10 : ℚ) ^ k = q.den * m := by exact_mod_cast congrArg (Nat.cast : ℕ → ℚ) split
  calc
    q * 10 ^ k = q * q.den * m := by rw [same, mul_assoc]
    _ = (q.num * m : ℤ) := by rw [Rat.mul_den_eq_num]; push_cast; rfl

theorem IsDecimal.add {p q : ℚ} (left : IsDecimal p) (right : IsDecimal q) : IsDecimal (p + q) := by
  obtain ⟨j, m, hm⟩ := left.mul_pow
  obtain ⟨k, n, hn⟩ := right.mul_pow
  apply isDecimal_of_mul_pow (k := j + k) (n := m * 10 ^ k + n * 10 ^ j)
  push_cast
  rw [← hm, ← hn, pow_add]
  ring

theorem isDecimal_scaled (ds : List Char) (places : ℕ) (e : ℤ) :
    IsDecimal (scaled ds places e) := by
  obtain ⟨k, rest⟩ : ∃ k : ℕ, 0 ≤ e - places + k := ⟨(places - e).toNat, by omega⟩
  obtain ⟨m, hm⟩ := Int.eq_ofNat_of_zero_le rest
  apply isDecimal_of_mul_pow (k := k) (n := Nat.ofDigitChars 10 ds 0 * 10 ^ m)
  calc
    scaled ds places e * 10 ^ k = Nat.ofDigitChars 10 ds 0 * (10 : ℚ) ^ (e - places + k) := by
      rw [scaled, mul_assoc, ← zpow_natCast, ← zpow_add₀ (by norm_num)]
    _ = _ := by rw [hm]; push_cast; rfl

theorem literal_isDecimal {cs : List Char} {q : ℚ} (read : literal cs = some q) : IsDecimal q := by
  simp only [literal] at read
  split at read
  · split at read
    · cases read
    · obtain ⟨e, _, rfl⟩ := Option.map_eq_some_iff.mp read
      exact isDecimal_scaled _ _ _
  · split at read
    · cases read
    · obtain ⟨e, _, rfl⟩ := Option.map_eq_some_iff.mp read
      exact isDecimal_scaled _ _ _

/-! ## Writing -/

/-- The least number of places that writes out a fraction of denominator `d`,
    if any does: no factor of `d` occurs more than `log₂ d` times. -/
def places (d : ℕ) : ℕ := ((List.range (d.log2 + 1)).find? fun k => 10 ^ k % d = 0).getD 0

/-- The numerator over `10 ^ k`. -/
def numerator (q : ℚ) (k : ℕ) : ℕ := q.num.natAbs * (10 ^ k / q.den)

/-- `n` in exactly `k` digits. -/
def padded (k n : ℕ) : List Char :=
  List.replicate (k - (Nat.toDigits 10 n).length) '0' ++ Nat.toDigits 10 n

/-- All digits, with at least one behind the point. -/
def plain (q : ℚ) : List Char :=
  let k := max 1 (places q.den)
  let n := numerator q k
  Nat.toDigits 10 (n / 10 ^ k) ++ '.' :: padded k (n % 10 ^ k)

def exponentChars (e : ℤ) : List Char :=
  'e' :: (if 0 ≤ e then '+' else '-') :: Nat.toDigits 10 e.natAbs

/-- The point goes behind the first digit, unless there is no other. -/
def mantissa : List Char → List Char
  | [] => ['0']
  | [d] => [d]
  | d :: rest => d :: '.' :: rest

/-- One digit, the other significant digits behind the point, and a power of ten. -/
def scientific (q : ℚ) : List Char :=
  let k := places q.den
  let ds := Nat.toDigits 10 (numerator q k)
  let significant := ds.rdropWhile (· = '0')
  let zeros := (ds.rtakeWhile (· = '0')).length
  mantissa significant ++ exponentChars ((significant.length - 1 : ℕ) + zeros - k)

theorem dvd_pow_log {d k : ℕ} (divides : d ∣ 10 ^ k) : d ∣ 10 ^ d.log2 := by
  have positive : 0 < d := Nat.pos_of_dvd_of_pos divides (Nat.pow_pos (by decide))
  rw [show 10 = 2 * 5 from rfl, mul_pow] at divides ⊢
  obtain ⟨x, y, twos, fives, rfl⟩ := (Nat.dvd_mul).mp divides
  obtain ⟨a, _, rfl⟩ := (Nat.dvd_prime_pow Nat.prime_two).mp twos
  obtain ⟨b, _, rfl⟩ := (Nat.dvd_prime_pow Nat.prime_five).mp fives
  have small : ∀ c, 2 ^ c ≤ 2 ^ a * 5 ^ b → c ≤ (2 ^ a * 5 ^ b).log2 := by
    intro c le
    exact (Nat.le_log2 positive.ne').mpr le
  apply Nat.mul_dvd_mul
  · exact pow_dvd_pow 2 (small a (Nat.le_mul_of_pos_right _ (Nat.pow_pos (by decide))))
  · apply pow_dvd_pow 5 (small b _)
    calc
      2 ^ b ≤ 5 ^ b := Nat.pow_le_pow_left (by decide) b
      _ ≤ 2 ^ a * 5 ^ b := Nat.le_mul_of_pos_left _ (Nat.pow_pos (by decide))

theorem places_spec {d k : ℕ} (divides : d ∣ 10 ^ k) : d ∣ 10 ^ places d := by
  unfold places
  cases found : (List.range (d.log2 + 1)).find? fun k => 10 ^ k % d = 0 with
  | none =>
      have missed := List.find?_eq_none.mp found d.log2 (List.mem_range.mpr (Nat.lt_succ_self _))
      exact absurd (Nat.mod_eq_zero_of_dvd (dvd_pow_log divides)) (by simpa using missed)
  | some k =>
      have fits := List.find?_some found
      exact Nat.dvd_of_mod_eq_zero (by simpa using fits)

theorem numerator_spec {q : ℚ} {k : ℕ} (divides : q.den ∣ 10 ^ k) (nonneg : 0 ≤ q) :
    (numerator q k : ℚ) = q * 10 ^ k := by
  obtain ⟨m, split⟩ := divides
  have same : (10 : ℚ) ^ k = q.den * m := by exact_mod_cast congrArg (Nat.cast : ℕ → ℚ) split
  have quotient : 10 ^ k / q.den = m := by rw [split, Nat.mul_div_cancel_left _ q.den_pos]
  have numeral : ((q.num.natAbs : ℕ) : ℚ) = q.num := by
    rw [← Int.cast_natCast, Int.natAbs_of_nonneg (Rat.num_nonneg.mpr nonneg)]
  rw [numerator, quotient, Nat.cast_mul, numeral, same, ← mul_assoc, Rat.mul_den_eq_num]

theorem all_digits (n : ℕ) : ∀ c ∈ Nat.toDigits 10 n, c.isDigit = true :=
  fun _ member => Nat.isDigit_of_mem_toDigits (by decide) (by decide) member

theorem padded_all_digits (k n : ℕ) : ∀ c ∈ padded k n, c.isDigit = true := by
  intro c member
  rcases List.mem_append.mp member with zero | digit
  · obtain rfl := List.eq_of_mem_replicate zero
    rfl
  · exact all_digits n c digit

theorem length_padded {k n : ℕ} (positive : 0 < k) (fits : n < 10 ^ k) :
    (padded k n).length = k := by
  have short := (Nat.length_toDigits_le_iff (by decide) positive).mpr fits
  simp only [padded, List.length_append, List.length_replicate]
  omega

theorem ofDigitChars_padded (k n : ℕ) : Nat.ofDigitChars 10 (padded k n) 0 = n := by
  rw [padded, Nat.ofDigitChars_append, Nat.ofDigitChars_replicate_zero, Nat.mul_zero,
    Nat.ofDigitChars_ten_toDigits]

/-! ## Reading back -/

/-- A digit string followed by anything that is not a digit splits there. -/
theorem takeWhile_digits {ds : List Char} (rest : List Char) (all : ∀ c ∈ ds, c.isDigit = true)
    (stop : rest.head?.all (fun c => !c.isDigit) = true) :
    (ds ++ rest).takeWhile Char.isDigit = ds ∧ (ds ++ rest).dropWhile Char.isDigit = rest := by
  rw [List.takeWhile_append_of_pos all, List.dropWhile_append_of_pos all]
  cases rest with
  | nil => simp
  | cons c rest =>
      have other : c.isDigit = false := by simpa using stop
      simp [other]

theorem digits_toDigits (n : ℕ) : digits (Nat.toDigits 10 n) = some n := by
  have all : (Nat.toDigits 10 n).all Char.isDigit = true := List.all_eq_true.mpr (all_digits n)
  simp only [digits, ne_eq, Nat.toDigits_ne_nil, not_false_eq_true, all, and_self, if_true,
    Nat.ofDigitChars_ten_toDigits]

theorem exponent_exponentChars (e : ℤ) : exponent (exponentChars e) = some e := by
  by_cases nonneg : 0 ≤ e
  · simp only [exponentChars, nonneg, if_true, exponent, digits_toDigits, Option.map_some,
      Int.ofNat_eq_natCast, Int.natAbs_of_nonneg nonneg]
  · have negative : ((e.natAbs : ℕ) : ℤ) = -e := by omega
    simp only [exponentChars, nonneg, if_false, exponent, digits_toDigits, Option.map_some,
      Int.ofNat_eq_natCast, negative, neg_neg]

/-- Digits, a point, digits and an exponent read as the scaled digit string. -/
theorem literal_pointed {whole behind : List Char} (tail : List Char) {e : ℤ}
    (some_digit : whole ≠ []) (left : ∀ c ∈ whole, c.isDigit = true)
    (right : ∀ c ∈ behind, c.isDigit = true)
    (stop : tail.head?.all (fun c => !c.isDigit) = true) (read : exponent tail = some e) :
    literal (whole ++ '.' :: (behind ++ tail)) =
      some (scaled (whole ++ behind) behind.length e) := by
  obtain ⟨front, back⟩ := takeWhile_digits ('.' :: (behind ++ tail)) left rfl
  obtain ⟨inner, outer⟩ := takeWhile_digits tail right stop
  simp only [literal, front, back, inner, outer, some_digit, false_and, if_false, read,
    Option.map_some]

theorem literal_unpointed {whole tail : List Char} {e : ℤ} (some_digit : whole ≠ [])
    (left : ∀ c ∈ whole, c.isDigit = true)
    (stop : tail.head?.all (fun c => !c.isDigit && c != '.') = true)
    (read : exponent tail = some e) : literal (whole ++ tail) = some (scaled whole 0 e) := by
  have noDigit : tail.head?.all (fun c => !c.isDigit) = true := by
    cases tail <;> simp_all
  obtain ⟨front, back⟩ := takeWhile_digits tail left noDigit
  simp only [literal, front, back]
  split
  · simp at stop
  · simp only [some_digit, if_false, read, Option.map_some]

theorem literal_plain {q : ℚ} (decimal : IsDecimal q) (nonneg : 0 ≤ q) :
    literal (plain q) = some q := by
  obtain ⟨j, divides⟩ := decimal
  set k := max 1 (places q.den) with hk
  set n := numerator q k with hn
  have fits : q.den ∣ 10 ^ k :=
    (places_spec divides).trans (pow_dvd_pow 10 (le_max_right _ _))
  have behind : (padded k (n % 10 ^ k)).length = k :=
    length_padded (by omega) (Nat.mod_lt _ (Nat.pow_pos (by decide)))
  have value :
      Nat.ofDigitChars 10 (Nat.toDigits 10 (n / 10 ^ k) ++ padded k (n % 10 ^ k)) 0 = n := by
    rw [Nat.ofDigitChars_append, Nat.ofDigitChars_ten_toDigits,
      Nat.ofDigitChars_eq_ofDigitChars_zero, behind, ofDigitChars_padded]
    exact Nat.div_add_mod n (10 ^ k)
  have read := literal_pointed [] (e := 0) Nat.toDigits_ne_nil (all_digits (n / 10 ^ k))
    (padded_all_digits k (n % 10 ^ k)) rfl rfl
  rw [List.append_nil] at read
  rw [plain, ← hk, ← hn, read, scaled, value, behind, numerator_spec fits nonneg]
  congr 1
  rw [zero_sub, zpow_neg, zpow_natCast, mul_assoc,
    mul_inv_cancel₀ (pow_ne_zero k (by norm_num)), mul_one]

theorem exponentChars_stop (e : ℤ) :
    (exponentChars e).head?.all (fun c => !c.isDigit && c != '.') = true := rfl

theorem literal_mantissa {d : Char} {rest : List Char} (all : ∀ c ∈ d :: rest, c.isDigit = true)
    (e : ℤ) : literal (mantissa (d :: rest) ++ exponentChars e) =
      some (scaled (d :: rest) rest.length e) := by
  cases rest with
  | nil =>
      exact literal_unpointed (List.cons_ne_nil d []) all (exponentChars_stop e)
        (exponent_exponentChars e)
  | cons r rest =>
      have first : ∀ c ∈ [d], c.isDigit = true := by
        intro c member
        exact all c (List.mem_cons.mpr (.inl (List.mem_singleton.mp member)))
      exact literal_pointed _ (List.cons_ne_nil d []) first
        (fun c member => all c (List.mem_cons_of_mem d member)) rfl (exponent_exponentChars e)

theorem ofDigitChars_trailing (ds zeros : List Char) (all : ∀ c ∈ zeros, c = '0') :
    Nat.ofDigitChars 10 (ds ++ zeros) 0 = 10 ^ zeros.length * Nat.ofDigitChars 10 ds 0 := by
  rw [List.eq_replicate_of_mem all, Nat.ofDigitChars_append, Nat.ofDigitChars_replicate_zero,
    List.length_replicate]

theorem literal_scientific {q : ℚ} (decimal : IsDecimal q) (positive : 0 < q) :
    literal (scientific q) = some q := by
  obtain ⟨j, divides⟩ := decimal
  set k := places q.den with hk
  set ds := Nat.toDigits 10 (numerator q k) with hds
  have value : (numerator q k : ℚ) = q * 10 ^ k := numerator_spec (places_spec divides) positive.le
  have joined : ds.rdropWhile (· = '0') ++ ds.rtakeWhile (· = '0') = ds :=
    List.rdropWhile_append_rtakeWhile
  have allZero : ∀ c ∈ ds.rtakeWhile (· = '0'), c = '0' := by
    intro c member
    simpa using List.mem_rtakeWhile_imp member
  have weight : numerator q k = 10 ^ (ds.rtakeWhile (· = '0')).length *
      Nat.ofDigitChars 10 (ds.rdropWhile (· = '0')) 0 := by
    rw [← ofDigitChars_trailing _ _ allZero, joined, hds, Nat.ofDigitChars_ten_toDigits]
  have allDigits : ∀ c ∈ ds.rdropWhile (· = '0'), c.isDigit = true := by
    intro c member
    exact all_digits _ c (joined ▸ List.mem_append_left _ member)
  rw [scientific, ← hk, ← hds]
  cases significant : ds.rdropWhile (· = '0') with
  | nil =>
      -- Without a significant digit the number would be zero.
      rw [significant, Nat.ofDigitChars_nil, Nat.mul_zero] at weight
      rw [weight, Nat.cast_zero] at value
      have : 0 < q * 10 ^ k := mul_pos positive (pow_pos (by norm_num) k)
      exact absurd value this.ne
  | cons d rest =>
      rw [significant] at weight allDigits
      rw [literal_mantissa allDigits, scaled]
      congr 1
      have power : ((List.length (d :: rest) - 1 : ℕ) + (ds.rtakeWhile (· = '0')).length - k : ℤ) -
          rest.length = (ds.rtakeWhile (· = '0')).length - k := by
        rw [List.length_cons]
        omega
      have ten : (10 : ℚ) ≠ 0 := by norm_num
      calc
        _ = ((10 ^ (ds.rtakeWhile (· = '0')).length * Nat.ofDigitChars 10 (d :: rest) 0 : ℕ) : ℚ) /
            10 ^ k := by
          rw [power, zpow_sub₀ ten, zpow_natCast, zpow_natCast]
          push_cast
          ring
        _ = q := by rw [← weight, value, mul_div_cancel_right₀ _ (pow_ne_zero k ten)]

/-! ## The characters written -/

/-- A character that can occur in a literal. -/
def isLiteralChar (c : Char) : Bool := c.isDigit || c = '.' || c = 'e' || c = '+' || c = '-'

/-- A string of literal characters that begins with a digit. -/
def Written (cs : List Char) : Prop :=
  (∃ d rest, cs = d :: rest ∧ d.isDigit = true) ∧ ∀ c ∈ cs, isLiteralChar c = true

theorem isLiteralChar_of_isDigit {c : Char} (digit : c.isDigit = true) :
    isLiteralChar c = true := by
  simp only [isLiteralChar, digit, Bool.true_or]

theorem Written.append {front back : List Char} (written : Written front)
    (rest : ∀ c ∈ back, isLiteralChar c = true) : Written (front ++ back) := by
  obtain ⟨⟨d, tail, rfl, digit⟩, all⟩ := written
  refine ⟨⟨d, tail ++ back, rfl, digit⟩, ?_⟩
  intro c member
  exact (List.mem_append.mp member).elim (all c) (rest c)

theorem written_of_digits {ds : List Char} (nonempty : ds ≠ [])
    (all : ∀ c ∈ ds, c.isDigit = true) : Written ds := by
  obtain ⟨d, rest, rfl⟩ := List.exists_cons_of_ne_nil nonempty
  exact ⟨⟨d, rest, rfl, all d (by simp)⟩, fun c member => isLiteralChar_of_isDigit (all c member)⟩

theorem written_plain (q : ℚ) : Written (plain q) := by
  apply (written_of_digits Nat.toDigits_ne_nil (all_digits _)).append
  intro c member
  rcases List.mem_cons.mp member with rfl | digit
  · rfl
  · exact isLiteralChar_of_isDigit (padded_all_digits _ _ c digit)

theorem exponentChars_chars (e : ℤ) : ∀ c ∈ exponentChars e, isLiteralChar c = true := by
  intro c member
  rcases List.mem_cons.mp member with rfl | member
  · rfl
  rcases List.mem_cons.mp member with sign | digit
  · split at sign <;> (subst sign; rfl)
  · exact isLiteralChar_of_isDigit (all_digits _ c digit)

theorem written_mantissa {ds : List Char} (all : ∀ c ∈ ds, c.isDigit = true) :
    Written (mantissa ds) := by
  match ds with
  | [] =>
      apply written_of_digits (List.cons_ne_nil '0' [])
      intro c member
      rw [List.mem_singleton.mp member]
      rfl
  | [d] => exact written_of_digits (List.cons_ne_nil _ _) all
  | d :: r :: rest =>
      refine ⟨⟨d, '.' :: r :: rest, rfl, all d (by simp)⟩, ?_⟩
      intro c member
      simp only [mantissa, List.mem_cons] at member
      rcases member with rfl | rfl | rfl | digit
      · exact isLiteralChar_of_isDigit (all c (by simp))
      · rfl
      · exact isLiteralChar_of_isDigit (all c (by simp))
      · exact isLiteralChar_of_isDigit (all c (by simp [digit]))

theorem written_scientific (q : ℚ) : Written (scientific q) := by
  refine Written.append (written_mantissa ?_) (exponentChars_chars _)
  intro c member
  exact all_digits _ c ((List.rdropWhile_prefix _ _).subset member)

end Udhar.Lib.Numeral
