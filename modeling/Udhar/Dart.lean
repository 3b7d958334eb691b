import Udhar.Lib.Numeral
import Mathlib.Tactic.Linarith

/-! # The parts of Dart's core library the app relies on

`String.trim`, and `double` with its parser, its printer and the arithmetic the
screens do with it. Finite amounts are exact rationals: rounding is left out, but
the literals that are not numbers are not, nor those that are too large or too
small for a double.
-/

namespace Udhar.Dart

open Lib

/-- The characters that `trim` and `double.parse` skip at both ends: Unicode
    white space and the byte order mark. -/
def isWhitespace (c : Char) : Bool :=
  let n := c.toNat
  (0x09 ≤ n && n ≤ 0x0D) || n = 0x20 || n = 0x85 || n = 0xA0 || n = 0x1680 ||
    (0x2000 ≤ n && n ≤ 0x200A) || n = 0x2028 || n = 0x2029 || n = 0x202F || n = 0x205F ||
    n = 0x3000 || n = 0xFEFF

def trimChars (cs : List Char) : List Char :=
  (cs.dropWhile isWhitespace).rdropWhile isWhitespace

/-- `String.trim`. -/
def trim (s : String) : String := String.ofList (trimChars s.toList)

theorem trimChars_eq_self {cs : List Char} (clean : ∀ c ∈ cs, isWhitespace c = false) :
    trimChars cs = cs := by
  have front : cs.dropWhile isWhitespace = cs := by
    cases cs with
    | nil => rfl
    | cons c cs => rw [List.dropWhile_cons, clean c (by simp)]; rfl
  rw [trimChars, front]
  apply List.rdropWhile_eq_self_iff.mpr
  intro nonempty
  simp only [clean _ (List.getLast_mem nonempty), Bool.false_eq_true, not_false_eq_true]

theorem trimChars_trimChars (cs : List Char) : trimChars (trimChars cs) = trimChars cs := by
  have front : (trimChars cs).dropWhile isWhitespace = trimChars cs := by
    apply List.dropWhile_eq_self_iff.mpr
    intro nonempty
    have inside : trimChars cs <+: cs.dropWhile isWhitespace := List.rdropWhile_prefix _ _
    rw [inside.getElem nonempty]
    exact List.dropWhile_get_zero_not _ _ (nonempty.trans_le inside.length_le)
  rw [trimChars, front]
  exact List.rdropWhile_idempotent _ _

theorem trim_trim (s : String) : trim (trim s) = trim s := by
  rw [trim, trim, String.toList_ofList, trimChars_trimChars]

/-- `length` counts the code units of UTF-16. -/
def length (s : String) : ℕ := (s.toList.map fun c => if c.toNat < 0x10000 then 1 else 2).sum

/-- `double`. -/
inductive Double where
  | finite (q : ℚ)
  | infinity (negative : Bool)
  | nan
  deriving DecidableEq

namespace Double

/-- `+`: infinities of opposite sign have no sum. -/
def add : Double → Double → Double
  | finite p, finite q => finite (p + q)
  | finite _, infinity s | infinity s, finite _ => infinity s
  | infinity s, infinity t => if s = t then infinity s else nan
  | nan, _ | _, nan => nan

instance : Zero Double := ⟨finite 0⟩
instance : Add Double := ⟨add⟩

theorem zero_def : (0 : Double) = finite 0 := rfl

@[simp] theorem finite_add_finite (p q : ℚ) : finite p + finite q = finite (p + q) := rfl

theorem add_infinity_infinity (s t : Bool) :
    infinity s + infinity t = if s = t then infinity s else nan := rfl

@[simp] theorem nan_add (x : Double) : nan + x = nan := by cases x <;> rfl

@[simp] theorem add_nan (x : Double) : x + nan = nan := by cases x <;> rfl

@[simp] theorem finite_add_infinity (q : ℚ) (s : Bool) : finite q + infinity s = infinity s := rfl

@[simp] theorem infinity_add_finite (q : ℚ) (s : Bool) : infinity s + finite q = infinity s := rfl

instance : AddCommMonoid Double where
  add_assoc x y z := by
    cases x with
    | nan => simp only [nan_add]
    | finite p =>
        cases y with
        | nan => simp only [nan_add, add_nan]
        | infinity s =>
            cases z with
            | infinity t =>
                simp only [finite_add_infinity, add_infinity_infinity]
                split <;> rfl
            | _ => rfl
        | finite q =>
            cases z with
            | finite r => simp only [finite_add_finite, add_assoc]
            | _ => rfl
    | infinity s =>
        cases y with
        | nan => simp only [nan_add, add_nan]
        | finite q => cases z <;> rfl
        | infinity t =>
            cases z with
            | nan => simp only [add_nan]
            | finite r =>
                simp only [infinity_add_finite, add_infinity_infinity]
                split <;> rfl
            | infinity u => cases s <;> cases t <;> cases u <;> rfl
  zero_add x := by
    cases x with
    | finite q => exact congrArg finite (zero_add q)
    | _ => rfl
  add_zero x := by
    cases x with
    | finite q => exact congrArg finite (add_zero q)
    | _ => rfl
  add_comm x y := by
    cases x with
    | finite p =>
        cases y with
        | finite q => exact congrArg finite (add_comm p q)
        | _ => rfl
    | infinity s =>
        cases y with
        | infinity t => cases s <;> cases t <;> rfl
        | _ => rfl
    | nan => simp only [nan_add, add_nan]
  nsmul := nsmulRec

/-- `* 100`, which turns rupees into paise. -/
def times100 : Double → Double
  | finite q => finite (q * 100)
  | infinity s => infinity s
  | nan => nan

def negate : Double → Double
  | finite q => finite (-q)
  | infinity s => infinity (!s)
  | nan => nan

/-- `<=`, which nothing that is not a number satisfies. -/
def le : Double → Double → Bool
  | finite p, finite q => p ≤ q
  | finite _, infinity s => !s
  | infinity s, finite _ => s
  | infinity s, infinity t => s || !t
  | nan, _ | _, nan => false

theorem le_trans {x y z : Double} (lower : x.le y = true) (upper : y.le z = true) :
    x.le z = true := by
  cases x <;> cases y <;> cases z <;> grind [le]

/-- A double literal without sign. -/
def parseUnsigned (cs : List Char) : Option Double :=
  if cs = "Infinity".toList then some (infinity false)
  else if cs = "NaN".toList then some nan
  else (Numeral.literal cs).map finite

/-- What the text of a double denotes; `none` where `double.parse` throws a
    `FormatException`. -/
def denoted (s : String) : Option Double :=
  match trimChars s.toList with
  | '-' :: cs => (parseUnsigned cs).map negate
  | '+' :: cs => parseUnsigned cs
  | cs => parseUnsigned cs

/-- Halfway between the largest double and the power of two above it: what is not below
    it rounds to infinity. -/
def overflow : ℚ := 2 ^ 1024 - 2 ^ 970

/-- Half of the smallest double: what is not above it rounds to zero. -/
def underflow : ℚ := 1 / 2 ^ 1075

/-- The range of doubles. -/
def toRange : Double → Double
  | finite q =>
      if overflow ≤ q then infinity false
      else if q ≤ -overflow then infinity true
      else if -underflow ≤ q ∧ q ≤ underflow then 0
      else finite q
  | x => x

/-- `double.parse`; `none` where it throws a `FormatException`. -/
def parse (s : String) : Option Double := (denoted s).map toRange

/-- `toString` of a number that is not negative: in full between `1e-6` and
    `1e21`, else in scientific notation. -/
def magnitudeChars (q : ℚ) : List Char :=
  if q = 0 ∨ 1 / 10 ^ 6 ≤ q ∧ q < 10 ^ 21 then Numeral.plain q else Numeral.scientific q

/-- `toString`. -/
def toString : Double → String
  | finite q => String.ofList
      (if q < 0 then '-' :: magnitudeChars (-q) else magnitudeChars q)
  | infinity s => if s then "-Infinity" else "Infinity"
  | nan => "NaN"

theorem isWhitespace_of_isLiteralChar {c : Char} (literal : Numeral.isLiteralChar c = true) :
    isWhitespace c = false := by
  simp only [Numeral.isLiteralChar, Bool.or_eq_true, decide_eq_true_eq] at literal
  rcases literal with (((digit | rfl) | rfl) | rfl) | rfl
  · simp only [Char.isDigit, Bool.and_eq_true, decide_eq_true_eq] at digit
    have low : 48 ≤ c.toNat := digit.1
    have high : c.toNat ≤ 57 := digit.2
    simp only [isWhitespace, Bool.or_eq_false_iff, Bool.and_eq_false_iff, decide_eq_false_iff_not]
    omega
  all_goals rfl

theorem written_magnitudeChars (q : ℚ) : Numeral.Written (magnitudeChars q) := by
  unfold magnitudeChars
  split
  · exact Numeral.written_plain q
  · exact Numeral.written_scientific q

theorem literal_magnitudeChars {q : ℚ} (decimal : Numeral.IsDecimal q) (nonneg : 0 ≤ q) :
    Numeral.literal (magnitudeChars q) = some q := by
  unfold magnitudeChars
  split
  · exact Numeral.literal_plain decimal nonneg
  · rename_i extreme
    have nonzero : q ≠ 0 := fun zero => extreme (.inl zero)
    exact Numeral.literal_scientific decimal (lt_of_le_of_ne nonneg nonzero.symm)

/-- What is written as digits is read by the numeral reader. -/
theorem parseUnsigned_written {cs : List Char} (written : Numeral.Written cs) :
    parseUnsigned cs = (Numeral.literal cs).map finite := by
  obtain ⟨⟨d, rest, rfl, digit⟩, _⟩ := written
  have notInfinity : d :: rest ≠ "Infinity".toList := by
    rintro same
    obtain rfl : d = 'I' := (List.cons.inj same).1
    exact absurd digit (by decide)
  have notNaN : d :: rest ≠ "NaN".toList := by
    rintro same
    obtain rfl : d = 'N' := (List.cons.inj same).1
    exact absurd digit (by decide)
  simp only [parseUnsigned, notInfinity, notNaN, if_false]

theorem denoted_written {cs : List Char} (written : Numeral.Written cs) :
    denoted (String.ofList cs) = (Numeral.literal cs).map finite := by
  have clean : trimChars cs = cs :=
    trimChars_eq_self fun c member => isWhitespace_of_isLiteralChar (written.2 c member)
  rw [← parseUnsigned_written written, denoted, String.toList_ofList, clean]
  obtain ⟨⟨d, rest, rfl, digit⟩, _⟩ := written
  split
  · rename_i same
    obtain rfl := (List.cons.inj same).1
    exact absurd digit (by decide)
  · rename_i same
    obtain rfl := (List.cons.inj same).1
    exact absurd digit (by decide)
  · rfl

theorem denoted_minus_written {cs : List Char} (written : Numeral.Written cs) :
    denoted (String.ofList ('-' :: cs)) = ((Numeral.literal cs).map finite).map negate := by
  have clean : trimChars ('-' :: cs) = '-' :: cs := by
    apply trimChars_eq_self
    intro c member
    rcases List.mem_cons.mp member with rfl | inside
    · rfl
    · exact isWhitespace_of_isLiteralChar (written.2 c inside)
  rw [← parseUnsigned_written written, denoted, String.toList_ofList, clean]
  rfl

/-- The amounts `toString` writes out exactly. -/
def Printable : Double → Prop
  | finite q => Numeral.IsDecimal q
  | _ => True

theorem denoted_toString {x : Double} (printable : Printable x) :
    denoted (toString x) = some x := by
  cases x with
  | nan => decide +kernel
  | infinity s => cases s <;> decide +kernel
  | finite q =>
      by_cases negative : q < 0
      · have decimal : Numeral.IsDecimal (-q) := by
          obtain ⟨k, divides⟩ := printable
          exact ⟨k, by rwa [Rat.neg_den]⟩
        rw [toString, if_pos negative, denoted_minus_written (written_magnitudeChars _),
          literal_magnitudeChars decimal (by linarith)]
        simp only [Option.map_some, negate, neg_neg]
      · rw [toString, if_neg negative, denoted_written (written_magnitudeChars _),
          literal_magnitudeChars printable (not_lt.mp negative), Option.map_some]

theorem printable_of_denoted {s : String} {x : Double} (read : denoted s = some x) :
    Printable x := by
  have unsigned : ∀ {cs y}, parseUnsigned cs = some y → Printable y := by
    intro cs y read
    unfold parseUnsigned at read
    split at read
    · cases read; trivial
    split at read
    · cases read; trivial
    obtain ⟨q, literal, rfl⟩ := Option.map_eq_some_iff.mp read
    exact Numeral.literal_isDecimal literal
  unfold denoted at read
  split at read
  · obtain ⟨y, literal, rfl⟩ := Option.map_eq_some_iff.mp read
    cases y with
    | finite q =>
        obtain ⟨k, divides⟩ := unsigned literal
        exact ⟨k, by rwa [Rat.neg_den]⟩
    | _ => trivial
  · exact unsigned read
  · exact unsigned read

theorem printable_zero : Printable 0 := ⟨0, by simp⟩

theorem printable_toRange {x : Double} (printable : Printable x) : Printable (toRange x) := by
  cases x with
  | finite q =>
      simp only [toRange]
      split_ifs
      · trivial
      · trivial
      · exact printable_zero
      · exact printable
  | infinity | nan => trivial

theorem parse_printable {s : String} {x : Double} (parsed : parse s = some x) : Printable x := by
  obtain ⟨y, read, rfl⟩ := Option.map_eq_some_iff.mp parsed
  exact printable_toRange (printable_of_denoted read)

example : parse "1000" = some (finite 1000) := by decide +kernel
example : parse "  -.5e3 " = some (finite (-500)) := by decide +kernel
example : parse "abc" = none := by decide +kernel
example : parse "-1e400" = some (infinity true) := by decide +kernel
example : parse "1e-400" = some 0 := by decide +kernel
example : toString (finite (2501 / 2)) = "1250.5" := by decide +kernel

end Double

end Udhar.Dart
