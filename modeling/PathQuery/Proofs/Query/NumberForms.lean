import PathQuery.Proofs.Binary64.Overflow
import PathQuery.Proofs.Query.Lexemes

/-!
The form `-?D+(.D+)?([eE][+-]?D+)?` of a number in a query, with ASCII digits `D`, and its value. A
number of this form can be read, unless it is no integer of 64 bits and beyond all floats.
-/

namespace PathQuery

/-- Decimal digits, at least one. -/
structure Digits where
  chars : List Char
  ne_nil : chars ≠ []
  isDigit : ∀ c ∈ chars, c.isDigit

/-- A mark, small or capital, a sign or none, and digits. The sign is `true` for a minus. -/
structure ExponentLiteral where
  capital : Bool
  sign : Option Bool
  digits : Digits

/-- A minus or none, digits, maybe digits behind a point, and maybe an exponent. -/
structure NumberLiteral where
  negative : Bool
  whole : Digits
  fraction : Option Digits
  exponent : Option ExponentLiteral

def Digits.value (ds : Digits) : ℕ :=
  Nat.ofDigitChars 10 ds.chars 0

namespace ExponentLiteral

def mark (e : ExponentLiteral) : Char :=
  if e.capital then 'E' else 'e'

def signChars (e : ExponentLiteral) : List Char :=
  match e.sign with
  | none => []
  | some negative => [if negative then '-' else '+']

def chars (e : ExponentLiteral) : List Char :=
  e.mark :: (e.signChars ++ e.digits.chars)

def value (e : ExponentLiteral) : ℤ :=
  if e.sign = some true then -e.digits.value else e.digits.value

end ExponentLiteral

namespace NumberLiteral

def minusChars (negative : Bool) : List Char :=
  if negative then ['-'] else []

def fractionChars : Option Digits → List Char
  | none => []
  | some ds => '.' :: ds.chars

def exponentChars : Option ExponentLiteral → List Char
  | none => []
  | some e => e.chars

def unsigned (n : NumberLiteral) : List Char :=
  n.whole.chars ++ (fractionChars n.fraction ++ exponentChars n.exponent)

def chars (n : NumberLiteral) : List Char :=
  minusChars n.negative ++ n.unsigned

def fractionValue : Option Digits → ℚ
  | none => 0
  | some ds => ds.value / 10 ^ ds.chars.length

def exponentValue : Option ExponentLiteral → ℤ
  | none => 0
  | some e => e.value

def magnitude (n : NumberLiteral) : ℚ :=
  (n.whole.value + fractionValue n.fraction) * 10 ^ exponentValue n.exponent

/-- The rational number that is written. -/
def value (n : NumberLiteral) : ℚ :=
  if n.negative then -n.magnitude else n.magnitude

/-- Without point and exponent, and in the range of 64-bit signed integers. -/
def IsInt64 (n : NumberLiteral) : Prop :=
  n.fraction = none ∧ n.exponent = none ∧ -2 ^ 63 ≤ n.value ∧ n.value < 2 ^ 63

end NumberLiteral

namespace Digits

variable {rest : List Char}

/-- Digits end where something else comes. -/
theorem span (ds : Digits) (other : ∀ c ∈ rest.head?, c.isDigit = false) :
    (ds.chars ++ rest).takeWhile Char.isDigit = ds.chars ∧
      (ds.chars ++ rest).dropWhile Char.isDigit = rest := by
  have take := Scanner.takeWhile_digits ds.isDigit other
  have whole := List.takeWhile_append_dropWhile (p := Char.isDigit) (l := ds.chars ++ rest)
  rw [take] at whole
  exact ⟨take, List.append_cancel_left whole⟩

theorem exists_cons (ds : Digits) : ∃ d cs, ds.chars = d :: cs ∧ d.isDigit := by
  obtain ⟨d, cs, split⟩ := List.exists_cons_of_ne_nil ds.ne_nil
  exact ⟨d, cs, split, ds.isDigit d (by simp [split])⟩

theorem isEmpty_chars (ds : Digits) : ds.chars.isEmpty = false :=
  List.isEmpty_eq_false_iff.2 ds.ne_nil

theorem all_isDigit (ds : Digits) : ds.chars.all Char.isDigit :=
  List.all_eq_true.2 ds.isDigit

theorem natOfDigits_chars (ds : Digits) : Number.natOfDigits ds.chars = ds.value :=
  Number.natOfDigits_eq ds.chars

end Digits

namespace ExponentLiteral

variable (e : ExponentLiteral)

theorem mark_eq : e.mark = 'e' ∨ e.mark = 'E' := by
  unfold mark
  split <;> simp

theorem mark_ne : e.mark ≠ '.' ∧ e.mark.isDigit = false := by
  rcases e.mark_eq with h | h <;> rw [h] <;> decide

theorem splitSign_chars :
    Number.splitSign (e.signChars ++ e.digits.chars) = (e.sign == some true, e.digits.chars) := by
  unfold signChars
  cases e.sign with
  | none => exact Number.splitSign_digits e.digits.isDigit
  | some negative => cases negative <;> rfl

end ExponentLiteral

namespace NumberLiteral

open Number

/-! ### Reading a number by its parts -/

section

variable {f : Option Digits} {e : Option ExponentLiteral}

theorem head_behind_digits : ∀ c ∈ (fractionChars f ++ exponentChars e).head?, c.isDigit = false := by
  intro c hc
  cases f with
  | some ds =>
      cases hc
      rfl
  | none =>
      cases e with
      | none => cases hc
      | some e =>
          cases hc
          exact e.mark_ne.2

def fractionDigits : Option Digits → List Char
  | none => []
  | some ds => ds.chars

theorem splitFraction_chars :
    splitFraction (fractionChars f ++ exponentChars e) = (fractionDigits f, exponentChars e) := by
  cases f with
  | some ds =>
      obtain ⟨take, drop⟩ := ds.span (head_behind_digits (f := none) (e := e))
      exact Prod.ext take drop
  | none =>
      cases e with
      | none => rfl
      | some e =>
          unfold splitFraction
          split
          · rename_i cs point
            exact absurd (List.cons.inj point).1 e.mark_ne.1
          · rfl

theorem exponentOfText?_chars : exponentOfText? (exponentChars e) = some (exponentValue e) := by
  cases e with
  | none => rfl
  | some e =>
      have mark := e.mark_eq
      have some := e.digits.isEmpty_chars
      have all := e.digits.all_isDigit
      simp only [exponentChars, ExponentLiteral.chars, exponentOfText?, e.splitSign_chars,
        e.digits.natOfDigits_chars, exponentValue, ExponentLiteral.value]
      simp [mark, some, all]

end

variable (n : NumberLiteral)

theorem splitSign_chars : splitSign n.chars = (n.negative, n.unsigned) := by
  obtain ⟨d, cs, split, digit⟩ := n.whole.exists_cons
  rw [chars, minusChars]
  cases n.negative with
  | true => rfl
  | false =>
      rw [if_neg (by simp), List.nil_append, unsigned, split, List.cons_append]
      unfold splitSign
      split <;> simp_all

/-- The magnitude as a decimal numeral. -/
def decimal : Binary64.Decimal :=
  ⟨natOfDigits (n.whole.chars ++ fractionDigits n.fraction),
    exponentValue n.exponent - (fractionDigits n.fraction).length⟩

theorem binary64OfText?_chars :
    binary64OfText? (String.ofList n.chars) = Binary64.ofDecimal n.negative n.decimal := by
  obtain ⟨take, drop⟩ := n.whole.span (head_behind_digits (f := n.fraction) (e := n.exponent))
  unfold binary64OfText?
  simp [n.splitSign_chars, unsigned, take, drop, splitFraction_chars, exponentOfText?_chars,
    n.whole.isEmpty_chars, decimal]

/-! ### The value -/

theorem magnitude_eq : n.magnitude = n.decimal.digits * 10 ^ n.decimal.exponent := by
  have ten : (10 : ℚ) ≠ 0 := by norm_num
  unfold magnitude decimal
  cases n.fraction with
  | none => simp [fractionValue, fractionDigits, n.whole.natOfDigits_chars]
  | some ds =>
      have digits : natOfDigits (n.whole.chars ++ ds.chars) =
          10 ^ ds.chars.length * n.whole.value + ds.value := by
        rw [natOfDigits_eq, Nat.ofDigitChars_append, Nat.ofDigitChars_eq_ofDigitChars_zero]
        rfl
      simp only [fractionValue, fractionDigits, digits]
      rw [zpow_sub₀ ten, zpow_natCast]
      push_cast
      field_simp

theorem abs_value : |n.value| = n.magnitude := by
  have positive : 0 ≤ n.magnitude := by
    rw [magnitude_eq]
    positivity
  unfold value
  split
  · rw [abs_neg, abs_of_nonneg positive]
  · exact abs_of_nonneg positive

theorem value_of_plain (fraction : n.fraction = none) (exponent : n.exponent = none) :
    n.value = ((if n.negative then -n.whole.value else n.whole.value : ℤ) : ℚ) := by
  unfold value magnitude
  rw [fraction, exponent]
  split <;> simp [fractionValue, exponentValue]

/-- Only digits can be read as an integer. -/
theorem all_unsigned :
    n.unsigned.all Char.isDigit ↔ n.fraction = none ∧ n.exponent = none := by
  unfold unsigned
  rw [List.all_append, n.whole.all_isDigit, Bool.true_and, List.all_append, Bool.and_eq_true]
  refine and_congr ?_ ?_
  · cases n.fraction <;> simp [fractionChars]
  · cases n.exponent <;> simp [exponentChars, ExponentLiteral.chars, (ExponentLiteral.mark_ne _).2]

theorem isInt64_iff (fraction : n.fraction = none) (exponent : n.exponent = none) :
    n.IsInt64 ↔ fitsInt64 (if n.negative then -n.whole.value else n.whole.value) := by
  rw [IsInt64, n.value_of_plain fraction exponent, fitsInt64_iff]
  simp only [fraction, exponent, true_and]
  exact_mod_cast Iff.rfl

theorem int64OfText?_eq_none_iff :
    int64OfText? (String.ofList n.chars) = none ↔ ¬n.IsInt64 := by
  unfold int64OfText?
  rw [String.toList_ofList, n.splitSign_chars]
  dsimp only
  by_cases plain : n.fraction = none ∧ n.exponent = none
  · obtain ⟨fraction, exponent⟩ := plain
    have whole : n.unsigned = n.whole.chars := by
      simp [unsigned, fraction, exponent, fractionChars, exponentChars]
    rw [n.isInt64_iff fraction exponent, whole, n.whole.natOfDigits_chars, n.whole.isEmpty_chars,
      n.whole.all_isDigit]
    simp
  · have other : n.unsigned.all Char.isDigit = false := by
      simpa using mt n.all_unsigned.1 plain
    have beyond : ¬n.IsInt64 := fun h => plain ⟨h.1, h.2.1⟩
    simp [other, beyond]

/-- A number cannot be read just when it is no integer of 64 bits and beyond all floats. -/
theorem ofText?_eq_none_iff :
    ofText? (String.ofList n.chars) = none ↔ ¬n.IsInt64 ∧ Binary64.overflow ≤ |n.value| := by
  rw [n.abs_value, n.magnitude_eq, ← Binary64.ofDecimal_eq_none_iff n.negative, ←
    n.binary64OfText?_chars, ← n.int64OfText?_eq_none_iff, ofText?]
  cases int64OfText? (String.ofList n.chars) <;> simp

end NumberLiteral

end PathQuery
