import PathQuery.Binary64.Decimal
import PathQuery.Json.Basic

/-!
Numbers written in a query. They are read more freely than in JSON: a plus sign, leading zeros, and
a point with digits on one side only are all admitted.
-/

namespace PathQuery.Number

def natOfDigits (ds : List Char) : Nat :=
  ds.foldl (fun n d => 10 * n + (d.toNat - 48)) 0

/-- A sign, if there is one, and the text behind it. -/
def splitSign : List Char → Bool × List Char
  | '-' :: cs => (true, cs)
  | '+' :: cs => (false, cs)
  | cs => (false, cs)

/-- A decimal integer in the range of 64-bit signed integers. -/
def int64OfText? (text : String) : Option Int :=
  let (negative, ds) := splitSign text.toList
  let n : Int := natOfDigits ds
  let value := if negative then -n else n
  if !ds.isEmpty && ds.all Char.isDigit && fitsInt64 value then some value else none

/-- The exponent that ends a numeral; an empty text is the exponent zero. -/
def exponentOfText? : List Char → Option Int
  | [] => some 0
  | c :: cs =>
    let (negative, ds) := splitSign cs
    let n : Int := natOfDigits ds
    if (c = 'e' || c = 'E') && !ds.isEmpty && ds.all Char.isDigit then
      some (if negative then -n else n)
    else none

/-- Digits after the point, and the text behind them. -/
def splitFraction : List Char → List Char × List Char
  | '.' :: cs => (cs.takeWhile Char.isDigit, cs.dropWhile Char.isDigit)
  | cs => ([], cs)

/-- The float nearest to a decimal numeral, if there is one. -/
def binary64OfText? (text : String) : Option Binary64 := do
  let (negative, cs) := splitSign text.toList
  let whole := cs.takeWhile Char.isDigit
  let (fraction, cs) := splitFraction (cs.dropWhile Char.isDigit)
  let exponent ← exponentOfText? cs
  if whole.isEmpty && fraction.isEmpty then none
  else
    Binary64.ofDecimal negative
      ⟨natOfDigits (whole ++ fraction), exponent - fraction.length⟩

/-- An integer where the text is one, a float otherwise. -/
def ofText? (text : String) : Option Number :=
  match int64OfText? text with
  | some n => some (int n)
  | none => (binary64OfText? text).map float

end PathQuery.Number
