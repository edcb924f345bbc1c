import PathQuery.Binary64.Arithmetic
import PathQuery.Binary64.Decimal
import PathQuery.Json.Printer

/-!
Decimal fractions. Sums are exact as long as their mantissa fits; a sum whose mantissa does not fit
gives up places, rounding half to even, and has no value when it has none to give up.
-/

namespace PathQuery

/-- The value `mantissa / 10 ^ places`. -/
structure Decimal96 where
  mantissa : Int
  places : Nat
deriving DecidableEq

namespace Decimal96

/-- A numeral that needs more places than these is rounded to them. -/
def maxPlaces : Nat := 28

/-- A mantissa fits below this bound. -/
def mantissaBound : Nat := 1 <<< 96

def zero : Decimal96 := ⟨0, 0⟩

/-- The value with the least number of places given up, at least `dropped`, that fits. -/
def fitDropping (mantissa : Int) (places : Nat) (dropped : Nat) : Nat → Option Decimal96
  | 0 => none
  | fuel + 1 =>
    if places < dropped then none
    else
      let m := Binary64.divHalfEven mantissa.natAbs (Nat.pow 10 dropped)
      if m < mantissaBound then some ⟨if mantissa < 0 then -m else m, places - dropped⟩
      else fitDropping mantissa places (dropped + 1) fuel

def fit (mantissa : Int) (places : Nat) : Option Decimal96 :=
  fitDropping mantissa places 0 (places + 1)

/-- Both summands are brought to the larger number of places. A zero leaves the other as it is. -/
def add (x y : Decimal96) : Option Decimal96 :=
  if x.mantissa = 0 then some y
  else if y.mantissa = 0 then some x
  else
    let places := max x.places y.places
    fit (x.mantissa * Nat.pow 10 (places - x.places) + y.mantissa * Nat.pow 10 (places - y.places))
      places

/-- The quotient to the nearest whole, a half to the larger. -/
def divHalfUp (m n : Nat) : Nat :=
  (2 * m + n) / (2 * n)

/-- A numeral in positional form has as many places as digits behind its point, and one at least. A
numeral with an exponent has none unless it needs them; one that needs too many gives up the last of
its digits, but its first digit has to have a place. -/
def ofShortest (d : Binary64.Decimal) : Option (Nat × Nat) :=
  let count := (Nat.toDigits 10 d.digits).length
  let lead : Int := d.exponent + count - 1
  let places := (-d.exponent).toNat
  if Number.layout.least ≤ lead ∧ lead ≤ Number.layout.greatest then
    if 0 ≤ d.exponent then some (d.digits * Nat.pow 10 (d.exponent.toNat + 1), 1)
    else some (d.digits, places)
  else if 0 ≤ d.exponent then
    let mantissa := d.digits * Nat.pow 10 d.exponent.toNat
    if mantissa < mantissaBound then some (mantissa, 0) else none
  else if maxPlaces < (-lead).toNat then none
  else if places ≤ maxPlaces then some (d.digits, places)
  else some (divHalfUp d.digits (Nat.pow 10 (places - maxPlaces)), maxPlaces)

/-- Integers are taken exactly, floats as their shortest numeral. -/
def ofNumber : Number → Option Decimal96
  | .int n => if n.natAbs < mantissaBound then some ⟨n, 0⟩ else none
  | .float x =>
    (ofShortest x.shortest).map fun (m, places) =>
      ⟨if x.negative then -(m : Int) else m, places⟩

/-- The integer that the fraction is, when it is one. -/
def toInt? (d : Decimal96) : Option Int :=
  let scale : Int := Nat.pow 10 d.places
  if d.mantissa % scale = 0 then some (d.mantissa / scale) else none

/-- The float of a fraction: the integral part and the rest are converted on their own, added, and
the sum is rounded to the places of the fraction. -/
def magnitudeToBinary64 (mantissa places : Nat) : Option Binary64 := do
  let scale := Nat.pow 10 places
  let whole ← Binary64.ofInt (mantissa / scale : Nat)
  let part ← (← Binary64.ofInt (mantissa % scale : Nat)).div (← Binary64.ofInt scale)
  if part.magnitude = 0 then return whole
  else
    let value ← whole.add part
    let unit ← Binary64.ofInt scale
    (← (← value.mul unit).round).div unit

def toBinary64 (d : Decimal96) : Option Binary64 :=
  (magnitudeToBinary64 d.mantissa.natAbs d.places).map fun x =>
    if d.mantissa < 0 then x.neg else x

end Decimal96

/-- A whole sum in the range of 64-bit integers is an integer, any other sum a float. -/
def Decimal96.toJson? (d : Decimal96) : Option Json :=
  match d.toInt? with
  | some n =>
    if Number.fitsInt64 n then some (.number (.int n))
    else d.toBinary64.map fun x => Json.ofBinary64 (some x)
  | none => d.toBinary64.map fun x => Json.ofBinary64 (some x)

namespace Number

/-- Sum as floats, from left to right. -/
def floatSum (ns : List Number) : Option Binary64 :=
  ns.foldlM (fun acc n => acc.add n.toBinary64) Binary64.zero

def decimalSum (ns : List Number) : Option Decimal96 :=
  ns.foldlM (fun acc n => do acc.add (← Decimal96.ofNumber n)) Decimal96.zero

/-- The decimal sum where all summands and partial sums fit, the sum of floats elsewhere. -/
def sum (ns : List Number) : Json :=
  match (decimalSum ns).bind Decimal96.toJson? with
  | some total => total
  | none => Json.ofBinary64 (floatSum ns)

/-- The sum of floats divided by their number; null for no numbers. -/
def average (ns : List Number) : Json :=
  if ns.isEmpty then .null
  else
    Json.ofBinary64 do
      (← floatSum ns).div (← Binary64.ofInt ns.length)

end Number

end PathQuery
