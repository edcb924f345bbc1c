/-!
Finite binary64 numbers as exact values. A number is a significand of at most 53 bits times a power
of two, counted in units of `2 ^ -1074`, the smallest positive number of the format. Infinities and
NaN are not values here: an operation that would give one returns `none`.
-/

namespace PathQuery

/-- The magnitude is `significand * 2 ^ scale` units. A scale above zero keeps the leading bit set,
so each value but zero has one form. -/
structure Binary64 where
  negative : Bool
  significand : Nat
  scale : Nat
  significand_lt : significand < 1 <<< 53
  scale_le : scale ≤ 2045
  normal : scale = 0 ∨ 1 <<< 52 ≤ significand
deriving DecidableEq

namespace Binary64

/-- Units in one: the smallest positive number is one part of `unitsPerOne`. -/
def unitsPerOne : Nat := 1 <<< 1074

def magnitude (x : Binary64) : Nat :=
  x.significand <<< x.scale

/-- The value in units. -/
def units (x : Binary64) : Int :=
  if x.negative then -(x.magnitude : Int) else x.magnitude

def zero : Binary64 :=
  ⟨false, 0, 0, by decide, by decide, .inl rfl⟩

def neg (x : Binary64) : Binary64 :=
  { x with negative := !x.negative }

def compare (x y : Binary64) : Ordering :=
  Ord.compare x.units y.units

/-- The integer that the number is, when it is one. -/
def toInt? (x : Binary64) : Option Int :=
  if x.magnitude % unitsPerOne = 0 then
    let n : Int := x.magnitude / unitsPerOne
    some (if x.negative then -n else n)
  else none

end Binary64

end PathQuery
