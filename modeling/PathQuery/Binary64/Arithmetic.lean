import PathQuery.Binary64.Rounding

/-!
Arithmetic on binary64 numbers. Each operation rounds the exact result once; `none` stands for a
result beyond the largest number.
-/

namespace PathQuery.Binary64

/-- The number nearest to `n` units. -/
def ofUnits (n : Int) : Option Binary64 :=
  ofRatio (n < 0) n.natAbs 1

def ofInt (n : Int) : Option Binary64 :=
  ofRatio (n < 0) (n.natAbs * unitsPerOne) 1

def add (x y : Binary64) : Option Binary64 :=
  ofUnits (x.units + y.units)

def mul (x y : Binary64) : Option Binary64 :=
  ofRatio (x.negative != y.negative) (x.magnitude * y.magnitude) unitsPerOne

/-- A quotient by zero has no value. -/
def div (x y : Binary64) : Option Binary64 :=
  if y.magnitude = 0 then none
  else ofRatio (x.negative != y.negative) (x.magnitude * unitsPerOne) y.magnitude

/-- Nearest integer, a tie going away from zero. -/
def round (x : Binary64) : Option Binary64 :=
  let n := (2 * x.magnitude + unitsPerOne) / (2 * unitsPerOne)
  ofRatio x.negative (n * unitsPerOne) 1

end PathQuery.Binary64
