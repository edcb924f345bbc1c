import PathQuery.Binary64.Rounding

/-!
Decimal numerals: the binary64 number nearest to one, and the shortest one that reads back.

`shortest` looks for the coarsest decimal grid with a point in the interval of reals that round to
the number, and takes the point of it that lies nearest.
-/

namespace PathQuery.Binary64

/-- The value `digits * 10 ^ exponent`. -/
structure Decimal where
  digits : Nat
  exponent : Int
deriving DecidableEq, Repr

/-- Decimal digits of `n`, the most significant first; none for zero. -/
def digitsOf (n : Nat) : List Char :=
  if n = 0 then [] else Nat.toDigits 10 n

/-- Beyond these bounds on the place of the leading digit all numerals overflow or vanish. -/
def ofDecimal (negative : Bool) (d : Decimal) : Option Binary64 :=
  let place := (digitsOf d.digits).length + d.exponent
  if d.digits = 0 ∨ place < -330 then some { zero with negative }
  else if 330 < place then none
  else if 0 ≤ d.exponent then
    ofRatio negative (d.digits * Nat.pow 10 d.exponent.toNat * unitsPerOne) 1
  else ofRatio negative (d.digits * unitsPerOne) (Nat.pow 10 (-d.exponent).toNat)

/-- Twice the distance from the number down to the least real that still rounds to it, in quarters
of a unit, and the same upwards. A number at the start of a binade has a closer lower neighbour. -/
def halfGaps (x : Binary64) : Nat × Nat :=
  let up := 2 <<< x.scale
  (if x.significand = 1 <<< 52 ∧ x.scale ≠ 0 then up / 2 else up, up)

/-- Whether a real, given in quarters of a unit as `num / den`, rounds to the magnitude of `x`. -/
def roundsTo (x : Binary64) (num den : Nat) : Bool :=
  let (down, up) := halfGaps x
  let low := (4 * x.magnitude - down) * den
  let high := (4 * x.magnitude + up) * den
  if x.significand % 2 = 0 then low ≤ num && num ≤ high else low < num && num < high

/-- The power `10 ^ e` as a quotient. -/
def powTen (e : Int) : Nat × Nat :=
  if 0 ≤ e then (Nat.pow 10 e.toNat, 1) else (1, Nat.pow 10 (-e).toNat)

/-- The decimal exponent of the leading digit, found downwards from `e`. -/
def leadingExponent (x : Binary64) : Nat → Int → Int
  | 0, e => e
  | fuel + 1, e =>
    let (num, den) := powTen e
    if num * unitsPerOne ≤ x.magnitude * den then e else leadingExponent x fuel (e - 1)

/-- The nearest point to `x` among those of the grid `10 ^ e` that round to `x`. -/
def onGrid? (x : Binary64) (e : Int) : Option Nat :=
  let (num, den) := powTen e
  let step := num * unitsPerOne
  let value := x.magnitude * den
  let below := value / step
  let above := below + 1
  let fits (d : Nat) : Bool := roundsTo x (4 * d * step) den
  let toBelow := value - below * step
  let toAbove := above * step - value
  let belowFirst := toBelow < toAbove || (toBelow == toAbove && below % 2 == 0)
  match fits below && below != 0, fits above with
  | true, true => some (if belowFirst then below else above)
  | true, false => some below
  | false, true => some above
  | false, false => none

/-- Divides by ten while the last digit is zero. -/
def stripZeros : Nat → Nat → Int → Decimal
  | 0, n, e => ⟨n, e⟩
  | fuel + 1, n, e => if n % 10 = 0 then stripZeros fuel (n / 10) (e + 1) else ⟨n, e⟩

/-- Tries grids of one, two, … digits. Seventeen digits always suffice. -/
def shortestFrom (x : Binary64) (lead : Int) : Nat → Nat → Decimal
  | 0, _ => ⟨0, 0⟩
  | fuel + 1, places =>
    let e := lead - places
    match onGrid? x e with
    | some d => stripZeros 20 d e
    | none => shortestFrom x lead fuel (places + 1)

/-- The shortest decimal numeral that reads back as the magnitude of `x`, and of those the
nearest. -/
def shortest (x : Binary64) : Decimal :=
  if x.magnitude = 0 then ⟨0, 0⟩
  else
    let guess : Int := ((x.magnitude.log2 : Int) - 1074) * 30103 / 100000 + 1
    shortestFrom x (leadingExponent x 5 guess) 20 0

end PathQuery.Binary64
