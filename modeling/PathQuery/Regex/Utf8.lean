/-!
Characters as bytes. In UTF-8 the code points of a range are written by a few sequences of byte
ranges, each of which gives the bytes for one place. A code point is taken as its digits to the base
64: the last ones go into bytes from 0x80 on, and the first goes, with the length of the sequence,
into the leading byte.
-/

namespace PathQuery.Utf8

structure ByteRange where
  first : Nat
  last : Nat
deriving DecidableEq

/-- What is added to the leading digit before `tail` further bytes. -/
def leadingOffset : (tail : Nat) → Nat
  | 0 => 0x00
  | 1 => 0xC0
  | 2 => 0xE0
  | _ => 0xF0

/-- Any bytes behind a leading one. -/
def anyTail (tail : Nat) : List ByteRange :=
  List.replicate tail ⟨0x80, 0xBF⟩

/-- The numbers from `first` to `last` in `tail + 1` digits, where `offset` is added to the first
digit and 0x80 to the others. Only the first and the last value of the first digit can have digits
left out behind them. -/
def digitSequences (offset : Nat) : (tail : Nat) → (first last : Nat) → List (List ByteRange)
  | 0, first, last => [[⟨offset + first, offset + last⟩]]
  | tail + 1, first, last =>
    let unit := Nat.pow 64 (tail + 1)
    let low := first / unit
    let high := last / unit
    let behind (digit first last : Nat) : List (List ByteRange) :=
      (digitSequences 0x80 tail first last).map (⟨offset + digit, offset + digit⟩ :: ·)
    if low = high then behind low (first % unit) (last % unit)
    else
      let cutLow := first % unit != 0
      let cutHigh := last % unit != unit - 1
      let inner := if cutLow then low + 1 else low
      let outer := if cutHigh then high else high + 1
      (if cutLow then behind low (first % unit) (unit - 1) else []) ++
        (if inner < outer then
          [⟨offset + inner, offset + (outer - 1)⟩ :: anyTail (tail + 1)] else []) ++
        (if cutHigh then behind high 0 (last % unit) else [])

/-- The code points that take `tail` bytes behind the leading one. Surrogates are no characters. -/
def blocks : List (Nat × Nat × Nat) :=
  [(0, 0x00, 0x7F), (1, 0x80, 0x7FF), (2, 0x800, 0xD7FF), (2, 0xE000, 0xFFFF),
   (3, 0x10000, 0x10FFFF)]

/-- The sequences for a range of code points, in ascending order. -/
def sequences (first last : Nat) : List (List ByteRange) :=
  blocks.flatMap fun (tail, low, high) =>
    let low := max first low
    let high := min last high
    if low ≤ high then digitSequences (leadingOffset tail) tail low high else []

end PathQuery.Utf8
