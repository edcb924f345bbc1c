/-!
Sets of characters as ascending lists of closed ranges of code points, and maps on code points as
lists of shifted ranges. The property tables beside this module are of these two forms. The union of
two sets, the complement of a set and what is made from them are sets in the same form.
-/

namespace PathQuery.Unicode

/-- Closed ranges of code points, ascending and apart from each other. -/
abbrev Ranges := List (Nat × Nat)

def ascii : Ranges := [(0x00, 0x7F)]

def everything : Ranges := [(0x00, 0x10FFFF)]

namespace Ranges

/-- Stops at the first range that ends at or after `n`. -/
def contains : Ranges → Nat → Bool
  | [], _ => false
  | (first, last) :: rest, n =>
    if n ≤ last then first ≤ n else contains rest n

/-- The set with the code points of one more range. -/
def insert (r : Nat × Nat) : Ranges → Ranges
  | [] => [r]
  | s :: rest =>
    if r.2 + 1 < s.1 then r :: s :: rest
    else if s.2 + 1 < r.1 then s :: insert r rest
    else insert (min r.1 s.1, max r.2 s.2) rest

def ofPoints (ns : List Nat) : Ranges :=
  ns.foldr (fun n s => insert (n, n) s) []

/-- The ranges of a list and `r`, which `rest` merges with the list behind the place of `r`. -/
def mergeFirst (r : Nat × Nat) (rest : Ranges → Ranges) : Ranges → Ranges
  | [] => r :: rest []
  | s :: ss => if r.1 ≤ s.1 then r :: rest (s :: ss) else s :: mergeFirst r rest ss

/-- The ranges of both lists in ascending order. -/
def merge : Ranges → Ranges → Ranges
  | [] => id
  | r :: rs => mergeFirst r (merge rs)

/-- Joins the ranges from `r` on where they overlap or touch. -/
def joinFrom (r : Nat × Nat) : Ranges → Ranges
  | [] => [r]
  | s :: rest =>
    if s.1 ≤ r.2 + 1 then joinFrom (r.1, max r.2 s.2) rest else r :: joinFrom s rest

def union (a b : Ranges) : Ranges :=
  match merge a b with
  | [] => []
  | r :: rest => joinFrom r rest

def unionAll (sets : List Ranges) : Ranges :=
  sets.foldl union []

/-- The character behind the one of a code point; surrogates are no characters. -/
def after (n : Nat) : Nat :=
  if n = 0xD7FF then 0xE000 else n + 1

def before (n : Nat) : Nat :=
  if n = 0xE000 then 0xD7FF else n - 1

/-- What the ranges leave out from `n` on. -/
def gapsFrom (n : Nat) : Ranges → Ranges
  | [] => if n ≤ 0x10FFFF then [(n, 0x10FFFF)] else []
  | (first, last) :: rest =>
    if n < first then (n, before first) :: gapsFrom (after last) rest
    else gapsFrom (after last) rest

def complement (a : Ranges) : Ranges :=
  gapsFrom 0 a

def inter (a b : Ranges) : Ranges :=
  (a.complement.union b.complement).complement

def difference (a b : Ranges) : Ranges :=
  (a.complement.union b).complement

end Ranges

/-- A move by `distance` of the code points from `first` to `last`, taken `every` apart. -/
structure Shift where
  first : Nat
  last : Nat
  every : Nat
  distance : Int

namespace Shift

def covers (s : Shift) (n : Nat) : Bool :=
  s.first ≤ n && n ≤ s.last && (n - s.first) % s.every == 0

def image (s : Shift) (n : Nat) : Nat :=
  ((n : Int) + s.distance).toNat

/-- Each code point that the row moves, with its image. -/
def pairs (s : Shift) : List (Nat × Nat) :=
  (List.range ((s.last - s.first) / s.every + 1)).map fun k =>
    (s.first + k * s.every, s.image (s.first + k * s.every))

end Shift

/-- The image of `n` under the first row that covers it, `n` itself when none does. -/
def shiftBy : List Shift → Nat → Nat
  | [], n => n
  | s :: rest, n =>
    if s.covers n then s.image n
    else if n < s.first then n
    else shiftBy rest n

/-- The code points other than `n` that the rows send to `n`. -/
def shiftedTo (rows : List Shift) (n : Nat) : List Nat :=
  rows.filterMap fun s =>
    let source := ((n : Int) - s.distance).toNat
    if s.covers source then some source else none

end PathQuery.Unicode
