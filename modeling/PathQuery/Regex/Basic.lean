import PathQuery.Unicode.Property.Letter

/-!
Regular expressions as trees, and what can be said of their matches before any text is seen. Only
whether a text is matched somewhere counts, so that numbered groups and greed matter for nothing but
the room that an expression takes.
-/

namespace PathQuery

/-- A set of characters. -/
structure CharClass where
  ranges : Unicode.Ranges

/-- Most sets that are compared are one object, which is equal to itself at first sight. -/
instance : DecidableEq CharClass := fun a b =>
  withPtrEqDecEq a b fun _ =>
    decidable_of_decidable_of_iff (p := a.ranges = b.ranges)
      ⟨fun h => congrArg CharClass.mk h, fun h => congrArg CharClass.ranges h⟩

def CharClass.contains (c : CharClass) (x : Char) : Bool :=
  c.ranges.contains x.toNat

/-- The characters of words: those of the standard, or of ASCII alone. -/
def wordCharacters (unicode : Bool) : Unicode.Ranges :=
  if unicode then Unicode.Property.word
  else [(0x30, 0x39), (0x41, 0x5A), (0x5F, 0x5F), (0x61, 0x7A)]

/-- Conditions on whether the characters around a place belong to a word. -/
inductive WordLook where
  | boundary
  | inside
  | start
  | finish
  | notAfter
  | notBefore
deriving DecidableEq

/-- Conditions on the place between two characters. Lines end at a line feed, or else also at a
carriage return, which is one end together with a line feed behind it. -/
inductive Look where
  | textStart
  | textEnd
  | lineStart (carriageReturns : Bool)
  | lineEnd (carriageReturns : Bool)
  | word (unicode : Bool) (l : WordLook)
deriving DecidableEq

/-- Expressions, of which `iterate r least most greedy` is `r` repeated at least `least` times, and
at most `most` times if that is given. -/
inductive Regex where
  | empty
  | literal (text : List Char)
  | look (l : Look)
  | chars (c : CharClass)
  | group (number : Nat) (r : Regex)
  | seq (a b : Regex)
  | alt (a b : Regex)
  | iterate (r : Regex) (least : Nat) (most : Option Nat) (greedy : Bool)
deriving DecidableEq

def utf8Length (text : List Char) : Nat :=
  (String.ofList text).utf8ByteSize

namespace Regex

/-- The number of bytes that a match takes at least, if there is any match. -/
def leastBytes : Regex → Option Nat
  | empty => some 0
  | literal text => some (utf8Length text)
  | look _ => some 0
  | chars c => c.ranges.head?.map fun r => (Char.ofNat r.1).utf8Size
  | group _ r => r.leastBytes
  | seq a b => return (← a.leastBytes) + (← b.leastBytes)
  | alt a b => return min (← a.leastBytes) (← b.leastBytes)
  | iterate r least _ _ => return least * (← r.leastBytes)

/-- The number of bytes that a match takes at most, if there is a bound. -/
def mostBytes : Regex → Option Nat
  | empty => some 0
  | literal text => some (utf8Length text)
  | look _ => some 0
  | chars c => c.ranges.getLast?.map fun r => (Char.ofNat r.2).utf8Size
  | group _ r => r.mostBytes
  | seq a b => return (← a.mostBytes) + (← b.mostBytes)
  | alt a b => return max (← a.mostBytes) (← b.mostBytes)
  | iterate r _ most _ => return (← most) * (← r.mostBytes)

/-- Whether a match takes a place only, and no characters. -/
def isPlace (r : Regex) : Bool :=
  r.mostBytes == some 0

/-- Whether every match begins where `l` holds, as far as the expression shows it. -/
def beginsWith (l : Look) : Regex → Bool
  | look k => k == l
  | group _ r => r.beginsWith l
  | seq a b => a.beginsWith l || (a.isPlace && b.beginsWith l)
  | alt a b => a.beginsWith l && b.beginsWith l
  | iterate r least _ _ => least != 0 && r.beginsWith l
  | _ => false

/-- Whether every match ends where `l` holds, as far as the expression shows it. -/
def endsWith (l : Look) : Regex → Bool
  | look k => k == l
  | group _ r => r.endsWith l
  | seq a b => b.endsWith l || (b.isPlace && a.endsWith l)
  | alt a b => a.endsWith l && b.endsWith l
  | iterate r least _ _ => least != 0 && r.endsWith l
  | _ => false

/-- The parts of a sequence. -/
def parts : Regex → List Regex
  | empty => []
  | seq a b => a :: b.parts
  | r => [r]

/-- The branches of a choice. -/
def branches : Regex → List Regex
  | alt a b => a :: b.branches
  | r => [r]

end Regex

end PathQuery
