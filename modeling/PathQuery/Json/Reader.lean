import PathQuery.Json.Basic
import PathQuery.Json.Source
import PathQuery.Binary64.Decimal

/-!
The value that a JSON text means. A text of the right grammar still means nothing when it holds half
of a surrogate pair, a number beyond the floats, or more than 127 levels of arrays and objects.
-/

namespace PathQuery.Json

/-- Containers may be nested this deep. -/
def maxDepth : Nat := 127

def isHighSurrogate (n : Nat) : Bool :=
  0xD800 ≤ n && n ≤ 0xDBFF

def isLowSurrogate (n : Nat) : Bool :=
  0xDC00 ≤ n && n ≤ 0xDFFF

/-- The characters of a string; two code units that form a surrogate pair are one character. -/
def charsOfGlyphs? : List Glyph → Option (List Char)
  | [] => some []
  | .plain c :: rest => (charsOfGlyphs? rest).map (c :: ·)
  | .codeUnit high :: .codeUnit low :: rest =>
    if isHighSurrogate high then
      if isLowSurrogate low then
        (charsOfGlyphs? rest).map
          (Char.ofNat (0x10000 + (high - 0xD800) * 0x400 + (low - 0xDC00)) :: ·)
      else none
    else if isLowSurrogate high then none
    else (charsOfGlyphs? (.codeUnit low :: rest)).map (Char.ofNat high :: ·)
  | .codeUnit n :: rest =>
    if isHighSurrogate n || isLowSurrogate n then none
    else (charsOfGlyphs? rest).map (Char.ofNat n :: ·)

def stringOfGlyphs? (gs : List Glyph) : Option String :=
  (charsOfGlyphs? gs).map String.ofList

/-- An integer numeral in the range of 64-bit integers is an integer, except minus zero. Of any other
numeral it is assumed that it is read as the nearest float, correctly rounded, so that a float is
read back from its shortest numeral. -/
def Numeral.toNumber? (n : Numeral) : Option Number :=
  let value : Int := if n.negative then -n.digits else n.digits
  if n.isInteger && !(n.negative && n.digits == 0) && Number.isExact value then
    some (.int value)
  else (Binary64.ofDecimal n.negative ⟨n.digits, n.exponent - n.places⟩).map .float

mutual

/-- The value a text stands for, if it opens at most `depth` levels of containers. -/
def ofSource? (depth : Nat) : Source → Option Json
  | .null => some null
  | .bool b => some (bool b)
  | .number n => n.toNumber?.map number
  | .string text => (stringOfGlyphs? text).map string
  | .array items =>
    if depth = 0 then none else (itemsOfSource? (depth - 1) items).map array
  | .object members =>
    if depth = 0 then none else (membersOfSource? (depth - 1) members).map ofMembers

def itemsOfSource? (depth : Nat) : List Source → Option (List Json)
  | [] => some []
  | item :: rest => do
    let value ← ofSource? depth item
    let values ← itemsOfSource? depth rest
    return value :: values

def membersOfSource? (depth : Nat) : List (List Glyph × Source) → Option (List (String × Json))
  | [] => some []
  | (name, item) :: rest => do
    let name ← stringOfGlyphs? name
    let value ← ofSource? depth item
    let values ← membersOfSource? depth rest
    return (name, value) :: values

end

/-- The value that a text means, if it means one. -/
def read? (text : String) : Option Json := do
  let source ← Source.ofChars? text.toList
  ofSource? maxDepth source

end PathQuery.Json
