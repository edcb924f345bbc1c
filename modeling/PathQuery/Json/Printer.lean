import PathQuery.Binary64.Decimal
import PathQuery.Json.Basic

/-!
JSON text of a value: compact on one line, or indented by two blanks a level.
-/

namespace PathQuery

/-- How a decimal numeral is laid out: positional while the exponent of the leading digit lies
between `least` and `greatest`, with an exponent otherwise. -/
structure Number.Layout where
  least : Int
  greatest : Int

namespace Number

/-- Floats are positional from `1e-5` up to, and without, `1e16`. -/
def layout : Layout := ⟨-5, 15⟩

def intChars (n : Int) : List Char :=
  if n < 0 then '-' :: Nat.toDigits 10 n.natAbs else Nat.toDigits 10 n.natAbs

/-- Positional form of `digits * 10 ^ exponent`, always with a fraction. -/
def positional (digits : List Char) (exponent : Int) : List Char :=
  if 0 ≤ exponent then digits ++ List.replicate exponent.toNat '0' ++ ['.', '0']
  else
    let places := (-exponent).toNat
    if places < digits.length then
      digits.take (digits.length - places) ++ '.' :: digits.drop (digits.length - places)
    else '0' :: '.' :: (List.replicate (places - digits.length) '0' ++ digits)

/-- One digit before the point, and an exponent that always shows its sign. -/
def scientific (digits : List Char) (lead : Int) : List Char :=
  let fraction := if digits.tail.isEmpty then [] else '.' :: digits.tail
  let sign := if lead < 0 then '-' else '+'
  digits.take 1 ++ fraction ++ 'e' :: sign :: Nat.toDigits 10 lead.natAbs

def floatChars (x : Binary64) : List Char :=
  let d := x.shortest
  let digits := Nat.toDigits 10 d.digits
  let lead : Int := d.exponent + digits.length - 1
  let unsigned :=
    if layout.least ≤ lead ∧ lead ≤ layout.greatest then positional digits d.exponent
    else scientific digits lead
  if x.negative then '-' :: unsigned else unsigned

def chars : Number → List Char
  | int n => intChars n
  | float x => floatChars x

end Number

namespace Json

def hexDigit (n : Nat) : Char :=
  if n < 10 then Char.ofNat (48 + n) else Char.ofNat (87 + n)

/-- Only the quote, the backslash and control characters are escaped. -/
def escapeChar (c : Char) : List Char :=
  if c = '"' then ['\\', '"']
  else if c = '\\' then ['\\', '\\']
  else if c = '\n' then ['\\', 'n']
  else if c = '\r' then ['\\', 'r']
  else if c = '\t' then ['\\', 't']
  else if c = '\x08' then ['\\', 'b']
  else if c = '\x0c' then ['\\', 'f']
  else if c.toNat < 0x20 then
    ['\\', 'u', '0', '0', hexDigit (c.toNat / 16), hexDigit (c.toNat % 16)]
  else [c]

def quote (s : List Char) : List Char :=
  '"' :: (s.flatMap escapeChar ++ ['"'])

mutual

def chars : Json → List Char
  | null => "null".toList
  | bool true => "true".toList
  | bool false => "false".toList
  | number n => n.chars
  | string s => quote s.toList
  | array [] => ['[', ']']
  | array (x :: xs) => '[' :: (chars x ++ itemsTail xs ++ [']'])
  | object [] => ['\x7b', '\x7d']
  | object ((name, x) :: rest) =>
    '\x7b' :: (quote name.toList ++ ':' :: chars x ++ membersTail rest ++ ['\x7d'])

def itemsTail : List Json → List Char
  | [] => []
  | x :: xs => ',' :: (chars x ++ itemsTail xs)

def membersTail : List (String × Json) → List Char
  | [] => []
  | (name, x) :: rest => ',' :: (quote name.toList ++ ':' :: chars x ++ membersTail rest)

end

/-- Compact text. -/
def compact (j : Json) : String :=
  String.ofList j.chars

/-- A line break and the indentation of the given level. -/
def newLine (level : Nat) : List Char :=
  '\n' :: List.replicate (2 * level) ' '

mutual

def prettyChars (level : Nat) : Json → List Char
  | array (x :: xs) =>
    '[' :: (newLine (level + 1) ++ prettyChars (level + 1) x ++ prettyItems (level + 1) xs ++
      newLine level ++ [']'])
  | object ((name, x) :: rest) =>
    '\x7b' :: (newLine (level + 1) ++ quote name.toList ++ [':', ' '] ++
      prettyChars (level + 1) x ++ prettyMembers (level + 1) rest ++ newLine level ++ ['\x7d'])
  | array [] => chars (array [])
  | object [] => chars (object [])
  | null => chars null
  | bool b => chars (bool b)
  | number n => chars (number n)
  | string s => chars (string s)

def prettyItems (level : Nat) : List Json → List Char
  | [] => []
  | x :: xs => ',' :: (newLine level ++ prettyChars level x ++ prettyItems level xs)

def prettyMembers (level : Nat) : List (String × Json) → List Char
  | [] => []
  | (name, x) :: rest =>
    ',' :: (newLine level ++ quote name.toList ++ [':', ' '] ++ prettyChars level x ++
      prettyMembers level rest)

end

/-- Text with one member or element a line. -/
def pretty (j : Json) : String :=
  String.ofList (prettyChars 0 j)

end Json

end PathQuery
