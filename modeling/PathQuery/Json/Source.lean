import PathQuery.Text

/-!
JSON text as it is written: numerals by their digits, strings by their characters and escapes,
objects with every member, also the repeated ones. Reading decides the grammar alone; what the text
means, and whether it means anything, is decided from this form.
-/

namespace PathQuery.Json

/-- A numeral: `digits` joins the digits before and after the point, the last `places` of them
standing after it. -/
structure Numeral where
  negative : Bool
  digits : Nat
  places : Nat
  exponent : Int
  isInteger : Bool
deriving DecidableEq

/-- A character of a string, or a code unit given by its four hexadecimal digits. -/
inductive Glyph where
  | plain (c : Char)
  | codeUnit (n : Nat)
deriving DecidableEq

inductive Source where
  | null
  | bool (b : Bool)
  | number (n : Numeral)
  | string (text : List Glyph)
  | array (items : List Source)
  | object (members : List (List Glyph × Source))

namespace Source

def isBlank (c : Char) : Bool :=
  c = ' ' || c = '\t' || c = '\n' || c = '\r'

def skipBlanks (cs : List Char) : List Char :=
  cs.dropWhile isBlank

def digitValue (c : Char) : Nat :=
  c.toNat - 48

/-- The number that digits write, after those of `n`. -/
def natOfDigits (n : Nat) (ds : List Char) : Nat :=
  ds.foldl (fun n d => 10 * n + digitValue d) n

/-- A leading zero stands alone. -/
def wholePart? : List Char → Option (List Char × List Char)
  | '0' :: rest => some (['0'], rest)
  | cs =>
    let ds := cs.takeWhile Char.isDigit
    if ds.isEmpty then none else some (ds, cs.dropWhile Char.isDigit)

/-- A point has at least one digit after it. -/
def fraction? : List Char → Option (List Char × List Char)
  | '.' :: cs =>
    let ds := cs.takeWhile Char.isDigit
    if ds.isEmpty then none else some (ds, cs.dropWhile Char.isDigit)
  | cs => some ([], cs)

/-- The exponent after its mark. -/
def exponentDigits? (negative : Bool) (cs : List Char) : Option (Int × List Char) :=
  let ds := cs.takeWhile Char.isDigit
  let n : Int := natOfDigits 0 ds
  if ds.isEmpty then none else some (if negative then -n else n, cs.dropWhile Char.isDigit)

def exponentSigned? : List Char → Option (Int × List Char)
  | '+' :: cs => exponentDigits? false cs
  | '-' :: cs => exponentDigits? true cs
  | cs => exponentDigits? false cs

/-- The exponent, if a mark announces one. -/
def exponent? : List Char → Option (Option Int × List Char)
  | c :: cs =>
    if c = 'e' || c = 'E' then (exponentSigned? cs).map fun (e, rest) => (some e, rest)
    else some (none, c :: cs)
  | [] => some (none, [])

/-- A numeral without its sign. -/
def magnitude? (negative : Bool) (cs : List Char) : Option (Numeral × List Char) := do
  let (whole, cs) ← wholePart? cs
  let (fraction, cs) ← fraction? cs
  let (exponent, cs) ← exponent? cs
  return (⟨negative, natOfDigits (natOfDigits 0 whole) fraction, fraction.length,
    exponent.getD 0, fraction.isEmpty && exponent.isNone⟩, cs)

def numeral? : List Char → Option (Numeral × List Char)
  | '-' :: cs => magnitude? true cs
  | cs => magnitude? false cs

/-- The character that a one-letter escape stands for. -/
def escaped? (c : Char) : Option Char :=
  match c with
  | '"' => some '"'
  | '\\' => some '\\'
  | '/' => some '/'
  | 'b' => some '\x08'
  | 'f' => some '\x0c'
  | 'n' => some '\n'
  | 'r' => some '\r'
  | 't' => some '\t'
  | _ => none

/-- The rest of a string after its opening quote, up to and without the closing one. Control
characters have to be escaped. -/
def glyphs? : List Char → Option (List Glyph × List Char)
  | [] => none
  | '"' :: cs => some ([], cs)
  | '\\' :: 'u' :: a :: b :: c :: d :: cs => do
    let n ← codeUnit? a b c d
    let (gs, rest) ← glyphs? cs
    return (.codeUnit n :: gs, rest)
  | '\\' :: c :: cs => do
    let e ← escaped? c
    let (gs, rest) ← glyphs? cs
    return (.plain e :: gs, rest)
  | c :: cs =>
    if c = '\\' || c.toNat < 0x20 then none
    else do
      let (gs, rest) ← glyphs? cs
      return (.plain c :: gs, rest)

def keyword? : List Char → Option (Source × List Char)
  | 'n' :: 'u' :: 'l' :: 'l' :: rest => some (null, rest)
  | 't' :: 'r' :: 'u' :: 'e' :: rest => some (bool true, rest)
  | 'f' :: 'a' :: 'l' :: 's' :: 'e' :: rest => some (bool false, rest)
  | _ => none

/-- A member name with its colon, the blanks before the name being skipped. -/
def name? (cs : List Char) : Option (List Glyph × List Char) := do
  match skipBlanks cs with
  | '"' :: cs =>
    let (name, cs) ← glyphs? cs
    match skipBlanks cs with
    | ':' :: cs => return (name, cs)
    | _ => none
  | _ => none

mutual

/-- A value and the text after it. Each value, element and member takes at least one character, so
the length of the text is enough fuel. -/
def value? : Nat → List Char → Option (Source × List Char)
  | 0, _ => none
  | fuel + 1, cs =>
    match skipBlanks cs with
    | '"' :: rest => (glyphs? rest).map fun (text, rest) => (string text, rest)
    | '[' :: rest =>
      match skipBlanks rest with
      | ']' :: rest => some (array [], rest)
      | _ => (items? fuel rest).map fun (items, rest) => (array items, rest)
    | '\x7b' :: rest =>
      match skipBlanks rest with
      | '\x7d' :: rest => some (object [], rest)
      | _ => (members? fuel rest).map fun (members, rest) => (object members, rest)
    | cs =>
      match keyword? cs with
      | some found => some found
      | none => (numeral? cs).map fun (n, rest) => (number n, rest)

/-- One or more elements and the closing bracket. -/
def items? : Nat → List Char → Option (List Source × List Char)
  | 0, _ => none
  | fuel + 1, cs => do
    let (item, cs) ← value? fuel cs
    match skipBlanks cs with
    | ']' :: rest => return ([item], rest)
    | ',' :: rest =>
      let (items, rest) ← items? fuel rest
      return (item :: items, rest)
    | _ => none

/-- One or more members and the closing brace. -/
def members? : Nat → List Char → Option (List (List Glyph × Source) × List Char)
  | 0, _ => none
  | fuel + 1, cs => do
    let (name, cs) ← name? cs
    let (value, cs) ← value? fuel cs
    match skipBlanks cs with
    | '\x7d' :: rest => return ([(name, value)], rest)
    | ',' :: rest =>
      let (members, rest) ← members? fuel rest
      return ((name, value) :: members, rest)
    | _ => none

end

/-- A whole text: one value with blanks around it. -/
def ofChars? (cs : List Char) : Option Source := do
  let (value, rest) ← value? (cs.length + 1) cs
  if (skipBlanks rest).isEmpty then return value else none

end Source

end PathQuery.Json
