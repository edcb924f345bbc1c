import PathQuery.Regex.Flags
import PathQuery.Regex.Property

/-!
What a backslash begins: characters, named sets, and conditions on a place.
-/

namespace PathQuery.Regex

open Unicode (Ranges)

/-- What an escape stands for. A byte is a code below 256 that two hexadecimal digits give. -/
inductive Escape where
  | char (c : Char)
  | byte (c : Char)
  | set (s : Ranges)
  | look (l : Look)

/-- Characters with a meaning of their own when they are not escaped. -/
def isMeta (c : Char) : Bool :=
  "\\.+*?()|[]\x7b\x7d^$#&-~".toList.contains c

/-- Escaped, such a character stands for itself. -/
def standsForItself (c : Char) : Bool :=
  isMeta c || (c.toNat < 128 && !c.isAlphanum && c != '<' && c != '>')

/-! ## Characters by their codes -/

def charOfCode? (n : Nat) : Option Char :=
  if n.isValidChar then some (Char.ofNat n) else none

def hexNumber? (ds : List Char) : Option Nat :=
  if ds.isEmpty then none
  else ds.foldlM (fun n d => (hexValue? d).map (16 * n + ·)) 0

/-- As many hexadecimal digits as `count` says, behind those that gave `n`. -/
def fixedHex? (f : Flags) : (count : Nat) → (n : Nat) → List Char → Option (Nat × List Char)
  | 0, n, cs => some (n, cs)
  | count + 1, n, cs =>
    match f.skip cs with
    | [] => none
    | d :: rest => do fixedHex? f count (16 * n + (← hexValue? d)) rest

/-- A code in braces, or exactly `count` digits. -/
def hexEscape? (f : Flags) (count : Nat) (cs : List Char) : Option (Escape × List Char) :=
  match f.skip cs with
  | '\x7b' :: cs => do
    let (ds, rest) ← f.braced? cs
    return (.char (← charOfCode? (← hexNumber? ds)), rest)
  | cs => do
    let (n, rest) ← fixedHex? f count 0 cs
    let c ← charOfCode? n
    return (if count = 2 then .byte c else .char c, rest)

/-! ## Named sets -/

def digits (f : Flags) : Ranges :=
  if f.unicode then Unicode.Category.decimalNumber else [(0x30, 0x39)]

def spaces (f : Flags) : Ranges :=
  if f.unicode then Unicode.whiteSpace else [(0x09, 0x0D), (0x20, 0x20)]

def namedSet? (f : Flags) (negated : Bool) (s : Ranges) (rest : List Char) :
    Option (Escape × List Char) := do
  return (.set (← f.signed? negated s), rest)

/-- A property by one letter, or by a name in braces. -/
def propertySet? (f : Flags) (cs : List Char) : Option (Ranges × List Char) :=
  match f.skip cs with
  | [] => none
  | '\x7b' :: cs => do
    let (body, rest) ← f.braced? cs
    return (← namedProperty? body, rest)
  | c :: rest => do return (← property? [c], rest)

/-- Properties are for Unicode alone. -/
def propertyEscape? (f : Flags) (negated : Bool) (cs : List Char) :
    Option (Escape × List Char) := do
  if f.unicode then
    let (s, rest) ← propertySet? f cs
    namedSet? f negated (f.fold s) rest
  else none

/-! ## Places -/

/-- The word boundaries that have a name in braces. -/
def namedBoundary? (name : List Char) : Option WordLook :=
  if name = "start".toList then some .start
  else if name = "end".toList then some .finish
  else if name = "start-half".toList then some .notAfter
  else if name = "end-half".toList then some .notBefore
  else none

/-- After `\b`: a brace and a letter or hyphen begin a name, any other brace a repetition. -/
def boundary? (f : Flags) : List Char → Option (WordLook × List Char)
  | '\x7b' :: cs =>
    match f.skip cs with
    | [] => none
    | c :: _ =>
      if c.isAlpha || c = '-' then do
        let (name, rest) ← f.braced? cs
        return (← namedBoundary? name, rest)
      else some (.boundary, '\x7b' :: cs)
  | cs => some (.boundary, cs)

/-- What follows a backslash. -/
def escape? (f : Flags) : List Char → Option (Escape × List Char)
  | [] => none
  | c :: cs =>
    match c with
    | 'd' => namedSet? f false (digits f) cs
    | 'D' => namedSet? f true (digits f) cs
    | 's' => namedSet? f false (spaces f) cs
    | 'S' => namedSet? f true (spaces f) cs
    | 'w' => namedSet? f false (wordCharacters f.unicode) cs
    | 'W' => namedSet? f true (wordCharacters f.unicode) cs
    | 'p' => propertyEscape? f false cs
    | 'P' => propertyEscape? f true cs
    | 'x' => hexEscape? f 2 cs
    | 'u' => hexEscape? f 4 cs
    | 'U' => hexEscape? f 8 cs
    | 'a' => some (.char '\x07', cs)
    | 'f' => some (.char '\x0c', cs)
    | 't' => some (.char '\t', cs)
    | 'n' => some (.char '\n', cs)
    | 'r' => some (.char '\r', cs)
    | 'v' => some (.char '\x0b', cs)
    | 'A' => some (.look .textStart, cs)
    | 'z' => some (.look .textEnd, cs)
    | 'b' => (boundary? f cs).map fun (l, rest) => (.look (.word f.unicode l), rest)
    | 'B' => some (.look (.word f.unicode .inside), cs)
    | '<' => some (.look (.word f.unicode .start), cs)
    | '>' => some (.look (.word f.unicode .finish), cs)
    | c => if standsForItself c then some (.char c, cs) else none

end PathQuery.Regex
