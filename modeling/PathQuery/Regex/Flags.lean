import PathQuery.Regex.Normal
import PathQuery.Text
import PathQuery.Unicode.Folding
import PathQuery.Unicode.Space

/-!
The flags that change how a regular expression is read. In the spaced style white space counts for
nothing, and neither does a comment, which goes from a number sign to the end of its line.
-/

namespace PathQuery.Regex

open Unicode (Ranges)

structure Flags where
  ignoreCase : Bool
  multiLine : Bool
  dotAll : Bool
  carriageReturns : Bool
  unicode : Bool
  spaced : Bool
  swapGreed : Bool

namespace Flags

def standard : Flags :=
  ⟨false, false, false, false, true, false, false⟩

/-- The flags with the one that the letter names set to a value. -/
def set? (value : Bool) (f : Flags) : Char → Option Flags
  | 'i' => some { f with ignoreCase := value }
  | 'm' => some { f with multiLine := value }
  | 's' => some { f with dotAll := value }
  | 'R' => some { f with carriageReturns := value }
  | 'u' => some { f with unicode := value }
  | 'x' => some { f with spaced := value }
  | 'U' => some { f with swapGreed := value }
  | _ => none

/-! ## Text that counts -/

def skipFrom (inComment : Bool) : List Char → List Char
  | [] => []
  | c :: cs =>
    if inComment then skipFrom (c != '\n') cs
    else if c = '#' then skipFrom true cs
    else if Unicode.isWhiteSpace c then skipFrom false cs
    else c :: cs

/-- The text from the next character that counts. -/
def skip (f : Flags) (cs : List Char) : List Char :=
  if f.spaced then skipFrom false cs else cs

/-- The characters that count as long as they satisfy `p`, and the text from the next that does
not. -/
def spanFrom (f : Flags) (p : Char → Bool) (inComment : Bool) :
    List Char → List Char × List Char
  | [] => ([], [])
  | c :: cs =>
    if inComment then spanFrom f p (c != '\n') cs
    else if f.spaced && c = '#' then spanFrom f p true cs
    else if f.spaced && Unicode.isWhiteSpace c then spanFrom f p false cs
    else if p c then
      let (taken, rest) := spanFrom f p false cs
      (c :: taken, rest)
    else ([], c :: cs)

def span (f : Flags) (p : Char → Bool) (cs : List Char) : List Char × List Char :=
  spanFrom f p false cs

/-- The characters up to a closing brace, and the text behind it. -/
def braced? (f : Flags) (cs : List Char) : Option (List Char × List Char) :=
  match f.span (· != '\x7d') cs with
  | (body, _ :: rest) => some (body, rest)
  | (_, []) => none

/-! ## Sets -/

/-- The set with the variants in case of its members, if case makes no difference. Without Unicode
there are none but ASCII letters. -/
def fold (f : Flags) (s : Ranges) : Ranges :=
  if !f.ignoreCase then s
  else if f.unicode then Unicode.closeUnderFolding s
  else (Unicode.closeUnderFolding s).inter Unicode.ascii

/-- The set or, if it is negated, its complement. Without Unicode a complement is refused, because
it has bytes in it that are no characters. -/
def signed? (f : Flags) (negated : Bool) (s : Ranges) : Option Ranges :=
  if !negated then some s
  else if f.unicode then some s.complement
  else none

/-- One character. Without Unicode only ASCII letters have variants in case. -/
def char (f : Flags) (c : Char) : Regex :=
  if f.ignoreCase && (f.unicode || c.toNat < 0x80) then
    let variants := Ranges.ofPoints (Unicode.caseVariants c.toNat)
    ofRanges (if f.unicode then variants else variants.inter Unicode.ascii)
  else literal [c]

end Flags

end PathQuery.Regex
