import PathQuery.Unicode.Alphabetic
import PathQuery.Unicode.Numeric
import PathQuery.Unicode.Space

/-!
The character classes of query texts, by version 17 of the standard. The properties and categories
that regular expressions name are those of version 16.
-/

namespace PathQuery.Unicode

def isAlphabetic (c : Char) : Bool :=
  alphabetic.contains c.toNat

def isAlphanumeric (c : Char) : Bool :=
  isAlphabetic c || numeric.contains c.toNat

end PathQuery.Unicode
