import PathQuery.Unicode.Casing

/-!
Lower case of a whole text. It differs from the lower case of its characters in two places: a dotted
capital I becomes two characters, and a capital sigma that ends a word becomes a final sigma.
-/

namespace PathQuery.Unicode

def isCased (c : Char) : Bool :=
  cased.contains c.toNat

def isCaseIgnorable (c : Char) : Bool :=
  caseIgnorable.contains c.toNat

/-- The first character that is not case-ignorable is cased. -/
def reachesCased (cs : List Char) : Bool :=
  (cs.dropWhile isCaseIgnorable).head?.any isCased

/-- Lower case of a character, wherever it stands. -/
def lowercaseChar (c : Char) : List Char :=
  if c = '\u0130' then ['i', '\u0307'] else [Char.ofNat (shiftBy lowercaseShift c.toNat)]

/-- Lower case of the rest of a text whose characters up to here are `before`, the last one
first. -/
def lowercaseAfter (before : List Char) : List Char → List Char
  | [] => []
  | c :: rest =>
    let here :=
      if c = '\u03A3' then
        if reachesCased before && !reachesCased rest then ['\u03C2'] else ['\u03C3']
      else lowercaseChar c
    here ++ lowercaseAfter (c :: before) rest

def lowercase (s : String) : String :=
  String.ofList (lowercaseAfter [] s.toList)

end PathQuery.Unicode
