import PathQuery.Regex.Escape

/-!
Classes in brackets: characters, ranges, named classes, classes within classes, and the operations
of intersection, difference and symmetric difference, which all bind alike and group to the left.
-/

namespace PathQuery.Regex

open Unicode (Ranges)

def namedClass? (name : List Char) : Option Ranges :=
  match String.ofList name with
  | "alnum" => some [(0x30, 0x39), (0x41, 0x5A), (0x61, 0x7A)]
  | "alpha" => some [(0x41, 0x5A), (0x61, 0x7A)]
  | "ascii" => some Unicode.ascii
  | "blank" => some [(0x09, 0x09), (0x20, 0x20)]
  | "cntrl" => some [(0x00, 0x1F), (0x7F, 0x7F)]
  | "digit" => some [(0x30, 0x39)]
  | "graph" => some [(0x21, 0x7E)]
  | "lower" => some [(0x61, 0x7A)]
  | "print" => some [(0x20, 0x7E)]
  | "punct" => some [(0x21, 0x2F), (0x3A, 0x40), (0x5B, 0x60), (0x7B, 0x7E)]
  | "space" => some [(0x09, 0x0D), (0x20, 0x20)]
  | "upper" => some [(0x41, 0x5A)]
  | "word" => some (wordCharacters false)
  | "xdigit" => some [(0x30, 0x39), (0x41, 0x46), (0x61, 0x66)]
  | _ => none

/-- The rest of a named class behind its bracket and colon: whether it is negated, and the set. -/
def namedClassBody? (cs : List Char) : Option (Bool × Ranges × List Char) := do
  let (negated, cs) := match cs with
    | '^' :: cs => (true, cs)
    | cs => (false, cs)
  let found ← namedClass? (cs.takeWhile (· != ':'))
  match cs.dropWhile (· != ':') with
  | ':' :: ']' :: rest => return (negated, found, rest)
  | _ => none

/-! ## Characters and ranges -/

/-- A character of a class. Without Unicode it has to be ASCII. -/
def classChar? (f : Flags) (c : Char) : Option (Char ⊕ Ranges) :=
  if f.unicode || c.toNat < 128 then some (.inl c) else none

/-- One end of a range, or a set of its own. -/
def classAtom? (f : Flags) : List Char → Option ((Char ⊕ Ranges) × List Char)
  | '\\' :: cs => do
    match ← escape? f cs with
    | (.char c, rest) => return (← classChar? f c, rest)
    | (.byte c, rest) => return (← classChar? f c, rest)
    | (.set s, rest) => return (.inr s, rest)
    | (.look _, _) => none
  | c :: cs => do return (← classChar? f c, cs)
  | [] => none

def atomSet : Char ⊕ Ranges → Ranges
  | .inl c => [(c.toNat, c.toNat)]
  | .inr s => s

/-- The second end of a range that begins with `first`. -/
def rangeEnd? (f : Flags) (first : Char ⊕ Ranges) (cs : List Char) :
    Option (Ranges × List Char) := do
  let (second, cs) ← classAtom? f cs
  match first, second with
  | .inl a, .inl b => if a ≤ b then return ([(a.toNat, b.toNat)], cs) else none
  | _, _ => none

/-- An atom, or a range if a hyphen and a second atom follow it. -/
def classRange? (f : Flags) (cs : List Char) : Option (Ranges × List Char) := do
  let (first, cs) ← classAtom? f cs
  match f.skip cs with
  | [] => none
  | '-' :: cs =>
    match f.skip cs with
    | ']' :: _ => return (atomSet first, '-' :: cs)
    | '-' :: _ => return (atomSet first, '-' :: cs)
    | cs => rangeEnd? f first cs
  | cs => return (atomSet first, cs)

/-! ## Classes -/

/-- A set, and the number of levels on which it is written: each bracket is one, and so are an
operation and the join of several items. -/
structure WrittenSet where
  set : Ranges
  depth : Nat

/-- The class read so far: the items since the last operation, with their number and the depth of
the deepest, and what that operation makes of them. -/
structure ClassState where
  operation : WrittenSet → WrittenSet
  items : Ranges
  count : Nat
  deepest : Nat

namespace ClassState

def start : ClassState :=
  ⟨id, [], 0, 0⟩

def add (s : ClassState) (w : WrittenSet) : ClassState :=
  { s with
    items := s.items.union w.set
    count := s.count + 1
    deepest := max s.deepest w.depth }

def addSet (s : ClassState) (set : Ranges) : ClassState :=
  s.add ⟨set, 0⟩

def result (f : Flags) (s : ClassState) : WrittenSet :=
  s.operation ⟨f.fold s.items, if s.count < 2 then s.deepest else s.deepest + 1⟩

def operator (f : Flags) (join : Ranges → Ranges → Ranges) (s : ClassState) : ClassState :=
  let left := s.result f
  { start with
    operation := fun right => ⟨join left.set right.set, max left.depth right.depth + 1⟩ }

end ClassState

def symmetricDifference (a b : Ranges) : Ranges :=
  (a.difference b).union (b.difference a)

/-- Hyphens at the beginning of a class stand for themselves. -/
def openingHyphens (f : Flags) : (fuel : Nat) → ClassState → List Char → ClassState × List Char
  | 0, s, cs => (s, cs)
  | fuel + 1, s, cs =>
    match f.skip cs with
    | '-' :: cs => openingHyphens f fuel (s.addSet (atomSet (.inl '-'))) cs
    | cs => (s, cs)

/-- The beginning of a class behind its bracket: the sign of a complement, hyphens, and a closing
bracket that comes first and stands for itself. -/
def classStart (f : Flags) (cs : List Char) : Bool × ClassState × List Char :=
  let (negated, cs) := match f.skip cs with
    | '^' :: cs => (true, cs)
    | cs => (false, cs)
  match openingHyphens f (cs.length + 1) .start cs with
  | (s, ']' :: rest) =>
    if s.count = 0 then (negated, s.addSet (atomSet (.inl ']')), rest)
    else (negated, s, ']' :: rest)
  | (s, cs) => (negated, s, cs)

/-- The class with its bracket. -/
def closeClass? (f : Flags) (negated : Bool) (w : WrittenSet) : Option WrittenSet := do
  return ⟨← f.signed? negated w.set, w.depth + 1⟩

/-- The rest of a class, up to and including its closing bracket. -/
def classBody? (f : Flags) : (fuel : Nat) → ClassState → List Char →
    Option (WrittenSet × List Char)
  | 0, _, _ => none
  | fuel + 1, s, cs =>
    match f.skip cs with
    | [] => none
    | ']' :: rest => some (s.result f, rest)
    | '&' :: '&' :: rest => classBody? f fuel (s.operator f Ranges.inter) rest
    | '-' :: '-' :: rest => classBody? f fuel (s.operator f Ranges.difference) rest
    | '~' :: '~' :: rest => classBody? f fuel (s.operator f symmetricDifference) rest
    | '[' :: rest =>
      let named := match rest with
        | ':' :: body => namedClassBody? body
        | _ => none
      match named with
      | some (negated, set, rest) => do
        classBody? f fuel (s.addSet (← f.signed? negated (f.fold set))) rest
      | none => do
        let (negated, inner, rest) := classStart f rest
        let (w, rest) ← classBody? f fuel inner rest
        classBody? f fuel (s.add (← closeClass? f negated w)) rest
    | cs => do
      let (set, rest) ← classRange? f cs
      classBody? f fuel (s.addSet set) rest

def bracketClass? (f : Flags) (cs : List Char) : Option (WrittenSet × List Char) := do
  let (negated, s, rest) := classStart f cs
  let (w, rest) ← classBody? f (cs.length + 1) s rest
  return (← closeClass? f negated w, rest)

end PathQuery.Regex
