import PathQuery.Regex.Basic

/-!
Building expressions in a normal form: sequences and choices are flat, neighbouring characters make
one text, a choice between characters is a set, and the common beginning of all branches of a choice
is taken out of it. How much room an expression takes is told from this form.
-/

namespace PathQuery.Regex

open Unicode (Ranges)

/-- One character of a set. -/
def ofRanges (s : Ranges) : Regex :=
  match s with
  | [(first, last)] => if first = last then literal [Char.ofNat first] else chars ⟨s⟩
  | _ => chars ⟨s⟩

/-! ## Sequences -/

/-- An expression before the parts of a sequence, of which neighbouring texts are one. -/
def consPart : Regex → List Regex → List Regex
  | literal a, literal b :: rest => literal (a ++ b) :: rest
  | r, rest => r :: rest

def ofParts : List Regex → Regex
  | [] => empty
  | [r] => r
  | r :: rest => seq r (ofParts rest)

def sequence (rs : List Regex) : Regex :=
  ofParts ((rs.flatMap parts).foldr consPart [])

/-! ## Choices -/

/-- The set of a text of one character. -/
def singleton? : Regex → Option Ranges
  | literal [c] => some [(c.toNat, c.toNat)]
  | _ => none

def ranges? : Regex → Option Ranges
  | chars c => some c.ranges
  | _ => none

def ofBranches : List Regex → Regex
  | [] => chars ⟨[]⟩
  | [r] => r
  | r :: rest => alt r (ofBranches rest)

/-- A choice between branches with no beginning in common. -/
def plainChoice (rs : List Regex) : Regex :=
  match rs.flatMap branches with
  | [r] => r
  | rs =>
    match (rs.mapM singleton?).or (rs.mapM ranges?) with
    | some sets => ofRanges (Ranges.unionAll sets)
    | none => ofBranches rs

/-- The first parts that two sequences share. -/
def commonParts : List Regex → List Regex → List Regex
  | a :: as, b :: bs => if a = b then a :: commonParts as bs else []
  | _, _ => []

/-- The parts of an expression that has several. -/
def severalParts : Regex → List Regex
  | seq a b => a :: b.parts
  | _ => []

def commonBeginning : List Regex → List Regex
  | [] => []
  | r :: rest => rest.foldl (fun shared s => commonParts shared s.severalParts) r.severalParts

/-- A choice. What is left of the branches behind their common beginning has no other, so that the
beginning is taken out once. -/
def choice (rs : List Regex) : Regex :=
  match plainChoice rs with
  | alt a b =>
    let rs := a :: b.branches
    match commonBeginning rs with
    | [] => alt a b
    | shared =>
      sequence <| shared ++
        [plainChoice (rs.map fun r => sequence (r.severalParts.drop shared.length))]
  | r => r

/-! ## Repetition -/

/-- A repetition. A place repeated is the place. -/
def repeated (r : Regex) (least : Nat) (most : Option Nat) (greedy : Bool) : Regex :=
  let (least, most) :=
    if r.isPlace then (min least 1, some (min (most.getD 1) 1)) else (least, most)
  if most = some 0 then empty
  else if least = 1 && most = some 1 then r
  else iterate r least most greedy

end PathQuery.Regex
