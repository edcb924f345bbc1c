import PathQuery.Regex.Basic

/-!
Matching by partial derivatives. What may still have to be matched at a place of the text is a list
of expressions; a character takes each of them to those that remain behind it, and a new attempt
starts at every place. An expression that matches the empty text where the scan stands ends the
search. Equal expressions are dropped whenever the list has doubled, so that it stays as short, up
to a factor, as the number of different expressions that remain.
-/

namespace PathQuery

/-- Given whether a word character stands before the place and after it. -/
def WordLook.holds (before after : Bool) : WordLook → Bool
  | boundary => before != after
  | inside => before == after
  | start => !before && after
  | finish => before && !after
  | notAfter => !before
  | notBefore => !after

def Look.holds (before after : Option Char) : Look → Bool
  | textStart => before.isNone
  | textEnd => after.isNone
  | lineStart false => before.all (· == '\n')
  | lineStart true => before.all (· == '\n') || (before == some '\r' && after != some '\n')
  | lineEnd false => after.all (· == '\n')
  | lineEnd true => after.all (· == '\r') || (after == some '\n' && before != some '\r')
  | word unicode l =>
    let isWord (c : Char) : Bool := (wordCharacters unicode).contains c.toNat
    l.holds (before.any isWord) (after.any isWord)

namespace Regex

/-- Whether the empty text matches, at the place between the two characters. -/
def matchesEmpty (before after : Option Char) : Regex → Bool
  | empty => true
  | literal text => text.isEmpty
  | look l => l.holds before after
  | chars _ => false
  | group _ r => r.matchesEmpty before after
  | seq a b => a.matchesEmpty before after && b.matchesEmpty before after
  | alt a b => a.matchesEmpty before after || b.matchesEmpty before after
  | iterate r least _ _ => least == 0 || r.matchesEmpty before after

def followedBy (b : Regex) : Regex → Regex
  | empty => b
  | a => seq a b

/-- What may remain of the expression behind the character `c`. An iteration that can match the
empty text here may have been passed over any number of times. -/
def remainders (before : Option Char) (c : Char) : Regex → List Regex
  | empty => []
  | literal [] => []
  | literal (d :: ds) => if c = d then [if ds.isEmpty then empty else literal ds] else []
  | look _ => []
  | chars cs => if cs.contains c then [empty] else []
  | group _ r => r.remainders before c
  | seq a b =>
    let first := (a.remainders before c).map (followedBy b)
    if a.matchesEmpty before (some c) then first ++ b.remainders before c else first
  | alt a b => a.remainders before c ++ b.remainders before c
  | iterate r least most greedy =>
    if most = some 0 then []
    else
      let least := if r.matchesEmpty before (some c) then 0 else least - 1
      (r.remainders before c).map (followedBy (iterate r least (most.map (· - 1)) greedy))

/-- A number below 65536 that tells most expressions apart. -/
def digest : Regex → Nat
  | empty => 1
  | literal text => (40503 * text.length + 2) % 65536
  | look _ => 3
  | chars _ => 5
  | group n r => (31 * r.digest + n) % 65536
  | seq a b => (31 * a.digest + 17 * b.digest + 7) % 65536
  | alt a b => (37 * a.digest + 19 * b.digest + 11) % 65536
  | iterate r least most _ => (41 * r.digest + 40503 * least + 9973 * most.getD 0 + 13) % 65536

/-- Each expression of a list once. The list is split by the lowest `bits` bits of the digests, the
highest of them first, until the parts are short. -/
def distinctBy : (bits : Nat) → List (Nat × Regex) → List Regex
  | 0, rs => (rs.map Prod.snd).eraseDups
  | bits + 1, rs =>
    if rs.length ≤ 8 then (rs.map Prod.snd).eraseDups
    else
      let (ones, zeros) := rs.partition fun r => r.1.testBit bits
      distinctBy bits zeros ++ distinctBy bits ones

def distinct (rs : List Regex) : List Regex :=
  distinctBy 16 (rs.map fun r => (r.digest, r))

/-- Whether an attempt under way, or one of `r` that starts here or later, matches. Up to `room`
attempts are kept as they are. -/
def search (r : Regex) (room : Nat) (before : Option Char) (live : List Regex) :
    List Char → Bool
  | [] => (r :: live).any fun x => x.matchesEmpty before none
  | c :: rest =>
    if (r :: live).any fun x => x.matchesEmpty before (some c) then true
    else
      let next := (r :: live).flatMap (remainders before c)
      if next.length ≤ room then search r room (some c) next rest
      else
        let next := distinct next
        search r (2 * next.length) (some c) next rest

/-- Whether the expression matches some part of the text. -/
def isMatch (r : Regex) (text : String) : Bool :=
  search r 8 none [] text.toList

end Regex

end PathQuery
