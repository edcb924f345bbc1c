import PathQuery.Regex.Basic
import PathQuery.Regex.Utf8
import Std.Data.HashMap

/-!
The room that an expression takes as an automaton over bytes. An expression is refused when one of
its two automata, which read a text forwards and backwards, takes more room than there is. The
states are counted, not built; but where states are shared, in the automata of character sets, it
matters which number each of them has.
-/

namespace PathQuery.Regex

open Utf8 (ByteRange)

/-- What has been built so far: the number of states, and the bytes that they take beside a fixed
part each. -/
structure Extent where
  states : Nat
  links : Nat

def Extent.bytes (e : Extent) : Nat :=
  32 * e.states + e.links

/-- The bytes that an automaton may take. -/
def Extent.limit : Nat := 10 * 1024 * 1024

/-- Building behind what there is, as long as there is room. -/
abbrev Build := StateT Extent Option

namespace Build

def grow (states links : Nat) : Build Unit := do
  let e ← get
  let e : Extent := ⟨e.states + states, e.links + links⟩
  if e.bytes ≤ Extent.limit then set e else failure

/-- A state with a number of byte ranges that lead on from it. It gives the number of the state. -/
def state (ranges : Nat) : Build Nat := do
  let e ← get
  grow 1 (8 * ranges)
  return e.states

/-- A state with one way on, which is part of every state. -/
def plain : Build Unit :=
  grow 1 0

/-- A branching state with a number of links. -/
def branching (links : Nat) : Build Unit :=
  grow 1 (4 * links)

/-- A link of a branching state that is there already. -/
def link : Build Unit :=
  grow 0 4

/-- The way on from a part, which takes a link if the part ends in a branching state. -/
def onward (branches : Bool) : Build Unit :=
  if branches then link else pure ()

end Build

/-! ## Character sets -/

/-- States found by what they are made of. Each slot holds the last state that was put there, so
that a state can be built more than once. -/
abbrev SharedStates (κ : Type) := Std.HashMap Nat (κ × Nat)

/-- The slot of a key that is given by some numbers. -/
def slotOf (slots : Nat) (key : List Nat) : Nat :=
  let mix (h : UInt64) (n : Nat) : UInt64 := (h ^^^ UInt64.ofNat n) * 1099511628211
  (key.foldl mix 14695981039346656037).toNat % slots

/-- The state of a key: the one in its slot, or a new one with a number of byte ranges. -/
def sharedState {κ : Type} [DecidableEq κ] (slot ranges : Nat) (key : κ)
    (shared : SharedStates κ) : Build (Nat × SharedStates κ) :=
  let new : Build (Nat × SharedStates κ) := do
    let number ← Build.state ranges
    return (number, shared.insert slot (key, number))
  match shared[slot]? with
  | some (found, number) => if found = key then return (number, shared) else new
  | none => new

/-- A way on by a range of bytes. -/
structure Edge where
  range : ByteRange
  target : Nat
deriving DecidableEq

def nodeOfEdges (edges : List Edge) (shared : SharedStates (List Edge)) :
    Build (Nat × SharedStates (List Edge)) :=
  let key := edges.flatMap fun e => [e.range.first, e.range.last, e.target]
  sharedState (slotOf 10000 key) edges.length edges shared

/-- Neighbouring sequences that begin alike, by what they begin with. -/
def byLeading (sequences : List (List ByteRange)) : List (ByteRange × List (List ByteRange)) :=
  let add (s : List ByteRange) (groups : List (ByteRange × List (List ByteRange))) :=
    match s, groups with
    | [], groups => groups
    | r :: tail, (q, tails) :: rest =>
      if q = r then (r, tail :: tails) :: rest else (r, [tail]) :: (q, tails) :: rest
    | r :: tail, [] => [(r, [tail])]
  sequences.foldr add []

/-- The state that reads one of the sequences and leads to `target`. Those behind it are built
before it. -/
def nodeOfSequences (target : Nat) : (fuel : Nat) → List (List ByteRange) →
    SharedStates (List Edge) → Build (Nat × SharedStates (List Edge))
  | 0, _, shared => return (target, shared)
  | fuel + 1, sequences, shared => do
    if sequences.all List.isEmpty then return (target, shared)
    else
      let (edges, shared) ← (byLeading sequences).foldlM (fun (edges, shared) (r, tails) => do
        let (number, shared) ← nodeOfSequences target fuel tails shared
        return (⟨r, number⟩ :: edges, shared)) ([], shared)
      nodeOfEdges edges.reverse shared

/-- A sequence read backwards is a chain of states that begins where it leads to. -/
def chain (target : Nat) (s : List ByteRange) (shared : SharedStates (Nat × ByteRange)) :
    Build (SharedStates (Nat × ByteRange)) := do
  let (_, shared) ← s.foldlM (fun (target, shared) r =>
    sharedState (slotOf 1000 [target, r.first, r.last]) 0 (target, r) shared) (target, shared)
  Build.link
  return shared

/-- A set of characters. One of ASCII characters takes two states. -/
def ofSet (backwards : Bool) (ranges : Unicode.Ranges) : Build Unit := do
  if ranges.all (·.2 < 0x80) then
    Build.plain
    let _ ← Build.state ranges.length
  else
    let sequences := ranges.flatMap fun r => Utf8.sequences r.1 r.2
    if backwards then
      Build.branching 0
      let target ← Build.state 0
      let _ ← sequences.foldlM (fun shared s => chain target s shared) ∅
    else
      let target ← Build.state 0
      let _ ← nodeOfSequences target 5 sequences ∅

/-! ## Choices between texts -/

/-- The words that begin with each first letter, without that letter. -/
def byFirst {α : Type} [BEq α] (words : List (List α)) : List (α × List (List α)) :=
  let add (word : List α) (groups : List (α × List (List α))) :=
    match word with
    | [] => groups
    | a :: w =>
      match groups.lookup a with
      | some ws => (a, w :: ws) :: groups.filter (·.1 != a)
      | none => (a, [w]) :: groups
  words.foldr add []

/-- The words between those that end here. Of the words that end here before any goes on, one
counts. -/
def sections {α : Type} (words : List (List α)) : List (List (List α)) :=
  let add (word : List α) (done : List (List (List α))) :=
    match word, done with
    | [], done => [] :: done
    | word, s :: rest => (word :: s) :: rest
    | word, [] => [[word]]
  let done := (words.dropWhile List.isEmpty).foldr add [[]]
  if words.head?.any List.isEmpty then [] :: done else done

/-- A tree of words: a branching state wherever words go on, with a state for each section that is
not empty. -/
def wordTree {α : Type} [BEq α] : (fuel : Nat) → List (List α) → Build Unit
  | 0, _ => return ()
  | fuel + 1, words => do
    if !words.all List.isEmpty then
      let groups := (sections words).map byFirst
      let filled := groups.filter (!·.isEmpty)
      Build.branching (filled.length + (groups.length - 1))
      for group in filled do
        let _ ← Build.state (if group.length = 1 then 0 else group.length)
        for (_, tails) in group do
          wordTree fuel tails

def text? : Regex → Option (List Char)
  | literal text => some text
  | _ => none

/-- A choice between texts, each read as its bytes. -/
def ofTexts (backwards : Bool) (texts : List (List Char)) : Build Unit := do
  let words := texts.map fun text =>
    let bytes := text.flatMap String.utf8EncodeChar
    if backwards then bytes.reverse else bytes
  Build.plain
  wordTree ((words.map List.length).foldl max 0 + 1) words

/-! ## Repetition -/

/-- A part again, `n` times behind one that ends as given. -/
def again (part : Build Bool) : (n : Nat) → (branches : Bool) → Build Bool
  | 0, branches => return branches
  | n + 1, branches => do
    Build.onward branches
    let branches ← part
    again part n branches

def exactly (part : Build Bool) : (n : Nat) → Build Bool
  | 0 => do
    Build.plain
    return false
  | n + 1 => do
    let branches ← part
    again part n branches

/-- A part that may be left out with all that follows, `n` times behind one that ends as given. -/
def optionally (part : Build Bool) : (n : Nat) → (branches : Bool) → Build Bool
  | 0, branches => return branches
  | n + 1, branches => do
    Build.branching 2
    Build.onward branches
    let branches ← part
    optionally part n branches

/-- A part repeated without bound. If it can match the empty text, two branching states keep the
order of what is tried. -/
def unbounded (part : Build Bool) (takesBytes : Bool) : (least : Nat) → Build Bool
  | 0 => do
    if takesBytes then
      Build.branching 1
      let branches ← part
      Build.onward branches
      return true
    else
      let branches ← part
      Build.onward branches
      Build.branching 2
      Build.branching 2
      Build.plain
      return false
  | least + 1 => do
    let branches ← exactly part (least + 1)
    Build.onward branches
    Build.branching 1
    return true

def bounded (part : Build Bool) (least most : Nat) : Build Bool := do
  if least = 0 && most = 1 then
    Build.branching 2
    let branches ← part
    Build.plain
    Build.onward branches
    return false
  else if least = most then exactly part least
  else
    let branches ← exactly part least
    Build.plain
    let branches ← optionally part (most - least) branches
    Build.onward branches
    return false

/-! ## Expressions -/

/-- Where an expression stands: for itself, or as a branch of a choice. -/
inductive Stand where
  | alone
  | firstBranch
  | secondBranch
  | laterBranch

/-- The end of an expression where it stands. A branch takes a link from the state that the choice
begins with, and that state and the end of the choice are built behind the second branch. -/
def Stand.close (branches : Bool) : Stand → Build Bool
  | alone => return branches
  | firstBranch => do
    Build.link
    Build.onward branches
    return false
  | secondBranch => do
    Build.branching 1
    Build.plain
    Build.onward branches
    return false
  | laterBranch => do
    Build.link
    Build.onward branches
    return false

/-- Where the first branch of a choice stands, if the choice is alone or the rest of another. -/
def Stand.branch : Stand → Stand
  | alone => firstBranch
  | s => s

/-- Where the rest of a choice stands behind its first branch. -/
def Stand.next : Stand → Stand
  | alone => secondBranch
  | firstBranch => secondBranch
  | secondBranch => laterBranch
  | laterBranch => laterBranch

/-- Builds an expression and tells whether it ends in a branching state. Groups are marked on the
way forwards alone. -/
def build (backwards : Bool) : Regex → Stand → Build Bool
  | empty, s => do
    Build.plain
    s.close false
  | literal text, s => do
    Build.grow (utf8Length text) 0
    s.close false
  | look _, s => do
    Build.plain
    s.close false
  | chars c, s => do
    ofSet backwards c.ranges
    s.close false
  | group _ r, s => do
    if backwards then s.close (← build backwards r .alone)
    else
      Build.plain
      let branches ← build backwards r .alone
      Build.plain
      Build.onward branches
      s.close false
  | seq a b, s => do
    if backwards then
      Build.onward (← build backwards b .alone)
      s.close (← build backwards a .alone)
    else
      Build.onward (← build backwards a .alone)
      s.close (← build backwards b .alone)
  | alt a b, s => do
    match s, (alt a b).branches.mapM text? with
    | .alone, some texts =>
      ofTexts backwards texts
      return false
    | _, _ =>
      let _ ← s.branch.close (← build backwards a .alone)
      build backwards b s.next
  | iterate r least most _, s => do
    let part := build backwards r .alone
    match most with
    | none => s.close (← unbounded part (r.leastBytes.any (0 < ·)) least)
    | some most => s.close (← bounded part least most)

/-- The whole automaton. Unless the expression is bound to the place where it starts, a loop over
any bytes comes before it. The whole match is a group. -/
def automaton (backwards : Bool) (r : Regex) : Build Unit := do
  if if backwards then r.endsWith .textEnd else r.beginsWith .textStart then Build.plain
  else
    Build.branching 2
    Build.plain
    let _ ← Build.state 1
  Build.onward (← build backwards (group 0 r) .alone)
  Build.plain

/-- A choice between very many texts is looked up without an automaton. -/
def isWordList (r : Regex) : Bool :=
  3000 ≤ r.branches.length && r.branches.all (·.text?.isSome)

/-- Whether there is room for the expression. -/
def hasRoom (r : Regex) : Bool :=
  r.isWordList ||
    ([false, true].all fun backwards => ((automaton backwards r).run ⟨0, 0⟩).isSome)

end PathQuery.Regex
