import PathQuery.Regex.Automaton
import PathQuery.Regex.Bracket
import PathQuery.Unicode.Class

/-!
Reading regular expressions: repetition, groups with flags and names, alternatives and places. There
are no references to groups and no assertions about what precedes or follows. A text is refused that
is no expression, or one that is nested too deeply or takes too much room.
-/

namespace PathQuery.Regex

open Unicode (Ranges)

/-! ## Repetition -/

/-- A decimal number with blanks around it. -/
def count? (f : Flags) (cs : List Char) : Option (Nat × List Char) :=
  let (ds, rest) := f.span Char.isDigit ((f.skip cs).dropWhile Unicode.isWhiteSpace)
  let n := ds.foldl (fun n d => 10 * n + (d.toNat - 48)) 0
  if ds.isEmpty || 1 <<< 32 ≤ n then none
  else some (n, f.skip (rest.dropWhile Unicode.isWhiteSpace))

/-- The bounds of a repetition behind its brace. -/
def bounds? (f : Flags) (cs : List Char) : Option (Nat × Option Nat × List Char) := do
  let (least, cs) ← count? f cs
  match cs with
  | '\x7d' :: rest => return (least, some least, rest)
  | ',' :: rest =>
    match f.skip rest with
    | '\x7d' :: rest => return (least, none, rest)
    | rest =>
      let (most, rest) ← count? f rest
      match rest with
      | '\x7d' :: rest => if least ≤ most then return (least, some most, rest) else none
      | _ => none
  | _ => none

/-- The bounds of the repetition that begins with `c`, and the text behind it. -/
def repetition? (f : Flags) (c : Char) (cs : List Char) : Option (Nat × Option Nat × List Char) :=
  match c with
  | '*' => some (0, none, cs)
  | '+' => some (1, none, cs)
  | '?' => some (0, some 1, cs)
  | _ => (bounds? f cs).map fun (least, most, rest) => (least, most, f.skip rest)

def isRepetition (c : Char) : Bool :=
  c = '*' || c = '+' || c = '?' || c = '\x7b'

/-- Whether the sign of lazy repetition is there, and the text behind it. -/
def lazySign : List Char → Bool × List Char
  | '?' :: cs => (true, cs)
  | cs => (false, cs)

/-! ## Groups -/

/-- Flags up to a colon or closing parenthesis, which is left. Each flag is given once, and a hyphen
turns the flags behind it off. -/
def flagList? (value : Bool) (seen : List Char) (flags : Flags) :
    List Char → Option (Flags × List Char × List Char)
  | [] => none
  | c :: cs =>
    if c = ':' || c = ')' then
      if seen.head? = some '-' then none else some (flags, seen, c :: cs)
    else if seen.contains c then none
    else if c = '-' then flagList? false (c :: seen) flags cs
    else do flagList? value (c :: seen) (← flags.set? value c) cs

def isNameStart (c : Char) : Bool :=
  c = '_' || Unicode.isAlphabetic c

def isNameChar (c : Char) : Bool :=
  c = '_' || c = '.' || c = '[' || c = ']' || Unicode.isAlphanumeric c

def groupName? (cs : List Char) : Option (List Char × List Char) :=
  let name := cs.takeWhile isNameChar
  match cs.dropWhile isNameChar with
  | '>' :: rest => if name.head?.any isNameStart then some (name, rest) else none
  | _ => none

/-- What stands behind an opening parenthesis: a group that is numbered and may have a name, a group
with flags of its own, or flags for the rest of the group around it. -/
inductive GroupStart where
  | numbered (name : Option (List Char))
  | flagged (flags : Flags)
  | flags (flags : Flags)

def groupStart? (flags : Flags) (cs : List Char) : Option (GroupStart × List Char) :=
  match flags.skip cs with
  | '?' :: '=' :: _ => none
  | '?' :: '!' :: _ => none
  | '?' :: '<' :: '=' :: _ => none
  | '?' :: '<' :: '!' :: _ => none
  | '?' :: 'P' :: '<' :: cs => (groupName? cs).map fun (n, rest) => (.numbered (some n), rest)
  | '?' :: '<' :: cs => (groupName? cs).map fun (n, rest) => (.numbered (some n), rest)
  | '?' :: cs => do
    let (new, seen, rest) ← flagList? true [] flags cs
    match rest with
    | ':' :: rest => return (.flagged new, rest)
    | _ :: rest => if seen.isEmpty then none else return (.flags new, rest)
    | [] => none
  | cs => some (.numbered none, cs)

/-- The numbered groups so far, with the names that they have. -/
structure Groups where
  count : Nat
  names : List (List Char)

def Groups.add? (g : Groups) (name : Option (List Char)) : Option Groups :=
  if name.any g.names.contains then none else some ⟨g.count + 1, name.toList ++ g.names⟩

/-! ## Expressions -/

/-- An expression, and the number of levels on which it is written: each group, repetition and
bracket is one, and so are a sequence and a choice of several parts. -/
structure Written where
  regex : Regex
  depth : Nat

/-- The depth of what has parts of some depths. -/
def depthOfParts : List Nat → Nat
  | [] => 0
  | [d] => d
  | d :: ds => ds.foldl max d + 1

def escapeRegex? (f : Flags) : Escape → Option Regex
  | .char c => some (f.char c)
  | .byte c => if f.unicode || c.toNat < 128 then some (f.char c) else none
  | .set s => some (ofRanges s)
  | .look l => some (.look l)

/-- What ends a line. -/
def lineBreak (f : Flags) : Ranges :=
  if f.carriageReturns then [(0x0A, 0x0A), (0x0D, 0x0D)] else [(0x0A, 0x0A)]

/-- One character that is a whole expression. Without Unicode a point would match any byte. -/
def plainRegex? (f : Flags) (c : Char) : Option Regex :=
  match c with
  | '.' =>
    if f.unicode then
      some (.chars ⟨if f.dotAll then Unicode.everything else (lineBreak f).complement⟩)
    else none
  | '^' => some (.look (if f.multiLine then .lineStart f.carriageReturns else .textStart))
  | '$' => some (.look (if f.multiLine then .lineEnd f.carriageReturns else .textEnd))
  | c => some (f.char c)

/-- The state within a group. `pieces` holds the parts of the alternative under way, the last first;
flags set in passing are a part that cannot be repeated. -/
structure GroupState where
  flags : Flags
  groups : Groups
  pieces : List (Option Written)
  alternatives : List Written

namespace GroupState

def start (flags : Flags) (groups : Groups) : GroupState :=
  ⟨flags, groups, [], []⟩

def add (s : GroupState) (w : Written) : GroupState :=
  { s with pieces := some w :: s.pieces }

def addRegex (s : GroupState) (r : Regex) : GroupState :=
  s.add ⟨r, 0⟩

def alternative (s : GroupState) : Written :=
  ⟨sequence (s.pieces.reverse.filterMap fun p => p.map Written.regex),
    depthOfParts (s.pieces.map fun p => p.elim 0 Written.depth)⟩

def result (s : GroupState) : Written :=
  match s.alternatives with
  | [] => s.alternative
  | ws =>
    let ws := (s.alternative :: ws).reverse
    ⟨choice (ws.map Written.regex), depthOfParts (ws.map Written.depth)⟩

end GroupState

/-- The expression up to a closing parenthesis or the end, the groups read, and the text behind it.
-/
def expression? : Nat → GroupState → List Char → Option (Written × Groups × List Char)
  | 0, _, _ => none
  | fuel + 1, s, cs =>
    match s.flags.skip cs with
    | [] => some (s.result, s.groups, [])
    | ')' :: rest => some (s.result, s.groups, ')' :: rest)
    | '|' :: rest =>
      expression? fuel { s with pieces := [], alternatives := s.alternative :: s.alternatives } rest
    | '(' :: rest => do
      match ← groupStart? s.flags rest with
      | (.flags flags, rest) =>
        expression? fuel { s with flags := flags, pieces := none :: s.pieces } rest
      | (.flagged flags, rest) =>
        let (w, groups, rest) ← expression? fuel (.start flags s.groups) rest
        match rest with
        | ')' :: rest =>
          expression? fuel ({ s with groups := groups }.add ⟨w.regex, w.depth + 1⟩) rest
        | _ => none
      | (.numbered name, rest) =>
        let opened ← s.groups.add? name
        let (w, groups, rest) ← expression? fuel (.start s.flags opened) rest
        match rest with
        | ')' :: rest =>
          let w := ⟨.group opened.count w.regex, w.depth + 1⟩
          expression? fuel ({ s with groups := groups }.add w) rest
        | _ => none
    | '[' :: rest => do
      let (w, rest) ← bracketClass? s.flags rest
      expression? fuel (s.add ⟨ofRanges w.set, w.depth⟩) rest
    | '\\' :: rest => do
      let (e, rest) ← escape? s.flags rest
      expression? fuel (s.addRegex (← escapeRegex? s.flags e)) rest
    | c :: rest =>
      if isRepetition c then
        match s.pieces with
        | some w :: pieces => do
          let (least, most, rest) ← repetition? s.flags c rest
          let (isLazy, rest) := lazySign rest
          let r := repeated w.regex least most (isLazy == s.flags.swapGreed)
          expression? fuel { s with pieces := some ⟨r, w.depth + 1⟩ :: pieces } rest
        | _ => none
      else do expression? fuel (s.addRegex (← plainRegex? s.flags c)) rest

/-- The number of levels that an expression may have. -/
def depthLimit : Nat := 250

/-- The expression that a text writes, if it writes one. -/
def parse? (text : String) : Option Regex :=
  match expression? (text.toList.length + 1) (.start .standard ⟨0, []⟩) text.toList with
  | some (w, _, []) => if w.depth ≤ depthLimit && w.regex.hasRoom then some w.regex else none
  | _ => none

end PathQuery.Regex
