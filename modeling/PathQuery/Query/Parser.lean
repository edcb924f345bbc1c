import PathQuery.Json.NumberText
import PathQuery.Query.Fault
import PathQuery.Query.Node
import PathQuery.Query.Scanner

/-!
Parsing of tokens into queries, by recursive descent. From the weakest to the strongest, conditions
are joined by `||` and `&&`, negated, and compared; operands are literals and paths.

A parser runs over the tokens before the end of the query. It keeps its place when it fails, so that
a caller can go on from there. The recursive productions take fuel; each token is behind at most
eight nested calls that read nothing, so `fuelFor` is enough for any text.
-/

namespace PathQuery

/-- Tokens still to be read, and the position of the end of the query behind them. -/
structure TokenStream where
  rest : List Token
  finish : Nat

namespace TokenStream

/-- A list that does not close with an end token is closed where its last token ends. -/
def ofTokens (ts : List Token) : TokenStream :=
  match ts.getLast? with
  | none => ⟨[], 0⟩
  | some t =>
    if t.kind = .finish then ⟨ts.dropLast, t.position⟩
    else ⟨ts, t.position + t.text.utf8ByteSize⟩

def endToken (s : TokenStream) : Token :=
  ⟨.finish, "", s.finish⟩

/-- The token `n` places ahead; the end token stands behind all others. -/
def ahead (s : TokenStream) (n : Nat) : Token :=
  (s.rest[n]?).getD s.endToken

def head (s : TokenStream) : Token :=
  s.ahead 0

def tail (s : TokenStream) : TokenStream :=
  { s with rest := s.rest.tail }

end TokenStream

abbrev Parser := EStateM SyntaxError TokenStream

namespace Parser

def peek : Parser Token := do
  return (← get).head

/-- Takes the token at hand; the end token stays. -/
def advance : Parser Token :=
  modifyGet fun s => (s.head, s.tail)

def check (kind : Token.Kind) : Parser Bool := do
  return (← peek).kind == kind

def failAt {α : Type} (position : Nat) (fault : SyntaxFault) : Parser α :=
  throw ⟨fault, position⟩

def unexpected {α : Type} (what : String) : Parser α := do
  let t ← peek
  failAt t.position (.expected what t)

def expect (kind : Token.Kind) : Parser Token := do
  if ← check kind then advance else unexpected kind.description

def tooDeep {α : Type} : Parser α := do
  failAt (← peek).position .nestingTooDeep

/-- A bang before a brace opens an omission, any other one negates. -/
def atOmission : Parser Bool := do
  let s ← get
  return s.head.kind == .bang && (s.ahead 1).kind == .openBrace

def atNegation : Parser Bool := do
  return (← check .bang) && !(← atOmission)

def startsStep (kind : Token.Kind) : Bool :=
  kind == .dot || kind == .openBracket || kind == .openBrace

def atStep : Parser Bool := do
  return startsStep (← peek).kind || (← atOmission)

def isKeyword (t : Token) : Bool :=
  t.kind == .property && (t.text == "true" || t.text == "false" || t.text == "null")

/-! ## Brackets and key groups -/

/-- Quoted keys behind the first, each announced by a comma. -/
def quotedKeys : Nat → Parser (List String)
  | 0 => return []
  | fuel + 1 => do
    if ← check .comma then
      discard advance
      let key ← expect .string
      return key.text :: (← quotedKeys fuel)
    else return []

def integer? : Parser (Option Int) := do
  if ← check .number then
    let t ← advance
    match Number.int64OfText? t.text with
    | some n => return some n
    | none => failAt t.position (.expectedInteger t.text)
  else return none

def sliceStep : Parser (Option Int) := do
  if ← check .colon then
    discard advance
    let position := (← peek).position
    let step ← integer?
    if step = some 0 then failAt position .zeroStep else return step
  else return none

def indexOrSlice : Parser Node := do
  let start ← integer?
  if ← check .colon then
    discard advance
    let stop ← integer?
    let step ← sliceStep
    discard (expect .closeBracket)
    return .slice ⟨start, stop, step⟩
  else
    discard (expect .closeBracket)
    match start with
    | some i => return .index i
    | none => unexpected "index"

/-- One quoted key is a property, several are a group. -/
def bracket : Parser Node := do
  let opening ← expect .openBracket
  match (← peek).kind with
  | .star =>
    discard advance
    discard (expect .closeBracket)
    return .wildcard
  | .string =>
    let key ← advance
    let keys ← quotedKeys (← get).rest.length
    discard (expect .closeBracket)
    return if keys.isEmpty then .property key.text else .multiKey (key.text :: keys)
  | .number | .colon => indexOrSlice
  | .closeBracket => failAt opening.position .emptyBrackets
  | _ => unexpected "index, slice, '*' or quoted key"

/-- Keys up to one that no comma follows. -/
def groupKeys : Nat → Parser (List String)
  | 0 => unexpected "key name"
  | fuel + 1 => do
    match (← peek).kind with
    | .property | .string =>
      let key ← advance
      if ← check .comma then
        discard advance
        return key.text :: (← groupKeys fuel)
      else return [key.text]
    | _ => unexpected "key name"

def keyGroup : Parser (List String) := do
  let opening ← expect .openBrace
  if ← check .closeBrace then failAt opening.position .emptyKeyList
  else
    let keys ← groupKeys ((← get).rest.length + 1)
    discard (expect .closeBrace)
    return keys

def omissionGroup : Parser Node := do
  discard advance
  return .omission (← keyGroup)

/-! ## Paths, arguments and conditions -/

def numberLiteral (t : Token) : Parser Node := do
  match Number.ofText? t.text with
  | some n => return .literal (.number n)
  | none => failAt t.position (.malformedNumber t.text)

def keywordValue (text : String) : Json :=
  if text = "true" then .bool true else if text = "false" then .bool false else .null

/-- A path that goes on from the current values; on its own the anchor is a node of its own. -/
def relative (position : Nat) (steps : List Step) : Node :=
  if steps.isEmpty then .current else .path (⟨.current, position⟩ :: steps)

mutual

/-- The longest run of path steps. -/
def steps : Nat → Parser (List Step)
  | 0 => tooDeep
  | fuel + 1 => do
    let t ← peek
    match t.kind with
    | .dot =>
      discard advance
      let step ← afterDot fuel t.position
      return step :: (← steps fuel)
    | .openBracket =>
      let node ← bracket
      return ⟨node, t.position⟩ :: (← steps fuel)
    | .openBrace =>
      let keys ← keyGroup
      return ⟨.multiKey keys, t.position⟩ :: (← steps fuel)
    | .bang =>
      if ← atOmission then
        let node ← omissionGroup
        return ⟨node, t.position⟩ :: (← steps fuel)
      else return []
    | _ => return []

/-- The step behind a dot at `position`. A name counts from its own position. -/
def afterDot (fuel : Nat) (position : Nat) : Parser Step :=
  match fuel with
  | 0 => tooDeep
  | fuel + 1 => do
    match (← peek).kind with
    | .property => namedStep fuel
    | .string => return ⟨.property (← advance).text, position⟩
    | .star =>
      discard advance
      return ⟨.wildcard, position⟩
    | .openBrace => return ⟨.multiKey (← keyGroup), position⟩
    | .bang =>
      if ← atOmission then return ⟨← omissionGroup, position⟩
      else unexpected "property name, '*' or key group after '.'"
    | _ => unexpected "property name, '*' or key group after '.'"

/-- A name, which is a call when a parenthesis follows. -/
def namedStep : Nat → Parser Step
  | 0 => tooDeep
  | fuel + 1 => do
    let name ← advance
    if ← check .openParen then
      discard advance
      if ← check .closeParen then
        discard advance
        return ⟨.call name.text [], name.position⟩
      else return ⟨.call name.text (← arguments fuel), name.position⟩
    else return ⟨.property name.text, name.position⟩

/-- One or more arguments and the closing parenthesis. -/
def arguments : Nat → Parser (List Node)
  | 0 => tooDeep
  | fuel + 1 => do
    let arg ← argument fuel
    if ← check .comma then
      discard advance
      return arg :: (← arguments fuel)
    else
      discard (expect .closeParen)
      return [arg]

/-- An operand, or a condition when a comparison follows it. -/
def argument : Nat → Parser Node
  | 0 => tooDeep
  | fuel + 1 => do
    if (← check .openParen) || (← atNegation) then disjunction fuel none
    else
      let left ← operand fuel
      match (← peek).kind with
      | .comparator _ => disjunction fuel (some left)
      | .and | .or => unexpected "comparison operator"
      | _ => return left

/-- Conditions joined by `||`. A given subject is the left operand of the first comparison. -/
def disjunction (fuel : Nat) (subject : Option Node) : Parser Node :=
  match fuel with
  | 0 => tooDeep
  | fuel + 1 => do disjuncts fuel (← conjunction fuel subject)

def disjuncts (fuel : Nat) (left : Node) : Parser Node :=
  match fuel with
  | 0 => tooDeep
  | fuel + 1 => do
    if ← check .or then
      discard advance
      disjuncts fuel (.condition .or left (← conjunction fuel none))
    else return left

/-- Conditions joined by `&&`. -/
def conjunction (fuel : Nat) (subject : Option Node) : Parser Node :=
  match fuel with
  | 0 => tooDeep
  | fuel + 1 => do conjuncts fuel (← unary fuel subject)

def conjuncts (fuel : Nat) (left : Node) : Parser Node :=
  match fuel with
  | 0 => tooDeep
  | fuel + 1 => do
    if ← check .and then
      discard advance
      conjuncts fuel (.condition .and left (← unary fuel none))
    else return left

/-- A negation, a condition in parentheses, or a comparison. -/
def unary (fuel : Nat) (subject : Option Node) : Parser Node :=
  match fuel with
  | 0 => tooDeep
  | fuel + 1 => do
    match subject with
    | some left => comparison fuel left
    | none =>
      if ← atNegation then
        discard advance
        return .not (← unary fuel none)
      else if ← check .openParen then
        discard advance
        let inner ← disjunction fuel none
        discard (expect .closeParen)
        return inner
      else comparison fuel (← operand fuel)

def comparison (fuel : Nat) (left : Node) : Parser Node :=
  match fuel with
  | 0 => tooDeep
  | fuel + 1 => do
    match (← peek).kind with
    | .comparator op =>
      discard advance
      return .comparison op left (← operand fuel)
    | _ => unexpected "comparison operator"

/-- A literal or a path. A path that begins with a step or a name starts at the current values. -/
def operand : Nat → Parser Node
  | 0 => tooDeep
  | fuel + 1 => do
    let t ← peek
    match t.kind with
    | .number => numberLiteral (← advance)
    | .string => return .literal (.string (← advance).text)
    | .property =>
      if isKeyword t then
        discard advance
        return .literal (keywordValue t.text)
      else
        let step ← namedStep fuel
        return relative t.position (step :: (← steps fuel))
    | .root =>
      discard advance
      return .path (⟨.root, t.position⟩ :: (← steps fuel))
    | .current =>
      discard advance
      return relative t.position (← steps fuel)
    | _ =>
      if ← atStep then return relative t.position (← steps fuel)
      else unexpected "value"

end

/-! ## Whole queries -/

def fuelFor (s : TokenStream) : Nat :=
  8 * s.rest.length + 8

/-- Kinds of token that begin a condition standing alone. -/
def startsCondition (kind : Token.Kind) : Bool :=
  kind == .openParen || kind == .bang || kind == .number || kind == .string ||
    kind == .current || kind == .property

/-- A name at the very start stands for a step from the root. -/
def headStep : Parser (List Step) := do
  let t ← peek
  if t.kind == .property && !isKeyword t then
    return [← namedStep (fuelFor (← get))]
  else return []

/-- The condition behind the path, or alone when there is no path. -/
def trailingCondition (pathIsEmpty : Bool) : Parser (Option Node) := do
  let fuel := fuelFor (← get)
  match (← peek).kind with
  | .comparator _ => return some (← disjunction fuel (some .current))
  | .and | .or => unexpected "comparison operator"
  | kind =>
    if pathIsEmpty && startsCondition kind then return some (← disjunction fuel none)
    else return none

/-- One query, up to and including the next end token. -/
def query : Parser Query := do
  let rootPosition := (← peek).position
  if ← check .root then discard advance
  let first ← headStep
  let path := first ++ (← steps (fuelFor (← get)))
  let conditionPosition := (← peek).position
  let condition ← trailingCondition path.isEmpty
  let last := condition.toList.map (⟨·, conditionPosition⟩)
  if condition.isSome && (← atStep) then
    failAt (← peek).position .stepAfterCondition
  if ← check .finish then discard advance
  else unexpected "path step, comparison or end of query"
  return ⟨⟨.root, rootPosition⟩ :: (path ++ last)⟩

end Parser

namespace Query

def ofTokens (ts : List Token) : Except SyntaxError Query :=
  match Parser.query.run (TokenStream.ofTokens ts) with
  | .ok q _ => .ok q
  | .error e _ => .error e

/-- The query that a text writes. -/
def parse (text : String) : Except SyntaxError Query := do
  ofTokens (← tokenize text)

end Query

end PathQuery
