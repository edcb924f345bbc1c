import PathQuery.Json.Printer
import PathQuery.Query.Node
import PathQuery.Unicode.Class

/-!
The query text of a tree, in one spelling of the many that the language has.
-/

namespace PathQuery

/-- A name that needs no quotes: it starts with a letter or underscore and goes on with letters,
digits, underscores and hyphens. -/
def isPlainKey (key : List Char) : Bool :=
  (key.head?.any fun c => Unicode.isAlphabetic c || c = '_') &&
    key.all fun c => Unicode.isAlphanumeric c || c = '_' || c = '-'

def keyChars (key : String) : List Char :=
  if isPlainKey key.toList then key.toList else Json.quote key.toList

def keyListChars (keys : List String) : List Char :=
  [','].intercalate (keys.map keyChars)

def Connective.symbol : Connective → String
  | and => "&&"
  | or => "||"

def boundChars (i : Option Int) : List Char :=
  (i.map Number.intChars).getD []

def Slice.chars (s : Slice) : List Char :=
  let step := match s.step with
    | some i => ':' :: Number.intChars i
    | none => []
  '[' :: (boundChars s.start ++ ':' :: boundChars s.stop ++ step ++ [']'])

namespace Node

mutual

def chars : Node → List Char
  | root => ['$']
  | current => ['@']
  | property name => '.' :: keyChars name
  | index i => '[' :: (Number.intChars i ++ [']'])
  | slice s => s.chars
  | wildcard => ['.', '*']
  | multiKey keys => '\x7b' :: (keyListChars keys ++ ['\x7d'])
  | omission keys => '!' :: '\x7b' :: (keyListChars keys ++ ['\x7d'])
  | call name args => '.' :: (name.toList ++ '(' :: argumentChars args ++ [')'])
  | comparison op left right =>
    chars left ++ ' ' :: op.symbol.toList ++ ' ' :: chars right
  | condition op left right =>
    '(' :: (chars left ++ ' ' :: op.symbol.toList ++ ' ' :: chars right ++ [')'])
  | not inner => '!' :: '(' :: (chars inner ++ [')'])
  | literal value => value.chars
  | path steps => stepChars steps

def argumentChars : List Node → List Char
  | [] => []
  | [arg] => chars arg
  | arg :: rest => chars arg ++ ',' :: ' ' :: argumentChars rest

def stepChars : List (Located Node) → List Char
  | [] => []
  | ⟨node, _⟩ :: rest => chars node ++ stepChars rest

end

def text (n : Node) : String :=
  String.ofList n.chars

end Node

/-- A condition stands behind a blank. -/
def Query.text (q : Query) : String :=
  String.ofList <| q.steps.flatMap fun s =>
    if s.node.isCondition then ' ' :: s.node.chars else s.node.chars

end PathQuery
