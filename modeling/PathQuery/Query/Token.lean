/-!
The tokens of a query text.
-/

namespace PathQuery

inductive Comparator where
  | eq
  | ne
  | lt
  | le
  | gt
  | ge
deriving DecidableEq

def Comparator.symbol : Comparator → String
  | eq => "=="
  | ne => "!="
  | lt => "<"
  | le => "<="
  | gt => ">"
  | ge => ">="

inductive Token.Kind where
  | root
  | current
  | dot
  | openBracket
  | closeBracket
  | openBrace
  | closeBrace
  | openParen
  | closeParen
  | property
  | number
  | string
  | star
  | comma
  | colon
  | bang
  | comparator (op : Comparator)
  | and
  | or
  | finish
deriving DecidableEq

/-- A token with the text it stands for and the byte offset of its first character. -/
structure Token where
  kind : Token.Kind
  text : String
  position : Nat
deriving DecidableEq

/-- How messages name a kind of token. -/
def Token.Kind.description : Token.Kind → String
  | root => "'$'"
  | current => "'@'"
  | dot => "'.'"
  | openBracket => "'['"
  | closeBracket => "']'"
  | openBrace => "'\x7b'"
  | closeBrace => "'\x7d'"
  | openParen => "'('"
  | closeParen => "')'"
  | property => "property name"
  | number => "number"
  | string => "string"
  | star => "'*'"
  | comma => "','"
  | colon => "':'"
  | bang => "'!'"
  | comparator op => "'" ++ op.symbol ++ "'"
  | and => "'&&'"
  | or => "'||'"
  | finish => "end of query"

/-- How messages name a token: names, numbers and strings by their text, others by their kind. -/
def Token.description (t : Token) : String :=
  match t.kind with
  | .property => "property '" ++ t.text ++ "'"
  | .number => "number " ++ t.text
  | .string => "string \"" ++ t.text ++ "\""
  | kind => kind.description

end PathQuery
