import PathQuery.Query.Token

/-!
What can be wrong with a query text, and where.
-/

namespace PathQuery

inductive SyntaxFault where
  | unterminatedString
  | invalidEscape (c : Char)
  | invalidUnicodeEscape
  | malformedNumber (text : String)
  | singleEquals
  | singleAmpersand
  | singleBar
  | unexpectedCharacter (c : Char)
  | expected (what : String) (got : Token)
  | expectedInteger (text : String)
  | emptyBrackets
  | emptyKeyList
  | zeroStep
  | stepAfterCondition
  | nestingTooDeep

def SyntaxFault.message : SyntaxFault → String
  | unterminatedString => "Unterminated string"
  | invalidEscape c => "Invalid escape sequence '\\" ++ c.toString ++ "'"
  | invalidUnicodeEscape => "Invalid unicode escape"
  | malformedNumber text => "Invalid number '" ++ text ++ "'"
  | singleEquals => "Unexpected '=' (did you mean '=='?)"
  | singleAmpersand => "Unexpected '&' (did you mean '&&'?)"
  | singleBar => "Unexpected '|' (did you mean '||'?)"
  | unexpectedCharacter c => "Unexpected character '" ++ c.toString ++ "'"
  | expected what got => "Expected " ++ what ++ ", got " ++ got.description
  | expectedInteger text => "Expected integer, got " ++ text
  | emptyBrackets => "Empty brackets"
  | emptyKeyList => "Empty key list"
  | zeroStep => "Slice step cannot be zero"
  | stepAfterCondition => "Path step cannot follow a condition"
  | nestingTooDeep => "Query is nested too deeply"

/-- A fault at a byte offset of the query text. -/
structure SyntaxError where
  fault : SyntaxFault
  position : Nat

def SyntaxError.message (e : SyntaxError) : String :=
  e.fault.message

end PathQuery
