import PathQuery.Binary64.Arithmetic

/-!
JSON values. Members keep the order of the document, and a number is either an exact integer or a
binary64 number, so that `1` and `1.0` stay apart.
-/

namespace PathQuery

inductive Number where
  | int (n : Int)
  | float (x : Binary64)
deriving DecidableEq

inductive Json where
  | null
  | bool (b : Bool)
  | number (n : Number)
  | string (s : String)
  | array (items : List Json)
  | object (members : List (String × Json))

/-- The six types of JSON values. -/
inductive Json.Kind where
  | null
  | boolean
  | number
  | string
  | array
  | object
deriving DecidableEq

def Json.Kind.name : Json.Kind → String
  | null => "null"
  | boolean => "boolean"
  | number => "number"
  | string => "string"
  | array => "array"
  | object => "object"

namespace Number

def minInt64 : Int := -9223372036854775808

def maxInt64 : Int := 9223372036854775807

def maxUInt64 : Int := 18446744073709551615

def fitsInt64 (n : Int) : Bool :=
  minInt64 ≤ n && n ≤ maxInt64

/-- Integers from the least 64-bit signed one to the greatest 64-bit unsigned one. -/
def isExact (n : Int) : Bool :=
  minInt64 ≤ n && n ≤ maxUInt64

/-- The nearest binary64 number. Integers of the admitted range have one. -/
def toBinary64 : Number → Binary64
  | int n => (Binary64.ofInt n).getD Binary64.zero
  | float x => x

/-- Two integers compare exactly; with a float on either side both are taken as floats. -/
def compare : Number → Number → Ordering
  | int m, int n => Ord.compare m n
  | x, y => x.toBinary64.compare y.toBinary64

/-- A whole number in the range of 64-bit integers becomes an integer. The range is closed above at
`2 ^ 63`, which becomes the greatest integer. -/
def ofBinary64 (x : Binary64) : Number :=
  match x.toInt? with
  | some n => if minInt64 ≤ n && n ≤ maxInt64 + 1 then int (min n maxInt64) else float x
  | none => float x

end Number

namespace Json

/-- A result of arithmetic; one that is not finite becomes null. -/
def ofBinary64 : Option Binary64 → Json
  | some x => number (Number.ofBinary64 x)
  | none => null

def kind : Json → Kind
  | null => .null
  | bool _ => .boolean
  | number _ => .number
  | string _ => .string
  | array _ => .array
  | object _ => .object

def isScalar : Json → Bool
  | array _ | object _ => false
  | _ => true

/-- A repeated name keeps its first place and takes the last value. -/
def insertMember (name : String) (value : Json) :
    List (String × Json) → List (String × Json)
  | [] => [(name, value)]
  | (n, v) :: rest =>
    if n = name then (n, value) :: rest else (n, v) :: insertMember name value rest

/-- The object with these members, repeated names merged. -/
def ofMembers (members : List (String × Json)) : Json :=
  object (members.foldl (fun acc m => insertMember m.1 m.2 acc) [])

end Json

end PathQuery
