import PathQuery.Function.Registry
import PathQuery.Unicode.Lowercase

/-!
The manual: an overview and one page for each category.
-/

namespace PathQuery.Manual

inductive Category where
  | syntaxRules
  | conditions
  | functions
  | config
deriving DecidableEq

/-- The category of a name, whatever its case; hyphens and underscores are the same. -/
def Category.ofName? (name : String) : Option Category :=
  let plain := (Unicode.lowercase name).toList.map fun c => if c = '-' then '_' else c
  let name := String.ofList plain
  if ["syntax", "paths"].contains name then some .syntaxRules
  else if ["conditions", "condition", "operators", "ops"].contains name then some .conditions
  else if ["functions", "function", "fns"].contains name then some .functions
  else if ["config", "configuration", "fallback", "aliases"].contains name then some .config
  else none

/-- Each line is closed by a line break. -/
def lines (ls : List String) : String :=
  String.join (ls.map fun l => l ++ "\n")

/-- What the program does and which categories the manual has. -/
def overview : String :=
  lines
    ["JSIFT DOCUMENTATION",
     "",
     "jsift evaluates path queries against JSON documents. A query starts at the",
     "root ($), walks properties, indexes, slices and wildcards, may call",
     "functions, and may end in a comparison that turns the result into true or",
     "false.",
     "",
     "DOCUMENTATION CATEGORIES",
     "",
     "  syntax            Root, properties, indexes, slices, wildcards, key groups",
     "  conditions        Comparisons, &&, ||, !, grouping and operand paths",
     "  functions         Built-in functions callable as pipeline steps",
     "  config            Aliases, fallback strategies and fuzzy key matching",
     "",
     "QUICK REFERENCE",
     "",
     "  $                 Root document",
     "  $.user.name       Property access",
     "  $.items[0]        Array index (negative counts from the end)",
     "  $.items[1:3]      Slice",
     "  $.items.*         Every element or member",
     "  $.user\x7bname,age\x7d  Key group",
     "  $.user!\x7bpassword\x7d Everything except the listed keys",
     "  .length()         Function call",
     "  $.age > 18        Comparison",
     "",
     "Run 'jsift doc <category>' for detailed documentation."]

/-- How paths are written. -/
def syntaxPage : String :=
  lines
    ["SYNTAX",
     "",
     "ROOT",
     "  $                     The evaluation base. Optional at the start of a query:",
     "                        'user.name' and '$.user.name' are the same query.",
     "",
     "PROPERTIES",
     "  .name                 Member of an object",
     "  [\"first name\"]        Member whose name needs quoting",
     "  .\"first name\"         Same, dotted spelling",
     "",
     "ARRAYS",
     "  [0]                   First element",
     "  [-1]                  Last element",
     "  [1:3]                 Elements 1 and 2",
     "  [::-1]                Every element, reversed",
     "  [::2]                 Every other element",
     "",
     "WILDCARDS",
     "  .*                    Every member value of an object, or every element",
     "  [*]                   Same",
     "",
     "KEY GROUPS",
     "  \x7ba, b\x7d                Members a and b, in that order",
     "  [\"a\", \"b\"]            Same",
     "  !\x7bpassword\x7d           The object without the listed members",
     "",
     "RESULT SHAPE",
     "  A path that selects one value per step returns that value. Wildcards,",
     "  slices and key groups fan out and return a list."]

/-- How conditions are written. -/
def conditionsPage : String :=
  lines
    ["CONDITIONS",
     "",
     "COMPARISONS",
     "  ==  !=                Equality; values of different types are never equal",
     "  <  <=  >  >=          Ordering; both sides must be numbers or both strings",
     "",
     "CONNECTIVES",
     "  &&  and               Both sides true (binds tighter than ||)",
     "  ||  or                Either side true",
     "  !                     Negation",
     "  ( ... )               Grouping",
     "",
     "OPERANDS",
     "  42  \"text\"  true  null      Literals",
     "  $.path                      Absolute path from the evaluation base",
     "  @  @.field  .field  field   Relative to the values flowing into the condition",
     "",
     "After path steps, relative operands read the selected value, not the",
     "document. In  $.a > 1 && .b < 2  the .b is looked up inside $.a;",
     "write $.b to read from the document.",
     "",
     "A comparison right after path steps compares the selected value:",
     "",
     "  $.age > 18",
     "  $.user.role == \"admin\" || $.user.role == \"owner\"",
     "",
     "Inside filter() the condition is evaluated once per element:",
     "",
     "  $.users.filter(.age >= 18 && !(.banned == true))"]

/-- What a configuration holds. -/
def configPage : String :=
  lines
    ["CONFIGURATION",
     "",
     "Passed as JSON with --config FILE. Every section is optional.",
     "",
     "  \x7b",
     "    \"aliases\": [ \x7b \"alias\": \"u\", \"path\": \"$.user.name\" \x7d ],",
     "    \"fallback\": \x7b",
     "      \"strategy\": \"infer\",",
     "      \"inferRules\": \x7b",
     "        \"alternateKeys\": [\"fullName\"],",
     "        \"alternateQueries\": [\"$.profile.name\"],",
     "        \"exhausted\": \x7b \"strategy\": \"default\", \"value\": \"N/A\" \x7d",
     "      \x7d",
     "    \x7d,",
     "    \"fuzzy\": \x7b \"enabled\": true, \"distance\": 1, \"limit\": 1, " ++
       "\"ignoreCase\": false \x7d",
     "  \x7d",
     "",
     "ALIASES",
     "  A property step named like an alias is replaced by the alias path. Alias",
     "  paths are absolute: '$.x.u' evaluates '$.user.name'.",
     "",
     "FALLBACK STRATEGIES (when a step does not resolve)",
     "  error                 Fail with a path-not-found error (default)",
     "  default               Substitute \"value\"",
     "  skip                  Drop the element and carry on",
     "  infer                 Try alternateKeys on the same object, then",
     "                        alternateQueries from the base, then \"exhausted\"",
     "",
     "FUZZY MATCHING",
     "  When a key is missing, keys within \"distance\" edits (insert, delete,",
     "  substitute, swap two adjacent characters) are candidates. The closest",
     "  \"limit\" candidates survive; exactly one survivor is used, otherwise the",
     "  lookup falls back. \"limit\": 0 keeps no candidate."]

/-- How the arguments of a function are shown. -/
def argumentsText (e : FunctionEntry) : String :=
  if e.least = 0 ∧ e.greatest = 0 then ""
  else if e.least = 1 ∧ e.greatest = 1 then "arg"
  else toString e.least ++ ".." ++ toString e.greatest ++ " args"

/-- The text followed by blanks up to the given width. -/
def padRight (width : Nat) (s : String) : String :=
  s ++ String.ofList (List.replicate (width - s.length) ' ')

def functionLine (e : FunctionEntry) : String :=
  "  " ++ padRight 18 (e.name ++ "(" ++ argumentsText e ++ ")") ++ e.summary

/-- The functions of a registry in the order of their names. -/
def functionsPage (r : Registry) : String :=
  lines
    (["FUNCTIONS",
      "",
      "Functions are pipeline steps: they receive every value selected so far.",
      "A single array selected by a definite path is opened into its elements,",
      "so $.users.length() counts users.",
      ""] ++ r.sorted.map functionLine ++
      ["",
       "EXAMPLES",
       "",
       "  $.users.map(.name)",
       "  $.users.filter(.age >= 18 && .active == true)",
       "  $.tags.unique().sort()",
       "  $.prices.sum()",
       "  $.emails.matches(\"@example\\.com$\")"])

def page : Category → String
  | .syntaxRules => syntaxPage
  | .conditions => conditionsPage
  | .functions => functionsPage .standard
  | .config => configPage

end PathQuery.Manual
