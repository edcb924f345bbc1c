/-!
The command line: which command the arguments give, with which options.

An option has a long name behind two hyphens, and most have a one-letter name behind one. A value
follows as the next argument, behind an equals sign, or right behind the letter. Letters without
values can stand together. Each option is given once at most, and two hyphens end the options.
-/

namespace PathQuery

/-- Options and operand of the command that checks a query. -/
structure CheckArguments where
  query : String
  input : Option String
  config : Option String
  pretty : Bool
  syntaxOnly : Bool
  verbose : Bool
deriving DecidableEq

inductive Topic where
  | program
  | check
  | docs
  | doc
deriving DecidableEq

inductive Command where
  | check (args : CheckArguments)
  | docs
  | doc (category : String)
  | help (topic : Topic)
  | version
deriving DecidableEq

namespace Command

/-- The options of a command, known by either name. -/
inductive Flag where
  | input
  | config
  | pretty
  | syntaxOnly
  | verbose
  | help
deriving DecidableEq

namespace Flag

def ofLong? (name : String) : Option Flag :=
  match name with
  | "input" => some input
  | "config" => some config
  | "pretty" => some pretty
  | "syntax-only" => some syntaxOnly
  | "verbose" => some verbose
  | "help" => some help
  | _ => none

def ofShort? (c : Char) : Option Flag :=
  match c with
  | 'i' => some input
  | 'c' => some config
  | 'p' => some pretty
  | 'v' => some verbose
  | 'h' => some help
  | _ => none

def takesValue : Flag → Bool
  | input | config => true
  | _ => false

/-- The name of a file cannot be empty. -/
def admits (f : Flag) (value : String) : Bool :=
  f != config || value != ""

end Flag

/-- Options and operands in the order they were given. A request for help ends the list. -/
inductive Item where
  | option (f : Flag) (value : String)
  | operand (s : String)
deriving DecidableEq

/-- An argument that can be the value of an option: no option itself. -/
def isValue (arg : String) : Bool :=
  arg.toList.head? != some '-' || arg == "-"

/-- An option without its value, if that is to follow as an argument of its own. -/
abbrev Pending := List Item × Option Flag

/-- The letters behind a single hyphen. -/
def letters? (known : Flag → Bool) : List Char → Option Pending
  | [] => some ([], none)
  | c :: cs => do
    let f ← Flag.ofShort? c
    if !known f then none
    else if f.takesValue then
      match cs with
      | [] => return ([], some f)
      | '=' :: value => return ([.option f (String.ofList value)], none)
      | value => return ([.option f (String.ofList value)], none)
    else if f = .help then return ([.option f ""], none)
    else
      let (items, pending) ← letters? known cs
      return (.option f "" :: items, pending)

/-- A long name, perhaps with a value behind an equals sign. -/
def long? (known : Flag → Bool) (cs : List Char) : Option Pending := do
  let f ← Flag.ofLong? (String.ofList (cs.takeWhile (· != '=')))
  if !known f then none
  else
    match cs.dropWhile (· != '=') with
    | _ :: value => if f.takesValue then return ([.option f (String.ofList value)], none) else none
    | [] => return if f.takesValue then ([], some f) else ([.option f ""], none)

def isHelp (items : List Item) : Bool :=
  items.any fun i => i == .option .help ""

/-- What one argument gives; `none` for an option that is not known. -/
def argument? (known : Flag → Bool) (arg : String) : Option Pending :=
  match arg.toList with
  | '-' :: '-' :: cs => long? known cs
  | '-' :: c :: cs => letters? known (c :: cs)
  | _ => some ([.operand arg], none)

/-- The items of an argument list, the first being the value of the pending option. -/
def items? (known : Flag → Bool) : Option Flag → List String → Option (List Item)
  | none, [] => some []
  | some _, [] => none
  | some f, value :: rest =>
    if isValue value then (items? known none rest).map (.option f value :: ·) else none
  | none, arg :: rest =>
    if arg = "--" then some (rest.map .operand)
    else
      match argument? known arg with
      | none => none
      | some (items, pending) =>
        if isHelp items then some items
        else (items? known pending rest).map (items ++ ·)

def valuesOf (f : Flag) (items : List Item) : List String :=
  items.filterMap fun i =>
    match i with
    | .option g value => if g = f then some value else none
    | .operand _ => none

def operandsOf (items : List Item) : List String :=
  items.filterMap fun i =>
    match i with
    | .operand s => some s
    | .option _ _ => none

/-- The value of an option that is given once at most. -/
def single? (f : Flag) (items : List Item) : Option (Option String) :=
  match valuesOf f items with
  | [] => some none
  | [value] => if f.admits value then some (some value) else none
  | _ => none

/-- What stands before a request for help has to be right, but need not be complete. -/
def check? (args : List String) : Option Command := do
  let items ← items? (fun _ => true) none args
  let input ← single? .input items
  let config ← single? .config items
  let pretty ← single? .pretty items
  let syntaxOnly ← single? .syntaxOnly items
  let verbose ← single? .verbose items
  match operandsOf items with
  | [] => if isHelp items then return .help .check else none
  | [query] =>
    if isHelp items then return .help .check
    else return .check ⟨query, input, config, pretty.isSome, syntaxOnly.isSome, verbose.isSome⟩
  | _ => none

/-- The operands of a command whose only option is the one for help, and whether help was asked
for. -/
def operands? (args : List String) : Option (List String × Bool) := do
  let items ← items? (fun f => f == .help) none args
  return (operandsOf items, isHelp items)

def docs? (args : List String) : Option Command := do
  match ← operands? args with
  | ([], asked) => return if asked then .help .docs else .docs
  | _ => none

def doc? (args : List String) : Option Command := do
  match ← operands? args with
  | ([category], asked) => return if asked then .help .doc else .doc category
  | ([], true) => return .help .doc
  | _ => none

def help? : List String → Option Command
  | [] => some (.help .program)
  | ["check"] => some (.help .check)
  | ["docs"] => some (.help .docs)
  | ["doc"] => some (.help .doc)
  | ["help"] => some (.help .program)
  | _ => none

/-- The command that arguments give; `none` for arguments that give none. Letters behind one that
asks for help or for the version are not looked at. -/
def ofArguments? : List String → Option Command
  | [] => none
  | arg :: rest =>
    match arg with
    | "check" => check? rest
    | "docs" => docs? rest
    | "doc" => doc? rest
    | "help" => help? rest
    | "--help" => some (.help .program)
    | "--version" => some .version
    | _ =>
      match arg.toList with
      | '-' :: 'h' :: _ => some (.help .program)
      | '-' :: 'V' :: _ => some .version
      | _ => none

end Command

end PathQuery
