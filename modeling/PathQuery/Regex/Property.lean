import PathQuery.Unicode.Property.Name

/-!
Character properties as regular expressions name them. Case, blanks, hyphens, underscores and a
leading `is` make no difference in a name.
-/

namespace PathQuery.Regex

open Unicode (Ranges)

/-- A property's name as it is looked up. The name `isc` is no category with `is` before it. -/
def plainName (name : List Char) : String :=
  let kept (cs : List Char) : List Char :=
    (cs.filter fun c => c.toNat < 128 && c != ' ' && c != '_' && c != '-').map Char.toLower
  match name with
  | i :: s :: rest =>
    if i.toLower = 'i' && s.toLower = 's' then
      let cs := kept rest
      if cs = ['c'] then "isc" else String.ofList cs
    else String.ofList (kept name)
  | _ => String.ofList (kept name)

/-- A property by one name. -/
def property? (name : List Char) : Option Ranges :=
  Unicode.property? (plainName name)

/-- A property by the name of what it tells and the value that it has. -/
def propertyValue? (name value : List Char) : Option Ranges :=
  Unicode.propertyValue? (plainName name) (plainName value)

/-- The text in braces that names a property: a name, or a name and a value with a sign between. The
sign of inequality does the same as the others. -/
def namedProperty? (body : List Char) : Option Ranges :=
  match breakAtUnequal body with
  | some (name, value) => propertyValue? name value
  | none =>
    match body.dropWhile (· != ':'), body.dropWhile (· != '=') with
    | _ :: value, _ => propertyValue? (body.takeWhile (· != ':')) value
    | [], _ :: value => propertyValue? (body.takeWhile (· != '=')) value
    | [], [] => property? body
where
  breakAtUnequal : List Char → Option (List Char × List Char)
    | '!' :: '=' :: value => some ([], value)
    | c :: cs => (breakAtUnequal cs).map fun (name, value) => (c :: name, value)
    | [] => none

end PathQuery.Regex
