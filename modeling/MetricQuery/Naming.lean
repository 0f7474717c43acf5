import MetricQuery.Name.Properties

namespace MetricQuery

/-- How the part of a key that tells resources apart is made from their properties: it is given,
or the values of some properties come before it, or all properties are spelled out. -/
inductive Naming where
  | plain (separator : String)
  | leading (separator : String) (typeNames : List String)
  | everything (separator : String)
deriving DecidableEq, Repr

namespace Naming

def separatorFor (dottedKeys : Bool) : String := if dottedKeys then "." else "_"

def choose (typeNames : List String) (dottedKeys allTypeNames : Bool) : Naming :=
  if allTypeNames then .everything (separatorFor dottedKeys)
  else if typeNames.isEmpty then .plain (separatorFor dottedKeys)
  else .leading (separatorFor dottedKeys) typeNames

def separator : Naming → String
  | .plain separator => separator
  | .leading separator _ => separator
  | .everything separator => separator

/-- The fragment for one resource. Properties that it lacks and an empty given part leave no
trace. -/
def fragment (naming : Naming) (properties : Properties) (given : Option String) : String :=
  match naming with
  | .plain _ => given.getD ""
  | .leading separator typeNames =>
    separator.intercalate
      (typeNames.filterMap properties.get? ++ (given.filter fun part => part ≠ "").toList)
  | .everything separator =>
    separator.intercalate (properties.entries.flatMap fun (key, value) => [key, value])

end Naming

end MetricQuery
