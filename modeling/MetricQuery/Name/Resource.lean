import MetricQuery.Name.Pattern

namespace MetricQuery

/-- The name of exactly one resource. -/
structure ResourceName where
  domain : String
  properties : Properties
deriving Repr

namespace ResourceName

/-- A concrete name is a pattern in which nothing is wild. -/
def parse (text : String) : Except NameError ResourceName := do
  let pattern ← NamePattern.parse text
  if pattern.isWild then .error ⟨text, .wildcard⟩
  else .ok ⟨pattern.domain, pattern.properties⟩

def display (name : ResourceName) : String :=
  name.domain ++ ":" ++ name.properties.written

def canonical (name : ResourceName) : String :=
  NamePattern.assemble name.domain name.properties.canonical false

def toPattern (name : ResourceName) : NamePattern :=
  ⟨name.domain, name.properties, false⟩

instance : BEq ResourceName where
  beq a b := a.domain == b.domain && a.properties == b.properties

def hashInput (name : ResourceName) : List HashInput :=
  .text name.domain :: name.properties.hashInput

instance : Hashable ResourceName where
  hash name := hash name.hashInput

end ResourceName

/-- A resource falls under a pattern when its domain and its value for each key of the pattern
are accepted, and when it has no further property unless the pattern is open-ended. -/
def NamePattern.covers (pattern : NamePattern) (name : ResourceName) : Bool :=
  accepts pattern.domain.toList name.domain.toList &&
    (pattern.openEnded || pattern.properties.size == name.properties.size) &&
    pattern.properties.entries.all fun (key, expected) =>
      match name.properties.get? key with
      | some actual => accepts expected.toList actual.toList
      | none => false

end MetricQuery
