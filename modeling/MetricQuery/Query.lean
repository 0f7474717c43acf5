import MetricQuery.Name.Pattern
import MetricQuery.Naming
import MetricQuery.Sink
import MetricQuery.Text.Quoted

namespace MetricQuery

/-- What is asked of a server: the resources by a pattern, their attributes by name, and how the
keys of the samples are made. Each factory has created one sink. -/
structure Query where
  pattern : NamePattern
  keys : List String
  attributeNames : List String
  typeNames : List String
  resultAlias : Option String
  domainAsKey : Bool
  dottedKeys : Bool
  allTypeNames : Bool
  factories : List SinkFactory
  sinks : List Sink

namespace Query

def naming (query : Query) : Naming :=
  .choose query.typeNames query.dottedKeys query.allTypeNames

def separator (query : Query) : String := query.naming.separator

/-- Queries are equal when they ask for the same values under the same name; how keys are made
and what the sinks are does not count, only how many sinks there are. -/
instance : BEq Query where
  beq a b := a.pattern == b.pattern && a.keys == b.keys && a.attributeNames == b.attributeNames &&
    a.resultAlias == b.resultAlias && a.sinks.length == b.sinks.length

def hashInput (query : Query) : List HashInput :=
  query.pattern.hashInput ++ (HashInput.ofList HashInput.ofText query.keys ++
    (HashInput.ofList HashInput.ofText query.attributeNames ++
      (HashInput.ofOption query.resultAlias ++ [HashInput.number query.sinks.length])))

instance : Hashable Query where
  hash query := hash query.hashInput

def undotted (text : String) : String := text.map fun c => if c = '.' then '_' else c

/-- The first part of a key: the alias as it stands, or else the domain or the class, without
dots unless they are allowed. -/
def keyPrefix (query : Query) (className domain : String) : String :=
  match query.resultAlias with
  | some name => name
  | none =>
    let chosen := if query.domainAsKey then domain else className
    if query.dottedKeys then chosen else undotted chosen

def truth (flag : Bool) : String := if flag then "true" else "false"

def display (query : Query) : String :=
  "Query(obj=" ++ query.pattern.display ++ ", attr=" ++ quotedList query.attributeNames ++
    ", typeNames=" ++ quotedList query.typeNames ++ ", resultAlias=" ++
    quotedOption query.resultAlias ++ ", keys=" ++ quotedList query.keys ++
    ", allowDottedKeys=" ++ truth query.dottedKeys ++ ", useAllTypeNames=" ++
    truth query.allTypeNames ++ ", useObjDomainAsKey=" ++ truth query.domainAsKey ++ ")"

end Query

end MetricQuery
