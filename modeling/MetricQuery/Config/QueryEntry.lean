import MetricQuery.Config.SinkEntry
import MetricQuery.Json.Layout
import MetricQuery.Query.Draft
import MetricQuery.Sink.Registry

namespace MetricQuery

/-- A query as a configuration describes it. A list that is absent is not the same as an empty
one. -/
structure QueryEntry where
  pattern : String
  attributeNames : Option (List String) := none
  typeNames : Option (List String) := none
  resultAlias : Option String := none
  keys : Option (List String) := none
  dottedKeys : Bool := false
  allTypeNames : Bool := false
  sinks : Option (List SinkEntry) := none
  domainAsKey : Bool := false

namespace QueryEntry

inductive Field where
  | pattern (text : String)
  | attributeNames (names : Option (List String))
  | typeNames (names : Option (List String))
  | resultAlias (name : Option String)
  | keys (names : Option (List String))
  | dottedKeys (flag : Bool)
  | allTypeNames (flag : Bool)
  | sinks (entries : Option (List SinkEntry))
  | domainAsKey (flag : Bool)

namespace Field

def pattern? : Field → Option String
  | pattern text => some text
  | _ => none

def attributeNames? : Field → Option (List String)
  | attributeNames names => names
  | _ => none

def typeNames? : Field → Option (List String)
  | typeNames names => names
  | _ => none

def resultAlias? : Field → Option String
  | resultAlias name => name
  | _ => none

def keys? : Field → Option (List String)
  | keys names => names
  | _ => none

def dottedKeys? : Field → Option Bool
  | dottedKeys flag => some flag
  | _ => none

def allTypeNames? : Field → Option Bool
  | allTypeNames flag => some flag
  | _ => none

def sinks? : Field → Option (List SinkEntry)
  | sinks entries => entries
  | _ => none

def domainAsKey? : Field → Option Bool
  | domainAsKey flag => some flag
  | _ => none

end Field

def build (fields : List Field) : Except String QueryEntry :=
  match fields.findSome? Field.pattern? with
  | none => .error "obj"
  | some pattern => .ok {
      pattern
      attributeNames := fields.findSome? Field.attributeNames?
      typeNames := fields.findSome? Field.typeNames?
      resultAlias := fields.findSome? Field.resultAlias?
      keys := fields.findSome? Field.keys?
      dottedKeys := (fields.findSome? Field.dottedKeys?).getD false
      allTypeNames := (fields.findSome? Field.allTypeNames?).getD false
      sinks := fields.findSome? Field.sinks?
      domainAsKey := (fields.findSome? Field.domainAsKey?).getD false }

def record : Json.Record Field QueryEntry where
  title := "struct QueryConfig"
  fields := [("obj", .map .pattern .text),
    ("attr", .map .attributeNames (.optional (.list .text))),
    ("typeNames", .map .typeNames (.optional (.list .text))),
    ("resultAlias", .map .resultAlias (.optional .text)),
    ("keys", .map .keys (.optional (.list .text))),
    ("allowDottedKeys", .map .dottedKeys .flag), ("useAllTypeNames", .map .allTypeNames .flag),
    ("outputWriters", .map .sinks (.optional (.list SinkEntry.decoder))),
    ("useObjDomainAsKey", .map .domainAsKey .flag)]
  build := build

def parse (text : String) : Except Json.Error QueryEntry := record.decoder.decode text

/-- What is absent is not written. -/
def toJson (entry : QueryEntry) : Json :=
  .objectOf [some ("obj", .text entry.pattern),
    entry.attributeNames.map fun names => ("attr", .texts names),
    entry.typeNames.map fun names => ("typeNames", .texts names),
    entry.resultAlias.map fun name => ("resultAlias", .text name),
    entry.keys.map fun names => ("keys", .texts names),
    some ("allowDottedKeys", .bool entry.dottedKeys),
    some ("useAllTypeNames", .bool entry.allTypeNames),
    entry.sinks.map fun sinks => ("outputWriters", .array (sinks.map SinkEntry.toJson)),
    some ("useObjDomainAsKey", .bool entry.domainAsKey)]

/-- Whether nothing but the pattern is given. -/
def isPlain (entry : QueryEntry) : Bool :=
  entry.attributeNames.isNone && entry.typeNames.isNone && entry.resultAlias.isNone &&
    entry.keys.isNone && !entry.dottedKeys && !entry.allTypeNames && entry.sinks.isNone &&
    !entry.domainAsKey

def draft (entry : QueryEntry) (factories : List SinkFactory) : Draft where
  pattern := entry.pattern
  attributeNames := entry.attributeNames.getD []
  keys := entry.keys.getD []
  typeNames := entry.typeNames.getD []
  resultAlias := entry.resultAlias
  domainAsKey := entry.domainAsKey
  dottedKeys := entry.dottedKeys
  allTypeNames := entry.allTypeNames
  factories := factories

/-- Resolves all sinks before anything else of the entry is looked at. -/
def toQuery (registry : SinkRegistry) (environment : Environment) (entry : QueryEntry) :
    Traced QueryError Query := do
  let factories ← .of <| (entry.sinks.getD []).mapM fun sink =>
    registry.resolve sink.type sink.settings
  (entry.draft factories).build environment

end QueryEntry

end MetricQuery
