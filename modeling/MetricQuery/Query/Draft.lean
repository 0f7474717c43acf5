import MetricQuery.Placeholder
import MetricQuery.Query.Error
import MetricQuery.Trace

namespace MetricQuery

/-- One step in the description of a query. -/
inductive Setting where
  | pattern (text : String)
  | attributeName (name : String)
  | attributeNames (names : List String)
  | key (name : String)
  | keys (names : List String)
  | typeName (name : String)
  | typeNames (names : List String)
  | resultAlias (name : String)
  | domainAsKey (flag : Bool)
  | dottedKeys (flag : Bool)
  | allTypeNames (flag : Bool)
  | sink (factory : SinkFactory)
  | sinks (factories : List SinkFactory)

/-- A query that is being described. Nothing in it has been checked yet. -/
structure Draft where
  pattern : String := ""
  attributeNames : List String := []
  keys : List String := []
  typeNames : List String := []
  resultAlias : Option String := none
  domainAsKey : Bool := false
  dottedKeys : Bool := false
  allTypeNames : Bool := false
  factories : List SinkFactory := []

namespace Draft

/-- Lists grow at their end, and of other settings the last one counts. -/
def set (draft : Draft) : Setting → Draft
  | .pattern text => { draft with pattern := text }
  | .attributeName name => { draft with attributeNames := draft.attributeNames ++ [name] }
  | .attributeNames names => { draft with attributeNames := draft.attributeNames ++ names }
  | .key name => { draft with keys := draft.keys ++ [name] }
  | .keys names => { draft with keys := draft.keys ++ names }
  | .typeName name => { draft with typeNames := draft.typeNames ++ [name] }
  | .typeNames names => { draft with typeNames := draft.typeNames ++ names }
  | .resultAlias name => { draft with resultAlias := some name }
  | .domainAsKey flag => { draft with domainAsKey := flag }
  | .dottedKeys flag => { draft with dottedKeys := flag }
  | .allTypeNames flag => { draft with allTypeNames := flag }
  | .sink factory => { draft with factories := draft.factories ++ [factory] }
  | .sinks factories => { draft with factories := draft.factories ++ factories }

def ofSettings (settings : List Setting) : Draft := settings.foldl set {}

end Draft

/-- Creating a recorder is recorded, also when it fails. -/
def SinkFactory.create : SinkFactory → Traced String Sink
  | .recorder label none writeFault => ⟨[.created label], .ok (.recorder label writeFault)⟩
  | .recorder label (some fault) _ => ⟨[.created label], .error fault⟩
  | .log level => pure (.log level)

/-- Creates one sink for each factory, in order, up to the first one that fails. -/
def createSinks (index : Nat) : List SinkFactory → Traced QueryError (List Sink)
  | [] => pure []
  | factory :: rest => do
    let sink ← factory.create.mapError (.sinkConstruction index)
    let others ← createSinks (index + 1) rest
    pure (sink :: others)

/-- Checks the pattern, creates the sinks, and expands the placeholders in attribute names and
keys. -/
def Draft.build (environment : Environment) (draft : Draft) : Traced QueryError Query := do
  let pattern ← .of ((NamePattern.parse draft.pattern).mapError (.invalidPattern draft.pattern))
  let sinks ← createSinks 0 draft.factories
  pure {
    pattern, sinks
    keys := draft.keys.map (Placeholder.expand environment.lookup)
    attributeNames := draft.attributeNames.map (Placeholder.expand environment.lookup)
    typeNames := draft.typeNames.eraseDups
    resultAlias := draft.resultAlias
    domainAsKey := draft.domainAsKey
    dottedKeys := draft.dottedKeys
    allTypeNames := draft.allTypeNames
    factories := draft.factories }

end MetricQuery
