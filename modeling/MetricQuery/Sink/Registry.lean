import MetricQuery.Query.Error
import MetricQuery.Trace

namespace MetricQuery

/-- Makes a factory from the settings of a sink, or says what is wrong with them. -/
abbrev SinkType := SinkSettings → Except String SinkFactory

/-- The known types of sinks by name. The latest registration of a name counts. -/
structure SinkRegistry where
  types : List (String × SinkType)

namespace SinkRegistry

def empty : SinkRegistry := ⟨[]⟩

def insert (registry : SinkRegistry) (name : String) (type : SinkType) : SinkRegistry :=
  ⟨(name, type) :: registry.types.filter fun (other, _) => other != name⟩

def register {ε : Type} (registry : SinkRegistry) (name : String) (type : SinkType) :
    Traced ε SinkRegistry := do
  .log .info .registry ("Registered output sink type: " ++ name)
  pure (registry.insert name type)

def size (registry : SinkRegistry) : Nat := registry.types.length

def contains (registry : SinkRegistry) (name : String) : Bool :=
  registry.types.any fun (other, _) => other == name

/-- The names of all types, sorted. -/
def names (registry : SinkRegistry) : List String :=
  (registry.types.map Prod.fst).mergeSort fun a b => decide (a ≤ b)

def resolve (registry : SinkRegistry) (name : String) (settings : SinkSettings) :
    Except QueryError SinkFactory :=
  match registry.types.lookup name with
  | none => .error (.unknownSinkType name)
  | some type => (type settings).mapError (.sinkSettings name)

end SinkRegistry

end MetricQuery
