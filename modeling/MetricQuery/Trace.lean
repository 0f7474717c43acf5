import MetricQuery.Query
import MetricQuery.Sample
import MetricQuery.Server.Endpoint

namespace MetricQuery

/-- What a sink is given: the samples of one run of a query on one server. -/
structure Batch where
  endpoint : Endpoint
  query : Query
  samples : List Sample

/-- What can be observed from outside while queries are built and run. -/
inductive Event where
  | logged (entry : LogEntry)
  | created (label : String)
  | written (label : String) (batch : Batch)

/-- The result of a computation and the events that have led to it. -/
structure Traced (ε α : Type) where
  events : List Event
  result : Except ε α

namespace Traced

/-- The second computation happens only if the first one has not failed. -/
def andThen {ε α β : Type} (first : Traced ε α) (next : α → Traced ε β) : Traced ε β :=
  match first.result with
  | .error failure => ⟨first.events, .error failure⟩
  | .ok value => ⟨first.events ++ (next value).events, (next value).result⟩

instance {ε : Type} : Monad (Traced ε) where
  pure value := ⟨[], .ok value⟩
  bind := andThen

def of {ε α : Type} (result : Except ε α) : Traced ε α := ⟨[], result⟩

def fail {ε α : Type} (failure : ε) : Traced ε α := ⟨[], .error failure⟩

def emit {ε : Type} (event : Event) : Traced ε Unit := ⟨[event], .ok ()⟩

def log {ε : Type} (level : LogLevel) (source : LogSource) (text : String) : Traced ε Unit :=
  emit (.logged ⟨level, source, text⟩)

def mapError {ε δ α : Type} (f : ε → δ) (traced : Traced ε α) : Traced δ α :=
  ⟨traced.events, traced.result.mapError f⟩

end Traced

end MetricQuery
