import MetricQuery.Query.Error
import MetricQuery.Trace

namespace MetricQuery

/-- What a sink does with a batch. It may depend on everything that has been written before, to this
sink or to others. -/
class Outlet (ω : Type) where
  write : ω → Sink → Batch → ω × Traced String Unit

/-- A recorder keeps the whole batch before it may refuse it. A log sink writes the samples one by
one. -/
def Sink.write (batch : Batch) : Sink → Traced String Unit
  | .recorder label none => ⟨[.written label batch], .ok ()⟩
  | .recorder label (some fault) => ⟨[.written label batch], .error fault⟩
  | .log level =>
    ⟨batch.samples.map fun sample => .logged ⟨level, .logSink,
        "[" ++ batch.endpoint.label ++ "] " ++ sample.key batch.query.separator ++ " = " ++
          sample.value.display⟩,
      .ok ()⟩

/-- The sinks that are known here remember nothing. -/
structure KnownSinks where

instance : Outlet KnownSinks where
  write outlet sink batch := (outlet, sink.write batch)

section Writing

variable {ω : Type} [Outlet ω]

/-- Writes a batch to sinks in order, up to the first one that refuses it. -/
def writeAll (batch : Batch) (index : Nat) : List Sink → ω → ω × Traced QueryError Unit
  | [], outlet => (outlet, pure ())
  | sink :: rest, outlet =>
    let (outlet, written) := Outlet.write outlet sink batch
    match written.result with
    | .error cause =>
      (outlet, ⟨written.events, .error (.delivery index batch.query.pattern.display cause)⟩)
    | .ok () =>
      let (outlet, others) := writeAll batch (index + 1) rest outlet
      (outlet, ⟨written.events ++ others.events, others.result⟩)

/-- Delivers the samples of a query to all its sinks. -/
def deliver (endpoint : Endpoint) (query : Query) (samples : List Sample) (outlet : ω) :
    ω × Traced QueryError Unit :=
  let (outlet, written) := writeAll ⟨endpoint, query, samples⟩ 0 query.sinks outlet
  (outlet, do
    written
    .log .debug .delivery ("Finished running output sinks for query: " ++ query.display))

end Writing

end MetricQuery
