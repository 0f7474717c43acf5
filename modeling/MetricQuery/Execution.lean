import MetricQuery.Sampling
import MetricQuery.Server.Management
import MetricQuery.Sink.Delivery

namespace MetricQuery

/-- What the execution of a query has brought: the resources that were found, the samples of those
that could be fetched, and an error for each of the others. -/
structure Execution where
  resources : List ResourceName
  samples : List Sample
  failures : List QueryError

def Execution.isComplete (execution : Execution) : Bool := execution.failures.isEmpty

namespace Query

variable {σ : Type} [Management σ]

def discover (query : Query) (server : σ) : Except QueryError (List ResourceName) :=
  (Management.names server query.pattern).mapError (.discovery query.pattern.display)

/-- The attributes to fetch from a resource: those of the query, or all if it names none. -/
def requested (query : Query) (server : σ) (name : ResourceName) :
    Except ServerFailure (List String) :=
  if query.attributeNames.isEmpty then Management.attributeNames server name
  else .ok query.attributeNames

def fetchError (query : Query) (name : ResourceName) (names : List String)
    (cause : ServerFailure) : QueryError :=
  .fetch query.pattern.display name.display names cause

/-- Turns the answer of a server to a fetch into samples. Values of an unknown class are passed
over. -/
def collect (sampling : Sampling) (query : Query) (name : ResourceName) (className : String)
    (names : List String) (server : σ) (answer : Except ServerFailure (List Attribute)) :
    Traced QueryError (List Sample) := do
  .log .debug .execution
    ("Executing resource [" ++ name.canonical ++ "] from query [" ++ query.display ++ "]")
  match answer with
  | .error cause =>
    if cause.isBenign then
      .log .debug .execution ("Bad unmarshall, continuing: " ++ cause.message)
      pure []
    else .fail (query.fetchError name names cause)
  | .ok attributes =>
    match Management.domain server name with
    | .error cause => .fail (query.fetchError name names cause)
    | .ok domain =>
      pure (sampling.samples query ⟨name, className, domain, attributes,
        sampling.time name⟩)

/-- Fetches the values of one resource. Nothing is fetched if there is nothing to ask for. -/
def fetch (sampling : Sampling) (query : Query) (name : ResourceName) (server : σ) :
    σ × Traced QueryError (List Sample) :=
  match Management.className server name with
  | .error cause => (server, .fail (query.fetchError name [] cause))
  | .ok className =>
    match query.requested server name with
    | .error cause => (server, .fail (query.fetchError name [] cause))
    | .ok [] => (server, pure [])
    | .ok names =>
      let (server, answer) := Management.attributeValues server name names
      (server, query.collect sampling name className names server answer)

/-- Fetches from resources in order. One that fails is logged and passed over. -/
def fetchAll (sampling : Sampling) (query : Query) :
    List ResourceName → σ → σ × List Event × List Sample × List QueryError
  | [], server => (server, [], [], [])
  | name :: rest, server =>
    let (server, fetched) := query.fetch sampling name server
    let (server, events, samples, failures) := fetchAll sampling query rest server
    match fetched.result with
    | .ok found => (server, fetched.events ++ events, found ++ samples, failures)
    | .error error =>
      let skipped := .logged ⟨.warn, .execution,
        "Skipping resource " ++ name.display ++ ": " ++ error.message⟩
      (server, fetched.events ++ skipped :: events, samples, error :: failures)

/-- Finds the resources of a query and fetches from each of them. -/
def execute (sampling : Sampling) (query : Query) (server : σ) :
    σ × Traced QueryError Execution :=
  match query.discover server with
  | .error error => (server, .fail error)
  | .ok names =>
    let (server, events, samples, failures) := query.fetchAll sampling names server
    (server, ⟨events, .ok ⟨names, samples, failures⟩⟩)

/-- Executes a query and delivers its samples as one batch. -/
def run {ω : Type} [Outlet ω] (sampling : Sampling) (endpoint : Endpoint) (query : Query)
    (server : σ) (outlet : ω) : σ × ω × Traced QueryError Execution :=
  let (server, executed) := query.execute sampling server
  match executed.result with
  | .error error => (server, outlet, ⟨executed.events, .error error⟩)
  | .ok execution =>
    let (outlet, delivered) := deliver endpoint query execution.samples outlet
    (server, outlet,
      ⟨executed.events ++ delivered.events, delivered.result.map fun () => execution⟩)

end Query

end MetricQuery
