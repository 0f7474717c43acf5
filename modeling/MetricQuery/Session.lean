import MetricQuery.Config.QueryEntry
import MetricQuery.Execution
import MetricQuery.Server.Rehearsal
import MetricQuery.Server.Snapshot

namespace MetricQuery

/-- A value as it is given to a session: the name of an attribute and the text of its value. -/
structure WrittenAttribute where
  name : String
  value : String

/-- A sample whose value has not been read yet. -/
structure WrittenSample where
  value : String
  withValue : Value → Sample

/-- What can be asked of a session. Names, values and configurations are texts that still have to
be read. -/
inductive Command where
  | load (snapshot : String)
  | register (name className : String) (attributes : List WrittenAttribute)
  | remove (name : String)
  | failFetch (name : String) (failure : ServerFailure)
  | failDiscovery (failure : ServerFailure)
  | clearFailures
  | failDescription (call : Description) (name : String) (failure : ServerFailure)
  | setDomain (name domain : String)
  | clearDescriptions
  | names (pattern : String)
  | attributeNames (name : String)
  | className (name : String)
  | domain (name : String)
  | attributeValues (name : String) (names : List String)
  | counts
  | define (query : String) (settings : List Setting)
  | defineFrom (query config : String)
  | discover (query : String)
  | fetch (query name : String) (path : List String)
  | execute (query : String) (path : List String)
  | run (query : String) (endpoint : Endpoint) (path : List String)
  | deliver (query : String) (endpoint : Endpoint) (samples : List WrittenSample)

inductive Reply where
  | done
  | flag (value : Bool)
  | text (content : String)
  | texts (items : List String)
  | count (number : Nat)
  | counts (resources fetches : Nat)
  | attributes (values : List Attribute)
  | samples (query : Query) (items : List Sample)
  | execution (query : Query) (outcome : Execution)

inductive SessionError where
  | name (cause : NameError)
  | json (cause : Json.Error)
  | server (cause : ServerFailure)
  | query (cause : QueryError)
  | noSuchQuery

/-- A server to try things on, and queries by name. -/
structure Session where
  rehearsal : Rehearsal := {}
  queries : List (String × Query) := []

def WrittenAttribute.read (written : WrittenAttribute) : Except Json.Error Attribute := do
  let value ← Value.parse written.value
  .ok ⟨written.name, value⟩

def WrittenSample.read (written : WrittenSample) : Except Json.Error Sample := do
  let value ← Value.parse written.value
  .ok (written.withValue value)

namespace Session

abbrev Answer := Traced SessionError Reply

def answer {ε α : Type} (wrap : ε → SessionError) (reply : α → Reply) (result : Except ε α) : Answer :=
  .of ((result.mapError wrap).map reply)

def sampling (path : List String) : Sampling := Sampling.below path { time := fun _ => 0 }

/-- Sets a query only if it could be built. -/
def define (session : Session) (name : String) (built : Traced QueryError Query) :
    Session × Answer :=
  match built.result with
  | .error error => (session, ⟨built.events, .error (.query error)⟩)
  | .ok query =>
    ({ session with queries := (name, query) :: session.queries },
      ⟨built.events, .ok (.text query.display)⟩)

/-- Changes the server under a name that must be well-formed. -/
def change (session : Session) (name : String) (step : ResourceName → Rehearsal × Reply) :
    Session × Answer :=
  match ResourceName.parse name with
  | .error error => (session, .fail (.name error))
  | .ok name =>
    let (rehearsal, reply) := step name
    ({ session with rehearsal }, pure reply)

/-- Asks the server about a name that must be well-formed. -/
def ask {α : Type} (session : Session) (name : String) (reply : α → Reply)
    (question : Rehearsal → ResourceName → Except ServerFailure α) : Session × Answer :=
  match ResourceName.parse name with
  | .error error => (session, .fail (.name error))
  | .ok name => (session, answer .server reply (question session.rehearsal name))

/-- Uses a query that must have been defined. -/
def withQuery (session : Session) (name : String) (use : Query → Session × Answer) :
    Session × Answer :=
  match session.queries.lookup name with
  | none => (session, .fail .noSuchQuery)
  | some query => use query

def onServer {α : Type} (session : Session) (reply : α → Reply)
    (outcome : Rehearsal × Traced QueryError α) : Session × Answer :=
  ({ session with rehearsal := outcome.1 },
    ⟨outcome.2.events, (outcome.2.result.mapError .query).map reply⟩)

/-- Carries out one command. One that fails leaves what was there before. -/
def step (registry : SinkRegistry) (environment : Environment) (session : Session) :
    Command → Session × Answer
  | .load text =>
    match Snapshot.parse text with
    | .error error => (session, .fail (.json error))
    | .ok snapshot =>
      match snapshot.load with
      | .error error => (session, .fail (.name error))
      | .ok server =>
        ({ session with rehearsal := { server } }, pure (.count server.resources.length))
  | .register name className attributes =>
    match attributes.mapM WrittenAttribute.read with
    | .error error => (session, .fail (.json error))
    | .ok attributes =>
      match session.rehearsal.server.register name className attributes with
      | .error error => (session, .fail (.name error))
      | .ok (server, name) =>
        ({ session with rehearsal := { session.rehearsal with server } },
          pure (.text name.display))
  | .remove name => session.change name fun name =>
    let (server, removed) := session.rehearsal.server.remove name
    ({ session.rehearsal with server }, .flag removed)
  | .failFetch name failure => session.change name fun name =>
    (session.rehearsal.onServer fun server => server.failFetch name failure, .done)
  | .failDiscovery failure =>
    ({ session with
        rehearsal := session.rehearsal.onServer fun server => server.failDiscovery failure },
      pure .done)
  | .clearFailures =>
    ({ session with rehearsal := session.rehearsal.onServer MemoryServer.clearFailures },
      pure .done)
  | .failDescription call name failure => session.change name fun name =>
    (session.rehearsal.failDescription call name failure, .done)
  | .setDomain name domain => session.change name fun name =>
    (session.rehearsal.setDomain name domain, .done)
  | .clearDescriptions =>
    ({ session with rehearsal := session.rehearsal.clearDescriptions }, pure .done)
  | .names pattern =>
    match NamePattern.parse pattern with
    | .error error => (session, .fail (.name error))
    | .ok pattern =>
      (session, answer .server (fun names => .texts (names.map ResourceName.display))
        (Management.names session.rehearsal pattern))
  | .attributeNames name => session.ask name .texts Management.attributeNames
  | .className name => session.ask name .text Management.className
  | .domain name => session.ask name .text Management.domain
  | .attributeValues name names =>
    match ResourceName.parse name with
    | .error error => (session, .fail (.name error))
    | .ok name =>
      let (rehearsal, values) := Management.attributeValues session.rehearsal name names
      ({ session with rehearsal }, answer .server .attributes values)
  | .counts =>
    let server := session.rehearsal.server
    (session, pure (.counts server.resources.length server.fetchCalls))
  | .define query settings => session.define query ((Draft.ofSettings settings).build environment)
  | .defineFrom query config =>
    match QueryEntry.parse config with
    | .error error => (session, .fail (.json error))
    | .ok entry => session.define query (entry.toQuery registry environment)
  | .discover query => session.withQuery query fun query =>
    (session, answer .query (fun names => .texts (names.map ResourceName.display))
      (query.discover session.rehearsal))
  | .fetch query name path => session.withQuery query fun query =>
    match ResourceName.parse name with
    | .error error => (session, .fail (.name error))
    | .ok name =>
      session.onServer (.samples query) (query.fetch (sampling path) name session.rehearsal)
  | .execute query path => session.withQuery query fun query =>
    session.onServer (.execution query) (query.execute (sampling path) session.rehearsal)
  | .run query endpoint path => session.withQuery query fun query =>
    let (rehearsal, _, outcome) := query.run (sampling path) endpoint session.rehearsal KnownSinks.mk
    session.onServer (.execution query) (rehearsal, outcome)
  | .deliver query endpoint samples => session.withQuery query fun query =>
    match samples.mapM WrittenSample.read with
    | .error error => (session, .fail (.json error))
    | .ok samples =>
      let (_, outcome) := MetricQuery.deliver endpoint query samples KnownSinks.mk
      session.onServer (fun _ => .done) (session.rehearsal, outcome)

end Session

end MetricQuery
