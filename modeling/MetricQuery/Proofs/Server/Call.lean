import MetricQuery.Server.Snapshot

namespace MetricQuery

/-- What can be asked of a server in memory. Only the name of a resource to register is a text that
still has to be read. -/
inductive ServerCall where
  | register (name className : String) (attributes : List Attribute)
  | remove (name : ResourceName)
  | failFetch (name : ResourceName) (failure : ServerFailure)
  | failDiscovery (failure : ServerFailure)
  | clearFailures
  | names (pattern : NamePattern)
  | attributeNames (name : ResourceName)
  | className (name : ResourceName)
  | attributeValues (name : ResourceName) (names : List String)

inductive ServerAnswer where
  | registered (outcome : Except NameError ResourceName)
  | removed (found : Bool)
  | done
  | names (outcome : Except ServerFailure (List ResourceName))
  | text (outcome : Except ServerFailure String)
  | texts (outcome : Except ServerFailure (List String))
  | attributes (outcome : Except ServerFailure (List Attribute))

namespace MemoryServer

def answer (server : MemoryServer) : ServerCall → MemoryServer × ServerAnswer
  | .register name className attributes =>
    match server.register name className attributes with
    | .error error => (server, .registered (.error error))
    | .ok (next, parsed) => (next, .registered (.ok parsed))
  | .remove name => ((server.remove name).1, .removed (server.remove name).2)
  | .failFetch name failure => (server.failFetch name failure, .done)
  | .failDiscovery failure => (server.failDiscovery failure, .done)
  | .clearFailures => (server.clearFailures, .done)
  | .names pattern => (server, .names (Management.names server pattern))
  | .attributeNames name => (server, .texts (Management.attributeNames server name))
  | .className name => (server, .text (Management.className server name))
  | .attributeValues name names =>
    ((Management.attributeValues server name names).1,
      .attributes (Management.attributeValues server name names).2)

/-- Answers calls one after the other. -/
def answerAll (server : MemoryServer) : List ServerCall → MemoryServer × List ServerAnswer
  | [] => (server, [])
  | call :: rest =>
    let (next, first) := server.answer call
    let (final, others) := next.answerAll rest
    (final, first :: others)

/-- What a server can be before the first call. -/
inductive Fresh : MemoryServer → Prop
  | new : Fresh {}
  | loaded {snapshot : Snapshot} {server : MemoryServer} :
      snapshot.load = .ok server → Fresh server

/-- What a server can have become after any calls. -/
def Reachable (server : MemoryServer) : Prop :=
  ∃ start calls, Fresh start ∧ (start.answerAll calls).1 = server

end MemoryServer

end MetricQuery
