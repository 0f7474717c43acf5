import MetricQuery.Config.QueryEntry

namespace MetricQuery

/-- A server as a configuration describes it, with the queries to run on it. -/
structure ServerEntry where
  host : String
  port : Nat
  displayName : Option String
  queries : List QueryEntry

namespace ServerEntry

inductive Field where
  | host (name : String)
  | port (number : Nat)
  | displayName (name : Option String)
  | queries (entries : List QueryEntry)

namespace Field

def host? : Field → Option String
  | host name => some name
  | _ => none

def port? : Field → Option Nat
  | port number => some number
  | _ => none

def displayName? : Field → Option String
  | displayName name => name
  | _ => none

def queries? : Field → Option (List QueryEntry)
  | queries entries => some entries
  | _ => none

end Field

def build (fields : List Field) : Except String ServerEntry :=
  match fields.findSome? Field.host?, fields.findSome? Field.port? with
  | none, _ => .error "host"
  | some _, none => .error "port"
  | some host, some port => .ok {
      host, port
      displayName := fields.findSome? Field.displayName?
      queries := (fields.findSome? Field.queries?).getD [] }

def record : Json.Record Field ServerEntry where
  title := "struct ServerConfig"
  fields := [("host", .map .host .text), ("port", .map .port .port),
    ("alias", .map .displayName (.optional .text)),
    ("queries", .map .queries (.list QueryEntry.record.decoder))]
  build := build

def parse (text : String) : Except Json.Error ServerEntry := record.decoder.decode text

def toJson (entry : ServerEntry) : Json :=
  .objectOf [some ("host", .text entry.host), some ("port", .integer entry.port),
    entry.displayName.map fun name => ("alias", .text name),
    some ("queries", .array (entry.queries.map QueryEntry.toJson))]

def endpoint (entry : ServerEntry) : Endpoint := ⟨entry.host, entry.port, entry.displayName⟩

/-- Builds queries one after the other. One that equals an earlier one is dropped, but only after
it has been built. -/
def buildAll (build : QueryEntry → Traced QueryError Query) (endpoint : Endpoint)
    (kept : List Query) : List QueryEntry → Traced QueryError (List Query)
  | [] => pure kept
  | entry :: rest => do
    let query ← build entry
    if kept.contains query then
      .log .debug .config
        ("Dropping duplicate query " ++ query.display ++ " for " ++ endpoint.label)
      buildAll build endpoint kept rest
    else
      buildAll build endpoint (kept ++ [query]) rest

/-- The different queries of a server, in the order of its configuration. -/
def buildQueries (registry : SinkRegistry) (environment : Environment) (entry : ServerEntry) :
    Traced QueryError (List Query) :=
  buildAll (QueryEntry.toQuery registry environment) entry.endpoint [] entry.queries

end ServerEntry

end MetricQuery
