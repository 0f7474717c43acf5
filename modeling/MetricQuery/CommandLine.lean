import MetricQuery.Config.Deployment
import MetricQuery.Execution
import MetricQuery.Report
import MetricQuery.Server.Snapshot

namespace MetricQuery.CommandLine

/-- What the program can see of the world: the environment, the directory that it was installed in,
and the files. -/
structure World where
  environment : Environment
  home : String
  read : String → Except ReadFault ByteArray

/-- A file that comes with the program. -/
def World.dataFile (world : World) (name : String) : String := world.home ++ "/data/" ++ name

/-- The configuration named by the first argument, or else the one that comes with the program. -/
def loadDeployment (world : World) (args : List String) : Except Report Deployment :=
  let path := args.head?.getD (world.dataFile "process.json")
  (Deployment.ofFile path (world.read path)).mapError .ofQuery

def readSnapshot (path : String) (contents : Except ReadFault ByteArray) : Except Report Snapshot := do
  let unread (fault : ReadFault) : Report := ⟨"reading snapshot " ++ path, [fault.message]⟩
  let bytes ← contents.mapError unread
  let text ← (textOfBytes bytes).mapError unread
  (Snapshot.parse text).mapError fun error => ⟨"parsing snapshot " ++ path, [error.message]⟩

/-- The snapshot named by the second argument, or else the one that comes with the program. -/
def loadSnapshot (world : World) (args : List String) : Except Report Snapshot :=
  let path := args[1]?.getD (world.dataFile "snapshot.json")
  readSnapshot path (world.read path)

def complain (level : LogLevel) (error : QueryError) : Event :=
  .logged ⟨level, .commandLine, (Report.ofQuery error).inline⟩

/-- Runs a query once. Errors are logged; none of them stops the program. -/
def runQuery (endpoint : Endpoint) (query : Query) (server : MemoryServer) :
    MemoryServer × List Event :=
  let (server, _, outcome) := query.run { time := fun _ => 0 } endpoint server KnownSinks.mk
  let complaints := match outcome.result with
    | .ok execution => execution.failures.map (complain .warn)
    | .error error => [complain .error error]
  (server, outcome.events ++ complaints)

def runQueries (endpoint : Endpoint) : List Query → MemoryServer → MemoryServer × List Event
  | [], server => (server, [])
  | query :: rest, server =>
    let (server, events) := runQuery endpoint query server
    let (server, others) := runQueries endpoint rest server
    (server, events ++ others)

/-- Runs the queries of one server after the other. Queries that cannot be built end it. -/
def runServers (registry : SinkRegistry) (environment : Environment) :
    List ServerEntry → MemoryServer → Traced QueryError Unit
  | [], _ => pure ()
  | entry :: rest, server => do
    let queries ← entry.buildQueries registry environment
    let (server, events) := runQueries entry.endpoint queries server
    ⟨events, .ok ()⟩
    runServers registry environment rest server

/-- Runs every configured query once against the server of a snapshot. -/
def runDeployment (environment : Environment) (deployment : Deployment) (server : MemoryServer) :
    Traced Report Unit := do
  .log .info .commandLine
    ("Loaded process " ++ quotedOption deployment.name ++ " with " ++
      toString server.resources.length ++ " resources")
  let registry ← SinkRegistry.empty.register "log" SinkFactory.logging
  (runServers registry environment deployment.servers server).mapError .ofQuery

def run (world : World) (args : List String) : Traced Report Unit := do
  let deployment ← .of (loadDeployment world args)
  let snapshot ← .of (loadSnapshot world args)
  let server ← .of (snapshot.load.mapError fun error => ⟨error.message, []⟩)
  runDeployment world.environment deployment server

def filter (environment : Environment) : LogFilter :=
  ((environment.lookup "RUST_LOG").bind LogFilter.parse?).getD .standard

def entryOf : Event → Option LogEntry
  | .logged entry => some entry
  | _ => none

/-- What the program writes: the log entries that the filter lets through, and then its error. -/
def output (world : World) (outcome : Traced Report Unit) : String :=
  let entries := (outcome.events.filterMap entryOf).filter fun entry =>
    (filter world.environment).shows entry.level
  String.join (entries.map LogEntry.written) ++
    match outcome.result with
    | .ok _ => ""
    | .error report => report.display ++ "\n"

def exitCode (outcome : Traced Report Unit) : UInt32 :=
  match outcome.result with
  | .ok _ => 0
  | .error _ => 1

end MetricQuery.CommandLine
