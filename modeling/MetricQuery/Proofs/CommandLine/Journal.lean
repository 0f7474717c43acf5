import Mathlib
import MetricQuery.Proofs.CommandLine.Jobs
import MetricQuery.Proofs.Execution.Delivery
import MetricQuery.Proofs.Server.Latest

-- All of Mathlib is imported for the equations of library functions that the last run here unfolds.

namespace MetricQuery

namespace MemoryServer

/-- The server holds the resources and has no failure to report. -/
structure Serves (server : MemoryServer) (resources : List Resource) : Prop where
  resources : server.resources = resources
  discoveryFailure : server.discoveryFailure = none
  fetchFailures : server.fetchFailures = []
  represents : ∃ directory, server.Represents directory

variable {server : MemoryServer} {resources : List Resource}

theorem Serves.afterFetches (serves : server.Serves resources) (count : Nat) :
    (server.afterFetches count).Serves resources := by
  obtain ⟨directory, represents⟩ := serves.represents
  exact { serves with represents := ⟨_, represents.afterFetches count⟩ }

theorem registerAll_failures {entries : List ResourceEntry} {final : MemoryServer}
    (registered : Snapshot.registerAll server entries = .ok final) :
    final.discoveryFailure = server.discoveryFailure ∧
      final.fetchFailures = server.fetchFailures := by
  induction entries generalizing server with
  | nil =>
    obtain rfl := Except.ok.inj registered
    exact ⟨rfl, rfl⟩
  | cons entry rest ih =>
    rw [Snapshot.registerAll, bind_eq_ok_iff] at registered
    obtain ⟨⟨next, name⟩, placed, later⟩ := registered
    rw [register, bind_eq_ok_iff] at placed
    obtain ⟨parsed, _, made⟩ := placed
    obtain ⟨changed, _⟩ := Prod.mk.inj (Except.ok.inj made)
    obtain ⟨discovery, fetches⟩ := @ih next later
    rw [← changed] at discovery fetches
    exact ⟨discovery, fetches⟩

theorem serves_of_load {snapshot : Snapshot} (loaded : snapshot.load = .ok server) :
    server.Serves server.resources := by
  obtain ⟨discovery, fetches⟩ := registerAll_failures loaded
  exact ⟨rfl, discovery, fetches, _, represents_of_load loaded⟩

/-- An execution on a server without failures brings what the covered resources have. -/
theorem Serves.execute (serves : server.Serves resources) (sampling : Sampling) (query : Query) :
    (query.execute sampling server).1.Serves resources ∧
      ∃ execution, (query.execute sampling server).2.result = .ok execution ∧
        execution.samples =
          (resources.filter fun resource => query.pattern.covers resource.name).flatMap
            fun resource => query.block sampling resource.name resource := by
  obtain ⟨directory, represents⟩ := serves.represents
  obtain ⟨next, result⟩ := query.execute_of_healthy sampling represents serves.discoveryFailure
  refine ⟨next ▸ serves.afterFetches _, _, result, ?_⟩
  have clean (name : ResourceName) : server.injectedFailure? name = none := by
    simp [injectedFailure?, serves.fetchFailures]
  simp only [Query.account, Query.outcomes, matched, serves.resources, clean, List.flatMap_map]
  rfl

end MemoryServer

namespace CommandLine

variable {environment : Environment} {server : MemoryServer} {resources : List Resource}

theorem accepts_log (outlet : KnownSinks) (batch : Batch) (levels : List LogLevel) :
    Accepts outlet (batch.handedTo (levels.map Sink.log)) := by
  induction levels with
  | nil => trivial
  | cons level rest ih => exact ⟨rfl, ih⟩

/-- The log sinks of a query write an entry for each sample, one sink after the other. -/
theorem journal_deliver (endpoint : Endpoint) {query : Query} {levels : List LogLevel}
    (sinks : query.sinks = levels.map Sink.log) (samples : List Sample) (outlet : KnownSinks) :
    (deliver endpoint query samples outlet).2.result = .ok () ∧
      journal (deliver endpoint query samples outlet).2.events =
        levels.flatMap fun level => samples.map fun sample =>
          Event.logged ⟨level, .logSink, "[" ++ endpoint.label ++ "] " ++
            sample.key query.separator ++ " = " ++ sample.value.display⟩ := by
  have accepted := accepts_log outlet ⟨endpoint, query, samples⟩ levels
  rw [← sinks] at accepted
  obtain ⟨_, result, handed⟩ := deliver_of_accepted accepted
  refine ⟨result, handed.trans ?_⟩
  rw [journal_handOver_knownSinks, sinks, Batch.handedTo, List.map_map, List.flatMap_map]
  rfl

theorem journal_complaints (level : LogLevel) (failures : List QueryError) :
    journal (failures.map (complain level)) = [] := by
  refine List.filter_eq_nil_iff.2 fun event held => ?_
  obtain ⟨failure, _, rfl⟩ := List.mem_map.1 held
  exact Bool.false_ne_true

/-- Running a query logs the lines of its job and leaves the server serving. -/
theorem runQuery_journal (serves : server.Serves resources) {job : Job} {entry : ServerEntry}
    (belongs : job.Belongs environment entry) :
    (runQuery job.endpoint job.query server).1.Serves resources ∧
      journal (runQuery job.endpoint job.query server).2 = job.lines environment resources := by
  let sampling : Sampling := { time := fun _ => 0 }
  obtain ⟨next, execution, executed, samples⟩ := serves.execute sampling job.query
  have same := job.query.run_server sampling job.endpoint server KnownSinks.mk
  obtain ⟨_, result, handed⟩ :=
    job.query.run_of_executed sampling job.endpoint KnownSinks.mk executed
  obtain ⟨delivered, lines⟩ :=
    journal_deliver job.endpoint belongs.sinks execution.samples KnownSinks.mk
  have succeeded : (job.query.run sampling job.endpoint server KnownSinks.mk).2.2.result =
      .ok execution := by
    rw [result, delivered]
    rfl
  have unfolded : runQuery job.endpoint job.query server =
      ((job.query.run sampling job.endpoint server KnownSinks.mk).1,
        (job.query.run sampling job.endpoint server KnownSinks.mk).2.2.events ++
          execution.failures.map (complain .warn)) := by
    simp only [runQuery, sampling, succeeded]
  rw [unfolded, same]
  refine ⟨next, ?_⟩
  rw [journal_append, handed, lines, journal_complaints, List.append_nil, samples]
  simp only [Job.lines, List.map_flatMap, Job.map_block belongs.configures, sampling]

theorem runQueries_journal {entry : ServerEntry} {jobs : List Job}
    (belong : ∀ job ∈ jobs, job.Belongs environment entry) (serves : server.Serves resources) :
    (runQueries entry.endpoint (jobs.map Job.query) server).1.Serves resources ∧
      journal (runQueries entry.endpoint (jobs.map Job.query) server).2 =
        jobs.flatMap (Job.lines environment resources) := by
  induction jobs generalizing server with
  | nil => exact ⟨serves, rfl⟩
  | cons job rest ih =>
    obtain ⟨own, others⟩ := List.forall_mem_cons.1 belong
    have here := runQuery_journal serves own
    rw [own.endpoint] at here
    obtain ⟨next, lines⟩ := here
    obtain ⟨final, later⟩ := ih others next
    refine ⟨final, ?_⟩
    rw [List.flatMap_cons, ← lines, ← later, ← journal_append]
    rfl

/-- How a run over servers comes to its end: at a server whose queries cannot be built, or after the
last one. -/
inductive Stops (environment : Environment) : List ServerEntry → Except QueryError Unit → Prop
  | done : Stops environment [] (.ok ())
  | failed {entry : ServerEntry} {rest : List ServerEntry} {error : QueryError} :
      (entry.buildQueries sinkTypes environment).result = .error error →
      Stops environment (entry :: rest) (.error error)

/-- The servers up to the first one that fails have all of their jobs done, in order, and the others
have none. -/
theorem runServers_journal (entries : List ServerEntry) (serves : server.Serves resources) :
    ∃ before after jobs, entries = before ++ after ∧
      List.Forall₂ (Schedules environment) before jobs ∧
      journal (runServers sinkTypes environment entries server).events =
        jobs.flatten.flatMap (Job.lines environment resources) ∧
      Stops environment after (runServers sinkTypes environment entries server).result := by
  induction entries generalizing server with
  | nil => exact ⟨[], [], [], rfl, .nil, rfl, .done⟩
  | cons entry rest ih =>
    have quiet := @journal_buildQueries environment entry
    rw [runServers]
    cases built : (entry.buildQueries sinkTypes environment).result with
    | error error =>
      rw [Traced.bind_of_error built]
      exact ⟨[], entry :: rest, [], rfl, .nil, quiet, .failed built⟩
    | ok kept =>
      obtain ⟨own, rfl, schedules⟩ := exists_schedules built
      obtain ⟨next, lines⟩ := runQueries_journal schedules.belong serves
      obtain ⟨before, after, jobs, split, scheduled, later, stops⟩ := ih next
      rw [Traced.bind_of_ok built]
      refine ⟨entry :: before, after, own :: jobs, congrArg _ split, .cons schedules scheduled, ?_,
        stops⟩
      rw [List.flatten_cons, List.flatMap_append, ← later, ← lines, journal_append, quiet,
        List.nil_append, ← journal_append]
      rfl

theorem runDeployment_journal (environment : Environment) (deployment : Deployment)
    (server : MemoryServer) :
    journal (runDeployment environment deployment server).events =
        journal (runServers sinkTypes environment deployment.servers server).events ∧
      (runDeployment environment deployment server).result =
        (runServers sinkTypes environment deployment.servers server).result.mapError .ofQuery :=
  ⟨rfl, rfl⟩

/-- The log sinks write the lines of the servers before the first one whose queries cannot be built,
server by server and query by query, and nothing of the others. The program ends with the error of
that server, or without one if there is none. -/
theorem run_writes_lines_in_order {world : World} {args : List String} {deployment : Deployment}
    {snapshot : Snapshot} (configured : loadDeployment world args = .ok deployment)
    (provided : loadSnapshot world args = .ok snapshot)
    (named : ∀ entry ∈ snapshot.resources, entry.Named) :
    ∃ server given before after jobs ended, snapshot.load = .ok server ∧
      List.Forall₂ ResourceEntry.Describes snapshot.resources given ∧
        KeepsLatest given server.resources ∧ deployment.servers = before ++ after ∧
        List.Forall₂ (Schedules world.environment) before jobs ∧
        journal (run world args).events =
          jobs.flatten.flatMap (Job.lines world.environment server.resources) ∧
        Stops world.environment after ended ∧
        (run world args).result = ended.mapError .ofQuery := by
  obtain ⟨server, loaded⟩ : ∃ server, snapshot.load = .ok server :=
    ⟨_, Snapshot.registerAll_eq_ok_iff.2 ⟨named, rfl⟩⟩
  obtain ⟨given, describe, keeps⟩ := Snapshot.keepsLatest_of_load loaded
  have serves := MemoryServer.serves_of_load loaded
  obtain ⟨before, after, jobs, split, schedules, lines, stops⟩ :=
    runServers_journal deployment.servers serves
  have unfolded : run world args = runDeployment world.environment deployment server := by
    rw [run, configured, provided, Traced.bind_of_ok rfl, Traced.bind_of_ok rfl, loaded]
    rfl
  obtain ⟨noted, result⟩ := runDeployment_journal world.environment deployment server
  rw [unfolded]
  exact ⟨server, given, before, after, jobs, _, loaded, describe, keeps, split, schedules,
    noted.trans lines, stops, result⟩

section Files

variable {world : World} {args : List String} {text : String}

theorem textOfBytes_toUTF8 (text : String) : textOfBytes text.toUTF8 = .ok text := by
  have whole : String.fromUTF8? text.toUTF8 = some text := dif_pos text.isValidUTF8
  rw [textOfBytes, whole]

theorem loadDeployment_of_parse {path : String} {deployment : Deployment}
    (named : args.head?.getD (world.dataFile "process.json") = path)
    (read : world.read path = .ok text.toUTF8) (parsed : Deployment.parse text = .ok deployment) :
    loadDeployment world args = .ok { deployment with name := fileName? path } := by
  simp only [loadDeployment, Deployment.ofFile, named, read, Except.mapError, textOfBytes_toUTF8,
    parsed, bind, Except.bind]

theorem loadSnapshot_of_parse {path : String} {snapshot : Snapshot}
    (named : args[1]?.getD (world.dataFile "snapshot.json") = path)
    (read : world.read path = .ok text.toUTF8) (parsed : Snapshot.parse text = .ok snapshot) :
    loadSnapshot world args = .ok snapshot := by
  simp only [loadSnapshot, readSnapshot, named, read, Except.mapError, textOfBytes_toUTF8, parsed,
    bind, Except.bind]

end Files

set_option maxRecDepth 1024 in
/-- The second server has a query that can be built and one that cannot. Of the two resources with
one name the second one is left, in the place of the first. -/
theorem run_writes_lines_in_order_of_failing :
    ∃ outcome, run
        { environment := ⟨[("A", "y")]⟩
          home := "h"
          read := fun path =>
            if path = "c" then
              .ok ("\x7b\"servers\":[[\"h\",1,\"s\",[" ++
                "\x7b\"obj\":\"d:*\",\"attr\":[\"$\x7bA\x7d\",\"q\",\"x\"]," ++
                "\"typeNames\":[\"b\",\"a\",\"b\"],\"outputWriters\":[" ++
                "\x7b\"@class\":\"log\",\"level\":\"wArn\"\x7d,\x7b\"@class\":\"log\"\x7d]\x7d]]," ++
                "[\"h\",2,null,[\x7b\"obj\":\"d:a=1\"\x7d,\x7b\"obj\":\"\"\x7d]]]\x7d").toUTF8
            else if path = "h/data/snapshot.json" then
              .ok ("\x7b\"resources\":[[\"d:a=1,b=2\",\"A\"],[\"e:z=0\",\"E\",[[\"x\",0]]]," ++
                "[\"d:c=3\",\"C\",[[\"y\",\"t\"]]]," ++
                "[\"d:b=2,a=1\",\"B.C\",[[\"x\",1],[\"y\",[true,null]],[\"x\",2]]]]\x7d").toUTF8
            else .error .missing } ["c"] = outcome ∧
      outcome.result = .error (.ofQuery (.invalidPattern "" ⟨"", .missingColon⟩)) ∧
      journal outcome.events =
        [.logged ⟨.warn, .logSink, "[s] B_C_2_1_y = [true, null]"⟩,
          .logged ⟨.warn, .logSink, "[s] B_C_2_1_x = 1"⟩,
          .logged ⟨.warn, .logSink, "[s] C_y = t"⟩,
          .logged ⟨.info, .logSink, "[s] B_C_2_1_y = [true, null]"⟩,
          .logged ⟨.info, .logSink, "[s] B_C_2_1_x = 1"⟩,
          .logged ⟨.info, .logSink, "[s] C_y = t"⟩] := by
  let first : QueryEntry :=
    { pattern := "d:*", attributeNames := some ["$\x7bA\x7d", "q", "x"],
      typeNames := some ["b", "a", "b"],
      sinks := some [⟨"log", [("level", .text "wArn")]⟩, ⟨"log", []⟩] }
  let query : Query :=
    { pattern := ⟨"d", ⟨[]⟩, true⟩, keys := [], attributeNames := ["y", "q", "x"],
      typeNames := ["b", "a"], resultAlias := none, domainAsKey := false, dottedKeys := false,
      allTypeNames := false, factories := [.log .warn, .log .info],
      sinks := [.log .warn, .log .info] }
  let working : ServerEntry := ⟨"h", 1, some "s", [first]⟩
  let failing : ServerEntry := ⟨"h", 2, none, [{ pattern := "d:a=1" }, { pattern := "" }]⟩
  let listed : List ResourceEntry := [⟨"d:a=1,b=2", "A", []⟩, ⟨"e:z=0", "E", [⟨"x", .integer 0⟩]⟩,
    ⟨"d:c=3", "C", [⟨"y", .text "t"⟩]⟩,
    ⟨"d:b=2,a=1", "B.C", [⟨"x", .integer 1⟩, ⟨"y", .array [.flag true, .null]⟩, ⟨"x", .integer 2⟩]⟩]
  have kept : (working.buildQueries sinkTypes ⟨[("A", "y")]⟩).result = .ok [query] := by cbv
  have failed : (failing.buildQueries sinkTypes ⟨[("A", "y")]⟩).result =
      .error (.invalidPattern "" ⟨"", .missingColon⟩) := by cbv
  have named : ∀ entry ∈ listed, entry.Named := by
    simp only [listed, List.forall_mem_cons]
    exact ⟨⟨_, by cbv⟩, ⟨_, by cbv⟩, ⟨_, by cbv⟩, ⟨_, by cbv⟩, by simp⟩
  refine ⟨_, rfl, ?_⟩
  generalize made : World.mk _ _ _ = world
  have configured : loadDeployment world ["c"] = .ok ⟨some "c", [working, failing]⟩ := by
    rw [← made]
    refine @loadDeployment_of_parse _ ["c"] _ "c" ⟨none, [working, failing]⟩ rfl rfl ?_
    cbv
  have provided : loadSnapshot world ["c"] = .ok ⟨listed⟩ := by
    rw [← made]
    refine @loadSnapshot_of_parse _ ["c"] _ "h/data/snapshot.json" _ rfl rfl ?_
    cbv
  have environment : world.environment = ⟨[("A", "y")]⟩ := by rw [← made]
  obtain ⟨server, _, before, after, jobs, ended, loaded, _, _, split, schedules, lines, stops,
    result⟩ := run_writes_lines_in_order configured provided named
  rw [environment] at schedules lines stops
  have resources : (Snapshot.load ⟨listed⟩).map MemoryServer.resources = .ok
      [⟨⟨"d", ⟨[("b", "2"), ("a", "1")]⟩⟩, "B.C",
          [⟨"x", .integer 1⟩, ⟨"y", .array [.flag true, .null]⟩, ⟨"x", .integer 2⟩]⟩,
        ⟨⟨"e", ⟨[("z", "0")]⟩⟩, "E", [⟨"x", .integer 0⟩]⟩,
        ⟨⟨"d", ⟨[("c", "3")]⟩⟩, "C", [⟨"y", .text "t"⟩]⟩] := by cbv
  rw [loaded] at resources
  obtain _ | ⟨one, _ | ⟨two, others⟩⟩ := before
  · obtain rfl := split
    cases stops with
    | failed error => cases kept.symm.trans error
  · obtain ⟨rfl, rfl⟩ := List.cons.inj split
    obtain _ | ⟨scheduled, ⟨⟩⟩ := schedules
    cases stops with
    | failed error =>
      obtain rfl := Except.error.inj (failed.symm.trans error)
      refine ⟨result, lines.trans ?_⟩
      have levels : (first.sinks.getD []).map SinkEntry.level? =
          [LogLevel.warn, .info].map some := by cbv
      rw [scheduled.eq_singleton rfl kept levels, Except.ok.inj resources]
      cbv
  · obtain ⟨_, tail⟩ := List.cons.inj split
    obtain ⟨rfl, _⟩ := List.cons.inj tail
    obtain _ | ⟨_, _ | ⟨scheduled, _⟩⟩ := schedules
    cases scheduled.kept.symm.trans failed

end CommandLine

end MetricQuery
