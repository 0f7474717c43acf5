import MetricQuery.Proofs.CommandLine.Lines
import MetricQuery.Proofs.Config.Deduplication

namespace MetricQuery

/-- The level at which a writer of the command line writes: the one that is set, or else `info`. -/
def SinkEntry.level? (writer : SinkEntry) : Option LogLevel :=
  if writer.type = "log" then
    match Json.getText? writer.settings "level" with
    | none => some .info
    | some name => LogLevel.parse? name
  else none

namespace CommandLine

/-- The types of sinks that a configuration can use. -/
def sinkTypes : SinkRegistry := SinkRegistry.empty.insert "log" SinkFactory.logging

theorem resolve_eq_ok_iff {writer : SinkEntry} {factory : SinkFactory} :
    sinkTypes.resolve writer.type writer.settings = .ok factory ↔
      ∃ level, writer.level? = some level ∧ .log level = factory := by
  obtain ⟨type, settings⟩ := writer
  by_cases known : type = "log"
  · subst known
    have found : sinkTypes.types.lookup "log" = some SinkFactory.logging := rfl
    simp only [SinkRegistry.resolve, found, mapError_eq_ok_iff, SinkFactory.logging,
      SinkEntry.level?, if_true]
    cases Json.getText? settings "level" with
    | none => simp
    | some name => cases read : LogLevel.parse? name <;> simp [read]
  · have missing : sinkTypes.types.lookup type = none := by
      have other : (type == "log") = false := beq_eq_false_iff_ne.2 known
      simp only [sinkTypes, SinkRegistry.insert, SinkRegistry.empty, List.filter_nil,
        List.lookup_cons, other]
      rfl
    simp [SinkRegistry.resolve, missing, SinkEntry.level?, known]

/-- Writers that can be resolved have levels, and come to factories of log sinks at these levels. -/
theorem exists_levels_of_resolved {writers : List SinkEntry} {factories : List SinkFactory}
    (resolved : List.Forall₂ (fun (writer : SinkEntry) factory =>
      sinkTypes.resolve writer.type writer.settings = .ok factory) writers factories) :
    ∃ levels : List LogLevel, writers.map SinkEntry.level? = levels.map some ∧
      factories = levels.map SinkFactory.log := by
  induction resolved with
  | nil => exact ⟨[], rfl, rfl⟩
  | cons here _ ih =>
    obtain ⟨level, set, rfl⟩ := resolve_eq_ok_iff.1 here
    obtain ⟨levels, given, rfl⟩ := ih
    refine ⟨level :: levels, ?_, rfl⟩
    rw [List.map_cons, List.map_cons, set, given]

/-- The job is what one of the entries of the server becomes: its query is as the entry configures
it, and its levels are those of the writers that the entry lists. -/
structure Job.Belongs (environment : Environment) (server : ServerEntry) (job : Job) : Prop where
  listed : job.entry ∈ server.queries
  endpoint : job.endpoint = server.endpoint
  becomes : job.entry.Becomes SinkFactory.create sinkTypes environment job.query
  configures : job.entry.Configures environment job.query
  levels : (job.entry.sinks.getD []).map SinkEntry.level? = job.levels.map some

section Belonging

variable {environment : Environment} {server : ServerEntry} {job : Job}

theorem levels_unique {writers : List SinkEntry} {first second : List LogLevel}
    (one : writers.map SinkEntry.level? = first.map some)
    (other : writers.map SinkEntry.level? = second.map some) : first = second :=
  (List.map_inj_right fun _ _ => Option.some.inj).1 (one.symm.trans other)

/-- The writers of a job are log sinks that write at its levels. -/
theorem Job.Belongs.sinks (belongs : job.Belongs environment server) :
    job.query.sinks = job.levels.map Sink.log := by
  obtain ⟨levels, given, factories⟩ := exists_levels_of_resolved belongs.becomes.resolved
  obtain rfl := levels_unique given belongs.levels
  have created := belongs.becomes.created
  rw [factories, List.forall₂_map_left_iff] at created
  have same := created.imp fun level sink own => (Except.ok.inj own : Sink.log level = sink)
  rw [← List.forall₂_map_left_iff, List.forall₂_eq_eq_eq] at same
  exact same.symm

/-- An entry that becomes a query is a job for its server. -/
theorem exists_job_of_becomes {entry : QueryEntry} {query : Query}
    (listed : entry ∈ server.queries)
    (becomes : entry.Becomes SinkFactory.create sinkTypes environment query) :
    ∃ job : Job, job.query = query ∧ job.Belongs environment server := by
  obtain ⟨levels, given, _⟩ := exists_levels_of_resolved becomes.resolved
  exact ⟨⟨server.endpoint, entry, query, levels⟩, rfl, listed, rfl, becomes,
    QueryEntry.configures_of_toQueryBy becomes.result, given⟩

end Belonging

variable {environment : Environment}

/-- Nothing that a writer can be resolved to leaves a trace when it creates its sink. -/
theorem events_create_of_resolves {writers : List SinkEntry} {factories : List SinkFactory}
    (resolved : List.Forall₂ sinkTypes.Resolves writers factories) :
    ∀ factory ∈ factories, factory.create.events = [] := by
  intro factory held
  obtain ⟨writer, _, own⟩ := exists_of_mem_forall₂ resolved held
  obtain ⟨level, _, rfl⟩ := resolve_eq_ok_iff.1 (SinkRegistry.resolve_eq_ok_iff.2 own)
  rfl

theorem events_toQuery (entry : QueryEntry) : (entry.toQuery sinkTypes environment).events = [] := by
  obtain ⟨_, course⟩ :=
    QueryEntry.exists_course SinkFactory.create sinkTypes environment entry
  rw [← QueryEntry.toQueryBy_create, course.toQueryBy_eq]
  cases course with
  | unresolved => rfl
  | unreadable => rfl
  | @uncreated before factory after _ _ resolved =>
    refine List.flatMap_eq_nil_iff.2 fun called held => ?_
    refine events_create_of_resolves resolved called ?_
    rw [List.append_cons]
    exact List.mem_append_left after held
  | built resolved => exact List.flatMap_eq_nil_iff.2 (events_create_of_resolves resolved)

theorem journal_buildAll (endpoint : Endpoint) (kept : List Query) (entries : List QueryEntry) :
    journal (ServerEntry.buildAll (QueryEntry.toQuery sinkTypes environment) endpoint kept
      entries).events = [] := by
  induction entries generalizing kept with
  | nil => rfl
  | cons entry rest ih =>
    have quiet := @events_toQuery environment entry
    rw [ServerEntry.buildAll]
    cases built : (entry.toQuery sinkTypes environment).result with
    | error error =>
      rw [Traced.bind_of_error built, quiet]
      rfl
    | ok query =>
      rw [Traced.bind_of_ok built, quiet]
      dsimp only
      split
      · exact ih kept
      · exact ih (kept ++ [query])

theorem journal_buildQueries (server : ServerEntry) :
    journal (server.buildQueries sinkTypes environment).events = [] := journal_buildAll ..

/-- The jobs of a server: one for each query that is kept, with the writers of the entry that it was
built from. -/
structure Schedules (environment : Environment) (server : ServerEntry) (jobs : List Job) : Prop where
  kept : (server.buildQueries sinkTypes environment).result = .ok (jobs.map Job.query)
  firsts : ∃ built places,
    List.Forall₂ (QueryEntry.Becomes SinkFactory.create sinkTypes environment) server.queries built ∧
      KeepsFirsts built (jobs.map Job.query) places
  belong : ∀ job ∈ jobs, job.Belongs environment server

/-- A server with a single entry has a single job. -/
theorem Schedules.eq_singleton {server : ServerEntry} {jobs : List Job} {entry : QueryEntry}
    {query : Query} {levels : List LogLevel} (schedules : Schedules environment server jobs)
    (single : server.queries = [entry])
    (built : (server.buildQueries sinkTypes environment).result = .ok [query])
    (given : (entry.sinks.getD []).map SinkEntry.level? = levels.map some) :
    jobs = [⟨server.endpoint, entry, query, levels⟩] := by
  have queries := Except.ok.inj (schedules.kept.symm.trans built)
  obtain ⟨⟨endpoint, source, _, written⟩, rfl, rfl⟩ := List.map_eq_singleton_iff.1 queries
  have belongs := schedules.belong _ (List.mem_singleton_self _)
  obtain rfl : endpoint = server.endpoint := belongs.endpoint
  obtain rfl : source = entry := List.mem_singleton.1 (single ▸ belongs.listed)
  obtain rfl : written = levels := levels_unique belongs.levels given
  rfl

theorem exists_schedules {server : ServerEntry} {kept : List Query}
    (succeeded : (server.buildQueries sinkTypes environment).result = .ok kept) :
    ∃ jobs, jobs.map Job.query = kept ∧ Schedules environment server jobs := by
  have result := succeeded
  rw [← server.buildQueriesBy_create] at succeeded
  rcases ServerEntry.all_become_or_first_error SinkFactory.create sinkTypes environment
      server.queries with
    ⟨built, becomes⟩ | ⟨before, entry, after, built, error, split, becomes, failed⟩
  · obtain ⟨built_eq, _⟩ := ServerEntry.buildQueries_of_becomes becomes
    obtain rfl := Except.ok.inj (built_eq.symm.trans succeeded)
    obtain ⟨places, keeps⟩ := KeepsFirsts.nil.foldl built
    rw [List.nil_append] at keeps
    have sources : ∀ query ∈ built.foldl addNew [], ∃ job : Job, query = job.query ∧
        job.Belongs environment server := by
      intro query held
      obtain ⟨entry, listed, here⟩ := exists_of_mem_forall₂ becomes (keeps.mem_of_mem held)
      obtain ⟨job, same, belongs⟩ := exists_job_of_becomes listed here
      exact ⟨job, same.symm, belongs⟩
    obtain ⟨jobs, each⟩ := exists_forall₂_iff.2 sources
    have same : List.Forall₂ Eq (built.foldl addNew []) (jobs.map Job.query) :=
      List.forall₂_map_right_iff.2 (each.imp fun _ _ own => own.1)
    rw [List.forall₂_eq_eq_eq] at same
    refine ⟨jobs, same.symm, same ▸ result, ⟨built, places, becomes, same ▸ keeps⟩, ?_⟩
    intro job listed
    obtain ⟨_, _, own⟩ := exists_of_mem_forall₂ each listed
    exact own.2
  · obtain ⟨failure, _⟩ := ServerEntry.buildQueries_of_error split becomes failed
    cases failure.symm.trans succeeded

end CommandLine

end MetricQuery
