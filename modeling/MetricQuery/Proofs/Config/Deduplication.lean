import Mathlib.Data.List.Permutation
import MetricQuery.Config.ServerEntry
import MetricQuery.Proofs.Config.Validation
import MetricQuery.Proofs.Name.Distinct
import MetricQuery.Proofs.Query.Equality

namespace MetricQuery

/-- The entry becomes the query. Each sink that it lists is resolved to a factory, and each factory
creates a sink, in the same order. -/
structure QueryEntry.Becomes (create : SinkFactory → Traced String Sink) (registry : SinkRegistry)
    (environment : Environment) (entry : QueryEntry) (query : Query) : Prop where
  result : (entry.toQueryBy create registry environment).result = .ok query
  resolved : List.Forall₂
    (fun (sink : SinkEntry) factory => registry.resolve sink.type sink.settings = .ok factory)
    (entry.sinks.getD []) query.factories
  created : List.Forall₂ (fun factory sink => (create factory).result = .ok sink)
    query.factories query.sinks
  events : (entry.toQueryBy create registry environment).events =
    query.factories.flatMap fun factory => (create factory).events

variable {create : SinkFactory → Traced String Sink} {registry : SinkRegistry}
  {environment : Environment}

theorem QueryEntry.becomes_of_ok {entry : QueryEntry} {query : Query}
    (succeeded : (entry.toQueryBy create registry environment).result = .ok query) :
    entry.Becomes create registry environment query := by
  obtain ⟨_, course⟩ := exists_course create registry environment entry
  have run := course.toQueryBy_eq
  rw [run] at succeeded
  cases course with
  | unresolved => cases succeeded
  | unreadable => cases succeeded
  | uncreated => cases succeeded
  | built resolved parsed created =>
    obtain rfl := Except.ok.inj succeeded
    exact ⟨congrArg Traced.result run, resolved.imp fun _ _ => SinkRegistry.resolve_eq_ok_iff.2,
      created, congrArg Traced.events run⟩

namespace ServerEntry

/-- Builds the different queries of a server with some way to create sinks. -/
def buildQueriesBy (create : SinkFactory → Traced String Sink) (registry : SinkRegistry)
    (environment : Environment) (server : ServerEntry) : Traced QueryError (List Query) :=
  buildAll (QueryEntry.toQueryBy create registry environment) server.endpoint [] server.queries

theorem buildQueriesBy_create (registry : SinkRegistry) (environment : Environment)
    (server : ServerEntry) :
    server.buildQueriesBy SinkFactory.create registry environment =
      server.buildQueries registry environment := by
  rw [buildQueriesBy, buildQueries, funext (QueryEntry.toQueryBy_create registry environment)]

/-- What the creation of all sinks of some queries leaves in the journal. -/
def creationsOf (create : SinkFactory → Traced String Sink) (queries : List Query) : List Event :=
  journal ((queries.flatMap Query.factories).flatMap fun factory => (create factory).events)

/-- A query that has been built is kept if it is new. What is noted about one that is not kept is
no deed. -/
theorem buildAll_cons_of_becomes {entry : QueryEntry} {query : Query}
    (becomes : entry.Becomes create registry environment query) (endpoint : Endpoint)
    (kept : List Query) (rest : List QueryEntry) :
    (buildAll (QueryEntry.toQueryBy create registry environment) endpoint kept
          (entry :: rest)).result =
        (buildAll (QueryEntry.toQueryBy create registry environment) endpoint (addNew kept query)
          rest).result ∧
      journal (buildAll (QueryEntry.toQueryBy create registry environment) endpoint kept
          (entry :: rest)).events =
        creationsOf create [query] ++
          journal (buildAll (QueryEntry.toQueryBy create registry environment) endpoint
            (addNew kept query) rest).events := by
  have own : creationsOf create [query] =
      journal (query.factories.flatMap fun factory => (create factory).events) := by
    simp [creationsOf]
  rw [buildAll, Traced.bind_of_ok becomes.result, becomes.events, addNew, own]
  split
  next =>
    rw [Traced.log, Traced.emit, Traced.bind_of_ok rfl]
    exact ⟨rfl, by rw [journal_append]; rfl⟩
  next => exact ⟨rfl, journal_append ..⟩

theorem buildAll_append_of_becomes {before : List QueryEntry} {built : List Query}
    (becomes : List.Forall₂ (QueryEntry.Becomes create registry environment) before built)
    (endpoint : Endpoint) (kept : List Query) (rest : List QueryEntry) :
    (buildAll (QueryEntry.toQueryBy create registry environment) endpoint kept
          (before ++ rest)).result =
        (buildAll (QueryEntry.toQueryBy create registry environment) endpoint
          (built.foldl addNew kept) rest).result ∧
      journal (buildAll (QueryEntry.toQueryBy create registry environment) endpoint kept
          (before ++ rest)).events =
        creationsOf create built ++
          journal (buildAll (QueryEntry.toQueryBy create registry environment) endpoint
            (built.foldl addNew kept) rest).events := by
  -- Each entry that is built changes what the next one is compared with.
  induction becomes generalizing kept with
  | nil => exact ⟨rfl, rfl⟩
  | @cons entry query entries queries here later ih =>
    obtain ⟨sameResult, firstEvents⟩ := buildAll_cons_of_becomes here endpoint kept (entries ++ rest)
    obtain ⟨result, events⟩ := ih (addNew kept query)
    refine ⟨sameResult.trans result, ?_⟩
    rw [List.cons_append, firstEvents, events, List.foldl_cons]
    simp [creationsOf]

/-- If every entry becomes a query, those that equal no earlier one are the result. -/
theorem buildQueries_of_becomes {server : ServerEntry} {built : List Query}
    (becomes : List.Forall₂ (QueryEntry.Becomes create registry environment) server.queries built) :
    (server.buildQueriesBy create registry environment).result = .ok (built.foldl addNew []) ∧
      journal (server.buildQueriesBy create registry environment).events =
        creationsOf create built := by
  have run := buildAll_append_of_becomes becomes server.endpoint [] []
  rw [List.append_nil] at run
  exact ⟨run.1, run.2.trans (List.append_nil _)⟩

/-- The first entry that becomes no query is the last one that is looked at. -/
theorem buildQueries_of_error {server : ServerEntry} {before after : List QueryEntry}
    {entry : QueryEntry} {built : List Query} {error : QueryError}
    (split : server.queries = before ++ entry :: after)
    (becomes : List.Forall₂ (QueryEntry.Becomes create registry environment) before built)
    (failed : (entry.toQueryBy create registry environment).result = .error error) :
    (server.buildQueriesBy create registry environment).result = .error error ∧
      journal (server.buildQueriesBy create registry environment).events =
        creationsOf create built ++
          journal (entry.toQueryBy create registry environment).events := by
  have run := buildAll_append_of_becomes becomes server.endpoint [] (entry :: after)
  rw [buildAll, Traced.bind_of_error failed, ← split] at run
  exact run

theorem all_become_iff {entries : List QueryEntry} :
    (∃ built, List.Forall₂ (QueryEntry.Becomes create registry environment) entries built) ↔
      ∀ entry ∈ entries, ∃ query,
        (entry.toQueryBy create registry environment).result = .ok query := by
  rw [exists_forall₂_iff]
  refine forall₂_congr fun entry _ => exists_congr fun query => ?_
  exact ⟨QueryEntry.Becomes.result, QueryEntry.becomes_of_ok⟩

/-- Either all entries become queries, or one of them is the first that does not. -/
theorem all_become_or_first_error (create : SinkFactory → Traced String Sink)
    (registry : SinkRegistry) (environment : Environment) (entries : List QueryEntry) :
    (∃ built, List.Forall₂ (QueryEntry.Becomes create registry environment) entries built) ∨
      ∃ before entry after built error, entries = before ++ entry :: after ∧
        List.Forall₂ (QueryEntry.Becomes create registry environment) before built ∧
        (entry.toQueryBy create registry environment).result = .error error := by
  rcases all_ok_or_first_error
      (fun entry => (entry.toQueryBy create registry environment).result) entries with
    all | ⟨before, entry, after, error, split, earlier, failed⟩
  · exact Or.inl (all_become_iff.2 all)
  · obtain ⟨built, becomes⟩ := all_become_iff.2 earlier
    exact Or.inr ⟨before, entry, after, built, error, split, becomes, failed⟩

/-- Building the queries of a server fails if one of its entries does, with the error of the first
one, and no later entry is built. Otherwise the first query of each class is kept, in order. Either
way sinks are created for every entry that is built, whether its query is kept or not, and in
whatever way. -/
theorem buildQueries_keeps_first_of_each (create : SinkFactory → Traced String Sink)
    (registry : SinkRegistry) (environment : Environment) (server : ServerEntry) :
    ((∃ error, (server.buildQueriesBy create registry environment).result = .error error) ↔
        ∃ entry ∈ server.queries, ∃ error,
          (entry.toQueryBy create registry environment).result = .error error) ∧
      (∀ error, (server.buildQueriesBy create registry environment).result = .error error →
        ∃ before entry after built, server.queries = before ++ entry :: after ∧
          List.Forall₂ (QueryEntry.Becomes create registry environment) before built ∧
          (entry.toQueryBy create registry environment).result = .error error ∧
          journal (server.buildQueriesBy create registry environment).events =
            creationsOf create built ++
              journal (entry.toQueryBy create registry environment).events) ∧
      (∀ kept, (server.buildQueriesBy create registry environment).result = .ok kept →
        ∃ built places,
          List.Forall₂ (QueryEntry.Becomes create registry environment) server.queries built ∧
            KeepsFirsts built kept places ∧ kept.length = (classes built).card ∧
            kept.length = distinctCount built ∧
            journal (server.buildQueriesBy create registry environment).events =
              creationsOf create built) ∧
      server.buildQueriesBy SinkFactory.create registry environment =
        server.buildQueries registry environment := by
  have same := server.buildQueriesBy_create registry environment
  rcases all_become_or_first_error create registry environment server.queries with
    ⟨built, becomes⟩ | ⟨before, entry, after, built, error, split, becomes, failed⟩
  · obtain ⟨result, noted⟩ := buildQueries_of_becomes becomes
    refine ⟨⟨?_, ?_⟩, ?_, ?_, same⟩
    · rintro ⟨error, failed⟩
      cases result.symm.trans failed
    · rintro ⟨entry, member, error, failed⟩
      obtain ⟨query, succeeded⟩ := all_become_iff.1 ⟨built, becomes⟩ entry member
      cases succeeded.symm.trans failed
    · intro error failed
      cases result.symm.trans failed
    · intro kept succeeded
      obtain rfl : built.foldl addNew [] = kept := Except.ok.inj (result.symm.trans succeeded)
      obtain ⟨places, keeps⟩ := KeepsFirsts.nil.foldl built
      rw [List.nil_append] at keeps
      refine ⟨built, places, becomes, keeps, keeps.length_eq_card_classes, ?_, noted⟩
      rw [keeps.length_eq_card_classes, distinctCount_eq_card_classes]
  · obtain ⟨result, noted⟩ := buildQueries_of_error split becomes failed
    refine ⟨⟨fun _ => ⟨entry, by simp [split], error, failed⟩, fun _ => ⟨error, result⟩⟩, ?_, ?_, same⟩
    · intro found again
      obtain rfl : error = found := Except.error.inj (result.symm.trans again)
      exact ⟨before, entry, after, built, split, becomes, failed, noted⟩
    · intro kept succeeded
      cases result.symm.trans succeeded

/-- The third pattern is the first one in another order. Two queries are kept, but three sinks have
been created. -/
theorem buildQueries_keeps_first_of_each_of_reordered :
    ∃ (registry : SinkRegistry) (server : ServerEntry),
      server.queries.map QueryEntry.pattern = ["d:a=1,b=2", "e:*", "d:b=2,a=1"] ∧
        ∃ kept built places, (server.buildQueries registry ⟨[]⟩).result = .ok kept ∧
          kept.map (·.pattern.display) = ["d:a=1,b=2", "e:*"] ∧ KeepsFirsts built kept places ∧
          (classes built).card = 2 ∧ distinctCount built = 2 ∧
          journal (server.buildQueries registry ⟨[]⟩).events =
            [.created "r", .created "r", .created "r"] := by
  have becomes (text : String) (pattern : NamePattern) (parsed : NamePattern.parse text = .ok pattern) :
      QueryEntry.Becomes SinkFactory.create ⟨[("keep", fun _ => .ok (.recorder "r" none none))]⟩ ⟨[]⟩
        { pattern := text, sinks := some [⟨"keep", []⟩] }
        ⟨pattern, [], [], [], none, false, false, false, [.recorder "r" none none],
          [.recorder "r" none]⟩ := by
    refine QueryEntry.becomes_of_ok (Traced.bind_result_eq_ok_iff.2 ⟨_, rfl, ?_⟩)
    exact Draft.buildBy_eq_ok_iff.2 ⟨_, _, parsed, .cons rfl .nil, rfl⟩
  have all := List.Forall₂.cons (becomes "d:a=1,b=2" ⟨"d", ⟨[("a", "1"), ("b", "2")]⟩, false⟩ (by cbv))
    (.cons (becomes "e:*" ⟨"e", ⟨[]⟩, true⟩ (by cbv))
      (.cons (becomes "d:b=2,a=1" ⟨"d", ⟨[("b", "2"), ("a", "1")]⟩, false⟩ (by cbv)) .nil))
  obtain ⟨result, noted⟩ := @buildQueries_of_becomes _ _ _ ⟨"h", 1, none, _⟩ _ all
  obtain ⟨_, _, kept, same⟩ := buildQueries_keeps_first_of_each SinkFactory.create
    ⟨[("keep", fun _ => .ok (.recorder "r" none none))]⟩ ⟨[]⟩ ⟨"h", 1, none, _⟩
  obtain ⟨built, places, _, keeps, card, count, _⟩ := kept _ result
  rw [same] at result noted
  exact ⟨_, _, rfl, _, built, places, result, by cbv, keeps, card.symm.trans (by cbv),
    count.symm.trans (by cbv), noted⟩

end ServerEntry

end MetricQuery
