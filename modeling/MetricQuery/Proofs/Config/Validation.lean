import MetricQuery.Config.QueryEntry
import MetricQuery.Proofs.Query.Building

namespace MetricQuery

namespace SinkRegistry

variable {registry : SinkRegistry} {sink : SinkEntry}

/-- The type of the sink is known and makes the factory from its settings. -/
def Resolves (registry : SinkRegistry) (sink : SinkEntry) (factory : SinkFactory) : Prop :=
  ∃ type, registry.types.lookup sink.type = some type ∧ type sink.settings = .ok factory

/-- Why there is no factory for a sink: its type is not known or does not accept its settings. -/
inductive Refuses (registry : SinkRegistry) (sink : SinkEntry) : QueryError → Prop
  | unknown : registry.contains sink.type = false →
      Refuses registry sink (.unknownSinkType sink.type)
  | unsettled {type cause} : registry.types.lookup sink.type = some type →
      type sink.settings = .error cause → Refuses registry sink (.sinkSettings sink.type cause)

theorem contains_eq_false_iff {kind : String} :
    registry.contains kind = false ↔ registry.types.lookup kind = none := by
  rw [contains, List.any_eq_false, List.lookup_eq_none_iff]
  refine forall₂_congr fun entry _ => ?_
  rw [bne_comm]
  simp

theorem resolve_eq_ok_iff {factory : SinkFactory} :
    registry.resolve sink.type sink.settings = .ok factory ↔ registry.Resolves sink factory := by
  rw [resolve, Resolves]
  cases registry.types.lookup sink.type with
  | none => simp
  | some type => simp [mapError_eq_ok_iff]

theorem Refuses.resolve_eq {error : QueryError} (refuses : registry.Refuses sink error) :
    registry.resolve sink.type sink.settings = .error error := by
  cases refuses with
  | unknown absent => rw [resolve, contains_eq_false_iff.1 absent]
  | unsettled found failed =>
    rw [resolve, found]
    simp only [failed, Except.mapError]

theorem refuses_of_resolve {error : QueryError}
    (failed : registry.resolve sink.type sink.settings = .error error) :
    registry.Refuses sink error := by
  rw [resolve] at failed
  cases found : registry.types.lookup sink.type with
  | none =>
    rw [found] at failed
    obtain rfl := Except.error.inj failed
    exact .unknown (contains_eq_false_iff.2 found)
  | some type =>
    rw [found] at failed
    cases made : type sink.settings with
    | ok factory => simp [made, Except.mapError] at failed
    | error cause =>
      simp only [made, Except.mapError, Except.error.injEq] at failed
      rw [← failed]
      exact .unsettled found made

end SinkRegistry

namespace QueryEntry

/-- Builds the query of an entry with some way to create sinks. -/
def toQueryBy (create : SinkFactory → Traced String Sink) (registry : SinkRegistry)
    (environment : Environment) (entry : QueryEntry) : Traced QueryError Query := do
  let factories ← .of <| (entry.sinks.getD []).mapM fun sink =>
    registry.resolve sink.type sink.settings
  (entry.draft factories).buildBy create environment

theorem toQueryBy_create (registry : SinkRegistry) (environment : Environment)
    (entry : QueryEntry) :
    entry.toQueryBy SinkFactory.create registry environment =
      entry.toQuery registry environment := by
  simp only [toQueryBy, toQuery, Draft.buildBy_create]

/-- How building the query of an entry can go. Sinks are resolved first, then the pattern is read,
and only then are sinks created, until one fails. All that is left behind is what the creation of
sinks leaves. -/
inductive Course (create : SinkFactory → Traced String Sink) (registry : SinkRegistry)
    (environment : Environment) (entry : QueryEntry) : Traced QueryError Query → Prop
  | unresolved {before sink after error} :
      entry.sinks.getD [] = before ++ sink :: after →
      (∀ earlier ∈ before, ∃ factory, registry.Resolves earlier factory) →
      registry.Refuses sink error →
      Course create registry environment entry ⟨[], .error error⟩
  | unreadable {factories cause} :
      List.Forall₂ registry.Resolves (entry.sinks.getD []) factories →
      NamePattern.parse entry.pattern = .error cause →
      Course create registry environment entry ⟨[], .error (.invalidPattern entry.pattern cause)⟩
  | uncreated {before factory after pattern fault} :
      List.Forall₂ registry.Resolves (entry.sinks.getD []) (before ++ factory :: after) →
      NamePattern.parse entry.pattern = .ok pattern →
      (∀ earlier ∈ before, ∃ sink, (create earlier).result = .ok sink) →
      (create factory).result = .error fault →
      Course create registry environment entry
        ⟨(before ++ [factory]).flatMap fun called => (create called).events,
          .error (.sinkConstruction before.length fault)⟩
  | built {factories pattern sinks} :
      List.Forall₂ registry.Resolves (entry.sinks.getD []) factories →
      NamePattern.parse entry.pattern = .ok pattern →
      List.Forall₂ (fun factory sink => (create factory).result = .ok sink) factories sinks →
      Course create registry environment entry
        ⟨factories.flatMap fun called => (create called).events,
          .ok ((entry.draft factories).query environment pattern sinks)⟩

variable {create : SinkFactory → Traced String Sink} {registry : SinkRegistry}
  {environment : Environment} {entry : QueryEntry}

theorem resolved_eq {factories : List SinkFactory}
    (resolved : List.Forall₂ registry.Resolves (entry.sinks.getD []) factories) :
    ((entry.sinks.getD []).mapM fun sink => registry.resolve sink.type sink.settings) =
      .ok factories :=
  mapM_eq_ok_iff.2 (resolved.imp fun _ _ => SinkRegistry.resolve_eq_ok_iff.2)

/-- With its sinks resolved, an entry is left to the building of its draft. -/
theorem toQueryBy_of_resolved {factories : List SinkFactory}
    (resolved : List.Forall₂ registry.Resolves (entry.sinks.getD []) factories) :
    entry.toQueryBy create registry environment =
      (entry.draft factories).buildBy create environment := by
  rw [toQueryBy, resolved_eq resolved]
  rfl

/-- With its pattern read as well, it is left to the creation of its sinks. -/
theorem toQueryBy_of_checked {factories : List SinkFactory} {pattern : NamePattern}
    (resolved : List.Forall₂ registry.Resolves (entry.sinks.getD []) factories)
    (parsed : NamePattern.parse entry.pattern = .ok pattern) :
    entry.toQueryBy create registry environment =
      createSinksBy create 0 factories >>= fun sinks =>
        pure ((entry.draft factories).query environment pattern sinks) := by
  rw [toQueryBy_of_resolved resolved]
  exact Draft.buildBy_of_parsed parsed

/-- The conditions of a course determine what happens. -/
theorem Course.toQueryBy_eq {traced : Traced QueryError Query}
    (course : entry.Course create registry environment traced) :
    entry.toQueryBy create registry environment = traced := by
  cases course with
  | @unresolved before sink after error split earlier refuses =>
    have failed : ((entry.sinks.getD []).mapM fun sink =>
        registry.resolve sink.type sink.settings) = .error error := by
      rw [split]
      exact mapM_of_first_error
        (fun one listed => (earlier one listed).imp fun _ => SinkRegistry.resolve_eq_ok_iff.2)
        refuses.resolve_eq
    rw [toQueryBy, failed]
    rfl
  | unreadable resolved failed =>
    rw [toQueryBy_of_resolved resolved]
    exact Draft.buildBy_of_unreadable failed
  | uncreated resolved parsed earlier failed =>
    rw [toQueryBy_of_checked resolved parsed, createSinksBy_of_failed earlier failed,
      Traced.bind_of_error rfl, Nat.zero_add]
  | built resolved parsed created =>
    rw [toQueryBy_of_checked resolved parsed, createSinksBy_of_created created,
      Traced.bind_of_ok rfl]
    simp [pure]

theorem exists_course (create : SinkFactory → Traced String Sink) (registry : SinkRegistry)
    (environment : Environment) (entry : QueryEntry) :
    ∃ traced, entry.Course create registry environment traced := by
  -- The cases come in the order of the checks: sinks, pattern, creation.
  rcases all_ok_or_first_error (fun (sink : SinkEntry) => registry.resolve sink.type sink.settings)
      (entry.sinks.getD []) with
    all | ⟨before, sink, after, error, split, earlier, failed⟩
  · obtain ⟨factories, resolved⟩ := exists_forall₂_iff.2 fun sink listed =>
      (all sink listed).imp fun _ => SinkRegistry.resolve_eq_ok_iff.1
    cases parsed : NamePattern.parse entry.pattern with
    | error cause => exact ⟨_, .unreadable resolved parsed⟩
    | ok pattern =>
      rcases all_ok_or_first_error (fun factory => (create factory).result) factories with
        all | ⟨before, factory, after, fault, rfl, earlier, failed⟩
      · obtain ⟨sinks, created⟩ := exists_forall₂_iff.2 all
        exact ⟨_, .built resolved parsed created⟩
      · exact ⟨_, .uncreated resolved parsed earlier failed⟩
  · exact ⟨_, .unresolved split
      (fun one listed => (earlier one listed).imp fun _ => SinkRegistry.resolve_eq_ok_iff.1)
      (SinkRegistry.refuses_of_resolve failed)⟩

theorem toQueryBy_eq_iff {traced : Traced QueryError Query} :
    entry.toQueryBy create registry environment = traced ↔
      entry.Course create registry environment traced := by
  refine ⟨?_, Course.toQueryBy_eq⟩
  rintro rfl
  obtain ⟨traced, course⟩ := exists_course create registry environment entry
  rw [course.toQueryBy_eq]
  exact course

theorem toQuery_eq_iff {traced : Traced QueryError Query} :
    entry.toQuery registry environment = traced ↔
      entry.Course SinkFactory.create registry environment traced := by
  rw [← toQueryBy_create, toQueryBy_eq_iff]

end QueryEntry

/-- Building the query of an entry follows its course, whatever the creation of sinks does: nothing
is created before all sinks are resolved and the pattern is read, then factories are called in
order, each of them once, until one fails. A query has one sink for each one listed, and the sink
was created by the factory that the listed one was resolved to. -/
theorem building_follows_course (registry : SinkRegistry) (environment : Environment)
    (entry : QueryEntry) :
    (∀ traced, entry.toQuery registry environment = traced ↔
        entry.Course SinkFactory.create registry environment traced) ∧
      (∀ create traced, entry.toQueryBy create registry environment = traced ↔
        entry.Course create registry environment traced) ∧
      ∀ query, (entry.toQuery registry environment).result = .ok query →
        List.Forall₂ registry.Resolves (entry.sinks.getD []) query.factories ∧
          List.Forall₂ SinkFactory.Creates query.factories query.sinks ∧
          query.sinks.length = (entry.sinks.getD []).length ∧
          (entry.toQuery registry environment).events = creations query.factories := by
  refine ⟨fun _ => QueryEntry.toQuery_eq_iff, fun _ _ => QueryEntry.toQueryBy_eq_iff, ?_⟩
  intro query succeeded
  generalize run : entry.toQuery registry environment = traced at succeeded
  cases QueryEntry.toQuery_eq_iff.1 run with
  | unresolved => cases succeeded
  | unreadable => cases succeeded
  | uncreated => cases succeeded
  | built resolved parsed created =>
    obtain rfl := Except.ok.inj succeeded
    exact ⟨resolved, created, (resolved.length_eq.trans created.length_eq).symm, rfl⟩

/-- The second of three sinks cannot be created, and the third is not. -/
theorem building_follows_course_of_failing :
    ∃ (registry : SinkRegistry) (entry : QueryEntry),
      (entry.sinks.getD []).length = 3 ∧
        (entry.toQuery registry ⟨[]⟩) =
          ⟨[.created "a", .created "b"], .error (.sinkConstruction 1 "down")⟩ ∧
        entry.Course SinkFactory.create registry ⟨[]⟩
          ⟨[.created "a", .created "b"], .error (.sinkConstruction 1 "down")⟩ := by
  have run : QueryEntry.toQuery
      (SinkRegistry.empty.insert "r" fun settings => .ok (SinkFactory.recording settings)) ⟨[]⟩
      { pattern := "d:*"
        sinks := some [⟨"r", [("label", .text "a")]⟩,
          ⟨"r", [("label", .text "b"), ("failCreate", .text "down")]⟩,
          ⟨"r", [("label", .text "c")]⟩] } =
      ⟨[.created "a", .created "b"], .error (.sinkConstruction 1 "down")⟩ := by
    rfl
  exact ⟨_, _, rfl, run, ((building_follows_course _ _ _).1 _).1 run⟩

end MetricQuery
