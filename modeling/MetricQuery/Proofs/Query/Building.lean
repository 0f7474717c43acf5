import MetricQuery.Proofs.Except
import MetricQuery.Proofs.Trace
import MetricQuery.Query.Draft

namespace MetricQuery

/-- A computation succeeds with both of its steps. -/
theorem Traced.bind_result_eq_ok_iff {ε α β : Type} {first : Traced ε α} {next : α → Traced ε β}
    {result : β} :
    (first >>= next).result = .ok result ↔
      ∃ value, first.result = .ok value ∧ (next value).result = .ok result := by
  obtain ⟨events, outcome⟩ := first
  cases outcome with
  | error failure => simp [bind, Traced.andThen]
  | ok value => simp [bind, Traced.andThen]

/-- The factory has created the sink. -/
def SinkFactory.Creates (factory : SinkFactory) (sink : Sink) : Prop :=
  factory.create.result = .ok sink

/-- Creates a sink from each factory in the given way, in order, up to the first that fails. -/
def createSinksBy (create : SinkFactory → Traced String Sink) (index : Nat) :
    List SinkFactory → Traced QueryError (List Sink)
  | [] => pure []
  | factory :: rest => do
    let sink ← (create factory).mapError (.sinkConstruction index)
    let others ← createSinksBy create (index + 1) rest
    pure (sink :: others)

theorem createSinksBy_create (index : Nat) (factories : List SinkFactory) :
    createSinksBy SinkFactory.create index factories = createSinks index factories := by
  induction factories generalizing index with
  | nil => rfl
  | cons factory rest ih => simp only [createSinksBy, createSinks, ih]

section Creation

variable {create : SinkFactory → Traced String Sink}

/-- Creating sinks succeeds if every factory creates one, and then all of them are put to work, in
their order. -/
theorem createSinksBy_eq_ok_iff {index : Nat} {factories : List SinkFactory} {sinks : List Sink} :
    (createSinksBy create index factories).result = .ok sinks ↔
      List.Forall₂ (fun factory sink => (create factory).result = .ok sink) factories sinks := by
  induction factories generalizing index sinks with
  | nil => simp [createSinksBy, pure]
  | cons factory rest ih =>
    simp only [createSinksBy, Traced.bind_result_eq_ok_iff, Traced.mapError, mapError_eq_ok_iff, ih,
      pure, Except.ok.injEq]
    constructor
    · rintro ⟨sink, created, others, createdOthers, rfl⟩
      exact .cons created createdOthers
    · rintro (_ | ⟨created, createdOthers⟩)
      exact ⟨_, created, _, createdOthers, rfl⟩

/-- If every factory creates a sink, each has been called once, in their order. -/
theorem createSinksBy_of_created {factories : List SinkFactory} {sinks : List Sink}
    (created : List.Forall₂ (fun factory sink => (create factory).result = .ok sink)
      factories sinks) (index : Nat) :
    createSinksBy create index factories =
      ⟨factories.flatMap fun factory => (create factory).events, .ok sinks⟩ := by
  induction created generalizing index with
  | nil => rfl
  | cons creates _ ih =>
    rw [createSinksBy, Traced.mapError_of_ok creates, Traced.bind_of_ok rfl, ih,
      Traced.bind_of_ok rfl]
    simp [pure]

/-- The first factory that fails is the last one that is called. -/
theorem createSinksBy_of_failed {before after : List SinkFactory} {factory : SinkFactory}
    {fault : String} (earlier : ∀ one ∈ before, ∃ sink, (create one).result = .ok sink)
    (failed : (create factory).result = .error fault) (index : Nat) :
    createSinksBy create index (before ++ factory :: after) =
      ⟨(before ++ [factory]).flatMap fun one => (create one).events,
        .error (.sinkConstruction (index + before.length) fault)⟩ := by
  induction before generalizing index with
  | nil =>
    rw [List.nil_append, createSinksBy, Traced.mapError_of_error failed,
      Traced.bind_of_error rfl]
    simp
  | cons first rest ih =>
    obtain ⟨⟨sink, creates⟩, others⟩ := List.forall_mem_cons.1 earlier
    rw [List.cons_append, createSinksBy, Traced.mapError_of_ok creates, Traced.bind_of_ok rfl,
      ih others, Traced.bind_of_error rfl]
    simp [Nat.add_comm, Nat.add_left_comm]

end Creation

/-- What is recorded of the creation of one sink by each factory. -/
def creations (factories : List SinkFactory) : List Event :=
  factories.flatMap fun factory => factory.create.events

namespace Draft

/-- The query of a draft whose pattern has been read and whose sinks have been created. -/
def query (environment : Environment) (draft : Draft) (pattern : NamePattern)
    (sinks : List Sink) : Query where
  pattern := pattern
  sinks := sinks
  keys := draft.keys.map (Placeholder.expand environment.lookup)
  attributeNames := draft.attributeNames.map (Placeholder.expand environment.lookup)
  typeNames := draft.typeNames.eraseDups
  resultAlias := draft.resultAlias
  domainAsKey := draft.domainAsKey
  dottedKeys := draft.dottedKeys
  allTypeNames := draft.allTypeNames
  factories := draft.factories

/-- Builds a query with some way to create sinks. -/
def buildBy (create : SinkFactory → Traced String Sink) (environment : Environment)
    (draft : Draft) : Traced QueryError Query := do
  let pattern ← .of ((NamePattern.parse draft.pattern).mapError (.invalidPattern draft.pattern))
  let sinks ← createSinksBy create 0 draft.factories
  pure (draft.query environment pattern sinks)

theorem buildBy_create (environment : Environment) (draft : Draft) :
    draft.buildBy SinkFactory.create environment = draft.build environment := by
  simp only [buildBy, createSinksBy_create]
  rfl

section Building

variable {create : SinkFactory → Traced String Sink} {environment : Environment} {draft : Draft}

theorem buildBy_of_unreadable {cause : NameError}
    (failed : NamePattern.parse draft.pattern = .error cause) :
    draft.buildBy create environment = ⟨[], .error (.invalidPattern draft.pattern cause)⟩ := by
  rw [buildBy, failed]
  rfl

theorem buildBy_of_parsed {pattern : NamePattern}
    (parsed : NamePattern.parse draft.pattern = .ok pattern) :
    draft.buildBy create environment =
      createSinksBy create 0 draft.factories >>= fun sinks =>
        pure (draft.query environment pattern sinks) := by
  rw [buildBy, parsed]
  rfl

/-- A draft becomes a query if its pattern can be read and all of its sinks can be created. -/
theorem buildBy_eq_ok_iff {query : Query} :
    (draft.buildBy create environment).result = .ok query ↔
      ∃ pattern sinks, NamePattern.parse draft.pattern = .ok pattern ∧
        List.Forall₂ (fun factory sink => (create factory).result = .ok sink)
          draft.factories sinks ∧
        query = draft.query environment pattern sinks := by
  simp only [buildBy, Traced.bind_result_eq_ok_iff, Traced.of, mapError_eq_ok_iff,
    createSinksBy_eq_ok_iff, pure, Except.ok.injEq]
  constructor
  · rintro ⟨pattern, parsed, sinks, created, rfl⟩
    exact ⟨pattern, sinks, parsed, created, rfl⟩
  · rintro ⟨pattern, sinks, parsed, created, rfl⟩
    exact ⟨pattern, parsed, sinks, created, rfl⟩

end Building

end Draft

/-- The query has been built from some draft. -/
def Query.Built (query : Query) : Prop :=
  ∃ (environment : Environment) (draft : Draft), (draft.build environment).result = .ok query

theorem Query.Built.parse_pattern {query : Query} (built : query.Built) :
    ∃ text, NamePattern.parse text = .ok query.pattern := by
  obtain ⟨environment, draft, result⟩ := built
  rw [← Draft.buildBy_create] at result
  obtain ⟨pattern, sinks, parsed, _, rfl⟩ := Draft.buildBy_eq_ok_iff.1 result
  exact ⟨draft.pattern, parsed⟩

/-- The query has been built from some draft, with some way to create sinks. -/
def Query.BuiltBy (create : SinkFactory → Traced String Sink) (query : Query) : Prop :=
  ∃ (environment : Environment) (draft : Draft),
    (draft.buildBy create environment).result = .ok query

/-- The sinks of a query are those that its factories have created, one each. -/
theorem Query.BuiltBy.created {create : SinkFactory → Traced String Sink} {query : Query}
    (built : query.BuiltBy create) :
    List.Forall₂ (fun factory sink => (create factory).result = .ok sink)
      query.factories query.sinks := by
  obtain ⟨environment, draft, result⟩ := built
  obtain ⟨pattern, sinks, _, created, rfl⟩ := Draft.buildBy_eq_ok_iff.1 result
  exact created

end MetricQuery
