import MetricQuery.Proofs.Config.Validation
import MetricQuery.Proofs.Query.Settings

namespace MetricQuery

namespace QueryEntry

/-- The settings that an entry stands for, one for each of its fields. A list that is absent adds
nothing, and without an alias none is set. -/
def settings (entry : QueryEntry) (factories : List SinkFactory) : List Setting :=
  [.pattern entry.pattern, .attributeNames (entry.attributeNames.getD []),
    .typeNames (entry.typeNames.getD []), .keys (entry.keys.getD []), .dottedKeys entry.dottedKeys,
    .allTypeNames entry.allTypeNames, .domainAsKey entry.domainAsKey, .sinks factories] ++
    (entry.resultAlias.map Setting.resultAlias).toList

theorem draft_eq_ofSettings (entry : QueryEntry) (factories : List SinkFactory) :
    entry.draft factories = Draft.ofSettings (entry.settings factories) := by
  obtain ⟨pattern, attributeNames, typeNames, resultAlias, keys, dotted, all, sinks, domain⟩ := entry
  cases resultAlias with
  | none => rfl
  | some name => rfl

variable {create : SinkFactory → Traced String Sink} {registry : SinkRegistry}
  {environment : Environment} {entry : QueryEntry} {query : Query}

/-- The query of an entry reflects the settings that the entry stands for, with the factories that
its sinks are resolved to. -/
theorem reflects_of_toQueryBy
    (built : (entry.toQueryBy create registry environment).result = .ok query) :
    List.Forall₂ registry.Resolves (entry.sinks.getD []) query.factories ∧
      query.Reflects create environment (entry.settings query.factories) := by
  obtain ⟨factories, resolved, made⟩ := Traced.bind_result_eq_ok_iff.1 built
  rw [draft_eq_ofSettings] at made
  have reflects := Draft.reflects_of_build made
  have own : query.factories = factories := by
    rw [reflects.factories]
    cases entry.resultAlias <;> simp [settings, Setting.all, Setting.given]
  rw [own]
  exact ⟨(mapM_eq_ok_iff.1 resolved).imp fun _ _ => SinkRegistry.resolve_eq_ok_iff.1, reflects⟩

/-- What the fields of an entry come to in its query. -/
structure Configures (environment : Environment) (entry : QueryEntry) (query : Query) : Prop where
  pattern : NamePattern.parse entry.pattern = .ok query.pattern
  attributeNames : query.attributeNames =
    (entry.attributeNames.getD []).map (Placeholder.expand environment.lookup)
  keys : query.keys = (entry.keys.getD []).map (Placeholder.expand environment.lookup)
  typeNames : query.typeNames = (entry.typeNames.getD []).eraseDups
  resultAlias : query.resultAlias = entry.resultAlias
  domainAsKey : query.domainAsKey = entry.domainAsKey
  dottedKeys : query.dottedKeys = entry.dottedKeys
  allTypeNames : query.allTypeNames = entry.allTypeNames

theorem configures_of_toQueryBy
    (built : (entry.toQueryBy create registry environment).result = .ok query) :
    entry.Configures environment query := by
  obtain ⟨_, _, made⟩ := Traced.bind_result_eq_ok_iff.1 built
  obtain ⟨pattern, sinks, parsed, _, rfl⟩ := Draft.buildBy_eq_ok_iff.1 made
  exact ⟨parsed, rfl, rfl, rfl, rfl, rfl, rfl, rfl⟩

end QueryEntry

end MetricQuery
