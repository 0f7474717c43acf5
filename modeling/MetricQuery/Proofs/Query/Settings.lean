import MetricQuery.Proofs.Name.Distinct
import MetricQuery.Proofs.Naming.Key
import MetricQuery.Proofs.Query.Building

namespace MetricQuery

namespace Setting

/-- What a setting is about. -/
inductive Topic where
  | pattern
  | attributeNames
  | keys
  | typeNames
  | resultAlias
  | domainAsKey
  | dottedKeys
  | allTypeNames
  | sinks
deriving DecidableEq, Repr

/-- What settings of one topic consist of. -/
abbrev Topic.Value : Topic → Type
  | .domainAsKey | .dottedKeys | .allTypeNames => Bool
  | .sinks => SinkFactory
  | _ => String

def topic : Setting → Topic
  | .pattern _ => .pattern
  | .attributeName _ | .attributeNames _ => .attributeNames
  | .key _ | .keys _ => .keys
  | .typeName _ | .typeNames _ => .typeNames
  | .resultAlias _ => .resultAlias
  | .domainAsKey _ => .domainAsKey
  | .dottedKeys _ => .dottedKeys
  | .allTypeNames _ => .allTypeNames
  | .sink _ | .sinks _ => .sinks

/-- What a setting says on a topic. -/
def given : (topic : Topic) → Setting → List topic.Value
  | .pattern, .pattern text => [text]
  | .attributeNames, .attributeName name => [name]
  | .attributeNames, .attributeNames names => names
  | .keys, .key name => [name]
  | .keys, .keys names => names
  | .typeNames, .typeName name => [name]
  | .typeNames, .typeNames names => names
  | .resultAlias, .resultAlias name => [name]
  | .domainAsKey, .domainAsKey flag => [flag]
  | .dottedKeys, .dottedKeys flag => [flag]
  | .allTypeNames, .allTypeNames flag => [flag]
  | .sinks, .sink factory => [factory]
  | .sinks, .sinks factories => factories
  | _, _ => []

/-- All that settings say on a topic, in their order. -/
def all (topic : Topic) (settings : List Setting) : List topic.Value :=
  settings.flatMap (given topic)

theorem given_of_ne {topic : Topic} {setting : Setting} (apart : setting.topic ≠ topic) :
    setting.given topic = [] := by
  -- Either the last equation of `given` applies, or the setting has just that topic.
  cases topic <;> cases setting <;> first | rfl | exact absurd rfl apart

theorem all_filter_topic (topic : Topic) (settings : List Setting) :
    all topic (settings.filter fun setting => setting.topic = topic) = all topic settings := by
  induction settings with
  | nil => rfl
  | cons setting rest ih =>
    rw [List.filter_cons]
    by_cases same : setting.topic = topic
    · rw [if_pos (by simpa using same), all, List.flatMap_cons, ← all, ih]
      rfl
    · rw [if_neg (by simpa using same), ih, all, all, List.flatMap_cons, given_of_ne same,
        List.nil_append]

/-- What is said on each topic depends only on the settings of that topic. -/
theorem all_eq_of_topics {settings others : List Setting}
    (agree : ∀ topic, (others.filter fun setting => setting.topic = topic) =
      settings.filter fun setting => setting.topic = topic) (topic : Topic) :
    all topic others = all topic settings := by
  rw [← all_filter_topic topic others, agree, all_filter_topic]

end Setting

namespace Draft

/-- A draft with more said on each topic. Lists grow, and of the rest the last word counts. -/
def gather (draft : Draft) (said : (topic : Setting.Topic) → List topic.Value) : Draft where
  pattern := (said .pattern).getLast?.getD draft.pattern
  attributeNames := draft.attributeNames ++ said .attributeNames
  keys := draft.keys ++ said .keys
  typeNames := draft.typeNames ++ said .typeNames
  resultAlias := (said .resultAlias).getLast?.or draft.resultAlias
  domainAsKey := (said .domainAsKey).getLast?.getD draft.domainAsKey
  dottedKeys := (said .dottedKeys).getLast?.getD draft.dottedKeys
  allTypeNames := (said .allTypeNames).getLast?.getD draft.allTypeNames
  factories := draft.factories ++ said .sinks

theorem set_eq_gather (draft : Draft) (setting : Setting) :
    draft.set setting = draft.gather fun topic => setting.given topic := by
  cases setting <;> simp [set, gather, Setting.given]

theorem gather_gather (draft : Draft) (first later : (topic : Setting.Topic) → List topic.Value) :
    (draft.gather first).gather later = draft.gather fun topic => first topic ++ later topic := by
  simp [gather, Option.or_assoc]

/-- All settings together are gathered like one that says everything. -/
theorem foldl_set (draft : Draft) (settings : List Setting) :
    settings.foldl set draft = draft.gather fun topic => Setting.all topic settings := by
  -- What is said first is already in the draft when the rest is gathered.
  induction settings generalizing draft with
  | nil => simp [gather, Setting.all]
  | cons setting rest ih =>
    rw [List.foldl_cons, ih, set_eq_gather, gather_gather]
    rfl

theorem ofSettings_eq (settings : List Setting) :
    ofSettings settings = ({} : Draft).gather fun topic => Setting.all topic settings :=
  foldl_set {} settings

end Draft

/-- The text that is read as the pattern: of those that were given the last one. -/
def Setting.lastPattern (settings : List Setting) : String :=
  (all .pattern settings).getLast?.getD ""

/-- The query holds in each of its fields what the settings of one topic say. Only attribute names
and keys have their placeholders expanded, and only type names are freed of duplicates. -/
structure Query.Reflects (create : SinkFactory → Traced String Sink) (environment : Environment)
    (settings : List Setting) (query : Query) : Prop where
  pattern : NamePattern.parse (Setting.lastPattern settings) = .ok query.pattern
  attributeNames : query.attributeNames =
    (Setting.all .attributeNames settings).map (Placeholder.expand environment.lookup)
  keys : query.keys = (Setting.all .keys settings).map (Placeholder.expand environment.lookup)
  typeNames : ∃ places, KeepsFirsts (Setting.all .typeNames settings) query.typeNames places
  resultAlias : query.resultAlias = (Setting.all .resultAlias settings).getLast?
  domainAsKey : query.domainAsKey = (Setting.all .domainAsKey settings).getLast?.getD false
  dottedKeys : query.dottedKeys = (Setting.all .dottedKeys settings).getLast?.getD false
  allTypeNames : query.allTypeNames = (Setting.all .allTypeNames settings).getLast?.getD false
  factories : query.factories = Setting.all .sinks settings
  sinks : List.Forall₂ (fun factory sink => (create factory).result = .ok sink)
    query.factories query.sinks
  separator : query.separator = if query.dottedKeys then "." else "_"
  naming_of_all : query.allTypeNames = true → query.naming = .everything query.separator
  naming_of_listed : query.allTypeNames = false → query.typeNames ≠ [] →
    query.naming = .leading query.separator query.typeNames
  naming_of_none : query.allTypeNames = false → query.typeNames = [] →
    query.naming = .plain query.separator

theorem Query.naming_eq (query : Query) :
    query.naming =
      if query.allTypeNames then .everything query.separator
      else if query.typeNames.isEmpty then .plain query.separator
      else .leading query.separator query.typeNames := by
  rw [separator_eq]
  rfl

section Building

variable {create : SinkFactory → Traced String Sink} {environment : Environment}
  {settings : List Setting}

theorem Draft.pattern_ofSettings (settings : List Setting) :
    (ofSettings settings).pattern = Setting.lastPattern settings := by
  rw [ofSettings_eq]
  rfl

theorem Draft.factories_ofSettings (settings : List Setting) :
    (ofSettings settings).factories = Setting.all .sinks settings := by
  rw [ofSettings_eq]
  exact List.nil_append _

theorem Draft.reflects_of_build {query : Query}
    (built : ((ofSettings settings).buildBy create environment).result = .ok query) :
    query.Reflects create environment settings := by
  obtain ⟨pattern, sinks, parsed, created, rfl⟩ := buildBy_eq_ok_iff.1 built
  rw [pattern_ofSettings] at parsed
  rw [ofSettings_eq] at created ⊢
  exact {
    pattern := parsed
    attributeNames := rfl
    keys := rfl
    typeNames := KeepsFirsts.eraseDups _
    resultAlias := Option.or_none
    domainAsKey := rfl
    dottedKeys := rfl
    allTypeNames := rfl
    factories := rfl
    sinks := created
    separator := Query.separator_eq _
    naming_of_all := fun all => by rw [Query.naming_eq, if_pos all]
    naming_of_listed := fun notAll listed => by
      rw [Query.naming_eq, if_neg (by simp [notAll]), if_neg (by simpa using listed)]
    naming_of_none := fun notAll none => by
      rw [Query.naming_eq, if_neg (by simp [notAll]), if_pos (by simpa using none)] }

/-- If no factory fails, building depends on the pattern alone. -/
theorem Draft.exists_build_iff
    (createable : ∀ factory ∈ Setting.all .sinks settings,
      ∃ sink, (create factory).result = .ok sink) :
    (∃ query, ((ofSettings settings).buildBy create environment).result = .ok query) ↔
      ∃ pattern, NamePattern.parse (Setting.lastPattern settings) = .ok pattern := by
  simp only [buildBy_eq_ok_iff, pattern_ofSettings, factories_ofSettings]
  constructor
  · rintro ⟨_, pattern, _, parsed, _⟩
    exact ⟨pattern, parsed⟩
  · rintro ⟨pattern, parsed⟩
    obtain ⟨sinks, created⟩ := exists_forall₂_iff.2 createable
    exact ⟨_, pattern, sinks, parsed, created, rfl⟩

theorem Draft.ofSettings_congr {others : List Setting}
    (agree : ∀ topic, (others.filter fun setting => setting.topic = topic) =
      settings.filter fun setting => setting.topic = topic) :
    ofSettings others = ofSettings settings := by
  rw [ofSettings_eq, ofSettings_eq, funext (Setting.all_eq_of_topics agree)]

end Building

/-- Settings count topic by topic, in whichever order they are given. If no factory fails, the last
pattern alone decides whether there is a query, each field of the query holds what the settings of
one topic say, and settings that agree on each topic make the same query. -/
theorem built_query_reflects_settings (create : SinkFactory → Traced String Sink)
    (environment : Environment) (settings : List Setting)
    (createable : ∀ factory ∈ Setting.all .sinks settings,
      ∃ sink, (create factory).result = .ok sink) :
    ((∃ query, ((Draft.ofSettings settings).buildBy create environment).result = .ok query) ↔
        ∃ pattern, NamePattern.parse (Setting.lastPattern settings) = .ok pattern) ∧
      (∀ query, ((Draft.ofSettings settings).buildBy create environment).result = .ok query →
        query.Reflects create environment settings) ∧
      (∀ others, (∀ topic, (others.filter fun setting => setting.topic = topic) =
          settings.filter fun setting => setting.topic = topic) →
        (Draft.ofSettings others).buildBy create environment =
          (Draft.ofSettings settings).buildBy create environment) ∧
      (Draft.ofSettings settings).buildBy SinkFactory.create environment =
        (Draft.ofSettings settings).build environment := by
  refine ⟨Draft.exists_build_iff createable, fun _ => Draft.reflects_of_build, ?_,
    Draft.buildBy_create environment _⟩
  intro others agree
  rw [Draft.ofSettings_congr agree]

/-- The first pattern cannot be read, type names are given twice, and a flag is taken back. -/
theorem built_query_reflects_settings_of_mixed :
    ∃ (settings : List Setting) (query : Query),
      Setting.all .pattern settings = ["", "d:*"] ∧
        Setting.all .typeNames settings = ["t", "u", "t"] ∧
        ((Draft.ofSettings settings).build ⟨[("A", "1")]⟩).result = .ok query ∧
        query.attributeNames = ["n", "1", "n"] ∧ query.keys = ["$\x7bB\x7d"] ∧
        query.resultAlias = some "$\x7bA\x7d" ∧ query.naming = .leading "." ["t", "u"] ∧
        query.Reflects SinkFactory.create ⟨[("A", "1")]⟩ settings := by
  obtain ⟨_, reflects, _, _⟩ := built_query_reflects_settings SinkFactory.create ⟨[("A", "1")]⟩
    [.typeName "t", .pattern "", .attributeName "n", .allTypeNames true, .resultAlias "a",
      .sink (.log .info), .key "$\x7bB\x7d", .typeNames ["u", "t"], .dottedKeys true,
      .pattern "d:*", .attributeNames ["$\x7bA\x7d", "n"], .allTypeNames false,
      .sinks [.recorder "r" none none], .resultAlias "$\x7bA\x7d"]
    (List.forall_mem_cons.2 ⟨⟨_, rfl⟩, List.forall_mem_cons.2 ⟨⟨_, rfl⟩, List.forall_mem_nil _⟩⟩)
  exact ⟨_, ⟨⟨"d", ⟨[]⟩, true⟩, ["$\x7bB\x7d"], ["n", "1", "n"], ["t", "u"],
    some "$\x7bA\x7d", false, true, false, [.log .info, .recorder "r" none none],
    [.log .info, .recorder "r" none]⟩, rfl, rfl, by cbv, rfl, rfl, rfl, by cbv,
    reflects _ (by cbv)⟩

end MetricQuery
