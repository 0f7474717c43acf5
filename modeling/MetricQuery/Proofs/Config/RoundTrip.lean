import Mathlib
import MetricQuery.Config.Deployment
import MetricQuery.Proofs.Json.Restoring

-- All of Mathlib is imported for the equations of library functions that the last run here unfolds.

namespace MetricQuery

open Json

namespace SinkEntry

variable {room : Nat} {node : Node} {entry : SinkEntry}

/-- No setting of the sink holds a float. -/
def FloatFree (entry : SinkEntry) : Prop := ∀ setting ∈ entry.settings, setting.2.FloatFree

theorem toJson_floatFree_iff : entry.toJson.FloatFree ↔ entry.FloatFree := by
  simp [toJson, FloatFree]

theorem build_eq_ok_iff {parts : List Part} :
    build parts = .ok entry ↔
      parts.findSome? Part.type? = some entry.type ∧
        membersOf (parts.filterMap Part.setting?) = entry.settings := by
  obtain ⟨type, settings⟩ := entry
  rw [build]
  cases parts.findSome? Part.type? <;> simp

theorem exists_read_of_setting {name key : String} {value : Json} {part : Part}
    (reads : (slot name).Reads room node part) (set : part.setting? = some (key, value)) :
    key ≠ "@class" ∧ node.readAny room = .ok value := by
  rw [slot] at reads
  split at reads
  · cases reads with
    | field read =>
      obtain ⟨type, _, rfl⟩ := Decoder.map_eq_ok_iff.1 read
      cases set
  · rename_i free
    cases reads with
    | setting read =>
      obtain ⟨own, here, rfl⟩ := Decoder.map_eq_ok_iff.1 read
      cases set
      exact ⟨free, here⟩

/-- What has been read as a sink has settings with different names, none of which is the name of
the field, and they fit inside an object. -/
theorem settings_of_decoder (read : decoder room node = .ok entry) :
    2 ≤ room ∧ (entry.settings.map Prod.fst).Nodup ∧
      ∀ setting ∈ entry.settings, setting.1 ≠ "@class" ∧ setting.2.Fits (room - 1) := by
  cases node with
  | object members =>
    obtain ⟨wide, parts, inside, built⟩ := objectDecoder_object_iff.1 read
    obtain ⟨_, settings⟩ := build_eq_ok_iff.1 built
    rw [← settings]
    refine ⟨wide, nodup_membersOf _, fun setting held => ?_⟩
    obtain ⟨part, given, set⟩ := List.mem_filterMap.1 (mem_of_mem_membersOf held)
    obtain ⟨name, own, reads⟩ := exists_reads_of_mem_readMembers inside part given
    obtain ⟨free, here⟩ := exists_read_of_setting reads set
    exact ⟨free, fits_of_readAny here⟩
  | _ => cases read

theorem slot_of_ne {name : String} (free : name ≠ "@class") :
    slot name = .setting (.map (.set name) .any) := if_neg free

theorem decoder_restores : decoder.Restores toJson room := by
  intro node entry read free
  obtain ⟨wide, distinct, held⟩ := settings_of_decoder read
  obtain ⟨type, settings⟩ := entry
  have parts : List.Forall₂ (fun member part =>
      (slot member.1).Reads (room - 1) (layout member.2) part)
      (("@class", .text type) :: settings)
      (.named type :: settings.map fun setting => .set setting.1 setting.2) := by
    refine .cons (.field (Decoder.map_eq_ok_iff.2 ⟨type, Decoder.text_layout type, rfl⟩)) ?_
    refine List.forall₂_map_right_iff.2 (List.forall₂_same.2 fun setting given => ?_)
    obtain ⟨other, fits⟩ := held setting given
    have back := fits.readAny_layout (toJson_floatFree_iff.1 free setting given)
    rw [slot_of_ne other]
    exact .setting (Decoder.map_eq_ok_iff.2 ⟨setting.2, back, rfl⟩)
  have names : ((("@class", Json.text type) :: settings).map Prod.fst).Nodup := by
    refine List.nodup_cons.2 ⟨fun again => ?_, distinct⟩
    obtain ⟨setting, given, same⟩ := List.mem_map.1 again
    exact (held setting given).1 same
  have inside := readMembers_layoutMembers parts names
  refine objectDecoder_object_iff.2 ⟨wide, _, inside, build_eq_ok_iff.2 ⟨rfl, ?_⟩⟩
  have kept : (settings.map fun setting => Part.set setting.1 setting.2).filterMap Part.setting? =
      settings := by
    simp [List.filterMap_map, Function.comp_def, Part.setting?]
  exact (congrArg membersOf kept).trans (membersOf_of_nodup distinct)

end SinkEntry

namespace QueryEntry

variable {room : Nat} {node : Node} {entry : QueryEntry}

/-- No setting of any sink of the query holds a float. -/
def FloatFree (entry : QueryEntry) : Prop := ∀ sinks ∈ entry.sinks, ∀ sink ∈ sinks, sink.FloatFree

/-- The members of a query as they are written. -/
def rows (entry : QueryEntry) : List (Row Field) :=
  [.given "obj" (.text entry.pattern) (.pattern entry.pattern),
    .optional "attr" .attributeNames texts entry.attributeNames,
    .optional "typeNames" .typeNames texts entry.typeNames,
    .optional "resultAlias" .resultAlias .text entry.resultAlias,
    .optional "keys" .keys texts entry.keys,
    .given "allowDottedKeys" (.bool entry.dottedKeys) (.dottedKeys entry.dottedKeys),
    .given "useAllTypeNames" (.bool entry.allTypeNames) (.allTypeNames entry.allTypeNames),
    .optional "outputWriters" .sinks (fun sinks => .array (sinks.map SinkEntry.toJson)) entry.sinks,
    .given "useObjDomainAsKey" (.bool entry.domainAsKey) (.domainAsKey entry.domainAsKey)]

theorem toJson_eq_rows : entry.toJson = .object (entry.rows.filterMap Row.member?) := by
  simp [toJson, objectOf, rows, Row.member?, Row.given, Row.optional, Option.map_map,
    Function.comp_def, List.filterMap_cons]

theorem toJson_floatFree_iff : entry.toJson.FloatFree ↔ entry.FloatFree := by
  rw [toJson_eq_rows, Row.floatFree_members_iff]
  simp [rows, FloatFree, SinkEntry.toJson_floatFree_iff]

theorem build_rows : build (entry.rows.filterMap Row.entry?) = .ok entry := by
  obtain ⟨pattern, attributeNames, typeNames, resultAlias, keys, dotted, all, sinks, domain⟩ := entry
  cases attributeNames <;> cases typeNames <;> cases resultAlias <;> cases keys <;> cases sinks <;>
    rfl

/-- The sinks of a query have been read as a list of sinks. -/
theorem exists_sinks_of_decoder (read : record.decoder room node = .ok entry)
    {sinks : List SinkEntry} (given : entry.sinks = some sinks) :
    ∃ own, SinkEntry.decoder.list (room - 1) own = .ok sinks := by
  obtain ⟨fields, built, reads⟩ := Record.exists_entries_of_decoder read
  have found : fields.findSome? Field.sinks? = some sinks := by
    simp only [record, build] at built
    split at built
    · cases built
    · cases built
      exact given
  obtain ⟨field, held, asked⟩ := List.exists_of_findSome?_eq_some found
  obtain ⟨decoder, known, own, here⟩ := reads field held
  refine ⟨own, ?_⟩
  cases field with
  | sinks entries =>
    obtain rfl : entries = some sinks := asked
    simp only [record, List.map_cons, List.map_nil, List.mem_cons, List.not_mem_nil, or_false]
      at known
    rcases known with rfl | rfl | rfl | rfl | rfl | rfl | rfl | rfl | rfl
    all_goals
      obtain ⟨value, inside, same⟩ := Decoder.map_eq_ok_iff.1 here
      cases same
    exact (Decoder.optional_eq_ok_some_iff.1 inside).2
  | _ => cases asked

theorem decoder_restores (wide : 3 ≤ room) : record.decoder.Restores toJson room := by
  intro node entry read free
  have inside : 2 ≤ room - 1 := by omega
  have lists (names : List String) : layout (texts names) ≠ .word .null ∧
      Decoder.text.list (room - 1) (layout (texts names)) = .ok names :=
    ⟨by simp [texts, layout], Decoder.texts_layout inside names⟩
  have sinks : ∀ sinks ∈ entry.sinks,
      SinkEntry.decoder.list (room - 1) (layout (.array (sinks.map SinkEntry.toJson))) =
        .ok sinks := by
    intro sinks given
    obtain ⟨own, here⟩ := exists_sinks_of_decoder read given
    refine SinkEntry.decoder_restores.list own sinks here ?_
    have settings := toJson_floatFree_iff.1 free sinks given
    simpa [SinkEntry.toJson_floatFree_iff] using settings
  rw [toJson_eq_rows]
  refine Record.decoder_layout (by omega) ?_ ?_ build_rows
  · show ["obj", "attr", "typeNames", "resultAlias", "keys", "allowDottedKeys", "useAllTypeNames",
      "outputWriters", "useObjDomainAsKey"].Nodup
    decide
  · simp only [rows, List.forall_mem_cons]
    refine ⟨Row.given_readBy rfl (Decoder.text_layout _),
      Row.optional_readBy rfl fun names _ => lists names,
      Row.optional_readBy rfl fun names _ => lists names,
      Row.optional_readBy rfl fun name _ => ⟨by simp [layout], Decoder.text_layout name⟩,
      Row.optional_readBy rfl fun names _ => lists names,
      Row.given_readBy rfl (Decoder.flag_layout _),
      Row.given_readBy rfl (Decoder.flag_layout _),
      Row.optional_readBy rfl fun held given => ⟨by simp [layout], sinks held given⟩,
      Row.given_readBy rfl (Decoder.flag_layout _), by simp⟩

end QueryEntry

namespace ServerEntry

variable {room : Nat} {node : Node} {entry : ServerEntry}

/-- The members of a server as they are written. -/
def rows (entry : ServerEntry) : List (Row Field) :=
  [.given "host" (.text entry.host) (.host entry.host),
    .given "port" (.integer entry.port) (.port entry.port),
    .optional "alias" .displayName .text entry.displayName,
    .given "queries" (.array (entry.queries.map QueryEntry.toJson)) (.queries entry.queries)]

theorem toJson_eq_rows : entry.toJson = .object (entry.rows.filterMap Row.member?) := by
  simp [toJson, objectOf, rows, Row.member?, Row.given, Row.optional, Option.map_map,
    Function.comp_def, List.filterMap_cons]

theorem toJson_floatFree_iff :
    entry.toJson.FloatFree ↔ ∀ query ∈ entry.queries, query.FloatFree := by
  rw [toJson_eq_rows, Row.floatFree_members_iff]
  simp [rows, QueryEntry.toJson_floatFree_iff]

theorem build_rows : build (entry.rows.filterMap Row.entry?) = .ok entry := by
  obtain ⟨host, port, displayName, queries⟩ := entry
  cases displayName <;> rfl

theorem build_eq_ok_iff {fields : List Field} :
    build fields = .ok entry ↔
      fields.findSome? Field.host? = some entry.host ∧
        fields.findSome? Field.port? = some entry.port ∧
        fields.findSome? Field.displayName? = entry.displayName ∧
        (fields.findSome? Field.queries?).getD [] = entry.queries := by
  obtain ⟨host, port, displayName, queries⟩ := entry
  rw [build]
  cases fields.findSome? Field.host? <;> cases fields.findSome? Field.port? <;> simp

/-- What the decoder of a field has read from a value. -/
def Field.ReadFrom (room : Nat) (node : Node) : Field → Prop
  | .host name => Decoder.text room node = .ok name
  | .port number => Decoder.port room node = .ok number
  | .displayName name => Decoder.text.optional room node = .ok name
  | .queries entries => QueryEntry.record.decoder.list room node = .ok entries

theorem Field.readFrom_of_decoder {decoder : Decoder Field} {field : Field}
    (known : decoder ∈ record.fields.map Prod.snd) (read : decoder room node = .ok field) :
    field.ReadFrom room node := by
  simp only [record, List.map_cons, List.map_nil, List.mem_cons, List.not_mem_nil, or_false]
    at known
  rcases known with rfl | rfl | rfl | rfl
  all_goals
    obtain ⟨value, own, rfl⟩ := Decoder.map_eq_ok_iff.1 read
    exact own

/-- A server is built from fields that have been read. -/
theorem exists_fields_of_decoder (read : record.decoder room node = .ok entry) :
    ∃ fields, build fields = .ok entry ∧
      ∀ field ∈ fields, ∃ own, field.ReadFrom (room - 1) own := by
  obtain ⟨fields, built, reads⟩ := Record.exists_entries_of_decoder read
  refine ⟨fields, built, fun field held => ?_⟩
  obtain ⟨decoder, known, own, here⟩ := reads field held
  exact ⟨own, Field.readFrom_of_decoder known here⟩

theorem port_lt_of_decoder (read : record.decoder room node = .ok entry) : entry.port < 65536 := by
  obtain ⟨fields, built, reads⟩ := exists_fields_of_decoder read
  obtain ⟨_, port, _, _⟩ := build_eq_ok_iff.1 built
  obtain ⟨field, held, asked⟩ := List.exists_of_findSome?_eq_some port
  obtain ⟨own, here⟩ := reads field held
  cases field with
  | port number =>
    obtain rfl := Option.some.inj asked
    exact Decoder.port_lt here
  | _ => cases asked

/-- The queries of a server, if there are any, have been read as a list of queries. -/
theorem queries_of_decoder (read : record.decoder room node = .ok entry) :
    entry.queries = [] ∨
      ∃ own, QueryEntry.record.decoder.list (room - 1) own = .ok entry.queries := by
  obtain ⟨fields, built, reads⟩ := exists_fields_of_decoder read
  obtain ⟨_, _, _, queries⟩ := build_eq_ok_iff.1 built
  cases found : fields.findSome? Field.queries? with
  | none => exact Or.inl (by rw [← queries, found, Option.getD_none])
  | some given =>
    rw [found, Option.getD_some] at queries
    obtain ⟨field, held, asked⟩ := List.exists_of_findSome?_eq_some found
    obtain ⟨own, here⟩ := reads field held
    cases field with
    | queries entries =>
      obtain rfl := Option.some.inj asked
      exact Or.inr ⟨own, queries ▸ here⟩
    | _ => cases asked

theorem decoder_restores (wide : 5 ≤ room) : record.decoder.Restores toJson room := by
  intro node entry read free
  have small := port_lt_of_decoder read
  have inside : QueryEntry.record.decoder.list (room - 1)
      (layout (.array (entry.queries.map QueryEntry.toJson))) = .ok entry.queries := by
    rcases queries_of_decoder read with none | ⟨own, here⟩
    · rw [none]
      exact Decoder.list_layout (by omega) (by simp)
    · refine (QueryEntry.decoder_restores (by omega)).list own entry.queries here ?_
      have settings := toJson_floatFree_iff.1 free
      simpa [QueryEntry.toJson_floatFree_iff] using settings
  rw [toJson_eq_rows]
  refine Record.decoder_layout (by omega) ?_ ?_ build_rows
  · show ["host", "port", "alias", "queries"].Nodup
    decide
  · simp only [rows, List.forall_mem_cons]
    refine ⟨Row.given_readBy rfl (Decoder.text_layout _),
      Row.given_readBy rfl (Decoder.port_layout small),
      Row.optional_readBy rfl fun name _ => ⟨by simp [layout], Decoder.text_layout name⟩,
      Row.given_readBy rfl inside, by simp⟩

end ServerEntry

namespace Deployment

variable {deployment : Deployment}

theorem toJson_floatFree_iff :
    deployment.toJson.FloatFree ↔
      ∀ server ∈ deployment.servers, ∀ query ∈ server.queries, query.FloatFree := by
  simp [toJson, ServerEntry.toJson_floatFree_iff]

/-- The servers of a configuration, if there are any, have been read as a list of servers. -/
theorem servers_of_decoder {room : Nat} {node : Node}
    (read : record.decoder room node = .ok deployment) :
    deployment.name = none ∧ (deployment.servers = [] ∨
      ∃ own, ServerEntry.record.decoder.list (room - 1) own = .ok deployment.servers) := by
  obtain ⟨fields, built, reads⟩ := Record.exists_entries_of_decoder read
  obtain rfl := Except.ok.inj built
  refine ⟨rfl, ?_⟩
  cases fields with
  | nil => exact Or.inl rfl
  | cons servers others =>
    obtain ⟨decoder, known, own, here⟩ := reads servers List.mem_cons_self
    obtain rfl := List.mem_singleton.1 known
    exact Or.inr ⟨own, here⟩

theorem decoder_restores : record.decoder.Restores toJson fullRoom := by
  intro node deployment read free
  obtain ⟨unnamed, listed⟩ := servers_of_decoder read
  have inside : ServerEntry.record.decoder.list (fullRoom - 1)
      (layout (.array (deployment.servers.map ServerEntry.toJson))) = .ok deployment.servers := by
    rcases listed with none | ⟨own, here⟩
    · rw [none]
      exact Decoder.list_layout (by decide) (by simp)
    · refine (ServerEntry.decoder_restores (by decide)).list own deployment.servers here ?_
      have settings := toJson_floatFree_iff.1 free
      simpa [ServerEntry.toJson_floatFree_iff] using settings
  obtain ⟨name, servers⟩ := deployment
  obtain rfl : name = none := unnamed
  have members : readMembers record.slot (fullRoom - 1) []
      (layoutMembers [("servers", .array (servers.map ServerEntry.toJson))]) = .ok [servers] :=
    readMembers_layoutMembers (.cons (.field inside) .nil) (List.nodup_singleton "servers")
  exact Record.decoder_object_iff.2 ⟨by decide, [servers], members, rfl⟩

end Deployment

/-- A configuration without floats in the settings of its sinks is read back from what is written of
it, and so is a single query. -/
theorem configuration_survives_rewriting :
    (∀ text deployment, Deployment.parse text = .ok deployment →
      (∀ server ∈ deployment.servers, ∀ query ∈ server.queries, query.FloatFree) →
        Deployment.parse deployment.toJson.write = .ok deployment) ∧
    ∀ text query, QueryEntry.parse text = .ok query → query.FloatFree →
      QueryEntry.parse query.toJson.write = .ok query := by
  constructor
  · intro text deployment read free
    have decoded := mapError_eq_ok_iff.1 read
    have written := Deployment.toJson_floatFree_iff.2 free
    exact mapError_eq_ok_iff.2 (Deployment.decoder_restores.decode_write decoded written)
  · intro text query read free
    have written := QueryEntry.toJson_floatFree_iff.2 free
    exact (QueryEntry.decoder_restores (by decide)).decode_write read written

/-- Fields in a list, a field that is null, a setting given twice and escapes in both notations. -/
theorem configuration_survives_rewriting_of_listed :
    (∃ deployment : Deployment,
      deployment = ⟨none, [⟨"h\x00", 80, none, [⟨"d:a=1", some [], none, none, none, false, false,
        some [⟨"log", [("b", .object [("x", .array [.null, .integer (-5)])])]⟩], false⟩]⟩]⟩ ∧
      Deployment.parse
        "\x7b\"servers\":[[\"h\\u0000\",80,null,[\x7b\"obj\":\"d:a=1\",\"attr\":[],\"keys\":null,
        \"outputWriters\":[\x7b\"b\":1,\"@class\":\"log\",\"b\":\x7b\"x\":[null,-5]\x7d\x7d]\x7d]]]\x7d" =
          .ok deployment ∧
      Deployment.parse deployment.toJson.write = .ok deployment) ∧
    ∃ query : QueryEntry,
      query = ⟨"d:a=\"*\"", none, some [], some "😀", some ["a"], true, false, none, false⟩ ∧
      QueryEntry.parse
        "[\"d:a=\\\"\\u002a\\\"\", null, [], \"\\ud83d\\ude00\", [\"a\"], true]" = .ok query ∧
      QueryEntry.parse query.toJson.write = .ok query := by
  obtain ⟨whole, single⟩ := configuration_survives_rewriting
  constructor
  · refine ⟨_, rfl, ?read, whole _ _ ?read ?free⟩
    case read => cbv
    case free => simp [QueryEntry.FloatFree, SinkEntry.FloatFree]
  · refine ⟨_, rfl, ?read, single _ _ ?read ?free⟩
    case read => cbv
    case free => simp [QueryEntry.FloatFree]

end MetricQuery
