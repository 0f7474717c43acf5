import MetricQuery.Config.Deployment
import MetricQuery.Proofs.Json.Edits

namespace MetricQuery

open Json

/-- What is parsed does not depend on how the objects in a text are laid out. Whatever is parsed
keeps to the grammar, and after a change that is not to be noticed it is parsed to the same value. A
text that keeps to the grammar but is refused is still refused when members are moved and others
inserted. -/
structure LayoutFree {α δ : Type} (parse : String → Except δ α)
    (changed : MemberChange → Node → Node → Prop) : Prop where
  written : ∀ {text value}, parse text = .ok value → ∃ document : Document, document.Writes text
  accepted : ∀ {text other value} {a b : Document}, a.Writes text → b.Writes other →
    changed Edited a.root b.root → parse text = .ok value → parse other = .ok value
  refused : ∀ {text other} {a b : Document}, a.Writes text → b.Writes other →
    changed (fun names _ => Reordered names) a.root b.root →
      (∀ value, parse text ≠ .ok value) → ∀ value, parse other ≠ .ok value

/-- It is enough that the decoder notices neither the changes nor those that undo them. -/
theorem layoutFree_of_preserves {α δ : Type} {parse : String → Except δ α} {decoder : Decoder α}
    {changed : MemberChange → Node → Node → Prop}
    (decodes : ∀ {text value}, parse text = .ok value ↔ decoder.decode text = .ok value)
    (thorough : decoder.Thorough)
    (preserves : ∀ {change}, Harmless change → decoder.Preserves (changed change))
    (flip : ∀ {change back : MemberChange} {a b : Node},
      (∀ {names optional x y}, change names optional x y → back names optional y x) →
        changed change a b → changed back b a) :
    LayoutFree parse changed where
  written parsed := thorough.exists_writes (decodes.1 parsed)
  accepted := by
    intro text other value a b writes writesOther edited parsed
    rw [decodes, writes.decode_iff] at parsed
    rw [decodes, writesOther.decode_iff]
    exact preserves harmless_edited edited writes.sound.root writesOther.sound.root parsed
  refused := by
    intro text other a b writes writesOther moved unread value parsed
    rw [decodes, writesOther.decode_iff] at parsed
    have back := preserves harmless_unordered (flip id moved) writesOther.sound.root
      writes.sound.root parsed
    rw [← writes.decode_iff, ← decodes] at back
    exact unread value back

namespace SinkEntry

theorem thorough_decoder : decoder.Thorough := by
  refine thorough_objectDecoder fun name => ?_
  rw [slot]
  split
  · exact Slot.thorough_field (Decoder.thorough_text.map _)
  · exact Slot.thorough_setting (Decoder.thorough_any.map _)

end SinkEntry

namespace QueryEntry

def Field.name : Field → String
  | .pattern _ => "obj"
  | .attributeNames _ => "attr"
  | .typeNames _ => "typeNames"
  | .resultAlias _ => "resultAlias"
  | .keys _ => "keys"
  | .dottedKeys _ => "allowDottedKeys"
  | .allTypeNames _ => "useAllTypeNames"
  | .sinks _ => "outputWriters"
  | .domainAsKey _ => "useObjDomainAsKey"

/-- The fields that may be null. -/
def optionalNames : List String := ["attr", "typeNames", "resultAlias", "keys", "outputWriters"]

theorem thorough_decoder : record.decoder.Thorough := by
  refine Record.thorough_decoder ?_
  have names := Decoder.thorough_text.list.optional
  have sinks := SinkEntry.thorough_decoder.list.optional
  simp only [record, List.forall_mem_cons, List.not_mem_nil, false_implies, implies_true, and_true]
  have text := Decoder.thorough_text
  have flag := Decoder.thorough_flag
  exact ⟨text.map _, names.map _, names.map _, text.optional.map _, names.map _, flag.map _,
    flag.map _, sinks.map _, flag.map _⟩

theorem build_perm {a b : List Field} (perm : a.Perm b) (distinct : (a.map Field.name).Nodup) :
    build a = build b := by
  have same {β : Type} (f : Field → Option β) (name : String)
      (only : ∀ {field value}, f field = some value → field.name = name) :
      a.findSome? f = b.findSome? f := findSome?_perm only perm distinct
  rw [build, build, same Field.pattern? "obj" (by rintro ⟨⟩ _ ⟨⟩; rfl),
    same Field.attributeNames? "attr" (by rintro ⟨⟩ _ ⟨⟩; rfl),
    same Field.typeNames? "typeNames" (by rintro ⟨⟩ _ ⟨⟩; rfl),
    same Field.resultAlias? "resultAlias" (by rintro ⟨⟩ _ ⟨⟩; rfl),
    same Field.keys? "keys" (by rintro ⟨⟩ _ ⟨⟩; rfl),
    same Field.dottedKeys? "allowDottedKeys" (by rintro ⟨⟩ _ ⟨⟩; rfl),
    same Field.allTypeNames? "useAllTypeNames" (by rintro ⟨⟩ _ ⟨⟩; rfl),
    same Field.sinks? "outputWriters" (by rintro ⟨⟩ _ ⟨⟩; rfl),
    same Field.domainAsKey? "useObjDomainAsKey" (by rintro ⟨⟩ _ ⟨⟩; rfl)]

theorem orderless : record.Orderless Field.name where
  distinct := by decide
  kind_eq := by
    simp only [record, List.forall_mem_cons, List.not_mem_nil, false_implies, implies_true,
      and_true, Decoder.map_eq_ok_iff]
    refine ⟨?_, ?_, ?_, ?_, ?_, ?_, ?_, ?_, ?_⟩ <;>
    · rintro _ _ _ ⟨_, _, rfl⟩
      rfl
  build_perm := build_perm

theorem nullable : ∀ name ∈ optionalNames, record.Nullable name := by
  simp only [optionalNames, List.forall_mem_cons, List.not_mem_nil, false_implies, implies_true,
    and_true]
  exact ⟨⟨_, .attributeNames none, rfl, fun _ => rfl, fun _ => rfl⟩,
    ⟨_, .typeNames none, rfl, fun _ => rfl, fun _ => rfl⟩,
    ⟨_, .resultAlias none, rfl, fun _ => rfl, fun _ => rfl⟩,
    ⟨_, .keys none, rfl, fun _ => rfl, fun _ => rfl⟩,
    ⟨_, .sinks none, rfl, fun _ => rfl, fun _ => rfl⟩⟩

/-- A query before and after a change of its members. -/
def Changed (change : MemberChange) : Node → Node → Prop :=
  Node.MembersChanged (change (record.fields.map Prod.fst) optionalNames)

theorem preserves_changed {change : MemberChange} (harmless : Harmless change) :
    record.decoder.Preserves (Changed change) := harmless orderless nullable

theorem Changed.flip {change back : MemberChange} {a b : Node}
    (turn : ∀ {names optional x y}, change names optional x y → back names optional y x)
    (changed : Changed change a b) : Changed back b a :=
  Node.MembersChanged.flip changed turn

end QueryEntry

namespace ServerEntry

def Field.name : Field → String
  | .host _ => "host"
  | .port _ => "port"
  | .displayName _ => "alias"
  | .queries _ => "queries"

/-- The fields that may be null. -/
def optionalNames : List String := ["alias"]

theorem thorough_decoder : record.decoder.Thorough := by
  refine Record.thorough_decoder ?_
  simp only [record, List.forall_mem_cons, List.not_mem_nil, false_implies, implies_true, and_true]
  exact ⟨Decoder.thorough_text.map _, Decoder.thorough_port.map _,
    Decoder.thorough_text.optional.map _, QueryEntry.thorough_decoder.list.map _⟩

theorem build_perm {a b : List Field} (perm : a.Perm b) (distinct : (a.map Field.name).Nodup) :
    build a = build b := by
  have same {β : Type} (f : Field → Option β) (name : String)
      (only : ∀ {field value}, f field = some value → field.name = name) :
      a.findSome? f = b.findSome? f := findSome?_perm only perm distinct
  rw [build, build, same Field.host? "host" (by rintro ⟨⟩ _ ⟨⟩; rfl),
    same Field.port? "port" (by rintro ⟨⟩ _ ⟨⟩; rfl),
    same Field.displayName? "alias" (by rintro ⟨⟩ _ ⟨⟩; rfl),
    same Field.queries? "queries" (by rintro ⟨⟩ _ ⟨⟩; rfl)]

theorem orderless : record.Orderless Field.name where
  distinct := by decide
  kind_eq := by
    simp only [record, List.forall_mem_cons, List.not_mem_nil, false_implies, implies_true,
      and_true, Decoder.map_eq_ok_iff]
    refine ⟨?_, ?_, ?_, ?_⟩ <;>
    · rintro _ _ _ ⟨_, _, rfl⟩
      rfl
  build_perm := build_perm

theorem nullable : ∀ name ∈ optionalNames, record.Nullable name :=
  List.forall_mem_singleton.2 ⟨_, .displayName none, rfl, fun _ => rfl, fun _ => rfl⟩

/-- A server before and after a change of the members of one object: its own, or one of its
queries. -/
inductive Changed (change : MemberChange) (a b : Node) : Prop
  | server : a.MembersChanged (change (record.fields.map Prod.fst) optionalNames) b →
      Changed change a b
  | query : a.FieldChanged (record.fields.map Prod.fst) "queries"
      (Node.ItemChanged (QueryEntry.Changed change)) b → Changed change a b

theorem preserves_changed {change : MemberChange} (harmless : Harmless change) :
    record.decoder.Preserves (Changed change) := by
  have queries := (QueryEntry.preserves_changed harmless).list.map Field.queries
  intro room a b value changed soundA soundB read
  cases changed with
  | server here => exact harmless orderless nullable here soundA soundB read
  | query inside =>
    exact Record.preserves_field orderless.distinct rfl queries inside soundA soundB read

theorem Changed.flip {change back : MemberChange} {a b : Node}
    (turn : ∀ {names optional x y}, change names optional x y → back names optional y x)
    (changed : Changed change a b) : Changed back b a := by
  cases changed with
  | server here => exact .server (here.flip turn)
  | query inside =>
    exact .query (inside.flip fun item => item.flip (QueryEntry.Changed.flip turn))

end ServerEntry

namespace Deployment

theorem thorough_decoder : record.decoder.Thorough :=
  Record.thorough_decoder (List.forall_mem_singleton.2 ServerEntry.thorough_decoder.list)

theorem orderless : record.Orderless fun _ => "servers" where
  distinct := by decide
  kind_eq := List.forall_mem_singleton.2 fun _ => rfl
  build_perm {a b} perm distinct := by
    match a, distinct with
    | [], _ => rw [perm.nil_eq]
    | [entry], _ => rw [List.singleton_perm.1 perm]
    | _ :: _ :: _, distinct => simp at distinct

/-- A configuration before and after a change of the members of one object: its own, one of its
servers, or a query of one of these. -/
inductive Changed (change : MemberChange) (a b : Node) : Prop
  | deployment : a.MembersChanged (change (record.fields.map Prod.fst) []) b → Changed change a b
  | server : a.FieldChanged (record.fields.map Prod.fst) "servers"
      (Node.ItemChanged (ServerEntry.Changed change)) b → Changed change a b

theorem preserves_changed {change : MemberChange} (harmless : Harmless change) :
    record.decoder.Preserves (Changed change) := by
  have servers := (ServerEntry.preserves_changed harmless).list
  intro room a b value changed soundA soundB read
  cases changed with
  | deployment here => exact harmless orderless (by simp) here soundA soundB read
  | server inside =>
    exact Record.preserves_field orderless.distinct rfl servers inside soundA soundB read

theorem Changed.flip {change back : MemberChange} {a b : Node}
    (turn : ∀ {names optional x y}, change names optional x y → back names optional y x)
    (changed : Changed change a b) : Changed back b a := by
  cases changed with
  | deployment here => exact .deployment (here.flip turn)
  | server inside =>
    exact .server (inside.flip fun item => item.flip (ServerEntry.Changed.flip turn))

end Deployment

/-- Queries, servers and whole configurations are parsed to the same value whatever the order of the
members in any of their objects, whichever unknown members are among them, and whether a field that
is absent is left out or null. -/
theorem configuration_layout_is_immaterial :
    LayoutFree QueryEntry.parse QueryEntry.Changed ∧
      LayoutFree ServerEntry.parse ServerEntry.Changed ∧
        LayoutFree Deployment.parse Deployment.Changed :=
  ⟨layoutFree_of_preserves .rfl QueryEntry.thorough_decoder QueryEntry.preserves_changed
      QueryEntry.Changed.flip,
    layoutFree_of_preserves .rfl ServerEntry.thorough_decoder ServerEntry.preserves_changed
      ServerEntry.Changed.flip,
    layoutFree_of_preserves mapError_eq_ok_iff Deployment.thorough_decoder
      Deployment.preserves_changed Deployment.Changed.flip⟩

/-- In a server that is written as a list, a query gets an unknown member and its own members in
another order. A server with a field given twice is refused in any order. -/
theorem configuration_layout_is_immaterial_of_nested :
    Deployment.parse
        "\x7b\"servers\":[[\"h\",1,null,[\x7b\"obj\":\"d:*\",\"attr\":null\x7d]]]\x7d" =
          .ok ⟨none, [⟨"h", 1, none, [{ pattern := "d:*" }]⟩]⟩ ∧
      Deployment.parse
        "\x7b\"servers\":[[\"h\",1,null,[\x7b\"x\":[1e999],\"attr\":null,\"obj\":\"d:*\"\x7d]]]\x7d" =
          .ok ⟨none, [⟨"h", 1, none, [{ pattern := "d:*" }]⟩]⟩ ∧
    ∀ entry, ServerEntry.parse "\x7b\"port\":2,\"host\":\"h\",\"port\":1\x7d" ≠ .ok entry := by
  obtain ⟨_, server, deployment⟩ := configuration_layout_is_immaterial
  have parsed : Deployment.parse
      "\x7b\"servers\":[[\"h\",1,null,[\x7b\"obj\":\"d:*\",\"attr\":null\x7d]]]\x7d" =
        .ok ⟨none, [⟨"h", 1, none, [{ pattern := "d:*" }]⟩]⟩ := by cbv
  refine ⟨parsed, ?_, ?_⟩
  · refine deployment.accepted (.of_skip ?_ ?_) (.of_skip ?_ ?_) ?_ parsed <;> cbv
    -- The path to the query: a member, an item, a place in a list, and an item again.
    refine .server (@Node.FieldChanged.object _ _ _ _ _ [] [] _ _ _ rfl rfl rfl
      (@Node.ItemChanged.array _ _ _ [] [] _ _ rfl rfl (.query
        (@Node.FieldChanged.array _ _ _ _ _ [_, _, _] [] _ _ rfl rfl rfl
          (@Node.ItemChanged.array _ _ _ [] [] _ _ rfl rfl (.object (.reordered ?_)))))))
    exact ⟨[_], .cons _ (.swap _ _ _), List.forall_mem_singleton.2 ⟨"x", rfl, by decide⟩⟩
  · have failed : (ServerEntry.parse
        "\x7b\"port\":1,\"port\":2,\"host\":\"h\"\x7d").toOption = none := by cbv
    have refused (entry : ServerEntry) :
        ServerEntry.parse "\x7b\"port\":1,\"port\":2,\"host\":\"h\"\x7d" ≠ .ok entry := by
      intro read
      rw [read] at failed
      cases failed
    refine server.refused (.of_skip ?_ ?_) (.of_skip ?_ ?_) ?_ refused <;> cbv
    exact .server (.object ⟨[], (@List.perm_append_comm _ [_] [_, _]).symm, by simp⟩)

end MetricQuery
