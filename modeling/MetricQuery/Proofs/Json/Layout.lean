import MetricQuery.Json.Layout
import MetricQuery.Proofs.Json.Scanning

namespace MetricQuery.Json

/-- No number in the value is a float. -/
inductive FloatFree : Json → Prop
  | null : FloatFree .null
  | bool (value : Bool) : FloatFree (.bool value)
  | integer (value : Int) : FloatFree (.integer value)
  | text (value : String) : FloatFree (.text value)
  | array {items : List Json} : (∀ item ∈ items, FloatFree item) → FloatFree (.array items)
  | object {members : List (String × Json)} :
      (∀ member ∈ members, FloatFree member.2) → FloatFree (.object members)

@[simp] theorem floatFree_null : Json.null.FloatFree := .null

@[simp] theorem floatFree_bool (value : Bool) : (Json.bool value).FloatFree := .bool value

@[simp] theorem floatFree_integer (value : Int) : (Json.integer value).FloatFree := .integer value

@[simp] theorem floatFree_text (value : String) : (Json.text value).FloatFree := .text value

@[simp] theorem floatFree_array_iff {items : List Json} :
    (Json.array items).FloatFree ↔ ∀ item ∈ items, item.FloatFree :=
  ⟨fun free => by cases free; assumption, .array⟩

@[simp] theorem floatFree_object_iff {members : List (String × Json)} :
    (Json.object members).FloatFree ↔ ∀ member ∈ members, member.2.FloatFree :=
  ⟨fun free => by cases free; assumption, .object⟩

@[simp] theorem floatFree_texts (items : List String) : (texts items).FloatFree := by
  simp [texts]

theorem layoutItems_sound {items : List Json} (sound : ∀ item ∈ items, (layout item).Sound)
    (later : Bool) : (layoutItems items).Sound later := by
  induction items generalizing later with
  | nil =>
    cases later with
    | false => exact .empty blanks_nil
    | true => exact .last
  | cons item rest ih =>
    obtain ⟨first, others⟩ := List.forall_mem_cons.1 sound
    exact .item blanks_nil first blanks_nil (ih others true)

theorem layoutMembers_sound {members : List (String × Json)}
    (sound : ∀ member ∈ members, (layout member.2).Sound) (later : Bool) :
    (layoutMembers members).Sound later := by
  induction members generalizing later with
  | nil =>
    cases later with
    | false => exact .empty blanks_nil
    | true => exact .last
  | cons member rest ih =>
    obtain ⟨first, others⟩ := List.forall_mem_cons.1 sound
    exact .member blanks_nil (Spelling.ofString_sound member.1) blanks_nil blanks_nil first
      blanks_nil (ih others true)

/-- A value without floats is laid out as the grammar allows it. -/
theorem FloatFree.layout_sound {value : Json} (free : value.FloatFree) : (layout value).Sound := by
  induction free with
  | null => exact .word .null
  | bool value => cases value <;> exact .word _
  | integer value => exact .number (Numeral.ofInt_sound value)
  | text value => exact .string (Spelling.ofString_sound value)
  | array _ ih => exact .array (layoutItems_sound ih false)
  | object _ ih => exact .object (layoutMembers_sound ih false)

/-- The compact text of a value without floats is read as the layout of the value. -/
theorem FloatFree.ofChars_write {value : Json} (free : value.FloatFree) :
    Document.ofChars value.write.toList = ⟨[], layout value, [], none⟩ := by
  have sound : Document.Sound ⟨[], layout value, [], none⟩ :=
    ⟨blanks_nil, free.layout_sound, blanks_nil, rfl⟩
  have text : Document.text ⟨[], layout value, [], none⟩ = value.write.toList := by
    simp [Document.text, write]
  rw [← text, Document.ofChars_text sound]

end MetricQuery.Json
