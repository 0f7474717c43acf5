import MetricQuery.Proofs.Json.Restoring
import MetricQuery.Proofs.Value.Members

namespace MetricQuery

open Json

namespace Value

theorem itemsJson_eq_map (items : List Value) : itemsJson items = items.map toJson := by
  induction items with
  | nil => rfl
  | cons item rest ih => rw [itemsJson, ih, List.map_cons]

theorem membersJson_eq_map (members : List (String × Value)) :
    membersJson members = members.map fun member => (member.1, member.2.toJson) := by
  induction members with
  | nil => rfl
  | cons member rest ih => rw [membersJson, ih, List.map_cons]

theorem ofItems_eq_map (items : List Json) : ofItems items = items.map ofJson := by
  induction items with
  | nil => rfl
  | cons item rest ih => rw [ofItems, ih, List.map_cons]

/-- The values there are: integers of 64 bits with a sign, and composites with one member for each
key, in the order of the keys. -/
inductive Lawful : Value → Prop
  | null : Lawful .null
  | flag (value : Bool) : Lawful (.flag value)
  | integer {value : Int} :
      -9223372036854775808 ≤ value ∧ value < 9223372036854775808 → Lawful (.integer value)
  | real (value : Float) : Lawful (.real value)
  | text (value : String) : Lawful (.text value)
  | array {items : List Value} : (∀ item ∈ items, Lawful item) → Lawful (.array items)
  | composite {members : List (String × Value)} :
      Increasing members → (∀ member ∈ members, Lawful member.2) → Lawful (.composite members)

/-- There is no float in the value. -/
inductive FloatFree : Value → Prop
  | null : FloatFree .null
  | flag (value : Bool) : FloatFree (.flag value)
  | integer (value : Int) : FloatFree (.integer value)
  | text (value : String) : FloatFree (.text value)
  | array {items : List Value} : (∀ item ∈ items, FloatFree item) → FloatFree (.array items)
  | composite {members : List (String × Value)} :
      (∀ member ∈ members, FloatFree member.2) → FloatFree (.composite members)

mutual

/-- How many containers are nested in each other at the deepest place. -/
def depth : Value → Nat
  | .array items => 1 + itemsDepth items
  | .composite members => 1 + membersDepth members
  | _ => 0

def itemsDepth : List Value → Nat
  | [] => 0
  | item :: rest => max (depth item) (itemsDepth rest)

def membersDepth : List (String × Value) → Nat
  | [] => 0
  | (_, value) :: rest => max (depth value) (membersDepth rest)

end

theorem itemsDepth_le_iff {items : List Value} {limit : Nat} :
    itemsDepth items ≤ limit ↔ ∀ item ∈ items, item.depth ≤ limit := by
  induction items with
  | nil => simp [itemsDepth]
  | cons item rest ih => rw [itemsDepth, Nat.max_le, ih, List.forall_mem_cons]

theorem membersDepth_le_iff {members : List (String × Value)} {limit : Nat} :
    membersDepth members ≤ limit ↔ ∀ member ∈ members, member.2.depth ≤ limit := by
  induction members with
  | nil => simp [membersDepth]
  | cons member rest ih => rw [membersDepth, Nat.max_le, ih, List.forall_mem_cons]

theorem depth_array_le_iff {items : List Value} {limit : Nat} :
    (array items).depth ≤ limit ↔ 1 ≤ limit ∧ ∀ item ∈ items, item.depth ≤ limit - 1 := by
  rw [depth, ← itemsDepth_le_iff]
  omega

theorem depth_composite_le_iff {members : List (String × Value)} {limit : Nat} :
    (composite members).depth ≤ limit ↔
      1 ≤ limit ∧ ∀ member ∈ members, member.2.depth ≤ limit - 1 := by
  rw [depth, ← membersDepth_le_iff]
  omega

theorem FloatFree.toJson {value : Value} (free : value.FloatFree) : value.toJson.FloatFree := by
  induction free with
  | null => exact .null
  | flag value => exact .bool value
  | integer value => exact .integer value
  | text value => exact .text value
  | array _ ih =>
    rw [Value.toJson, itemsJson_eq_map]
    exact .array (List.forall_mem_map.2 ih)
  | composite _ ih =>
    rw [Value.toJson, membersJson_eq_map]
    exact .object (List.forall_mem_map.2 ih)

namespace Lawful

/-- The kind of every value is found again from the shape of what it is turned into. -/
theorem ofJson_toJson {value : Value} (lawful : value.Lawful) : ofJson value.toJson = value := by
  induction lawful with
  | null => rfl
  | flag => rfl
  | integer range => exact if_pos range
  | real => rfl
  | text => rfl
  | @array items _ ih =>
    have same : (items.map toJson).map ofJson = items := by
      rw [List.map_map]
      exact (List.map_congr_left ih).trans items.map_id
    rw [toJson, itemsJson_eq_map, ofJson, ofItems_eq_map, same]
  | @composite members increasing _ ih =>
    have same : (members.map fun member => (member.1, member.2.toJson)).map
        (fun member => (member.1, ofJson member.2)) = members := by
      rw [List.map_map]
      have each (member) (held : member ∈ members) :
          (member.1, ofJson member.2.toJson) = id member := Prod.ext rfl (ih member held)
      exact (List.map_congr_left each).trans members.map_id
    have kept := keepsLast_ofMembers (members.map fun member => (member.1, member.2.toJson))
    rw [same] at kept
    rw [toJson, membersJson_eq_map, ofJson, kept.eq_of_same (.of_increasing increasing)]

theorem fits_toJson {value : Value} (lawful : value.Lawful) {room : Nat}
    (shallow : value.depth ≤ room - 1) : value.toJson.Fits room := by
  induction lawful generalizing room with
  | null => exact .null
  | flag value => exact .bool value
  | integer range => exact .integer ⟨range.1, by omega⟩
  | real value => exact .real value
  | text value => exact .text value
  | array _ ih =>
    obtain ⟨wide, inside⟩ := depth_array_le_iff.1 shallow
    rw [toJson, itemsJson_eq_map]
    refine .array (by omega) (List.forall_mem_map.2 fun item held => ?_)
    exact ih item held (inside item held)
  | composite increasing _ ih =>
    obtain ⟨wide, inside⟩ := depth_composite_le_iff.1 shallow
    rw [toJson, membersJson_eq_map]
    refine .object (by omega) ?_ (List.forall_mem_map.2 fun member held => ?_)
    · rw [List.map_map]
      exact increasing.nodup
    · exact ih member held (inside member held)

end Lawful

theorem exists_entry_of_mem_ofMembers {entries : List (String × Json)} {member : String × Value}
    (held : member ∈ ofMembers [] entries) : ∃ entry ∈ entries, ofJson entry.2 = member.2 := by
  obtain ⟨entry, given, rfl⟩ := List.mem_map.1 ((keepsLast_ofMembers entries).subset held)
  exact ⟨entry, given, rfl⟩

theorem lawful_ofInt (n : Int) : (ofInt n).Lawful := by
  rw [ofInt]
  split
  · rename_i range
    exact .integer range
  · exact .real _

theorem lawful_of_fits {room : Nat} {json : Json} (fits : json.Fits room) :
    (ofJson json).Lawful := by
  induction fits with
  | null => exact .null
  | bool value => exact .flag value
  | integer => exact lawful_ofInt _
  | real value => exact .real value
  | text value => exact .text value
  | array _ _ ih =>
    rw [ofJson, ofItems_eq_map]
    exact .array (List.forall_mem_map.2 ih)
  | object _ _ _ ih =>
    rw [ofJson]
    refine .composite (keepsLast_ofMembers _).increasing fun member held => ?_
    obtain ⟨entry, given, same⟩ := exists_entry_of_mem_ofMembers held
    exact same ▸ ih entry given

theorem depth_ofInt (n : Int) : (ofInt n).depth = 0 := by
  rw [ofInt]
  split <;> rfl

theorem depth_of_fits {room : Nat} {json : Json} (fits : json.Fits room) :
    (ofJson json).depth ≤ room - 1 := by
  induction fits with
  | null => exact Nat.zero_le _
  | bool => exact Nat.zero_le _
  | integer =>
    rw [ofJson, depth_ofInt]
    exact Nat.zero_le _
  | real => exact Nat.zero_le _
  | text => exact Nat.zero_le _
  | array wide _ ih =>
    rw [ofJson, ofItems_eq_map, depth_array_le_iff]
    exact ⟨by omega, List.forall_mem_map.2 ih⟩
  | object wide _ _ ih =>
    rw [ofJson, depth_composite_le_iff]
    refine ⟨by omega, fun member held => ?_⟩
    obtain ⟨entry, given, same⟩ := exists_entry_of_mem_ofMembers held
    exact same ▸ ih entry given

theorem decoder_eq_ok_iff {room : Nat} {node : Node} {value : Value} :
    decoder room node = .ok value ↔ ∃ json, node.readAny room = .ok json ∧ ofJson json = value :=
  Decoder.map_eq_ok_iff

/-- What is read in some room is a lawful value that leaves the room its containers need. -/
theorem lawful_of_decoder {room : Nat} {node : Node} {value : Value}
    (read : decoder room node = .ok value) : value.Lawful ∧ value.depth ≤ room - 1 := by
  obtain ⟨json, inside, rfl⟩ := decoder_eq_ok_iff.1 read
  have fits := fits_of_readAny inside
  exact ⟨lawful_of_fits fits, depth_of_fits fits⟩

/-- In what room a value is read back from its layout. -/
theorem decoder_layout_iff {room : Nat} {value : Value} (lawful : value.Lawful)
    (free : value.FloatFree) :
    decoder room (layout value.toJson) = .ok value ↔ value.depth ≤ room - 1 := by
  refine ⟨fun read => (lawful_of_decoder read).2, fun shallow => ?_⟩
  have read := (lawful.fits_toJson shallow).readAny_layout free.toJson
  exact decoder_eq_ok_iff.2 ⟨_, read, lawful.ofJson_toJson⟩

theorem parse_write_iff {value : Value} (lawful : value.Lawful) (free : value.FloatFree) :
    parse value.write = .ok value ↔ value.depth ≤ 127 := by
  rw [parse, write, Decoder.decode_eq_ok_iff, free.toJson.ofChars_write,
    Document.decode_eq_ok_iff, decoder_layout_iff lawful free]
  exact and_iff_left rfl

end Value

namespace Attribute

variable {one : Attribute}

theorem build_eq_ok_iff {fields : List Field} :
    record.build fields = .ok one ↔
      fields.findSome? Field.name? = some one.name ∧
        fields.findSome? Field.value? = some one.value := by
  obtain ⟨name, value⟩ := one
  simp only [record]
  cases fields.findSome? Field.name? <;> cases fields.findSome? Field.value? <;> simp

/-- The value of an attribute has been read inside the container of the attribute. -/
theorem exists_read_of_decoder {room : Nat} {node : Node}
    (read : record.decoder room node = .ok one) :
    ∃ own, Value.decoder (room - 1) own = .ok one.value := by
  obtain ⟨fields, built, reads⟩ := Record.exists_entries_of_decoder read
  obtain ⟨field, given, valued⟩ := List.exists_of_findSome?_eq_some (build_eq_ok_iff.1 built).2
  obtain ⟨decoder, known, own, here⟩ := reads field given
  rcases List.mem_pair.1 known with rfl | rfl
  · obtain ⟨text, _, rfl⟩ := Decoder.map_eq_ok_iff.1 here
    cases valued
  · obtain ⟨content, inside, rfl⟩ := Decoder.map_eq_ok_iff.1 here
    cases valued
    exact ⟨own, inside⟩

/-- The members of an attribute as they are written. -/
def rows (one : Attribute) : List (Row Field) :=
  [.given "name" (.text one.name) (.named one.name),
    .given "value" one.value.toJson (.valued one.value)]

theorem toJson_eq_rows : one.toJson = .object (one.rows.filterMap Row.member?) := rfl

/-- In what room an attribute is read back from its layout. -/
theorem decoder_layout_iff {room : Nat} (wide : 2 ≤ room) (lawful : one.value.Lawful)
    (free : one.value.FloatFree) :
    record.decoder room (layout one.toJson) = .ok one ↔
      one.value.depth ≤ room - 1 - 1 := by
  constructor
  · intro read
    obtain ⟨own, inside⟩ := exists_read_of_decoder read
    exact (Value.lawful_of_decoder inside).2
  · intro shallow
    have inside := (Value.decoder_layout_iff lawful free).2 shallow
    have read : ∀ row ∈ one.rows, row.ReadBy record.slot (room - 1) := by
      simp only [rows, List.forall_mem_cons]
      exact ⟨Row.given_readBy rfl (Decoder.text_layout one.name), Row.given_readBy rfl inside,
        by simp⟩
    rw [toJson_eq_rows]
    refine Record.decoder_layout wide ?_ read (build_eq_ok_iff.2 ⟨rfl, rfl⟩)
    show ["name", "value"].Nodup
    decide

end Attribute

/-- A value without floats is read back from what is written of it as long as no more than 127
containers are nested in each other; with an attribute around it, no more than 126. -/
theorem values_survive_rewriting {value : Value} (lawful : value.Lawful) (free : value.FloatFree) :
    (Value.parse value.write = .ok value ↔ value.depth ≤ 127) ∧
      ∀ name, Attribute.record.decoder.decode (Attribute.toJson ⟨name, value⟩).write =
        .ok ⟨name, value⟩ ↔ value.depth ≤ 126 := by
  refine ⟨Value.parse_write_iff lawful free, fun name => ?_⟩
  have written : (Attribute.toJson ⟨name, value⟩).FloatFree := by
    simp [Attribute.toJson, free.toJson]
  rw [Decoder.decode_eq_ok_iff, written.ofChars_write, Document.decode_eq_ok_iff,
    Attribute.decoder_layout_iff (by decide) lawful free]
  exact and_iff_left rfl

/-- The least integer, controls, a quote, a backslash, an empty name and an empty container. -/
theorem values_survive_rewriting_of_mixed :
    ∃ value : Value, value = .composite [("", .composite []), ("a\"", .array
        [.integer (-9223372036854775808), .text "\x00\\\n\"😀", .null])] ∧
      Value.parse value.write = .ok value ∧
      Attribute.record.decoder.decode (Attribute.toJson ⟨"n", value⟩).write = .ok ⟨"n", value⟩ := by
  let items : Value := .array [.integer (-9223372036854775808), .text "\x00\\\n\"😀", .null]
  have lawfulItems : items.Lawful := by
    refine .array ?_
    simp only [List.forall_mem_cons]
    exact ⟨.integer (by decide), .text _, .null, by simp⟩
  have freeItems : items.FloatFree := by
    refine .array ?_
    simp only [List.forall_mem_cons]
    exact ⟨.integer _, .text _, .null, by simp⟩
  have lawful : Value.Lawful (.composite [("", .composite []), ("a\"", items)]) := by
    refine .composite (by unfold Increasing; decide) ?_
    simp only [List.forall_mem_cons]
    exact ⟨.composite .nil (by simp), lawfulItems, by simp⟩
  have free : Value.FloatFree (.composite [("", .composite []), ("a\"", items)]) := by
    refine .composite ?_
    simp only [List.forall_mem_cons]
    exact ⟨.composite (by simp), freeItems, by simp⟩
  obtain ⟨alone, inside⟩ := values_survive_rewriting lawful free
  exact ⟨_, rfl, alone.2 (by decide), (inside "n").2 (by decide)⟩

end MetricQuery
