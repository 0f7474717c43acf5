import MetricQuery.Proofs.Json.Thorough
import MetricQuery.Proofs.Value.RoundTrip

namespace MetricQuery

namespace Json

mutual

/-- The value that a node stands for where there is room for so many containers. Of several members
under one key the last counts. -/
inductive Node.Denotes : Nat → Node → Value → Prop
  | null {room : Nat} : Node.Denotes room (.word .null) .null
  | true {room : Nat} : Node.Denotes room (.word .true) (.flag true)
  | false {room : Nat} : Node.Denotes room (.word .false) (.flag false)
  | integer {room : Nat} {numeral : Numeral} {n : Int} :
      numeral.read = .ok (.integer n) → Node.Denotes room (.number numeral) (.ofInt n)
  | real {room : Nat} {numeral : Numeral} {x : Float} :
      numeral.read = .ok (.real x) → Node.Denotes room (.number numeral) (.real x)
  | text {room : Nat} {spelling : Spelling} {text : String} :
      spelling.read = .ok text → Node.Denotes room (.string spelling) (.text text)
  | array {room : Nat} {items : Items} {values : List Value} :
      2 ≤ room → Items.Denotes (room - 1) items values →
      Node.Denotes room (.array items) (.array values)
  | object {room : Nat} {members : Members} {entries kept : List (String × Value)} :
      2 ≤ room → Members.Denotes (room - 1) members entries → KeepsLast entries kept →
      Node.Denotes room (.object members) (.composite kept)

inductive Items.Denotes : Nat → Items → List Value → Prop
  | done {room : Nat} {ending : Ending} : ending.fault = none → Items.Denotes room (.done ending) []
  | item {room : Nat} {before blanks : List Char} {value : Node} {rest : Items} {first : Value}
      {others : List Value} :
      Node.Denotes room value first → Items.Denotes room rest others →
      Items.Denotes room (.item before value blanks rest) (first :: others)

/-- The entries of an object, as many as there are members. -/
inductive Members.Denotes : Nat → Members → List (String × Value) → Prop
  | done {room : Nat} {ending : Ending} :
      ending.fault = none → Members.Denotes room (.done ending) []
  | member {room : Nat} {key : MemberKey} {blanks : List Char} {value : Node} {rest : Members}
      {name : String} {first : Value} {others : List (String × Value)} :
      key.key.read = .ok name → Node.Denotes room value first → Members.Denotes room rest others →
      Members.Denotes room (.member key value blanks rest) ((name, first) :: others)

end

mutual

theorem denotes_of_readAny {room : Nat} : ∀ {node : Node} {json : Json},
    node.readAny room = .ok json → node.Denotes room (.ofJson json)
  | .word .null, _, read => Except.ok.inj read ▸ .null
  | .word .true, _, read => Except.ok.inj read ▸ .true
  | .word .false, _, read => Except.ok.inj read ▸ .false
  | .number _, _, read => by
    rcases Node.readAny_number_iff.1 read with ⟨n, counted, rfl⟩ | ⟨x, counted, rfl⟩
    · exact .integer counted
    · exact .real counted
  | .string _, _, read => by
    obtain ⟨text, spelled, rfl⟩ := Node.readAny_string_iff.1 read
    exact .text spelled
  | .array _, _, read => by
    obtain ⟨wide, values, inside, rfl⟩ := Node.readAny_array_iff.1 read
    rw [Value.ofJson, Value.ofItems_eq_map]
    exact .array wide (denotes_of_readItems inside)
  | .object _, _, read => by
    obtain ⟨wide, entries, inside, rfl⟩ := Node.readAny_object_iff.1 read
    rw [Value.ofJson]
    exact .object wide (denotes_of_readMembers inside) (Value.keepsLast_membersOf entries)
  | .broken .., _, read => by simp [Node.readAny] at read

theorem denotes_of_readItems {room : Nat} : ∀ {items : Items} {values : List Json},
    items.readAny room = .ok values → items.Denotes room (values.map .ofJson)
  | .done _, _, read => by
    obtain ⟨closed, rfl⟩ := Items.readAny_done_iff.1 read
    exact .done closed
  | .item .., _, read => by
    obtain ⟨first, here, others, later, rfl⟩ := Items.readAny_item_iff.1 read
    exact .item (denotes_of_readAny here) (denotes_of_readItems later)

theorem denotes_of_readMembers {room : Nat} :
    ∀ {members : Members} {entries : List (String × Json)}, members.readAny room = .ok entries →
      members.Denotes room (entries.map fun entry => (entry.1, .ofJson entry.2))
  | .done _, _, read => by
    obtain ⟨closed, rfl⟩ := Members.readAny_done_iff.1 read
    exact .done closed
  | .member .., _, read => by
    obtain ⟨name, named, first, here, others, later, rfl⟩ := Members.readAny_member_iff.1 read
    exact .member named (denotes_of_readAny here) (denotes_of_readMembers later)

end

mutual

theorem Node.Denotes.exists_read : ∀ {room : Nat} {node : Node} {value : Value},
    node.Denotes room value → ∃ json, node.readAny room = .ok json ∧ Value.ofJson json = value
  | _, _, _, .null => ⟨_, rfl, rfl⟩
  | _, _, _, .true => ⟨_, rfl, rfl⟩
  | _, _, _, .false => ⟨_, rfl, rfl⟩
  | _, _, _, .integer counted =>
    ⟨_, Node.readAny_number_iff.2 (Or.inl ⟨_, counted, rfl⟩), rfl⟩
  | _, _, _, .real counted => ⟨_, Node.readAny_number_iff.2 (Or.inr ⟨_, counted, rfl⟩), rfl⟩
  | _, _, _, .text spelled => ⟨_, Node.readAny_string_iff.2 ⟨_, spelled, rfl⟩, rfl⟩
  | _, _, _, .array wide inside => by
    obtain ⟨values, read, rfl⟩ := inside.exists_read
    refine ⟨_, Node.readAny_array_iff.2 ⟨wide, values, read, rfl⟩, ?_⟩
    rw [Value.ofJson, Value.ofItems_eq_map]
  | _, _, _, .object wide inside keeps => by
    obtain ⟨entries, read, rfl⟩ := inside.exists_read
    refine ⟨_, Node.readAny_object_iff.2 ⟨wide, entries, read, rfl⟩, ?_⟩
    rw [Value.ofJson, (Value.keepsLast_membersOf entries).eq_of_same keeps]

theorem Items.Denotes.exists_read : ∀ {room : Nat} {items : Items} {values : List Value},
    items.Denotes room values →
      ∃ read, items.readAny room = .ok read ∧ read.map Value.ofJson = values
  | _, _, _, .done closed => ⟨[], Items.readAny_done_iff.2 ⟨closed, rfl⟩, rfl⟩
  | _, _, _, .item here later => by
    obtain ⟨first, readFirst, rfl⟩ := here.exists_read
    obtain ⟨others, readOthers, rfl⟩ := later.exists_read
    exact ⟨_, Items.readAny_item_iff.2 ⟨first, readFirst, others, readOthers, rfl⟩, rfl⟩

theorem Members.Denotes.exists_read :
    ∀ {room : Nat} {members : Members} {entries : List (String × Value)},
      members.Denotes room entries → ∃ read, members.readAny room = .ok read ∧
        read.map (fun entry => (entry.1, Value.ofJson entry.2)) = entries
  | _, _, _, .done closed => ⟨[], Members.readAny_done_iff.2 ⟨closed, rfl⟩, rfl⟩
  | _, _, _, .member named here later => by
    obtain ⟨first, readFirst, rfl⟩ := here.exists_read
    obtain ⟨others, readOthers, rfl⟩ := later.exists_read
    exact ⟨_, Members.readAny_member_iff.2 ⟨_, named, first, readFirst, others, readOthers, rfl⟩,
      rfl⟩

end

theorem decoder_eq_ok_iff_denotes {room : Nat} {node : Node} {value : Value} :
    Value.decoder room node = .ok value ↔ node.Denotes room value := by
  rw [Value.decoder_eq_ok_iff]
  constructor
  · rintro ⟨json, read, rfl⟩
    exact denotes_of_readAny read
  · exact Node.Denotes.exists_read

theorem Node.Denotes.unique {room : Nat} {node : Node} {a b : Value}
    (first : node.Denotes room a) (second : node.Denotes room b) : a = b :=
  Except.ok.inj ((decoder_eq_ok_iff_denotes.2 first).symm.trans
    (decoder_eq_ok_iff_denotes.2 second))

end Json

open Json

namespace Value

theorem parse_text_iff {document : Document} (sound : document.Sound) {value : Value} :
    parse (String.ofList document.text) = .ok value ↔ document.root.Denotes fullRoom value := by
  rw [parse, sound.writes.decode_iff, decoder_eq_ok_iff_denotes]

theorem parse_eq_ok_iff {text : String} {value : Value} :
    parse text = .ok value ↔ decoder fullRoom (Document.ofChars text.toList).root = .ok value ∧
      (Document.ofChars text.toList).excess = none := by
  rw [parse, Decoder.decode_eq_ok_iff, Document.decode_eq_ok_iff]

theorem lawful_of_parse {text : String} {value : Value} (parsed : parse text = .ok value) :
    value.Lawful :=
  (lawful_of_decoder (parse_eq_ok_iff.1 parsed).1).1

/-- A text that is read as a value keeps to the grammar, and all of it has a part in the value. -/
theorem document_of_parse {text : String} {value : Value} (parsed : parse text = .ok value) :
    (Document.ofChars text.toList).text = text.toList ∧
      (Document.ofChars text.toList).root.Denotes fullRoom value := by
  obtain ⟨read, ended⟩ := parse_eq_ok_iff.1 parsed
  obtain ⟨_, same⟩ := Document.ofChars_sound (Decoder.thorough_any.map ofJson read) ended
  exact ⟨same, decoder_eq_ok_iff_denotes.1 read⟩

end Value

end MetricQuery
