import MetricQuery.Proofs.Json.Faultless
import MetricQuery.Proofs.Json.Restoring

namespace MetricQuery.Json

variable {α β ε : Type}

/-- The decoder reads nothing that could not also have been passed over. -/
def Decoder.Thorough (decoder : Decoder α) : Prop :=
  ∀ ⦃room node value⦄, decoder room node = .ok value → node.skip = .ok ()

namespace Decoder

theorem thorough_any : any.Thorough := fun _ _ _ => skip_of_readAny

theorem thorough_text : text.Thorough := by
  intro room node value read
  cases node with
  | string => exact Node.skip_string_iff.2 (Spelling.fault_of_read read)
  | _ => cases read

theorem thorough_flag : flag.Thorough := by
  intro room node value read
  cases node with
  | word => rfl
  | _ => cases read

theorem thorough_port : port.Thorough := by
  intro room node value read
  cases node with
  | number => rfl
  | _ => cases read

variable {decoder : Decoder α}

theorem Thorough.map (thorough : decoder.Thorough) (f : α → β) : (decoder.map f).Thorough := by
  intro room node value read
  obtain ⟨own, here, _⟩ := map_eq_ok_iff.1 read
  exact thorough here

theorem Thorough.optional (thorough : decoder.Thorough) : decoder.optional.Thorough := by
  intro room node value read
  cases value with
  | some value => exact thorough (optional_eq_ok_some_iff.1 read).2
  | none => rw [optional_eq_ok_none_iff.1 read, Node.skip]

theorem Thorough.items (thorough : decoder.Thorough) {room : Nat} : ∀ {body : Items}
    {values : List α}, items decoder room body = .ok values → body.skip = .ok ()
  | .done _, _, read => Items.skip_done_iff.2 (items_done_iff.1 read).1
  | .item .., _, read => by
    obtain ⟨_, here, _, later, _⟩ := items_item_iff.1 read
    exact Items.skip_item_iff.2 ⟨thorough here, thorough.items later⟩

theorem Thorough.list (thorough : decoder.Thorough) : decoder.list.Thorough := by
  intro room node value read
  obtain ⟨body, rfl⟩ := exists_items_of_list read
  exact Node.skip_array_iff.2 (thorough.items (list_array_iff.1 read).2)

end Decoder

/-- Whatever a slot asks for, it reads thoroughly. -/
def Slot.Thorough (slot : Slot ε) : Prop :=
  ∀ ⦃room node entry⦄, slot.Reads room node entry → node.skip = .ok ()

theorem Slot.thorough_field {decoder : Decoder ε} (thorough : decoder.Thorough) :
    (Slot.field decoder).Thorough := fun _ _ _ reads => thorough (reads_field_iff.1 reads)

theorem Slot.thorough_setting {decoder : Decoder ε} (thorough : decoder.Thorough) :
    (Slot.setting decoder).Thorough := fun _ _ _ reads => thorough (reads_setting_iff.1 reads)

theorem skip_of_readSlots {slot : String → Slot ε} (thorough : ∀ name, (slot name).Thorough)
    {room : Nat} : ∀ {members : Members} {given : List String} {entries : List ε},
    readMembers slot room given members = .ok entries → members.skip = .ok ()
  | .done _, _, _, read => Members.skip_done_iff.2 (readMembers_done_iff.1 read).1
  | .member .., _, _, read => by
    obtain ⟨name, named, ⟨_, passed, later⟩ | ⟨first, here, others, _, more⟩⟩ :=
      readMembers_member_iff.1 read
    · exact Members.skip_member_iff.2
        ⟨Spelling.fault_of_read named, passed, skip_of_readSlots thorough later⟩
    · refine Members.skip_member_iff.2 ⟨Spelling.fault_of_read named, thorough name here, ?_⟩
      rcases more with ⟨_, later⟩ | ⟨_, _, later⟩
      · exact skip_of_readSlots thorough later
      · exact skip_of_readSlots thorough later

theorem thorough_objectDecoder {title : String} {slot : String → Slot ε}
    {build : List ε → Except String α} (thorough : ∀ name, (slot name).Thorough) :
    (objectDecoder title slot build).Thorough := by
  intro room node value read
  cases node with
  | object =>
    obtain ⟨_, _, inside, _⟩ := objectDecoder_object_iff.1 read
    exact Node.skip_object_iff.2 (skip_of_readSlots thorough inside)
  | _ => cases read

theorem skip_of_readFields {room : Nat} : ∀ {decoders : List (Decoder ε)} {body : Items}
    {entries : List ε}, (∀ decoder ∈ decoders, decoder.Thorough) →
    readFields room decoders body = .ok entries → body.skip = .ok ()
  | _, .done _, _, _, read => Items.skip_done_iff.2 (readFields_done_iff.1 read).1
  | [], .item .., _, _, read => by cases read
  | _ :: _, .item .., _, thorough, read => by
    obtain ⟨own, others⟩ := List.forall_mem_cons.1 thorough
    obtain ⟨_, here, _, later, _⟩ := readFields_item_iff.1 read
    exact Items.skip_item_iff.2 ⟨own here, skip_of_readFields others later⟩

theorem Record.thorough_decoder {record : Record ε α}
    (thorough : ∀ field ∈ record.fields, field.2.Thorough) : record.decoder.Thorough := by
  have own : ∀ decoder ∈ record.fields.map Prod.snd, decoder.Thorough :=
    List.forall_mem_map.2 thorough
  intro room node value read
  cases node with
  | array =>
    obtain ⟨_, _, inside, _⟩ := decoder_array_iff.1 read
    exact Node.skip_array_iff.2 (skip_of_readFields own inside)
  | object =>
    obtain ⟨_, _, inside, _⟩ := decoder_object_iff.1 read
    refine Node.skip_object_iff.2 (skip_of_readSlots (fun name _ _ _ reads => ?_) inside)
    obtain ⟨decoder, known, here⟩ := exists_decoder_of_reads reads
    exact own decoder known here
  | _ => cases read

/-- The text keeps to the grammar, and this is the document that it is written as. -/
structure Document.Writes (document : Document) (text : String) : Prop where
  sound : document.Sound
  same : document.text = text.toList

theorem Document.Sound.writes {document : Document} (sound : document.Sound) :
    document.Writes (String.ofList document.text) :=
  ⟨sound, String.toList_ofList.symm⟩

theorem Document.Writes.of_skip {text : String}
    (skipped : (Document.ofChars text.toList).root.skip = .ok ())
    (ended : (Document.ofChars text.toList).excess = none) :
    (Document.ofChars text.toList).Writes text := by
  obtain ⟨sound, same⟩ := Document.ofChars_sound skipped ended
  exact ⟨sound, same⟩

section Decode

variable {decoder : Decoder α} {text : String} {value : α}

theorem Document.Writes.decode_iff {document : Document} (writes : document.Writes text) :
    decoder.decode text = .ok value ↔ decoder fullRoom document.root = .ok value := by
  rw [Decoder.decode_eq_ok_iff, ← writes.same, Document.ofChars_text writes.sound,
    Document.decode_eq_ok_iff]
  exact and_iff_left writes.sound.excess

theorem Document.Writes.exists_error {document : Document} (writes : document.Writes text)
    {failure : Failure} (failed : decoder fullRoom document.root = .error failure) :
    ∃ error, decoder.decode text = .error error ∧ error.problem = failure.problem := by
  have refused : (Document.ofChars text.toList).decode decoder =
      .error (failure.shift (byteCount document.before)) := by
    rw [← writes.same, Document.ofChars_text writes.sound, Document.decode, failed]
    rfl
  refine ⟨_, by rw [Decoder.decode, refused], rfl⟩

/-- A text that is read thoroughly keeps to the grammar, and nothing of it is lost. -/
theorem Decoder.Thorough.exists_writes (thorough : decoder.Thorough)
    (read : decoder.decode text = .ok value) : ∃ document : Document, document.Writes text := by
  obtain ⟨inside, ended⟩ := Document.decode_eq_ok_iff.1 (decode_eq_ok_iff.1 read)
  exact ⟨_, .of_skip (thorough inside) ended⟩

end Decode

mutual

/-- What keeps to the grammar can be passed over, however deep it is. -/
theorem Node.Sound.skip : ∀ {node : Node}, node.Sound → node.skip = .ok ()
  | .word _, .word _ => rfl
  | .number _, .number _ => rfl
  | .string _, .string sound => Node.skip_string_iff.2 sound.fault
  | .array _, .array sound => Node.skip_array_iff.2 sound.skip
  | .object _, .object sound => Node.skip_object_iff.2 sound.skip

theorem Items.Sound.skip : ∀ {body : Items} {later : Bool}, body.Sound later → body.skip = .ok ()
  | .done _, _, .empty _ => rfl
  | .done _, _, .last => rfl
  | .item .., _, .item _ sound _ others => Items.skip_item_iff.2 ⟨sound.skip, others.skip⟩

theorem Members.Sound.skip : ∀ {members : Members} {later : Bool},
    members.Sound later → members.skip = .ok ()
  | .done _, _, .empty _ => rfl
  | .done _, _, .last => rfl
  | .member .., _, .member _ key _ _ sound _ others =>
    Members.skip_member_iff.2 ⟨key.fault, sound.skip, others.skip⟩

end

end MetricQuery.Json
