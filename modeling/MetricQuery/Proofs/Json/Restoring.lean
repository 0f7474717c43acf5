import MetricQuery.Proofs.Json.Reading

namespace MetricQuery.Json

variable {α β ε : Type} {room : Nat} {node : Node}

/-- Whatever the decoder has read in some room, it reads again there from what is written of it. -/
def Decoder.Restores (decoder : Decoder α) (write : α → Json) (room : Nat) : Prop :=
  ∀ node value, decoder room node = .ok value → (write value).FloatFree →
    decoder room (layout (write value)) = .ok value

namespace Decoder

variable {decoder : Decoder α} {write : α → Json}

theorem map_eq_ok_iff {f : α → β} {read : β} :
    decoder.map f room node = .ok read ↔ ∃ value, decoder room node = .ok value ∧ f value = read := by
  rw [map]
  cases decoder room node <;> simp

theorem optional_eq_ok_some_iff {value : α} :
    decoder.optional room node = .ok (some value) ↔
      node ≠ .word .null ∧ decoder room node = .ok value := by
  rw [optional.eq_def]
  split
  · simp
  · rename_i other
    cases decoder room node <;> simp_all

theorem optional_eq_ok_none_iff :
    decoder.optional room node = .ok none ↔ node = .word .null := by
  rw [optional.eq_def]
  split
  · simp
  · rename_i other
    cases decoder room node <;> simp_all

theorem text_layout (text : String) : Decoder.text room (layout (.text text)) = .ok text :=
  Spelling.read_ofString text

theorem flag_layout (flag : Bool) : Decoder.flag room (layout (.bool flag)) = .ok flag := by
  cases flag <;> rfl

theorem port_number_iff {numeral : Numeral} {port : Nat} :
    Decoder.port room (.number numeral) = .ok port ↔
      ∃ n, numeral.read = .ok (.integer n) ∧ 0 ≤ n ∧ n ≤ 65535 ∧ port = n.toNat := by
  rw [Decoder.port, Numeral.number]
  cases counted : numeral.read with
  | error count => simp
  | ok number =>
    cases number with
    | real x => simp
    | integer n =>
      simp only [Except.ok.injEq, Number.integer.injEq, exists_eq_left']
      split
      · rename_i range
        rw [Except.ok.injEq, eq_comm]
        exact ⟨fun same => ⟨range.1, by omega, same⟩, fun held => held.2.2⟩
      · rename_i range
        exact iff_of_false (by simp) fun held => range ⟨held.1, by omega⟩

theorem port_layout {port : Nat} (small : port < 65536) :
    Decoder.port room (layout (.integer port)) = .ok port := by
  have word : FitsWord port := ⟨by omega, by omega⟩
  exact port_number_iff.2 ⟨port, Numeral.read_ofInt word, by omega, by omega, rfl⟩

theorem port_lt {port : Nat} (read : Decoder.port room node = .ok port) : port < 65536 := by
  cases node with
  | number =>
    obtain ⟨n, _, low, high, rfl⟩ := port_number_iff.1 read
    omega
  | _ => cases read

theorem items_done_iff {ending : Ending} {values : List α} :
    items decoder room (.done ending) = .ok values ↔ ending.fault = none ∧ [] = values := by
  rw [items]
  cases ending.fault <;> simp

theorem items_item_iff {before blanks : List Char} {value : Node} {rest : Items}
    {values : List α} :
    items decoder room (.item before value blanks rest) = .ok values ↔
      ∃ first, decoder room value = .ok first ∧
        ∃ others, items decoder room rest = .ok others ∧ first :: others = values := by
  simp only [items, bind_eq_ok_iff, after_eq_ok_iff, Except.ok.injEq]

theorem list_array_iff {body : Items} {values : List α} :
    decoder.list room (.array body) = .ok values ↔
      2 ≤ room ∧ items decoder (room - 1) body = .ok values := by
  simp only [list, enter_eq_ok_iff, after_eq_ok_iff]

theorem exists_items_of_list {values : List α} (read : decoder.list room node = .ok values) :
    ∃ body, node = .array body := by
  cases node with
  | array body => exact ⟨body, rfl⟩
  | _ => cases read

/-- Every item of a list has been read from some value of its own. -/
theorem exists_read_of_mem_items : ∀ {body : Items} {values : List α},
    items decoder room body = .ok values → ∀ value ∈ values, ∃ node, decoder room node = .ok value
  | .done _, _, read => by
    obtain ⟨_, rfl⟩ := items_done_iff.1 read
    simp
  | .item _ own _ _, _, read => by
    obtain ⟨first, here, others, later, rfl⟩ := items_item_iff.1 read
    exact List.forall_mem_cons.2 ⟨⟨own, here⟩, exists_read_of_mem_items later⟩

theorem items_layoutItems {values : List α}
    (read : ∀ value ∈ values, decoder room (layout (write value)) = .ok value) :
    items decoder room (layoutItems (values.map write)) = .ok values := by
  induction values with
  | nil => rfl
  | cons value rest ih =>
    obtain ⟨first, others⟩ := List.forall_mem_cons.1 read
    exact items_item_iff.2 ⟨value, first, rest, ih others, rfl⟩

theorem list_layout {values : List α} (wide : 2 ≤ room)
    (read : ∀ value ∈ values, decoder (room - 1) (layout (write value)) = .ok value) :
    decoder.list room (layout (.array (values.map write))) = .ok values :=
  list_array_iff.2 ⟨wide, items_layoutItems read⟩

theorem texts_layout (wide : 2 ≤ room) (names : List String) :
    Decoder.text.list room (layout (texts names)) = .ok names :=
  list_layout wide fun name _ => text_layout name

theorem Restores.list (restores : decoder.Restores write (room - 1)) :
    decoder.list.Restores (fun values => .array (values.map write)) room := by
  intro node values read free
  obtain ⟨body, rfl⟩ := exists_items_of_list read
  obtain ⟨wide, inside⟩ := list_array_iff.1 read
  cases free with
  | array free =>
    refine list_layout wide fun value held => ?_
    obtain ⟨own, here⟩ := exists_read_of_mem_items inside value held
    exact restores own value here (free _ (List.mem_map_of_mem held))

end Decoder

/-- The decoder of a slot that is not ignored has read the entry. -/
inductive Slot.Reads (room : Nat) (node : Node) (entry : ε) : Slot ε → Prop
  | field {decoder : Decoder ε} : decoder room node = .ok entry → Reads room node entry (.field decoder)
  | setting {decoder : Decoder ε} :
      decoder room node = .ok entry → Reads room node entry (.setting decoder)

namespace Slot

variable {decoder : Decoder ε} {entry : ε}

theorem reads_field_iff : Reads room node entry (.field decoder) ↔ decoder room node = .ok entry :=
  ⟨fun | .field read => read, .field⟩

theorem reads_setting_iff :
    Reads room node entry (.setting decoder) ↔ decoder room node = .ok entry :=
  ⟨fun | .setting read => read, .setting⟩

theorem not_reads_ignored : ¬Reads room node entry (.ignored : Slot ε) := nofun

end Slot

section Members

variable {slot : String → Slot ε}

theorem readMembers_done_iff {given : List String} {ending : Ending} {entries : List ε} :
    readMembers slot room given (.done ending) = .ok entries ↔ ending.fault = none ∧ [] = entries := by
  rw [readMembers]
  cases ending.fault <;> simp

/-- What the slot of a member can do with it. Only a field is remembered as given. -/
theorem readMembers_member_iff {given : List String} {key : MemberKey} {value : Node}
    {blanks : List Char} {rest : Members} {entries : List ε} :
    readMembers slot room given (.member key value blanks rest) = .ok entries ↔
      ∃ name, key.key.read = .ok name ∧
        (slot name = .ignored ∧ value.skip = .ok () ∧
            readMembers slot room given rest = .ok entries ∨
          ∃ first, (slot name).Reads room value first ∧ ∃ others, first :: others = entries ∧
            ((∃ decoder, slot name = .setting decoder) ∧
                readMembers slot room given rest = .ok others ∨
              (∃ decoder, slot name = .field decoder) ∧ name ∉ given ∧
                readMembers slot room (name :: given) rest = .ok others)) := by
  simp only [readMembers, bind_eq_ok_iff, after_eq_ok_iff]
  refine exists_congr fun name => and_congr_right fun _ => ?_
  cases slot name with
  | ignored => simp [bind_unit_eq_ok_iff, after_eq_ok_iff, Slot.not_reads_ignored]
  | setting decoder => simp [bind_eq_ok_iff, after_eq_ok_iff, Slot.reads_setting_iff, and_comm]
  | field decoder =>
    by_cases again : name ∈ given
    · simp [again]
    · simp [again, bind_eq_ok_iff, after_eq_ok_iff, Slot.reads_field_iff, and_comm]

/-- Every entry of an object has been read by the slot of some member. -/
theorem exists_reads_of_mem_readMembers : ∀ {members : Members} {given : List String}
    {entries : List ε}, readMembers slot room given members = .ok entries →
    ∀ entry ∈ entries, ∃ name node, (slot name).Reads room node entry
  | .done _, _, _, read => by
    obtain ⟨_, rfl⟩ := readMembers_done_iff.1 read
    simp
  | .member key value blanks rest, given, entries, read => by
    obtain ⟨name, _, ⟨_, _, later⟩ | ⟨first, here, others, rfl, more⟩⟩ :=
      readMembers_member_iff.1 read
    · exact exists_reads_of_mem_readMembers later
    · refine List.forall_mem_cons.2 ⟨⟨name, value, here⟩, ?_⟩
      rcases more with ⟨_, later⟩ | ⟨_, _, later⟩
      · exact exists_reads_of_mem_readMembers later
      · exact exists_reads_of_mem_readMembers later

theorem readMembers_layoutMembers_cons {name : String} {value : Json} {entry : ε}
    {rest : List (String × Json)} {others : List ε} {given : List String}
    (reads : (slot name).Reads room (layout value) entry) (fresh : name ∉ given)
    (later : ∀ more, more ⊆ name :: given →
      readMembers slot room more (layoutMembers rest) = .ok others) :
    readMembers slot room given (layoutMembers ((name, value) :: rest)) = .ok (entry :: others) := by
  have key := Spelling.read_ofString name
  rw [layoutMembers, readMembers, bind_eq_ok_iff]
  refine ⟨name, after_eq_ok_iff.2 key, ?_⟩
  generalize found : slot name = asked at reads
  cases reads with
  | field read =>
    have unknown : given.contains name = false := by simpa using fresh
    have following := later (name :: given) (List.Subset.refl _)
    simp only [unknown, Bool.false_eq_true, if_false, bind_eq_ok_iff, after_eq_ok_iff]
    exact ⟨entry, read, others, following, rfl⟩
  | setting read =>
    have following := later given (List.subset_cons_self _ _)
    simp only [bind_eq_ok_iff, after_eq_ok_iff]
    exact ⟨entry, read, others, following, rfl⟩

theorem readMembers_layoutMembers_of_apart {members : List (String × Json)} {entries : List ε}
    (reads : List.Forall₂ (fun member entry =>
      (slot member.1).Reads room (layout member.2) entry) members entries)
    (distinct : (members.map Prod.fst).Nodup) {given : List String}
    (apart : ∀ member ∈ members, member.1 ∉ given) :
    readMembers slot room given (layoutMembers members) = .ok entries := by
  induction reads generalizing given with
  | nil => rfl
  | @cons member entry members entries here _ ih =>
    obtain ⟨fresh, distinct⟩ := List.nodup_cons.1 distinct
    obtain ⟨notGiven, apart⟩ := List.forall_mem_cons.1 apart
    refine readMembers_layoutMembers_cons here notGiven fun more fewer => ?_
    refine ih distinct fun other held again => ?_
    rcases List.mem_cons.1 (fewer again) with same | given
    · exact fresh (same ▸ List.mem_map_of_mem held)
    · exact apart other held given

/-- Members with different keys are read into one entry each, in their order. -/
theorem readMembers_layoutMembers {members : List (String × Json)} {entries : List ε}
    (reads : List.Forall₂ (fun member entry =>
      (slot member.1).Reads room (layout member.2) entry) members entries)
    (distinct : (members.map Prod.fst).Nodup) :
    readMembers slot room [] (layoutMembers members) = .ok entries :=
  readMembers_layoutMembers_of_apart reads distinct fun _ _ => List.not_mem_nil

theorem readFields_done_iff {decoders : List (Decoder ε)} {ending : Ending} {entries : List ε} :
    readFields room decoders (.done ending) = .ok entries ↔ ending.fault = none ∧ [] = entries := by
  obtain ⟨separated, blanks, fault⟩ := ending
  cases fault with
  | none => cases decoders <;> simp [readFields]
  | some fault =>
    cases decoders with
    | nil =>
      simp only [readFields, reduceCtorEq, false_and, iff_false]
      split_ifs <;> simp
    | cons => simp [readFields]

theorem readFields_item_iff {decoder : Decoder ε} {decoders : List (Decoder ε)}
    {before blanks : List Char} {value : Node} {rest : Items} {entries : List ε} :
    readFields room (decoder :: decoders) (.item before value blanks rest) = .ok entries ↔
      ∃ first, decoder room value = .ok first ∧
        ∃ others, readFields room decoders rest = .ok others ∧ first :: others = entries := by
  simp only [readFields, bind_eq_ok_iff, after_eq_ok_iff, Except.ok.injEq]

/-- Every entry of a list of fields has been read by one of their decoders. -/
theorem exists_read_of_mem_readFields : ∀ {decoders : List (Decoder ε)} {items : Items}
    {entries : List ε}, readFields room decoders items = .ok entries →
    ∀ entry ∈ entries, ∃ decoder ∈ decoders, ∃ node, decoder room node = .ok entry
  | _, .done _, _, read => by
    obtain ⟨_, rfl⟩ := readFields_done_iff.1 read
    simp
  | [], .item .., _, read => by cases read
  | decoder :: decoders, .item _ value _ rest, _, read => by
    obtain ⟨first, here, others, later, rfl⟩ := readFields_item_iff.1 read
    refine List.forall_mem_cons.2 ⟨⟨decoder, List.mem_cons_self, value, here⟩, ?_⟩
    intro entry held
    obtain ⟨own, known, own_read⟩ := exists_read_of_mem_readFields later entry held
    exact ⟨own, List.mem_cons_of_mem _ known, own_read⟩

end Members

theorem objectDecoder_object_iff {title : String} {slot : String → Slot ε}
    {build : List ε → Except String α} {members : Members} {value : α} :
    objectDecoder title slot build room (.object members) = .ok value ↔
      2 ≤ room ∧ ∃ entries, readMembers slot (room - 1) [] members = .ok entries ∧
        build entries = .ok value := by
  simp only [objectDecoder, enter_eq_ok_iff, bind_eq_ok_iff, after_eq_ok_iff]
  refine and_congr_right fun _ => exists_congr fun entries => and_congr_right fun _ => ?_
  cases build entries <;> simp

namespace Record

variable {record : Record ε α}

theorem decoder_object_iff {members : Members} {value : α} :
    record.decoder room (.object members) = .ok value ↔
      2 ≤ room ∧ ∃ entries, readMembers record.slot (room - 1) [] members = .ok entries ∧
        record.build entries = .ok value := by
  simp only [decoder, enter_eq_ok_iff, bind_eq_ok_iff, after_eq_ok_iff]
  refine and_congr_right fun _ => exists_congr fun entries => and_congr_right fun _ => ?_
  cases record.build entries <;> simp

theorem decoder_array_iff {items : Items} {value : α} :
    record.decoder room (.array items) = .ok value ↔
      2 ≤ room ∧ ∃ entries,
        readFields (room - 1) (record.fields.map Prod.snd) items = .ok entries ∧
          record.build entries = .ok value := by
  simp only [decoder, enter_eq_ok_iff, bind_eq_ok_iff, after_eq_ok_iff]
  refine and_congr_right fun _ => exists_congr fun entries => and_congr_right fun _ => ?_
  cases record.build entries <;> simp

theorem exists_decoder_of_reads {name : String} {entry : ε}
    (reads : (record.slot name).Reads room node entry) :
    ∃ decoder ∈ record.fields.map Prod.snd, decoder room node = .ok entry := by
  rw [slot] at reads
  split at reads
  · rename_i decoder known
    obtain ⟨before, after, split, _⟩ := List.lookup_eq_some_iff.1 known
    cases reads with
    | field read => exact ⟨decoder, by simp [split], read⟩
  · cases reads

/-- A record is built from entries that its fields have read, whichever way it was written. -/
theorem exists_entries_of_decoder {value : α} (read : record.decoder room node = .ok value) :
    ∃ entries, record.build entries = .ok value ∧
      ∀ entry ∈ entries, ∃ decoder ∈ record.fields.map Prod.snd, ∃ node,
        decoder (room - 1) node = .ok entry := by
  cases node with
  | array items =>
    obtain ⟨_, entries, inside, built⟩ := decoder_array_iff.1 read
    exact ⟨entries, built, exists_read_of_mem_readFields inside⟩
  | object members =>
    obtain ⟨_, entries, inside, built⟩ := decoder_object_iff.1 read
    refine ⟨entries, built, fun entry held => ?_⟩
    obtain ⟨name, own, reads⟩ := exists_reads_of_mem_readMembers inside entry held
    obtain ⟨decoder, known, here⟩ := exists_decoder_of_reads reads
    exact ⟨decoder, known, own, here⟩
  | _ => cases read

end Record

/-- One member of a record as it is written, unless it is left out, and the entry that is read from
it. -/
structure Row (ε : Type) where
  name : String
  cell : Option (Json × ε)

namespace Row

def member? (row : Row ε) : Option (String × Json) := row.cell.map fun cell => (row.name, cell.1)

def entry? (row : Row ε) : Option ε := row.cell.map Prod.snd

/-- A member that is always written. -/
def given (name : String) (written : Json) (entry : ε) : Row ε := ⟨name, some (written, entry)⟩

/-- A member that is written when there is a value for it. -/
def optional (name : String) (wrap : Option α → ε) (write : α → Json) (value : Option α) : Row ε :=
  ⟨name, value.map fun held => (write held, wrap (some held))⟩

theorem map_fst_members_sublist (rows : List (Row ε)) :
    ((rows.filterMap member?).map Prod.fst).Sublist (rows.map name) := by
  induction rows with
  | nil => exact .slnil
  | cons row rest ih =>
    obtain ⟨name, cell⟩ := row
    cases cell with
    | none => exact ih.cons name
    | some cell => exact ih.cons_cons name

/-- What is written of the row holds no float. -/
def FloatFree (row : Row ε) : Prop := ∀ cell ∈ row.cell, cell.1.FloatFree

@[simp] theorem floatFree_given_iff {name : String} {written : Json} {entry : ε} :
    (given name written entry).FloatFree ↔ written.FloatFree := by
  simp [FloatFree, given]

@[simp] theorem floatFree_optional_iff {name : String} {wrap : Option α → ε} {write : α → Json}
    {value : Option α} :
    (optional name wrap write value).FloatFree ↔ ∀ held ∈ value, (write held).FloatFree := by
  cases value <;> simp [FloatFree, optional]

theorem floatFree_members_iff {rows : List (Row ε)} :
    (Json.object (rows.filterMap member?)).FloatFree ↔ ∀ row ∈ rows, row.FloatFree := by
  simp only [floatFree_object_iff, List.mem_filterMap, member?, Option.map_eq_some_iff]
  constructor
  · intro free row held cell present
    exact free (row.name, cell.1) ⟨row, held, cell, present, rfl⟩
  · rintro free _ ⟨row, held, cell, present, rfl⟩
    exact free row held cell present

/-- The row is read by the field of its name. -/
def ReadBy (slot : String → Slot ε) (room : Nat) (row : Row ε) : Prop :=
  ∀ cell ∈ row.cell, (slot row.name).Reads room (layout cell.1) cell.2

theorem given_readBy {slot : String → Slot ε} {name : String} {written : Json}
    {decoder : Decoder α} {wrap : α → ε} {value : α}
    (known : slot name = .field (.map wrap decoder))
    (read : decoder room (layout written) = .ok value) :
    (given name written (wrap value)).ReadBy slot room := by
  rintro cell ⟨⟩
  show (slot name).Reads room (layout written) (wrap value)
  rw [known]
  exact .field (Decoder.map_eq_ok_iff.2 ⟨value, read, rfl⟩)

theorem optional_readBy {slot : String → Slot ε} {name : String} {write : α → Json}
    {decoder : Decoder α} {wrap : Option α → ε} {value : Option α}
    (known : slot name = .field (.map wrap (.optional decoder)))
    (read : ∀ held ∈ value, layout (write held) ≠ .word .null ∧
      decoder room (layout (write held)) = .ok held) :
    (optional name wrap write value).ReadBy slot room := by
  intro cell present
  obtain ⟨held, given, rfl⟩ := Option.map_eq_some_iff.1 present
  have inside := Decoder.optional_eq_ok_some_iff.2 (read held given)
  show (slot name).Reads room (layout (write held)) (wrap (some held))
  rw [known]
  exact .field (Decoder.map_eq_ok_iff.2 ⟨some held, inside, rfl⟩)

theorem forall₂_reads {slot : String → Slot ε} {rows : List (Row ε)}
    (read : ∀ row ∈ rows, row.ReadBy slot room) :
    List.Forall₂ (fun member entry => (slot member.1).Reads room (layout member.2) entry)
      (rows.filterMap member?) (rows.filterMap entry?) := by
  induction rows with
  | nil => exact .nil
  | cons row rest ih =>
    obtain ⟨here, others⟩ := List.forall_mem_cons.1 read
    obtain ⟨name, cell⟩ := row
    cases cell with
    | none => exact ih others
    | some cell => exact .cons (here cell rfl) (ih others)

end Row

/-- A record is read back from rows with different names that its fields read. -/
theorem Record.decoder_layout {record : Record ε α} {rows : List (Row ε)} {value : α}
    (wide : 2 ≤ room) (distinct : (rows.map Row.name).Nodup)
    (read : ∀ row ∈ rows, row.ReadBy record.slot (room - 1))
    (built : record.build (rows.filterMap Row.entry?) = .ok value) :
    record.decoder room (layout (.object (rows.filterMap Row.member?))) = .ok value := by
  have names := distinct.sublist (Row.map_fst_members_sublist rows)
  have inside := readMembers_layoutMembers (Row.forall₂_reads read) names
  exact decoder_object_iff.2 ⟨wide, _, inside, built⟩

theorem Document.decode_eq_ok_iff {decoder : Decoder α} {document : Document} {value : α} :
    document.decode decoder = .ok value ↔
      decoder fullRoom document.root = .ok value ∧ document.excess = none := by
  simp only [Document.decode, bind_eq_ok_iff, after_eq_ok_iff]
  cases document.excess <;> simp

theorem Decoder.decode_eq_ok_iff {decoder : Decoder α} {text : String} {value : α} :
    decoder.decode text = .ok value ↔
      (Document.ofChars text.toList).decode decoder = .ok value := by
  rw [Decoder.decode]
  cases (Document.ofChars text.toList).decode decoder <;> simp

/-- What a decoder restores is read back from the compact text of what it has read. -/
theorem Decoder.Restores.decode_write {decoder : Decoder α} {write : α → Json}
    (restores : decoder.Restores write fullRoom) {text : String} {value : α}
    (read : decoder.decode text = .ok value) (free : (write value).FloatFree) :
    decoder.decode (write value).write = .ok value := by
  obtain ⟨here, _⟩ := Document.decode_eq_ok_iff.1 (Decoder.decode_eq_ok_iff.1 read)
  have back := restores _ value here free
  rw [Decoder.decode_eq_ok_iff, free.ofChars_write]
  exact Document.decode_eq_ok_iff.2 ⟨back, rfl⟩

end MetricQuery.Json
