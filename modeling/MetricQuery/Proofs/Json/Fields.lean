import MetricQuery.Proofs.Json.Thorough
import MetricQuery.Proofs.Value.MemberOrder

namespace MetricQuery.Json

variable {α ε : Type} {room : Nat}

theorem Node.sound_array_iff {body : Items} : (Node.array body).Sound ↔ body.Sound false := by
  constructor
  · rintro ⟨⟩
    assumption
  · exact .array

theorem Node.sound_object_iff {members : Members} :
    (Node.object members).Sound ↔ members.Sound false := by
  constructor
  · rintro ⟨⟩
    assumption
  · exact .object

/-- The items of a list, without the blanks around them. -/
def Items.values : Items → List Node
  | .done _ => []
  | .item _ value _ rest => value :: rest.values

theorem Items.Sound.forall_values {later : Bool} : ∀ {body : Items},
    body.Sound later → ∀ node ∈ body.values, node.Sound
  | .done _, _ => by simp [values]
  | .item .., .item _ sound _ others => List.forall_mem_cons.2 ⟨sound, others.forall_values⟩

/-- A list is read item by item, and nothing else in it matters. -/
theorem Decoder.items_iff {decoder : Decoder α} {later : Bool} : ∀ {body : Items} {read : List α},
    body.Sound later → (items decoder room body = .ok read ↔
      List.Forall₂ (fun node value => decoder room node = .ok value) body.values read)
  | .done ending, read, sound => by
    rw [items_done_iff, ← Items.skip_done_iff, sound.skip, Items.values,
      List.forall₂_nil_left_iff, @eq_comm _ []]
    exact and_iff_right rfl
  | .item .., _, .item _ _ _ others => by
    simp only [items_item_iff, items_iff others, Items.values, List.forall₂_cons_left_iff]
    exact ⟨fun ⟨first, here, rest, later, same⟩ => ⟨first, rest, here, later, same.symm⟩,
      fun ⟨first, rest, here, later, same⟩ => ⟨first, here, rest, later, same.symm⟩⟩

namespace Record

variable {record : Record ε α}

/-- The fields that a record finds among members, each with its name. Other members are passed
over. -/
inductive Gathers (record : Record ε α) (room : Nat) :
    List (Spelling × Node) → List (String × ε) → Prop
  | nil : Gathers record room [] []
  | known {key : Spelling} {name : String} {decoder : Decoder ε} {node : Node} {entry : ε}
      {rest : List (Spelling × Node)} {found : List (String × ε)} :
      key.read = .ok name → record.fields.lookup name = some decoder →
      decoder room node = .ok entry → Gathers record room rest found →
      Gathers record room ((key, node) :: rest) ((name, entry) :: found)
  | unknown {key : Spelling} {name : String} {node : Node} {rest : List (Spelling × Node)}
      {found : List (String × ε)} :
      key.read = .ok name → record.fields.lookup name = none → node.skip = .ok () →
      Gathers record room rest found → Gathers record room ((key, node) :: rest) found

/-- The fields that a record finds in a list, each with the name that is declared for its place. The
last ones may be missing. -/
inductive Lists (room : Nat) : List (String × Decoder ε) → List Node → List (String × ε) → Prop
  | nil (fields : List (String × Decoder ε)) : Lists room fields [] []
  | cons {name : String} {decoder : Decoder ε} {fields : List (String × Decoder ε)} {node : Node}
      {nodes : List Node} {entry : ε} {found : List (String × ε)} :
      decoder room node = .ok entry → Lists room fields nodes found →
      Lists room ((name, decoder) :: fields) (node :: nodes) ((name, entry) :: found)

theorem slot_eq_field_iff {name : String} {decoder : Decoder ε} :
    record.slot name = .field decoder ↔ record.fields.lookup name = some decoder := by
  rw [slot]
  cases record.fields.lookup name <;> simp

theorem slot_eq_ignored_iff {name : String} :
    record.slot name = .ignored ↔ record.fields.lookup name = none := by
  rw [slot]
  cases record.fields.lookup name <;> simp

theorem slot_ne_setting {name : String} {decoder : Decoder ε} :
    record.slot name ≠ .setting decoder := by
  rw [slot]
  cases record.fields.lookup name <;> simp

/-- What is read from the members of an object are its fields, none of them given twice. -/
theorem exists_gathers_of_readMembers : ∀ {members : Members} {given : List String}
    {entries : List ε}, readMembers record.slot room given members = .ok entries →
    ∃ found, record.Gathers room members.entries found ∧ (found.map Prod.fst).Nodup ∧
      (∀ name ∈ given, name ∉ found.map Prod.fst) ∧ found.map Prod.snd = entries
  | .done _, _, _, read => by
    obtain ⟨_, rfl⟩ := readMembers_done_iff.1 read
    exact ⟨[], .nil, by simp⟩
  | .member .., given, _, read => by
    obtain ⟨name, named, ⟨unknown, passed, later⟩ | ⟨first, here, rest, rfl, more⟩⟩ :=
      readMembers_member_iff.1 read
    · obtain ⟨found, gathers, others⟩ := exists_gathers_of_readMembers later
      exact ⟨found, .unknown named (slot_eq_ignored_iff.1 unknown) passed gathers, others⟩
    · obtain ⟨⟨decoder, setting⟩, _⟩ | ⟨⟨decoder, known⟩, notGiven, later⟩ := more
      · exact absurd setting slot_ne_setting
      · obtain ⟨found, gathers, distinct, fresh, rfl⟩ := exists_gathers_of_readMembers later
        obtain ⟨own, fresh⟩ := List.forall_mem_cons.1 fresh
        rw [known, Slot.reads_field_iff] at here
        refine ⟨(name, first) :: found, .known named (slot_eq_field_iff.1 known) here gathers,
          List.nodup_cons.2 ⟨own, distinct⟩, fun other held again => ?_, rfl⟩
        rcases List.mem_cons.1 again with rfl | again
        · exact notGiven held
        · exact fresh other held again

theorem readMembers_of_gathers {later : Bool} : ∀ {members : Members} {given : List String}
    {found : List (String × ε)}, members.Sound later → record.Gathers room members.entries found →
    (found.map Prod.fst).Nodup → (∀ name ∈ given, name ∉ found.map Prod.fst) →
    readMembers record.slot room given members = .ok (found.map Prod.snd)
  | .done _, _, _, sound, .nil, _, _ =>
    readMembers_done_iff.2 ⟨Members.skip_done_iff.1 sound.skip, rfl⟩
  | .member .., _, _, .member _ _ _ _ _ _ others, .unknown named unknown passed gathers, distinct,
      fresh =>
    readMembers_member_iff.2 ⟨_, named, Or.inl ⟨slot_eq_ignored_iff.2 unknown, passed,
      readMembers_of_gathers others gathers distinct fresh⟩⟩
  | .member .., given, (name, entry) :: found, .member _ _ _ _ _ _ others,
      .known named known here gathers, distinct, fresh => by
    obtain ⟨own, distinct⟩ := List.nodup_cons.1 distinct
    have slot := slot_eq_field_iff.2 known
    have notGiven : name ∉ given := fun held => fresh name held List.mem_cons_self
    have apart : ∀ other ∈ name :: given, other ∉ found.map Prod.fst := List.forall_mem_cons.2
      ⟨own, fun other held again => fresh other held (List.mem_cons_of_mem _ again)⟩
    have later := readMembers_of_gathers others gathers distinct apart
    exact readMembers_member_iff.2 ⟨name, named, Or.inr ⟨entry, slot ▸ .field here, _, rfl,
      Or.inr ⟨⟨_, slot⟩, notGiven, later⟩⟩⟩

theorem readFields_iff {later : Bool} : ∀ {body : Items} {fields : List (String × Decoder ε)}
    {entries : List ε}, body.Sound later →
    (readFields room (fields.map Prod.snd) body = .ok entries ↔
      ∃ found, Lists room fields body.values found ∧ found.map Prod.snd = entries)
  | .done _, fields, entries, sound => by
    rw [readFields_done_iff, ← Items.skip_done_iff, sound.skip, Items.values]
    constructor
    · rintro ⟨_, rfl⟩
      exact ⟨[], .nil fields, rfl⟩
    · rintro ⟨_, ⟨⟩, rfl⟩
      exact ⟨rfl, rfl⟩
  | .item .., [], entries, _ => by
    constructor
    · rintro ⟨⟩
    · rintro ⟨_, ⟨⟩, _⟩
  | .item .., (name, decoder) :: fields, entries, .item _ _ _ others => by
    rw [List.map_cons, readFields_item_iff, Items.values]
    constructor
    · rintro ⟨first, here, rest, read, rfl⟩
      obtain ⟨found, lists, rfl⟩ := (readFields_iff others).1 read
      exact ⟨_, .cons here lists, rfl⟩
    · rintro ⟨found, lists, rfl⟩
      cases lists with
      | cons here lists =>
        exact ⟨_, here, _, (readFields_iff others).2 ⟨_, lists, rfl⟩, rfl⟩

/-- The fields that a record finds in a value, whichever way it is written. -/
inductive Finds (record : Record ε α) (room : Nat) : Node → List (String × ε) → Prop
  | object {members : Members} {found : List (String × ε)} :
      record.Gathers room members.entries found → (found.map Prod.fst).Nodup →
      Finds record room (.object members) found
  | array {body : Items} {found : List (String × ε)} :
      Lists room record.fields body.values found → Finds record room (.array body) found

theorem decoder_iff {node : Node} (sound : node.Sound) {value : α} :
    record.decoder room node = .ok value ↔
      2 ≤ room ∧ ∃ found, record.Finds (room - 1) node found ∧
        record.build (found.map Prod.snd) = .ok value := by
  cases sound with
  | object sound =>
    rw [decoder_object_iff]
    refine and_congr_right fun _ => ⟨?_, ?_⟩
    · rintro ⟨_, read, built⟩
      obtain ⟨found, gathers, distinct, _, rfl⟩ := exists_gathers_of_readMembers read
      exact ⟨found, .object gathers distinct, built⟩
    · rintro ⟨found, finds, built⟩
      cases finds with
      | object gathers distinct =>
        exact ⟨_, readMembers_of_gathers sound gathers distinct (by simp), built⟩
  | array sound =>
    rw [decoder_array_iff]
    refine and_congr_right fun _ => ⟨?_, ?_⟩
    · rintro ⟨_, read, built⟩
      obtain ⟨found, lists, rfl⟩ := (readFields_iff sound).1 read
      exact ⟨found, .array lists, built⟩
    · rintro ⟨found, finds, built⟩
      cases finds with
      | array lists => exact ⟨_, (readFields_iff sound).2 ⟨found, lists, rfl⟩, built⟩
  | _ =>
    constructor
    · rintro ⟨⟩
    · rintro ⟨_, _, ⟨⟩, _⟩

variable {a b : List (Spelling × Node)} {found : List (String × ε)} {name : String}
  {decoder : Decoder ε}

theorem Gathers.append {early late : List (String × ε)}
    (first : record.Gathers room a early) (second : record.Gathers room b late) :
    record.Gathers room (a ++ b) (early ++ late) := by
  induction first with
  | nil => exact second
  | known named known here _ ih => exact .known named known here ih
  | unknown named absent passed _ ih => exact .unknown named absent passed ih

theorem Gathers.of_append (gathers : record.Gathers room (a ++ b) found) :
    ∃ early late, record.Gathers room a early ∧ record.Gathers room b late ∧
      found = early ++ late := by
  induction a generalizing found with
  | nil => exact ⟨[], found, .nil, gathers, rfl⟩
  | cons first rest ih =>
    cases gathers with
    | known named known here later =>
      obtain ⟨early, late, first, second, rfl⟩ := ih later
      exact ⟨_ :: early, late, .known named known here first, second, rfl⟩
    | unknown named absent passed later =>
      obtain ⟨early, late, first, second, rfl⟩ := ih later
      exact ⟨early, late, .unknown named absent passed first, second, rfl⟩

/-- Members in another order give the fields in another order. -/
theorem Gathers.perm (moved : a.Perm b) (gathers : record.Gathers room a found) :
    ∃ others, record.Gathers room b others ∧ found.Perm others := by
  induction moved generalizing found with
  | nil => exact ⟨found, gathers, .refl found⟩
  | cons member _ ih =>
    cases gathers with
    | known named known here later =>
      obtain ⟨others, gathers, perm⟩ := ih later
      exact ⟨_, .known named known here gathers, perm.cons _⟩
    | unknown named absent passed later =>
      obtain ⟨others, gathers, perm⟩ := ih later
      exact ⟨_, .unknown named absent passed gathers, perm⟩
  | swap first second rest =>
    cases gathers with
    | known named known here later =>
      cases later with
      | known next knownNext hereNext later =>
        exact ⟨_, .known next knownNext hereNext (.known named known here later), .swap _ _ _⟩
      | unknown next absentNext passed later =>
        exact ⟨_, .unknown next absentNext passed (.known named known here later), .refl _⟩
    | unknown named absent passed later =>
      cases later with
      | known next knownNext hereNext later =>
        exact ⟨_, .known next knownNext hereNext (.unknown named absent passed later), .refl _⟩
      | unknown next absentNext passedNext later =>
        exact ⟨_, .unknown next absentNext passedNext (.unknown named absent passed later), .refl _⟩
  | trans _ _ ih₁ ih₂ =>
    obtain ⟨middle, gathers, perm⟩ := ih₁ gathers
    obtain ⟨others, gathers, perm'⟩ := ih₂ gathers
    exact ⟨others, gathers, perm.trans perm'⟩

/-- One of the members that give a field may be exchanged for any other that gives it. -/
theorem Gathers.exchange {key : Spelling} {one : Node} {front back : List (Spelling × Node)}
    (gathers : record.Gathers room (front ++ (key, one) :: back) found)
    (named : key.read = .ok name) (known : record.fields.lookup name = some decoder) :
    ∃ before entry after, found = before ++ (name, entry) :: after ∧ decoder room one = .ok entry ∧
      ∀ other changed, decoder room other = .ok changed →
        record.Gathers room (front ++ (key, other) :: back) (before ++ (name, changed) :: after) := by
  obtain ⟨before, late, first, second, rfl⟩ := gathers.of_append
  cases second with
  | known again same here later =>
    obtain rfl := Except.ok.inj (again.symm.trans named)
    obtain rfl := Option.some.inj (same.symm.trans known)
    exact ⟨before, _, _, rfl, here, fun other changed read =>
      first.append (.known named known read later)⟩
  | unknown again absent =>
    obtain rfl := Except.ok.inj (again.symm.trans named)
    cases known.symm.trans absent

theorem Lists.exchange {fields : List (String × Decoder ε)} {one : Node} {front back : List Node}
    (lists : Lists room fields (front ++ one :: back) found)
    (distinct : (fields.map Prod.fst).Nodup)
    (placed : (fields.map Prod.fst)[front.length]? = some name)
    (known : fields.lookup name = some decoder) :
    ∃ before entry after, found = before ++ (name, entry) :: after ∧ decoder room one = .ok entry ∧
      ∀ other changed, decoder room other = .ok changed →
        Lists room fields (front ++ other :: back) (before ++ (name, changed) :: after) := by
  induction front generalizing fields found with
  | nil =>
    cases lists with
    | cons here later =>
      obtain rfl := Option.some.inj placed
      rw [lookup_cons_ite, if_pos rfl] at known
      obtain rfl := Option.some.inj known
      exact ⟨[], _, _, rfl, here, fun other changed read => .cons read later⟩
  | cons first rest ih =>
    cases lists with
    | @cons own _ fields _ _ _ _ here later =>
      obtain ⟨fresh, distinct⟩ := List.nodup_cons.1 distinct
      have placed : (fields.map Prod.fst)[rest.length]? = some name := by simpa using placed
      have other : name ≠ own := by
        rintro rfl
        exact fresh (List.mem_of_getElem? placed)
      rw [lookup_cons_ite, if_neg other] at known
      obtain ⟨before, entry, after, rfl, read, others⟩ := ih later distinct placed known
      exact ⟨_ :: before, entry, after, rfl, read, fun other changed own =>
        .cons here (others other changed own)⟩

/-- Every field is given by a member of its name. -/
theorem Gathers.exists_member (gathers : record.Gathers room a found) :
    ∀ field ∈ found, ∃ member ∈ a, member.1.read = .ok field.1 := by
  induction gathers with
  | nil => simp
  | known named known here _ ih =>
    refine List.forall_mem_cons.2 ⟨⟨_, List.mem_cons_self, named⟩, fun field held => ?_⟩
    obtain ⟨member, listed, own⟩ := ih field held
    exact ⟨member, List.mem_cons_of_mem _ listed, own⟩
  | unknown _ _ _ _ ih =>
    intro field held
    obtain ⟨member, listed, own⟩ := ih field held
    exact ⟨member, List.mem_cons_of_mem _ listed, own⟩

/-- A record that does not mind in which order its entries come. Each field makes entries of its own
kind. -/
structure Orderless (record : Record ε α) (kind : ε → String) : Prop where
  distinct : (record.fields.map Prod.fst).Nodup
  kind_eq : ∀ field ∈ record.fields, ∀ {room node entry},
    field.2 room node = .ok entry → kind entry = field.1
  build_perm : ∀ {a b : List ε}, a.Perm b → (a.map kind).Nodup → record.build a = record.build b

/-- A null in this field has no part in what is built. -/
def Nullable (record : Record ε α) (name : String) : Prop :=
  ∃ decoder empty, record.fields.lookup name = some decoder ∧
    (∀ room, decoder room (.word .null) = .ok empty) ∧
      ∀ entries, record.build (empty :: entries) = record.build entries

variable {kind : ε → String}

theorem Orderless.map_kind (orderless : record.Orderless kind)
    (gathers : record.Gathers room a found) :
    (found.map Prod.snd).map kind = found.map Prod.fst := by
  induction gathers with
  | nil => rfl
  | known _ known here _ ih =>
    rw [List.map_cons, List.map_cons, List.map_cons, ih]
    exact congrArg (· :: _) (orderless.kind_eq _ (mem_of_lookup known) here)
  | unknown _ _ _ _ ih => exact ih

theorem Orderless.build_eq (orderless : record.Orderless kind)
    (gathers : record.Gathers room a found) (distinct : (found.map Prod.fst).Nodup)
    {others : List (String × ε)} (perm : found.Perm others) :
    record.build (found.map Prod.snd) = record.build (others.map Prod.snd) := by
  refine orderless.build_perm (perm.map Prod.snd) ?_
  rwa [orderless.map_kind gathers]

theorem Lists.map_fst_prefix {fields : List (String × Decoder ε)} {nodes : List Node}
    (lists : Lists room fields nodes found) : found.map Prod.fst <+: fields.map Prod.fst := by
  induction lists with
  | nil => exact List.nil_prefix
  | cons _ _ ih => exact List.cons_prefix_cons.2 ⟨rfl, ih⟩

theorem Lists.map_kind {fields : List (String × Decoder ε)} {nodes : List Node}
    (lists : Lists room fields nodes found)
    (kind_eq : ∀ field ∈ fields, ∀ {room node entry},
      field.2 room node = .ok entry → kind entry = field.1) :
    (found.map Prod.snd).map kind = found.map Prod.fst := by
  induction lists with
  | nil => rfl
  | cons here _ ih =>
    obtain ⟨own, others⟩ := List.forall_mem_cons.1 kind_eq
    rw [List.map_cons, List.map_cons, List.map_cons, own here, ih others]

/-- However a record is written, it has one entry of each kind at most. -/
theorem Orderless.nodup_kinds (orderless : record.Orderless kind) {node : Node}
    (finds : record.Finds room node found) : ((found.map Prod.snd).map kind).Nodup := by
  cases finds with
  | object gathers distinct => rwa [orderless.map_kind gathers]
  | array lists =>
    rw [lists.map_kind orderless.kind_eq]
    exact orderless.distinct.sublist lists.map_fst_prefix.sublist

end Record

end MetricQuery.Json
