import Mathlib
import MetricQuery.Proofs.Value.Denotation

-- All of Mathlib is imported for the equations of library functions that the last run here unfolds.

namespace MetricQuery

namespace Json

/-- The members of an object, each with its key as it is spelled. -/
def Members.entries : Members → List (Spelling × Node)
  | .done _ => []
  | .member key value _ rest => (key.key, value) :: rest.entries

def hasName (name : String) (member : Spelling × Node) : Bool :=
  member.1.read.toOption = some name

/-- The same members in another order, in which those with one key follow each other as before,
however their keys are spelled. -/
structure Shuffled (a b : List (Spelling × Node)) : Prop where
  perm : a.Perm b
  stable : ∀ name, a.filter (hasName name) = b.filter (hasName name)

/-- Neighbours under different keys may change places. -/
theorem Shuffled.swap {first second : Spelling × Node} (front back : List (Spelling × Node))
    (apart : first.1.read.toOption ≠ second.1.read.toOption) :
    Shuffled (front ++ first :: second :: back) (front ++ second :: first :: back) := by
  refine ⟨(List.Perm.swap second first back).append_left front, fun name => ?_⟩
  by_cases named : hasName name first = true
  · have other : ¬hasName name second = true := by
      simp only [hasName, decide_eq_true_eq] at named ⊢
      exact fun same => apart (named.trans same.symm)
    simp [List.filter_cons, other]
  · simp [List.filter_cons, named]

mutual

/-- The same value, written with other blanks and with the members of any of its objects in another
order. -/
inductive Node.Rearranged : Node → Node → Prop
  | word (word : Word) : Node.Rearranged (.word word) (.word word)
  | number (numeral : Numeral) : Node.Rearranged (.number numeral) (.number numeral)
  | string (spelling : Spelling) : Node.Rearranged (.string spelling) (.string spelling)
  | array {a b : Items} : Items.Rearranged a b → Node.Rearranged (.array a) (.array b)
  | object {a b : Members} {inPlace : List (Spelling × Node)} :
      Members.Rearranged a inPlace → Shuffled inPlace b.entries →
      Node.Rearranged (.object a) (.object b)

inductive Items.Rearranged : Items → Items → Prop
  | done (a b : Ending) : Items.Rearranged (.done a) (.done b)
  | item {before blanks otherBefore otherBlanks : List Char} {value other : Node}
      {rest others : Items} : Node.Rearranged value other → Items.Rearranged rest others →
      Items.Rearranged (.item before value blanks rest) (.item otherBefore other otherBlanks others)

/-- The members of an object where they stand, each with its value rearranged. -/
inductive Members.Rearranged : Members → List (Spelling × Node) → Prop
  | done (ending : Ending) : Members.Rearranged (.done ending) []
  | member {key : MemberKey} {blanks : List Char} {value other : Node} {rest : Members}
      {others : List (Spelling × Node)} :
      Node.Rearranged value other → Members.Rearranged rest others →
      Members.Rearranged (.member key value blanks rest) ((key.key, other) :: others)

end

/-- A member that stands for an entry. -/
structure EntryOf (room : Nat) (member : Spelling × Node) (entry : String × Value) : Prop where
  name : member.1.read = .ok entry.1
  value : member.2.Denotes room entry.2

namespace EntryOf

variable {room : Nat} {member : Spelling × Node}

theorem unique {a b : String × Value} (first : EntryOf room member a)
    (second : EntryOf room member b) : a = b :=
  Prod.ext (Except.ok.inj (first.name.symm.trans second.name)) (first.value.unique second.value)

theorem hasName_iff {entry : String × Value} (entryOf : EntryOf room member entry) (name : String) :
    hasName name member = true ↔ decide (entry.1 = name) = true := by
  simp [hasName, entryOf.name, Except.toOption]

end EntryOf

section Entries

variable {room : Nat}

theorem Members.Sound.forall_entries {later : Bool} : ∀ {members : Members},
    members.Sound later → ∀ member ∈ members.entries, member.2.Sound
  | .done _, _ => by simp [entries]
  | .member .., .member _ _ _ _ sound _ others =>
    List.forall_mem_cons.2 ⟨sound, others.forall_entries⟩

theorem Members.Sound.denotes {later : Bool} :
    ∀ {members : Members} {found : List (String × Value)}, members.Sound later →
      List.Forall₂ (EntryOf room) members.entries found → members.Denotes room found
  | .done _, _, .empty _, .nil => .done rfl
  | .done _, _, .last, .nil => .done rfl
  | .member .., _, .member _ _ _ _ _ _ others, .cons here later =>
    .member here.name here.value (others.denotes later)

/-- Members in another order stand for the same entries in another order, in which those under one
key follow each other as before. -/
theorem Shuffled.exists_entries {a b : List (Spelling × Node)} {found : List (String × Value)}
    (shuffled : Shuffled a b) (each : List.Forall₂ (EntryOf room) a found) :
    ∃ others, List.Forall₂ (EntryOf room) b others ∧ ∀ key,
      (found.filter fun entry => entry.1 = key) = others.filter fun entry => entry.1 = key := by
  obtain ⟨others, eachOther, _⟩ := List.perm_comp_forall₂ shuffled.perm.symm each
  refine ⟨others, eachOther, fun key => ?_⟩
  have first := List.rel_filter (fun _ _ entryOf => entryOf.hasName_iff key) each
  have second := List.rel_filter (fun _ _ entryOf => entryOf.hasName_iff key) eachOther
  have unique : Relator.RightUnique (EntryOf room) := fun _ _ _ => EntryOf.unique
  rw [shuffled.stable] at first
  exact unique.forall₂ first second

end Entries

mutual

/-- However a node is rearranged, it stands for the same value. -/
theorem Node.Denotes.rearrange : ∀ {room : Nat} {a : Node} {value : Value},
    a.Denotes room value → ∀ {b : Node}, a.Rearranged b → b.Sound → b.Denotes room value
  | _, _, _, .null, _, .word _, _ => .null
  | _, _, _, .true, _, .word _, _ => .true
  | _, _, _, .false, _, .word _, _ => .false
  | _, _, _, .integer counted, _, .number _, _ => .integer counted
  | _, _, _, .real counted, _, .number _, _ => .real counted
  | _, _, _, .text spelled, _, .string _, _ => .text spelled
  | _, _, _, .array wide inside, _, .array moved, .array sound =>
    .array wide (inside.rearrange moved sound)
  | _, _, _, .object wide inside keeps, _, .object moved shuffled, .object sound => by
    -- The values are rearranged where the members stand, and only then are the members moved.
    have soundEach := fun member held => sound.forall_entries member (shuffled.perm.subset held)
    obtain ⟨others, each, same⟩ := shuffled.exists_entries (inside.rearrange moved soundEach)
    exact .object wide (sound.denotes each) (keeps.congr same)

theorem Items.Denotes.rearrange : ∀ {room : Nat} {a : Items} {values : List Value},
    a.Denotes room values → ∀ {b : Items} {later : Bool}, a.Rearranged b → b.Sound later →
      b.Denotes room values
  | _, _, _, .done _, _, _, .done _ _, .empty _ => .done rfl
  | _, _, _, .done _, _, _, .done _ _, .last => .done rfl
  | _, _, _, .item here later, _, _, .item moved others, .item _ sound _ soundOthers =>
    .item (here.rearrange moved sound) (later.rearrange others soundOthers)

theorem Members.Denotes.rearrange :
    ∀ {room : Nat} {a : Members} {found : List (String × Value)}, a.Denotes room found →
      ∀ {b : List (Spelling × Node)}, a.Rearranged b → (∀ member ∈ b, member.2.Sound) →
        List.Forall₂ (EntryOf room) b found
  | _, _, _, .done _, _, .done _, _ => .nil
  | _, _, _, .member named here later, _, .member moved others, sound =>
    have ⟨soundHere, soundOthers⟩ := List.forall_mem_cons.1 sound
    .cons ⟨named, here.rearrange moved soundHere⟩ (later.rearrange others soundOthers)

end

theorem layoutMembers_text (members : List (String × Json)) :
    (layoutMembers members).text = [','].intercalate (members.map fun member =>
      (layout (.text member.1)).text ++ ':' :: (layout member.2).text) ++ ['\x7d'] := by
  induction members with
  | nil => rfl
  | cons member rest ih =>
    rw [layoutMembers, Members.text, ih]
    cases rest with
    | nil => simp [layoutMembers, Members.hasComma, comma, MemberKey.text, Ending.closed, layout,
        Node.text]
    | cons next others =>
      rw [List.map_cons, List.map_cons, List.map_cons, List.intercalate_cons_cons]
      simp [layoutMembers, Members.hasComma, comma, MemberKey.text, layout, Node.text]

end Json

open Json

namespace Value

/-- A value somewhere inside another one, or that value itself. -/
inductive Inside : Value → Value → Prop
  | self (value : Value) : Inside value value
  | item {part item : Value} {items : List Value} :
      item ∈ items → Inside part item → Inside part (.array items)
  | member {part : Value} {member : String × Value} {members : List (String × Value)} :
      member ∈ members → Inside part member.2 → Inside part (.composite members)

theorem Lawful.of_inside {part whole : Value} (lawful : whole.Lawful) (inside : part.Inside whole) :
    part.Lawful := by
  induction inside with
  | self => exact lawful
  | item held _ ih =>
    cases lawful with
    | array items => exact ih (items _ held)
  | member held _ ih =>
    cases lawful with
    | composite _ members => exact ih (members _ held)

theorem displayMembers_eq_map (members : List (String × Value)) :
    displayMembers members = members.map fun member => member.1 ++ "=" ++ member.2.display := by
  induction members with
  | nil => rfl
  | cons member rest ih => rw [displayMembers, ih, List.map_cons]

/-- A composite whose members are shown and written in the increasing order of their keys. -/
structure ListsInOrder (members : List (String × Value)) : Prop where
  increasing : Increasing members
  display : (composite members).display = "\x7b" ++ ", ".intercalate
    (members.map fun member => member.1 ++ "=" ++ member.2.display) ++ "\x7d"
  write : (composite members).write = "\x7b" ++ ",".intercalate
    (members.map fun member => (Json.text member.1).write ++ ":" ++ member.2.write) ++ "\x7d"

theorem write_composite (members : List (String × Value)) : (composite members).write =
    "\x7b" ++ ",".intercalate (members.map fun member =>
      (Json.text member.1).write ++ ":" ++ member.2.write) ++ "\x7d" := by
  rw [← String.toList_inj]
  simp [write, Json.write, toJson, membersJson_eq_map, layout, Node.text, layoutMembers_text,
    String.toList_intercalate, Function.comp_def]

theorem Lawful.listsInOrder {members : List (String × Value)}
    (lawful : Value.Lawful (.composite members)) : ListsInOrder members := by
  refine ⟨?_, ?_, write_composite members⟩
  · cases lawful
    assumption
  · rw [display, displayMembers_eq_map]

end Value

/-- A text that is read as a value may have the members of its objects in another order, at any
depth, as long as those with one key keep following each other: it is read as the same value. Every
composite in the value has the last member under each key, in the order of the keys. -/
theorem member_order_is_immaterial {text : String} {value : Value}
    (parsed : Value.parse text = .ok value) :
    (Document.ofChars text.toList).text = text.toList ∧
      (Document.ofChars text.toList).root.Denotes fullRoom value ∧
      (∀ other : Document, other.Sound →
        (Document.ofChars text.toList).root.Rearranged other.root →
          Value.parse (String.ofList other.text) = .ok value) ∧
      ∀ members, (Value.composite members).Inside value → Value.ListsInOrder members := by
  obtain ⟨same, denotes⟩ := Value.document_of_parse parsed
  have lawful := Value.lawful_of_parse parsed
  refine ⟨same, denotes, ?_, ?_⟩
  · intro other sound moved
    exact (Value.parse_text_iff sound).2 (denotes.rearrange moved sound.root)
  · intro members inside
    exact (lawful.of_inside inside).listsInOrder

/-- An object inside another one, both of them out of order, and a key spelled in two ways. -/
theorem member_order_is_immaterial_of_nested :
    ∃ value, Value.parse "\x7b\"b\":1,\"a\":[\x7b\"y\":null,\"x\":\"\"\x7d],\"\\u0062\":2\x7d" =
        .ok value ∧
      value = .composite
        [("a", .array [.composite [("x", .text ""), ("y", .null)]]), ("b", .integer 2)] ∧
      Value.parse "\x7b \"a\":[\x7b\"x\":\"\",\"y\":null\x7d], \"b\":1,\"\\u0062\":2\x7d" =
        .ok value := by
  have parsed : Value.parse
      "\x7b\"b\":1,\"a\":[\x7b\"y\":null,\"x\":\"\"\x7d],\"\\u0062\":2\x7d" =
        .ok (.composite [("a", .array [.composite [("x", .text ""), ("y", .null)]]),
          ("b", .integer 2)]) := by cbv
  refine ⟨_, parsed, rfl, ?_⟩
  obtain ⟨sound, same⟩ := @Document.ofChars_sound
    "\x7b \"a\":[\x7b\"x\":\"\",\"y\":null\x7d], \"b\":1,\"\\u0062\":2\x7d".toList
    (by cbv) (by cbv)
  have inner : Node.Rearranged
      (.object (.member ⟨[], ⟨[.plain 'y'], none⟩, [], some []⟩ (.word .null) []
        (.member ⟨[], ⟨[.plain 'x'], none⟩, [], some []⟩ (.string ⟨[], none⟩) []
          (.done (.closed [])))))
      (.object (.member ⟨[], ⟨[.plain 'x'], none⟩, [], some []⟩ (.string ⟨[], none⟩) []
        (.member ⟨[], ⟨[.plain 'y'], none⟩, [], some []⟩ (.word .null) []
          (.done (.closed []))))) :=
    .object (.member (.word _) (.member (.string _) (.done _))) (.swap [] [] (by decide))
  have moved : Node.Rearranged
      (Document.ofChars
        "\x7b\"b\":1,\"a\":[\x7b\"y\":null,\"x\":\"\"\x7d],\"\\u0062\":2\x7d".toList).root
      (Document.ofChars
        "\x7b \"a\":[\x7b\"x\":\"\",\"y\":null\x7d], \"b\":1,\"\\u0062\":2\x7d".toList).root := by
    cbv
    exact .object (.member (.number _) (.member (.array (.item inner (.done _ _)))
      (.member (.number _) (.done _)))) (.swap [] [_] (by decide))
  have again := (member_order_is_immaterial parsed).2.2.1 _ sound moved
  rwa [same, String.ofList_toList] at again

end MetricQuery
