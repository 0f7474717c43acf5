import Mathlib.Data.List.Induction
import Mathlib.Data.List.Nodup
import MetricQuery.Json.Record
import MetricQuery.Proofs.Except
import MetricQuery.Proofs.Json.Layout

namespace MetricQuery.Json

variable {α β ε : Type}

theorem after_eq_ok_iff {bytes : Unit → Nat} {read : Except Failure α} {value : α} :
    after bytes read = .ok value ↔ read = .ok value := by
  cases read <;> simp [after]

theorem enter_eq_ok_iff {room : Nat} {inside : Nat → Except Failure α} {value : α} :
    enter room inside = .ok value ↔ 2 ≤ room ∧ inside (room - 1) = .ok value := by
  rw [enter]
  split
  · simp only [reduceCtorEq, false_iff, not_and]
    omega
  · rename_i wide
    exact (and_iff_right (Nat.not_le.1 wide)).symm

theorem Numeral.number_eq_ok_iff {numeral : Numeral} {number : Number} :
    numeral.number = .ok number ↔ numeral.read = .ok number := by
  rw [Numeral.number]
  cases numeral.read <;> simp

section ReadAny

variable {room : Nat} {before blanks : List Char} {value : Node}

theorem Node.readAny_number_iff {numeral : Numeral} {read : Json} :
    (Node.number numeral).readAny room = .ok read ↔
      (∃ n, numeral.read = .ok (.integer n) ∧ Json.integer n = read) ∨
        ∃ x, numeral.read = .ok (.real x) ∧ Json.real x = read := by
  simp only [Node.readAny, bind_eq_ok_iff, Numeral.number_eq_ok_iff]
  constructor
  · rintro ⟨number, counted, found⟩
    cases number with
    | integer n => exact Or.inl ⟨n, counted, Except.ok.inj found⟩
    | real x => exact Or.inr ⟨x, counted, Except.ok.inj found⟩
  · rintro (⟨n, counted, rfl⟩ | ⟨x, counted, rfl⟩)
    · exact ⟨_, counted, rfl⟩
    · exact ⟨_, counted, rfl⟩

theorem Node.readAny_string_iff {spelling : Spelling} {read : Json} :
    (Node.string spelling).readAny room = .ok read ↔
      ∃ text, spelling.read = .ok text ∧ Json.text text = read := by
  simp only [Node.readAny, bind_eq_ok_iff, Except.ok.injEq]

theorem Node.readAny_array_iff {items : Items} {read : Json} :
    (Node.array items).readAny room = .ok read ↔
      2 ≤ room ∧ ∃ values, items.readAny (room - 1) = .ok values ∧ Json.array values = read := by
  simp only [Node.readAny, enter_eq_ok_iff, after_eq_ok_iff, bind_eq_ok_iff, Except.ok.injEq]

theorem Node.readAny_object_iff {members : Members} {read : Json} :
    (Node.object members).readAny room = .ok read ↔
      2 ≤ room ∧ ∃ entries, members.readAny (room - 1) = .ok entries ∧
        Json.object (membersOf entries) = read := by
  simp only [Node.readAny, enter_eq_ok_iff, after_eq_ok_iff, bind_eq_ok_iff, Except.ok.injEq]

theorem Items.readAny_done_iff {ending : Ending} {values : List Json} :
    (Items.done ending).readAny room = .ok values ↔ ending.fault = none ∧ [] = values := by
  rw [Items.readAny]
  cases ending.fault <;> simp

theorem Items.readAny_item_iff {rest : Items} {values : List Json} :
    (Items.item before value blanks rest).readAny room = .ok values ↔
      ∃ first, value.readAny room = .ok first ∧
        ∃ others, rest.readAny room = .ok others ∧ first :: others = values := by
  simp only [Items.readAny, bind_eq_ok_iff, after_eq_ok_iff, Except.ok.injEq]

theorem Members.readAny_done_iff {ending : Ending} {entries : List (String × Json)} :
    (Members.done ending).readAny room = .ok entries ↔ ending.fault = none ∧ [] = entries := by
  rw [Members.readAny]
  cases ending.fault <;> simp

theorem Members.readAny_member_iff {key : MemberKey} {rest : Members}
    {entries : List (String × Json)} :
    (Members.member key value blanks rest).readAny room = .ok entries ↔
      ∃ name, key.key.read = .ok name ∧ ∃ first, value.readAny room = .ok first ∧
        ∃ others, rest.readAny room = .ok others ∧ (name, first) :: others = entries := by
  simp only [Members.readAny, bind_eq_ok_iff, after_eq_ok_iff, Except.ok.injEq]

end ReadAny

section Members

theorem map_fst_setMember (key : String) (value : Json) (members : List (String × Json)) :
    (setMember key value members).map Prod.fst =
      if key ∈ members.map Prod.fst then members.map Prod.fst
      else members.map Prod.fst ++ [key] := by
  induction members with
  | nil => rfl
  | cons member rest ih =>
    obtain ⟨k, v⟩ := member
    rw [setMember]
    by_cases same : k = key
    · simp [same]
    · have other : key ≠ k := Ne.symm same
      rw [if_neg same, List.map_cons, ih]
      simp only [List.map_cons, List.mem_cons, other, false_or]
      split <;> rfl

theorem mem_setMember {key : String} {value : Json} {members : List (String × Json)}
    {member : String × Json} (held : member ∈ setMember key value members) :
    member = (key, value) ∨ member ∈ members := by
  induction members with
  | nil => exact Or.inl (by simpa [setMember] using held)
  | cons first rest ih =>
    obtain ⟨k, v⟩ := first
    rw [setMember] at held
    split at held
    · rcases List.mem_cons.1 held with here | later
      · exact Or.inl here
      · exact Or.inr (List.mem_cons_of_mem _ later)
    · rcases List.mem_cons.1 held with here | later
      · exact Or.inr (here ▸ List.mem_cons_self)
      · exact (ih later).imp_right (List.mem_cons_of_mem _)

theorem setMember_of_absent {key : String} {members : List (String × Json)}
    (absent : key ∉ members.map Prod.fst) (value : Json) :
    setMember key value members = members ++ [(key, value)] := by
  induction members with
  | nil => rfl
  | cons first rest ih =>
    obtain ⟨k, v⟩ := first
    rw [List.map_cons, List.mem_cons, not_or] at absent
    rw [setMember, if_neg (Ne.symm absent.1), ih absent.2, List.cons_append]

theorem membersOf_append_singleton (entries : List (String × Json)) (entry : String × Json) :
    membersOf (entries ++ [entry]) = setMember entry.1 entry.2 (membersOf entries) := by
  rw [membersOf, List.foldl_append]
  rfl

theorem nodup_membersOf (entries : List (String × Json)) :
    ((membersOf entries).map Prod.fst).Nodup := by
  induction entries using List.reverseRecOn with
  | nil => exact List.nodup_nil
  | append_singleton entries entry ih =>
    rw [membersOf_append_singleton, map_fst_setMember]
    split
    · exact ih
    · rename_i absent
      exact ih.append (List.nodup_singleton _) (List.disjoint_singleton.2 absent)

theorem mem_of_mem_membersOf {entries : List (String × Json)} {member : String × Json}
    (held : member ∈ membersOf entries) : member ∈ entries := by
  induction entries using List.reverseRecOn with
  | nil => exact held
  | append_singleton entries entry ih =>
    rw [membersOf_append_singleton] at held
    rcases mem_setMember held with here | earlier
    · exact List.mem_append_right _ (by simp [here])
    · exact List.mem_append_left _ (ih earlier)

/-- Members with different keys are all kept. -/
theorem membersOf_of_nodup {entries : List (String × Json)}
    (distinct : (entries.map Prod.fst).Nodup) : membersOf entries = entries := by
  induction entries using List.reverseRecOn with
  | nil => rfl
  | append_singleton entries entry ih =>
    rw [List.map_append, List.nodup_append] at distinct
    obtain ⟨earlier, _, apart⟩ := distinct
    rw [membersOf_append_singleton, ih earlier]
    exact setMember_of_absent (fun held => apart _ held entry.1 (by simp) rfl) entry.2

end Members

/-- The values that are read in some room: objects with one member for each key, and no more
containers around each other than there is room for. -/
inductive Fits : Nat → Json → Prop
  | null {room : Nat} : Fits room .null
  | bool {room : Nat} (value : Bool) : Fits room (.bool value)
  | integer {room : Nat} {value : Int} : FitsWord value → Fits room (.integer value)
  | real {room : Nat} (value : Float) : Fits room (.real value)
  | text {room : Nat} (value : String) : Fits room (.text value)
  | array {room : Nat} {items : List Json} : 2 ≤ room → (∀ item ∈ items, Fits (room - 1) item) →
      Fits room (.array items)
  | object {room : Nat} {members : List (String × Json)} : 2 ≤ room →
      (members.map Prod.fst).Nodup → (∀ member ∈ members, Fits (room - 1) member.2) →
      Fits room (.object members)

mutual

/-- What has been read in some room fits in it. -/
theorem fits_of_readAny {room : Nat} : ∀ {node : Node} {value : Json},
    node.readAny room = .ok value → value.Fits room
  | .word .null, _, read => Except.ok.inj read ▸ .null
  | .word .true, _, read => Except.ok.inj read ▸ .bool true
  | .word .false, _, read => Except.ok.inj read ▸ .bool false
  | .number _, _, read => by
    rcases Node.readAny_number_iff.1 read with ⟨n, counted, rfl⟩ | ⟨x, _, rfl⟩
    · exact .integer (Numeral.fitsWord_of_read counted)
    · exact .real x
  | .string _, _, read => by
    obtain ⟨text, _, rfl⟩ := Node.readAny_string_iff.1 read
    exact .text text
  | .array _, _, read => by
    obtain ⟨wide, values, inside, rfl⟩ := Node.readAny_array_iff.1 read
    exact .array wide (fits_of_readItems inside)
  | .object _, _, read => by
    obtain ⟨wide, entries, inside, rfl⟩ := Node.readAny_object_iff.1 read
    refine .object wide (nodup_membersOf entries) fun member held => ?_
    exact fits_of_readMembers inside member (mem_of_mem_membersOf held)
  | .broken .., _, read => by simp [Node.readAny] at read

theorem fits_of_readItems {room : Nat} : ∀ {items : Items} {values : List Json},
    items.readAny room = .ok values → ∀ value ∈ values, value.Fits room
  | .done _, _, read => by
    obtain ⟨_, rfl⟩ := Items.readAny_done_iff.1 read
    simp
  | .item .., _, read => by
    obtain ⟨first, here, others, later, rfl⟩ := Items.readAny_item_iff.1 read
    exact List.forall_mem_cons.2 ⟨fits_of_readAny here, fits_of_readItems later⟩

theorem fits_of_readMembers {room : Nat} : ∀ {members : Members} {entries : List (String × Json)},
    members.readAny room = .ok entries → ∀ entry ∈ entries, entry.2.Fits room
  | .done _, _, read => by
    obtain ⟨_, rfl⟩ := Members.readAny_done_iff.1 read
    simp
  | .member .., _, read => by
    obtain ⟨name, _, first, here, others, later, rfl⟩ := Members.readAny_member_iff.1 read
    exact List.forall_mem_cons.2 ⟨fits_of_readAny here, fits_of_readMembers later⟩

end

theorem readAny_layoutItems {room : Nat} {items : List Json}
    (read : ∀ item ∈ items, (layout item).readAny room = .ok item) :
    (layoutItems items).readAny room = .ok items := by
  induction items with
  | nil => rfl
  | cons item rest ih =>
    obtain ⟨first, others⟩ := List.forall_mem_cons.1 read
    exact Items.readAny_item_iff.2 ⟨item, first, rest, ih others, rfl⟩

theorem readAny_layoutMembers {room : Nat} {members : List (String × Json)}
    (read : ∀ member ∈ members, (layout member.2).readAny room = .ok member.2) :
    (layoutMembers members).readAny room = .ok members := by
  induction members with
  | nil => rfl
  | cons member rest ih =>
    obtain ⟨first, others⟩ := List.forall_mem_cons.1 read
    exact Members.readAny_member_iff.2
      ⟨member.1, Spelling.read_ofString member.1, member.2, first, rest, ih others, rfl⟩

/-- A value without floats is read back from its layout wherever it fits. -/
theorem Fits.readAny_layout {room : Nat} {value : Json} (fits : value.Fits room)
    (free : value.FloatFree) : (layout value).readAny room = .ok value := by
  induction fits with
  | null => rfl
  | bool value => cases value <;> rfl
  | integer word =>
    exact Node.readAny_number_iff.2 (Or.inl ⟨_, Numeral.read_ofInt word, rfl⟩)
  | real value => cases free
  | text value => exact Node.readAny_string_iff.2 ⟨value, Spelling.read_ofString value, rfl⟩
  | array wide _ ih =>
    cases free with
    | array free =>
      have inside := readAny_layoutItems fun item held => ih item held (free item held)
      exact Node.readAny_array_iff.2 ⟨wide, _, inside, rfl⟩
  | object wide distinct _ ih =>
    cases free with
    | object free =>
      have inside := readAny_layoutMembers fun member held => ih member held (free member held)
      have kept := congrArg Json.object (membersOf_of_nodup distinct)
      exact Node.readAny_object_iff.2 ⟨wide, _, inside, kept⟩

end MetricQuery.Json
