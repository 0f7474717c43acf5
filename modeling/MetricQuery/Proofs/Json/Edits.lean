import MetricQuery.Proofs.Json.Fields

namespace MetricQuery.Json

variable {α β ε : Type} {room : Nat}

/-- The same members in some order, and any others among them whose names are none of these. -/
def Reordered (names : List String) (a b : List (Spelling × Node)) : Prop :=
  ∃ extra, b.Perm (extra ++ a) ∧
    ∀ member ∈ extra, ∃ name, member.1.read = .ok name ∧ name ∉ names

/-- The members of an object before and after a change that is not to be noticed, for fields of
these names of which some are optional. -/
inductive Edited (names optional : List String) (a b : List (Spelling × Node)) : Prop
  | reordered : Reordered names a b → Edited names optional a b
  | nullAdded {key : Spelling} {name : String} :
      key.read = .ok name → name ∈ optional → (∀ member ∈ a, member.1.read ≠ .ok name) →
      b.Perm ((key, .word .null) :: a) → Edited names optional a b
  | nullRemoved {key : Spelling} {name : String} :
      key.read = .ok name → name ∈ optional → a.Perm ((key, .word .null) :: b) →
      Edited names optional a b

/-- What may become of the members of an object with fields of certain names, some of them
optional. -/
abbrev MemberChange :=
  List String → List String → List (Spelling × Node) → List (Spelling × Node) → Prop

/-- An object before and after a change of its members. -/
inductive Node.MembersChanged (change : List (Spelling × Node) → List (Spelling × Node) → Prop) :
    Node → Node → Prop
  | object {a b : Members} :
      change a.entries b.entries → MembersChanged change (.object a) (.object b)

/-- A list before and after a change of one of its items. -/
inductive Node.ItemChanged (change : Node → Node → Prop) : Node → Node → Prop
  | array {a b : Items} {front back : List Node} {one other : Node} :
      a.values = front ++ one :: back → b.values = front ++ other :: back → change one other →
      ItemChanged change (.array a) (.array b)

/-- A record before and after a change of one of its fields, which is a member under its name or the
item in its place. -/
inductive Node.FieldChanged (names : List String) (name : String) (change : Node → Node → Prop) :
    Node → Node → Prop
  | object {a b : Members} {front back : List (Spelling × Node)} {key : Spelling}
      {one other : Node} :
      a.entries = front ++ (key, one) :: back → b.entries = front ++ (key, other) :: back →
      key.read = .ok name → change one other →
      FieldChanged names name change (.object a) (.object b)
  | array {a b : Items} {front back : List Node} {one other : Node} :
      a.values = front ++ one :: back → b.values = front ++ other :: back →
      names[front.length]? = some name → change one other →
      FieldChanged names name change (.array a) (.array b)

section Flip

variable {a b : Node}

theorem Node.MembersChanged.flip
    {change back : List (Spelling × Node) → List (Spelling × Node) → Prop}
    (changed : a.MembersChanged change b) (turn : ∀ {x y}, change x y → back y x) :
    b.MembersChanged back a := by
  cases changed with
  | object inside => exact .object (turn inside)

variable {change back : Node → Node → Prop}

theorem Node.ItemChanged.flip (changed : a.ItemChanged change b)
    (turn : ∀ {x y}, change x y → back y x) : b.ItemChanged back a := by
  cases changed with
  | array first second inside => exact .array second first (turn inside)

theorem Node.FieldChanged.flip {names : List String} {name : String}
    (changed : a.FieldChanged names name change b) (turn : ∀ {x y}, change x y → back y x) :
    b.FieldChanged names name back a := by
  cases changed with
  | object first second named inside => exact .object second first named (turn inside)
  | array first second placed inside => exact .array second first placed (turn inside)

end Flip

/-- Whatever the decoder reads before the change it also reads after it. -/
def Decoder.Preserves (decoder : Decoder α) (change : Node → Node → Prop) : Prop :=
  ∀ ⦃room a b value⦄, change a b → a.Sound → b.Sound → decoder room a = .ok value →
    decoder room b = .ok value

theorem forall₂_exchange {R : α → β → Prop} {front back : List α} {one other : α}
    {results : List β} (each : List.Forall₂ R (front ++ one :: back) results)
    (follows : ∀ result, R one result → R other result) :
    List.Forall₂ R (front ++ other :: back) results := by
  induction front generalizing results with
  | nil =>
    cases each with
    | cons here later => exact .cons (follows _ here) later
  | cons first rest ih =>
    cases each with
    | cons here later => exact .cons here (ih later)

section Preserves

variable {decoder : Decoder α} {change : Node → Node → Prop}

theorem Decoder.Preserves.map (preserves : decoder.Preserves change) (f : α → β) :
    (decoder.map f).Preserves change := by
  intro room a b read changed soundA soundB before
  obtain ⟨value, here, rfl⟩ := map_eq_ok_iff.1 before
  exact map_eq_ok_iff.2 ⟨value, preserves changed soundA soundB here, rfl⟩

theorem Decoder.Preserves.list (preserves : decoder.Preserves change) :
    decoder.list.Preserves (Node.ItemChanged change) := by
  intro room a b read changed soundA soundB before
  cases changed with
  | @array a b front back one other valuesA valuesB inside =>
    rw [Node.sound_array_iff] at soundA soundB
    obtain ⟨wide, each⟩ := list_array_iff.1 before
    rw [items_iff soundA, valuesA] at each
    have soundOne := soundA.forall_values one (by simp [valuesA])
    have soundOther := soundB.forall_values other (by simp [valuesB])
    refine list_array_iff.2 ⟨wide, (items_iff soundB).2 ?_⟩
    rw [valuesB]
    exact forall₂_exchange each fun _ => preserves inside soundOne soundOther

end Preserves

namespace Record

variable {record : Record ε α} {name : String} {decoder : Decoder ε}

/-- A record finds a changed field where it has found the field before. -/
theorem Finds.exchange {change : Node → Node → Prop} {a b : Node} {found : List (String × ε)}
    (finds : record.Finds room a found) (distinct : (record.fields.map Prod.fst).Nodup)
    (known : record.fields.lookup name = some decoder)
    (changed : a.FieldChanged (record.fields.map Prod.fst) name change b)
    (soundA : a.Sound) (soundB : b.Sound) :
    ∃ one other, change one other ∧ one.Sound ∧ other.Sound ∧
      ∃ before entry after, found = before ++ (name, entry) :: after ∧
        decoder room one = .ok entry ∧ ∀ read, decoder room other = .ok read →
          record.Finds room b (before ++ (name, read) :: after) := by
  cases changed with
  | @object a b front back key one other membersA membersB named inside =>
    rw [Node.sound_object_iff] at soundA soundB
    have soundOne := soundA.forall_entries (key, one) (by simp [membersA])
    have soundOther := soundB.forall_entries (key, other) (by simp [membersB])
    cases finds with
    | object gathers apart =>
      rw [membersA] at gathers
      obtain ⟨before, entry, after, rfl, here, others⟩ := gathers.exchange named known
      refine ⟨one, other, inside, soundOne, soundOther, before, entry, after, rfl, here,
        fun read own => .object ?_ ?_⟩
      · rw [membersB]
        exact others other read own
      · simpa using apart
  | @array a b front back one other valuesA valuesB placed inside =>
    rw [Node.sound_array_iff] at soundA soundB
    have soundOne := soundA.forall_values one (by simp [valuesA])
    have soundOther := soundB.forall_values other (by simp [valuesB])
    cases finds with
    | array lists =>
      rw [valuesA] at lists
      obtain ⟨before, entry, after, rfl, here, others⟩ := lists.exchange distinct placed known
      refine ⟨one, other, inside, soundOne, soundOther, before, entry, after, rfl, here,
        fun read own => .array ?_⟩
      rw [valuesB]
      exact others other read own

theorem preserves_field {change : Node → Node → Prop}
    (distinct : (record.fields.map Prod.fst).Nodup)
    (known : record.fields.lookup name = some decoder) (preserves : decoder.Preserves change) :
    record.decoder.Preserves
      (Node.FieldChanged (record.fields.map Prod.fst) name change) := by
  intro room a b value changed soundA soundB read
  obtain ⟨wide, found, finds, built⟩ := (decoder_iff soundA).1 read
  obtain ⟨one, other, inside, soundOne, soundOther, before, entry, after, rfl, here, others⟩ :=
    finds.exchange distinct known changed soundA soundB
  have same := others entry (preserves inside soundOne soundOther here)
  exact (decoder_iff soundB).2 ⟨wide, _, same, built⟩

/-- Members under names that are no field's give nothing. -/
theorem gathers_of_unknown {extra : List (Spelling × Node)}
    (unknown : ∀ member ∈ extra, ∃ name, member.1.read = .ok name ∧
      name ∉ record.fields.map Prod.fst)
    (sound : ∀ member ∈ extra, member.2.Sound) : record.Gathers room extra [] := by
  induction extra with
  | nil => exact .nil
  | cons member rest ih =>
    obtain ⟨⟨name, named, absent⟩, unknown⟩ := List.forall_mem_cons.1 unknown
    obtain ⟨here, sound⟩ := List.forall_mem_cons.1 sound
    exact .unknown named (lookup_eq_none_iff_notMem.2 absent) here.skip (ih unknown sound)

theorem Gathers.eq_nil_of_unknown {extra : List (Spelling × Node)} {found : List (String × ε)}
    (gathers : record.Gathers room extra found)
    (unknown : ∀ member ∈ extra, ∃ name, member.1.read = .ok name ∧
      name ∉ record.fields.map Prod.fst) : found = [] := by
  induction gathers with
  | nil => rfl
  | known named known here later ih =>
    obtain ⟨⟨name, again, absent⟩, unknown⟩ := List.forall_mem_cons.1 unknown
    obtain rfl := Except.ok.inj (again.symm.trans named)
    cases known.symm.trans (lookup_eq_none_iff_notMem.2 absent)
  | unknown _ _ _ _ ih => exact ih (List.forall_mem_cons.1 unknown).2

variable {a b : List (Spelling × Node)} {found : List (String × ε)}

theorem Gathers.of_reordered (reordered : Reordered (record.fields.map Prod.fst) a b)
    (sound : ∀ member ∈ b, member.2.Sound) (gathers : record.Gathers room a found) :
    ∃ others, record.Gathers room b others ∧ found.Perm others := by
  obtain ⟨extra, perm, unknown⟩ := reordered
  have soundExtra : ∀ member ∈ extra, member.2.Sound := fun member held =>
    sound member (perm.mem_iff.2 (List.mem_append_left a held))
  exact ((gathers_of_unknown unknown soundExtra).append gathers).perm perm.symm

theorem Gathers.before_reordered (reordered : Reordered (record.fields.map Prod.fst) a b)
    (gathers : record.Gathers room b found) :
    ∃ others, record.Gathers room a others ∧ found.Perm others := by
  obtain ⟨extra, perm, unknown⟩ := reordered
  obtain ⟨_, all, moved⟩ := gathers.perm perm
  obtain ⟨early, late, first, second, rfl⟩ := all.of_append
  rw [first.eq_nil_of_unknown unknown, List.nil_append] at moved
  exact ⟨late, second, moved⟩

variable {change : List (Spelling × Node) → List (Spelling × Node) → Prop}

/-- A decoder of records preserves a change of members after which the same is built. -/
theorem preserves_members
    (follows : ∀ {room a b found}, change a b → (∀ member ∈ b, member.2.Sound) →
      record.Gathers room a found → (found.map Prod.fst).Nodup →
        ∃ others, record.Gathers room b others ∧ (others.map Prod.fst).Nodup ∧
          record.build (found.map Prod.snd) = record.build (others.map Prod.snd)) :
    record.decoder.Preserves (Node.MembersChanged change) := by
  intro room a b value changed soundA soundB read
  obtain ⟨wide, found, finds, built⟩ := (decoder_iff soundA).1 read
  cases changed with
  | object inside =>
    cases finds with
    | object gathers distinct =>
      have inner := (Node.sound_object_iff.1 soundB).forall_entries
      obtain ⟨others, again, apart, same⟩ := follows inside inner gathers distinct
      exact (decoder_iff soundB).2 ⟨wide, others, .object again apart, same.symm.trans built⟩

theorem Orderless.exists_built (orderless : record.Orderless kind)
    (gathers : record.Gathers room a found) (distinct : (found.map Prod.fst).Nodup)
    (moved : ∃ others, record.Gathers room b others ∧ found.Perm others) :
    ∃ others, record.Gathers room b others ∧ (others.map Prod.fst).Nodup ∧
      record.build (found.map Prod.snd) = record.build (others.map Prod.snd) := by
  obtain ⟨others, again, perm⟩ := moved
  exact ⟨others, again, (perm.map Prod.fst).nodup_iff.1 distinct,
    orderless.build_eq gathers distinct perm⟩

theorem Orderless.preserves_edited (orderless : record.Orderless kind) {optional : List String}
    (nullable : ∀ name ∈ optional, record.Nullable name) :
    record.decoder.Preserves
      (Node.MembersChanged (Edited (record.fields.map Prod.fst) optional)) := by
  refine preserves_members fun {room a b found} edited sound gathers distinct => ?_
  cases edited with
  | reordered moved =>
    exact orderless.exists_built gathers distinct (gathers.of_reordered moved sound)
  | @nullAdded key name named optional absent perm =>
    obtain ⟨decoder, empty, known, reads, unseen⟩ := nullable name optional
    have all := Gathers.known named known (reads room) gathers
    have fresh : name ∉ found.map Prod.fst := by
      intro held
      obtain ⟨field, given, rfl⟩ := List.mem_map.1 held
      obtain ⟨member, listed, own⟩ := gathers.exists_member field given
      exact absent member listed own
    rw [← unseen]
    exact orderless.exists_built all (List.nodup_cons.2 ⟨fresh, distinct⟩) (all.perm perm.symm)
  | @nullRemoved key name named optional perm =>
    obtain ⟨decoder, empty, known, reads, unseen⟩ := nullable name optional
    obtain ⟨others, again, apart, same⟩ :=
      orderless.exists_built gathers distinct (gathers.perm perm)
    cases again with
    | known other knownOther read rest =>
      obtain rfl := Except.ok.inj (other.symm.trans named)
      obtain rfl := Option.some.inj (knownOther.symm.trans known)
      obtain rfl := Except.ok.inj (read.symm.trans (reads room))
      exact ⟨_, rest, (List.nodup_cons.1 apart).2, same.trans (unseen _)⟩
    | unknown other absent _ _ =>
      obtain rfl := Except.ok.inj (other.symm.trans named)
      cases known.symm.trans absent

theorem Orderless.preserves_unordered (orderless : record.Orderless kind) :
    record.decoder.Preserves (Node.MembersChanged fun after before =>
      Reordered (record.fields.map Prod.fst) before after) :=
  preserves_members fun moved _ gathers distinct =>
    orderless.exists_built gathers distinct (gathers.before_reordered moved)

end Record

/-- No record that does not mind the order of its entries notices the change. -/
def Harmless (change : MemberChange) : Prop :=
  ∀ ⦃ε α : Type⦄ ⦃record : Record ε α⦄ ⦃kind : ε → String⦄ ⦃optional : List String⦄,
    record.Orderless kind → (∀ name ∈ optional, record.Nullable name) →
      record.decoder.Preserves
        (Node.MembersChanged (change (record.fields.map Prod.fst) optional))

theorem harmless_edited : Harmless Edited :=
  fun _ _ _ _ _ orderless nullable => orderless.preserves_edited nullable

theorem harmless_unordered : Harmless fun names _ after before => Reordered names before after :=
  fun _ _ _ _ _ orderless _ => orderless.preserves_unordered

end MetricQuery.Json
