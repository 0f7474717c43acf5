import Mathlib.Data.List.Infix
import MetricQuery.Placeholder
import MetricQuery.Proofs.Naming.Key
import MetricQuery.Query.Draft

namespace MetricQuery

/-- Keys and values in turn, and one part that is left over at the end. -/
def pairUp : List String → Option (List (String × String) × String)
  | [] => none
  | [last] => some ([], last)
  | key :: value :: rest => (pairUp rest).map fun (entries, last) => ((key, value) :: entries, last)

theorem pairUp_flatMap (entries : List (String × String)) (last : String) :
    pairUp (entries.flatMap (fun (key, value) => [key, value]) ++ [last]) =
      some (entries, last) := by
  induction entries with
  | nil => rfl
  | cons entry rest ih =>
    obtain ⟨key, value⟩ := entry
    simp only [List.flatMap_cons, List.cons_append, List.nil_append, pairUp, ih, Option.map_some]

theorem stripStart_append (start rest : List Char) : stripStart start (start ++ rest) = some rest := by
  induction start with
  | nil => rfl
  | cons c start ih => rw [List.cons_append, stripStart, if_pos rfl, ih]

/-- What a key that spells out all properties tells after its prefix: the properties as they are
written, and the attribute. -/
def decodeKey (mark : Char) (keyPrefix key : String) : Option (List (String × String) × String) :=
  (stripStart (keyPrefix.toList ++ [mark]) key.toList).bind fun rest =>
    pairUp ((rest.splitOn mark).map String.ofList)

/-- All properties one after the other, each as its key and its value. -/
def Properties.spelledOut (properties : Properties) : List String :=
  properties.entries.flatMap fun (key, value) => [key, value]

namespace Query

variable {query : Query} {mark : Char}

/-- The text does not contain the separator. -/
def SeparatorFree (query : Query) (text : String) : Prop :=
  ¬query.separator.toList <:+: text.toList

instance (query : Query) (text : String) : Decidable (query.SeparatorFree text) :=
  inferInstanceAs (Decidable (¬_))

theorem separatorFree_iff (single : query.separator.toList = [mark]) {text : String} :
    query.SeparatorFree text ↔ mark ∉ text.toList := by
  rw [SeparatorFree, single, List.singleton_infix_iff]

/-- Neither a key nor a value of the name contains the separator. -/
def SeparatesAll (query : Query) (name : ResourceName) : Prop :=
  ∀ entry ∈ name.properties.entries, query.SeparatorFree entry.1 ∧ query.SeparatorFree entry.2

instance (query : Query) (name : ResourceName) : Decidable (query.SeparatesAll name) :=
  inferInstanceAs (Decidable (∀ _ ∈ _, _ ∧ _))

theorem SeparatesAll.not_mem {name : ResourceName} (separates : query.SeparatesAll name)
    (single : query.separator.toList = [mark]) :
    ∀ part ∈ name.properties.spelledOut, mark ∉ part.toList := by
  intro part member
  obtain ⟨entry, written, here⟩ := List.mem_flatMap.1 member
  obtain ⟨freeKey, freeValue⟩ := separates entry written
  have either : part = entry.1 ∨ part = entry.2 := by simpa using here
  rcases either with rfl | rfl
  · exact (separatorFree_iff single).1 freeKey
  · exact (separatorFree_iff single).1 freeValue

theorem fragment_of_all (all : query.allTypeNames = true) (properties : Properties) :
    query.naming.fragment properties none =
      query.separator.intercalate properties.spelledOut := by
  rw [query.separator_eq, naming, Naming.choose, if_pos all]
  rfl

/-- Such a fragment and the attribute after it are one join, also when there are no properties and
the fragment is left out. -/
theorem fragment_append (single : query.separator.toList = [mark]) (properties : Properties)
    (last : String) :
    (if query.separator.intercalate properties.spelledOut = "" then ""
      else query.separator.intercalate properties.spelledOut ++ query.separator) ++ last =
      query.separator.intercalate (properties.spelledOut ++ [last]) := by
  obtain ⟨entries⟩ := properties
  cases entries with
  | nil => simp [Properties.spelledOut]
  | cons entry rest =>
    have parts : Properties.spelledOut ⟨entry :: rest⟩ =
        entry.1 :: entry.2 :: Properties.spelledOut ⟨rest⟩ := rfl
    have nonempty : query.separator.intercalate (Properties.spelledOut ⟨entry :: rest⟩) ≠ "" := by
      rw [parts, String.intercalate_cons_cons, ne_eq, ← String.toList_inj]
      simp [single]
    rw [if_neg nonempty, String.intercalate_append_of_ne_nil (by simp [parts]) (by simp),
      String.intercalate_singleton]

/-- The key of a sample can be read back. -/
theorem decodeKey_key (all : query.allTypeNames = true) (single : query.separator.toList = [mark])
    {reading : Reading} (separates : query.SeparatesAll reading.resource) {sample : Sample}
    (made : sample ∈ reading.samples query) (free : query.SeparatorFree sample.attributeName) :
    decodeKey mark sample.keyPrefix (sample.key query.separator) =
      some (reading.resource.properties.entries, sample.attributeName) := by
  obtain ⟨whole, fragment⟩ := Reading.mem_samples made
  have parts : ∀ part ∈ reading.resource.properties.spelledOut ++ [sample.attributeName],
      mark ∉ part.toList := by
    intro part member
    rcases List.mem_append.1 member with written | last
    · exact separates.not_mem single part written
    · obtain rfl := List.mem_singleton.1 last
      exact (separatorFree_iff single).1 free
  have joined : (sample.key query.separator).toList =
      (sample.keyPrefix.toList ++ [mark]) ++
        (query.separator.intercalate
          (reading.resource.properties.spelledOut ++ [sample.attributeName])).toList := by
    rw [Sample.key_of_whole whole, fragment, fragment_of_all all, String.append_assoc,
      fragment_append single, String.toList_append, String.toList_append, single]
  rw [decodeKey, joined, stripStart_append, Option.bind_some,
    splitOn_intercalate single parts (by simp), List.map_map]
  have same : String.ofList ∘ String.toList = id := funext fun text => String.ofList_toList
  rw [same, List.map_id]
  exact pairUp_flatMap _ _

end Query

/-- If all properties are spelled out, samples with the same prefix have the same key exactly when
they are of the same attribute and their resources have the same properties, in the same written
order and however many. -/
theorem key_spells_out_properties {query : Query} (all : query.allTypeNames = true)
    {first second : Reading} (separatesFirst : query.SeparatesAll first.resource)
    (separatesSecond : query.SeparatesAll second.resource)
    {one other : Sample} (made : one ∈ first.samples query) (madeOther : other ∈ second.samples query)
    (free : query.SeparatorFree one.attributeName)
    (freeOther : query.SeparatorFree other.attributeName)
    (prefixes : one.keyPrefix = other.keyPrefix) :
    (one.key query.separator = other.key query.separator ↔
      one.attributeName = other.attributeName ∧
        first.resource.properties.entries = second.resource.properties.entries) ∧
    (first.resource.domain = second.resource.domain →
      (one.key query.separator = other.key query.separator ↔
        one.attributeName = other.attributeName ∧ first.resource = second.resource)) := by
  obtain ⟨mark, single⟩ := query.toList_separator
  have decoded := Query.decodeKey_key all single separatesFirst made free
  have decodedOther := Query.decodeKey_key all single separatesSecond madeOther freeOther
  have spelled : one.key query.separator = other.key query.separator ↔
      one.attributeName = other.attributeName ∧
        first.resource.properties.entries = second.resource.properties.entries := by
    constructor
    · intro keys
      rw [prefixes, keys, decodedOther] at decoded
      obtain ⟨entries, attributes⟩ := Prod.mk.inj (Option.some.inj decoded)
      exact ⟨attributes.symm, entries.symm⟩
    · rintro ⟨attributes, entries⟩
      obtain ⟨whole, fragment⟩ := Reading.mem_samples made
      obtain ⟨wholeOther, fragmentOther⟩ := Reading.mem_samples madeOther
      rw [Sample.key_eq_iff whole wholeOther prefixes attributes, fragment, fragmentOther,
        Query.fragment_of_all all, Query.fragment_of_all all, Properties.spelledOut,
        Properties.spelledOut, entries]
  refine ⟨spelled, fun domains => spelled.trans (and_congr_right fun _ => ?_)⟩
  obtain ⟨⟨domain, ⟨entries⟩⟩, _⟩ := first
  obtain ⟨⟨otherDomain, ⟨otherEntries⟩⟩, _⟩ := second
  obtain rfl : domain = otherDomain := domains
  simp

/-- An empty attribute of a resource with one property more, and an attribute named like its key. -/
theorem key_spells_out_properties_of_longer :
    ∃ (query : Query) (one other : Sample),
      (Draft.build ⟨[]⟩ { pattern := "d:*", allTypeNames := true }).result = .ok query ∧
        query = ⟨⟨"d", ⟨[]⟩, true⟩, [], [], [], none, false, false, true, [], []⟩ ∧
        Reading.samples query
          ⟨⟨"d", ⟨[("a", "1"), ("b", "2")]⟩⟩, "C", "d", [⟨"", .null⟩], 0⟩ = [one] ∧
        Reading.samples query ⟨⟨"d", ⟨[("a", "1")]⟩⟩, "C", "d", [⟨"b", .null⟩], 0⟩ = [other] ∧
        one = ⟨"", "C", "d", "a=1,b=2", "C", "a_1_b_2", [], .null, 0⟩ ∧
        other = ⟨"b", "C", "d", "a=1", "C", "a_1", [], .null, 0⟩ ∧
        one.key query.separator = "C_a_1_b_2_" ∧ other.key query.separator = "C_a_1_b" ∧
        one.key query.separator ≠ other.key query.separator := by
  have spelled := @key_spells_out_properties
    ⟨⟨"d", ⟨[]⟩, true⟩, [], [], [], none, false, false, true, [], []⟩ rfl
    ⟨⟨"d", ⟨[("a", "1"), ("b", "2")]⟩⟩, "C", "d", [⟨"", .null⟩], 0⟩
    ⟨⟨"d", ⟨[("a", "1")]⟩⟩, "C", "d", [⟨"b", .null⟩], 0⟩
    (by decide) (by decide) _ _ List.mem_cons_self List.mem_cons_self (by decide) (by decide) rfl
  refine ⟨_, _, _, ?_, rfl, rfl, rfl, ?_, ?_, ?_, ?_,
    fun same => absurd (spelled.1.1 same).1 (by decide)⟩
  · cbv
  · cbv
  · cbv
  · cbv
  · cbv

end MetricQuery
