import Mathlib.Data.List.Nodup
import Mathlib.Data.List.Perm.Subperm
import MetricQuery.Name.Resource
import MetricQuery.Proofs.Entries

namespace MetricQuery

namespace Properties

theorem entryLe_iff {a b : String × String} :
    entryLe a b = true ↔ a.1 < b.1 ∨ a.1 = b.1 ∧ a.2 ≤ b.2 := by
  simp [entryLe]

theorem entryLe_trans (a b c : String × String) (ab : entryLe a b = true)
    (bc : entryLe b c = true) : entryLe a c = true := by
  rw [entryLe_iff] at ab bc ⊢
  rcases ab with lower | ⟨sameKey, lower⟩
  · rcases bc with upper | ⟨sameKey, _⟩
    · exact Or.inl (String.lt_trans lower upper)
    · exact Or.inl (sameKey ▸ lower)
  · rcases bc with upper | ⟨alsoSame, upper⟩
    · exact Or.inl (sameKey ▸ upper)
    · exact Or.inr ⟨sameKey.trans alsoSame, String.le_trans lower upper⟩

theorem entryLe_total (a b : String × String) : (entryLe a b || entryLe b a) = true := by
  rw [Bool.or_eq_true, entryLe_iff, entryLe_iff]
  by_cases below : a.1 < b.1
  · exact Or.inl (Or.inl below)
  by_cases above : b.1 < a.1
  · exact Or.inr (Or.inl above)
  have sameKey : a.1 = b.1 := String.le_antisymm (String.not_lt.1 above) (String.not_lt.1 below)
  rcases String.le_total a.2 b.2 with lower | upper
  · exact Or.inl (Or.inr ⟨sameKey, lower⟩)
  · exact Or.inr (Or.inr ⟨sameKey.symm, upper⟩)

theorem entryLe_antisymm {a b : String × String} (ab : entryLe a b = true)
    (ba : entryLe b a = true) : a = b := by
  rw [entryLe_iff] at ab ba
  rcases ab with below | ⟨sameKey, lower⟩
  · rcases ba with above | ⟨sameKey, _⟩
    · exact absurd (String.lt_trans below above) (String.lt_irrefl _)
    · exact absurd (sameKey ▸ below) (String.lt_irrefl _)
  · rcases ba with above | ⟨_, upper⟩
    · exact absurd (sameKey ▸ above) (String.lt_irrefl _)
    · exact Prod.ext sameKey (String.le_antisymm lower upper)

theorem sorted_perm (properties : Properties) : properties.sorted.Perm properties.entries :=
  List.mergeSort_perm properties.entries entryLe

theorem sorted_pairwise (properties : Properties) :
    properties.sorted.Pairwise fun a b => entryLe a b = true :=
  List.pairwise_mergeSort entryLe_trans entryLe_total properties.entries

/-- Sorting forgets the written order and nothing else. -/
theorem sorted_eq_sorted_iff {a b : Properties} :
    a.sorted = b.sorted ↔ a.entries.Perm b.entries := by
  constructor
  · intro equal
    refine a.sorted_perm.symm.trans ?_
    rw [equal]
    exact b.sorted_perm
  · intro perm
    refine List.Perm.eq_of_pairwise (fun _ _ _ _ => entryLe_antisymm) a.sorted_pairwise
      b.sorted_pairwise ?_
    exact a.sorted_perm.trans (perm.trans b.sorted_perm.symm)

theorem beq_iff_perm {a b : Properties} : (a == b) = true ↔ a.entries.Perm b.entries := by
  have unfolded : (a == b) = (a.size == b.size && a.sorted == b.sorted) := rfl
  rw [unfolded, Bool.and_eq_true, beq_iff_eq, beq_iff_eq, sorted_eq_sorted_iff]
  constructor
  · exact And.right
  · intro perm
    exact ⟨perm.length_eq, perm⟩

theorem contains_eq_false_iff {properties : Properties} {key : String} :
    properties.contains key = false ↔ key ∉ properties.keys := by
  simp only [contains, keys, List.any_eq_false, beq_iff_eq, List.mem_map, not_exists, not_and]

theorem get?_eq_lookup (properties : Properties) (key : String) :
    properties.get? key = properties.entries.lookup key := by
  obtain ⟨entries⟩ := properties
  induction entries with
  | nil => rfl
  | cons entry rest ih =>
    rw [lookup_cons_ite, ← ih, get?]
    by_cases same : key = entry.1
    · simp [same]
    · simp [get?, same, Ne.symm same]

/-- With distinct keys, looking a key up is membership. -/
theorem get?_eq_some_iff {properties : Properties} (distinct : properties.keys.Nodup)
    {key value : String} :
    properties.get? key = some value ↔ (key, value) ∈ properties.entries := by
  rw [get?_eq_lookup, lookup_eq_some_iff_mem distinct]

theorem value_unique {properties : Properties} (distinct : properties.keys.Nodup)
    {key a b : String} (memberA : (key, a) ∈ properties.entries)
    (memberB : (key, b) ∈ properties.entries) : a = b := by
  have foundA := (get?_eq_some_iff distinct).2 memberA
  have foundB := (get?_eq_some_iff distinct).2 memberB
  exact Option.some.inj (foundA.symm.trans foundB)

/-- Properties that are all among others, and as many, are the same up to their order. -/
theorem perm_of_subset {a b : Properties} (distinct : a.keys.Nodup)
    (subset : a.entries ⊆ b.entries) (size : a.size = b.size) : a.entries.Perm b.entries := by
  have nodup : a.entries.Nodup := List.Nodup.of_map Prod.fst distinct
  exact (nodup.subperm subset).perm_of_length_le (Nat.le_of_eq size.symm)

theorem get?_eq_none_iff {properties : Properties} {key : String} :
    properties.get? key = none ↔ key ∉ properties.keys := by
  simp only [get?, Option.map_eq_none_iff, List.find?_eq_none, beq_iff_eq, keys, List.mem_map,
    not_exists, not_and]

/-- With distinct keys, properties are the same up to their order if they look the same to every
lookup. -/
theorem perm_iff_get? {a b : Properties} (distinctA : a.keys.Nodup) (distinctB : b.keys.Nodup) :
    a.entries.Perm b.entries ↔ ∀ key, a.get? key = b.get? key := by
  have nodupA : a.entries.Nodup := List.Nodup.of_map Prod.fst distinctA
  have nodupB : b.entries.Nodup := List.Nodup.of_map Prod.fst distinctB
  rw [List.perm_ext_iff_of_nodup nodupA nodupB]
  constructor
  · intro same key
    ext value
    rw [get?_eq_some_iff distinctA, get?_eq_some_iff distinctB]
    exact same (key, value)
  · rintro same ⟨key, value⟩
    rw [← get?_eq_some_iff distinctA, ← get?_eq_some_iff distinctB, same]

end Properties

theorem NamePattern.beq_iff {a b : NamePattern} :
    (a == b) = true ↔
      a.domain = b.domain ∧ a.openEnded = b.openEnded ∧
        a.properties.entries.Perm b.properties.entries := by
  have unfolded : (a == b) =
      (a.domain == b.domain && a.openEnded == b.openEnded && a.properties == b.properties) := rfl
  rw [unfolded, Bool.and_eq_true, Bool.and_eq_true, beq_iff_eq, beq_iff_eq,
    Properties.beq_iff_perm, and_assoc]

theorem ResourceName.beq_iff {a b : ResourceName} :
    (a == b) = true ↔ a.domain = b.domain ∧ a.properties.entries.Perm b.properties.entries := by
  have unfolded : (a == b) = (a.domain == b.domain && a.properties == b.properties) := rfl
  rw [unfolded, Bool.and_eq_true, beq_iff_eq, Properties.beq_iff_perm]

/-- Names are equal exactly when the patterns they make are. -/
theorem ResourceName.toPattern_beq_iff {a b : ResourceName} :
    (a.toPattern == b.toPattern) = true ↔ (a == b) = true := by
  rw [NamePattern.beq_iff, ResourceName.beq_iff]
  simp [toPattern]

end MetricQuery
