import MetricQuery.Naming
import MetricQuery.Proofs.Name.Distinct
import MetricQuery.Proofs.Name.Identity

namespace MetricQuery

namespace Properties

/-- The properties there can be after some entries have been put in one after the other, the first of
them perhaps all at once. -/
inductive Reached : List (String × String) → Properties → Prop
  | new : Reached [] empty
  | collect (entries : List (String × String)) : Reached entries (ofList entries)
  | insert {history : List (String × String)} {properties : Properties} (key value : String) :
      Reached history properties →
        Reached (history ++ [(key, value)]) (properties.insertNew key value).2

section Insert

variable {properties : Properties} {key value : String}

theorem contains_iff : properties.contains key = true ↔ key ∈ properties.keys := by
  rw [← not_iff_not, Bool.not_eq_true, contains_eq_false_iff]

theorem insertNew_of_mem (known : key ∈ properties.keys) :
    properties.insertNew key value = (false, properties) := by
  rw [insertNew, if_pos (contains_iff.2 known)]

theorem insertNew_of_not_mem (unknown : key ∉ properties.keys) :
    properties.insertNew key value = (true, ⟨properties.entries ++ [(key, value)]⟩) := by
  rw [insertNew, if_neg (mt contains_iff.1 unknown)]

theorem insertNew_snd (properties : Properties) (key value : String) :
    (properties.insertNew key value).2 = properties.insert key value := by
  rw [insertNew, insert]
  split <;> rfl

theorem insertNew_fst_iff :
    (properties.insertNew key value).1 = false ↔ key ∈ properties.keys := by
  by_cases known : key ∈ properties.keys
  · simp [insertNew_of_mem known, known]
  · simp [insertNew_of_not_mem known, known]

theorem insertNew_snd_iff :
    (properties.insertNew key value).2 = properties ↔ key ∈ properties.keys := by
  by_cases known : key ∈ properties.keys
  · simp [insertNew_of_mem known, known]
  · rw [insertNew_of_not_mem known, iff_false_right known]
    intro same
    simpa [size] using congrArg size same

theorem keys_insert (properties : Properties) (key value : String) :
    (properties.insert key value).keys = addNew properties.keys key := by
  rw [← insertNew_snd, addNew]
  by_cases known : key ∈ properties.keys
  · rw [insertNew_of_mem known, if_pos (List.contains_iff_mem.2 known)]
  · rw [insertNew_of_not_mem known, if_neg (mt List.contains_iff_mem.1 known)]
    simp [keys]

theorem get?_insert (properties : Properties) (key value other : String) :
    (properties.insert key value).get? other =
      (properties.get? other).or ([(key, value)].lookup other) := by
  rw [← insertNew_snd, get?_eq_lookup, get?_eq_lookup]
  by_cases known : key ∈ properties.keys
  · rw [insertNew_of_mem known, lookup_cons_ite]
    split
    next same =>
      obtain ⟨found, here⟩ := Option.ne_none_iff_exists'.1 (mt get?_eq_none_iff.1 (not_not.2 known))
      rw [same, ← get?_eq_lookup, here, Option.some_or]
    next => rw [List.lookup_nil, Option.or_none]
  · rw [insertNew_of_not_mem known, List.lookup_append]

end Insert

theorem ofList_append_singleton (entries : List (String × String)) (entry : String × String) :
    ofList (entries ++ [entry]) = (ofList entries).insert entry.1 entry.2 := by
  rw [ofList, List.foldl_append]
  rfl

/-- The keys stand in the order in which they first came. -/
theorem keys_ofList (entries : List (String × String)) :
    (ofList entries).keys = (entries.map Prod.fst).eraseDups := by
  induction entries using List.reverseRecOn with
  | nil => rfl
  | append_singleton entries entry ih =>
    rw [ofList_append_singleton, keys_insert, ih, List.map_append, List.map_singleton,
      eraseDups_append_singleton]

/-- Of several values under one key the first stays. -/
theorem get?_ofList (entries : List (String × String)) (key : String) :
    (ofList entries).get? key = entries.lookup key := by
  induction entries using List.reverseRecOn with
  | nil => rfl
  | append_singleton entries entry ih =>
    rw [ofList_append_singleton, get?_insert, ih, List.lookup_append]

theorem nodup_keys_ofList (entries : List (String × String)) : (ofList entries).keys.Nodup := by
  obtain ⟨_, keeps⟩ := KeepsFirsts.eraseDups (entries.map Prod.fst)
  exact keys_ofList entries ▸ keeps.nodup

/-- A map of what was put in first under each key, in the order in which the keys first came. -/
structure FirstWins (history : List (String × String)) (properties : Properties) : Prop where
  distinct : properties.keys.Nodup
  order : properties.keys = (history.map Prod.fst).eraseDups
  first : ∀ key, properties.get? key = history.lookup key
  refused : ∀ key value, (properties.insertNew key value).1 = false ↔ key ∈ properties.keys
  unchanged : ∀ key value, (properties.insertNew key value).2 = properties ↔ key ∈ properties.keys

namespace Reached

variable {history : List (String × String)} {properties : Properties}

theorem eq_ofList (reached : properties.Reached history) : properties = ofList history := by
  induction reached with
  | new => rfl
  | collect entries => rfl
  | insert key value _ ih => rw [insertNew_snd, ih, ofList_append_singleton]

theorem firstWins (reached : properties.Reached history) : FirstWins history properties := by
  obtain rfl := reached.eq_ofList
  exact ⟨nodup_keys_ofList history, keys_ofList history, get?_ofList history,
    fun _ _ => insertNew_fst_iff, fun _ _ => insertNew_snd_iff⟩

end Reached

/-- What does not tell apart properties that differ only in their order. -/
structure Alike (a b : Properties) : Prop where
  size : a.size = b.size
  canonical : a.canonical = b.canonical
  plain : ∀ separator given,
    (Naming.plain separator).fragment a given = (Naming.plain separator).fragment b given
  leading : ∀ separator typeNames given, (Naming.leading separator typeNames).fragment a given =
    (Naming.leading separator typeNames).fragment b given

theorem alike_of_perm {a b : Properties} (distinct : a.keys.Nodup)
    (perm : a.entries.Perm b.entries) : Alike a b := by
  have distinctB : b.keys.Nodup := (perm.map Prod.fst).nodup_iff.1 distinct
  have same : a.get? = b.get? := funext ((perm_iff_get? distinct distinctB).1 perm)
  refine ⟨perm.length_eq, ?_, fun _ _ => rfl, fun _ _ _ => ?_⟩
  · rw [canonical, canonical, sorted_eq_sorted_iff.2 perm]
  · rw [Naming.fragment, Naming.fragment, same]

end Properties

/-- However properties have been put in, the first value under a key stays, and the keys stay in the
order in which they came. Equality looks at the values under all keys and at nothing else. -/
theorem properties_form_map {history : List (String × String)} {properties : Properties}
    (reached : properties.Reached history) :
    properties.FirstWins history ∧
      ∀ {others : List (String × String)} {other : Properties}, other.Reached others →
        ((properties == other) = true ↔ ∀ key, properties.get? key = other.get? key) ∧
        ((properties == other) = true ↔ properties.entries.Perm other.entries) ∧
        ((properties == other) = true → properties.Alike other) := by
  have firstWins := reached.firstWins
  refine ⟨firstWins, fun reachedOther => ?_⟩
  have lookups := Properties.perm_iff_get? firstWins.distinct reachedOther.firstWins.distinct
  refine ⟨Properties.beq_iff_perm.trans lookups, Properties.beq_iff_perm, fun equal => ?_⟩
  exact Properties.alike_of_perm firstWins.distinct (Properties.beq_iff_perm.1 equal)

/-- Keys that are no names, one of them twice, against the same entries in another order. -/
theorem properties_form_map_of_repeated :
    ∃ properties, properties.Reached [("=", "1"), ("", "2"), ("=", "3")] ∧
      properties.entries = [("=", "1"), ("", "2")] ∧
      properties.get? "=" = some "1" ∧
      (properties == Properties.ofList [("", "2"), ("=", "1")]) = true := by
  have reached : Properties.Reached [("=", "1"), ("", "2"), ("=", "3")]
      (Properties.insertNew (Properties.ofList [("=", "1"), ("", "2")]) "=" "3").2 :=
    (Properties.Reached.collect [("=", "1"), ("", "2")]).insert "=" "3"
  obtain ⟨firstWins, same⟩ := properties_form_map reached
  refine ⟨_, reached, by decide, firstWins.first "=", ?_⟩
  exact (same (.collect [("", "2"), ("=", "1")])).2.1.2 (by decide)

end MetricQuery
