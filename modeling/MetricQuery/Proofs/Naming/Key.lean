import MetricQuery.Sampling

namespace MetricQuery

/-- Parts that lack the mark are found again where they have been joined by it. -/
theorem splitOn_intercalate {separator : String} {mark : Char} (single : separator.toList = [mark])
    {parts : List String} (free : ∀ part ∈ parts, mark ∉ part.toList) (nonempty : parts ≠ []) :
    (separator.intercalate parts).toList.splitOn mark = parts.map String.toList := by
  rw [String.toList_intercalate, single]
  exact List.splitOn_intercalate mark (by simpa using free) (by simpa using nonempty)

/-- Joined parts can be told apart; only no part and one empty part look the same. -/
theorem intercalate_eq_iff {separator : String} {mark : Char} (single : separator.toList = [mark])
    {a b : List String} (freeA : ∀ part ∈ a, mark ∉ part.toList)
    (freeB : ∀ part ∈ b, mark ∉ part.toList) (empty : a = [] ↔ b = []) :
    separator.intercalate a = separator.intercalate b ↔ a = b := by
  refine ⟨fun equal => ?_, fun equal => equal ▸ rfl⟩
  by_cases emptyA : a = []
  · exact emptyA.trans (empty.1 emptyA).symm
  have cutA := splitOn_intercalate single freeA emptyA
  have cutB := splitOn_intercalate single freeB (mt empty.2 emptyA)
  rw [equal, cutB] at cutA
  exact (List.map_inj_right fun _ _ => String.toList_inj.1).1 cutA.symm

namespace Sample

/-- The key of a sample of a whole attribute. Its fragment leaves no trace if it is empty. -/
theorem key_of_whole {sample : Sample} (whole : sample.valuePath = []) (separator : String) :
    sample.key separator =
      sample.keyPrefix ++ separator ++
        (if sample.keyFragment = "" then "" else sample.keyFragment ++ separator) ++
        sample.attributeName := by
  rw [key, keyParts, whole]
  split
  · simp
  · simp [String.append_assoc]

theorem key_eq_iff {a b : Sample} (wholeA : a.valuePath = []) (wholeB : b.valuePath = [])
    (prefixes : a.keyPrefix = b.keyPrefix) (attributes : a.attributeName = b.attributeName)
    (separator : String) :
    a.key separator = b.key separator ↔ a.keyFragment = b.keyFragment := by
  rw [key_of_whole wholeA, key_of_whole wholeB, prefixes, attributes, String.append_left_inj,
    String.append_right_inj]
  by_cases emptyA : a.keyFragment = "" <;> by_cases emptyB : b.keyFragment = ""
  · simp [emptyA, emptyB]
  · simp [emptyA, emptyB, Ne.symm emptyB]
  · simp [emptyA, emptyB]
  · rw [if_neg emptyA, if_neg emptyB, String.append_left_inj]

end Sample

theorem Reading.mem_samples {query : Query} {reading : Reading} {sample : Sample}
    (made : sample ∈ reading.samples query) :
    sample.valuePath = [] ∧
      sample.keyFragment = query.naming.fragment reading.resource.properties none := by
  obtain ⟨one, _, rfl⟩ := List.mem_map.1 made
  exact ⟨rfl, rfl⟩

namespace Query

theorem separator_eq (query : Query) :
    query.separator = Naming.separatorFor query.dottedKeys := by
  rw [separator, naming, Naming.choose]
  split
  · rfl
  · split <;> rfl

theorem toList_separator (query : Query) : ∃ mark, query.separator.toList = [mark] := by
  rw [separator_eq]
  cases query.dottedKeys with
  | false => exact ⟨'_', rfl⟩
  | true => exact ⟨'.', rfl⟩

/-- Unless all properties are spelled out, the fragment joins the listed values that are there. -/
theorem fragment_of_listed {query : Query} (listed : query.allTypeNames = false)
    (properties : Properties) :
    query.naming.fragment properties none =
      query.separator.intercalate (query.typeNames.filterMap properties.get?) := by
  rw [query.separator_eq, naming, Naming.choose, listed, if_neg Bool.false_ne_true]
  cases typeNames : query.typeNames with
  | nil => simp [Naming.fragment]
  | cons first rest => simp [Naming.fragment]

end Query

end MetricQuery
