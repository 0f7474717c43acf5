namespace MetricQuery

/-- Splits a text at the first occurrence of a mark, which belongs to neither part. -/
def splitFirst (mark : Char) : List Char → Option (List Char × List Char)
  | [] => none
  | c :: rest =>
    if c = mark then some ([], rest)
    else (splitFirst mark rest).map fun (before, after) => (c :: before, after)

theorem splitFirst_eq_some {mark : Char} {text before after : List Char}
    (split : splitFirst mark text = some (before, after)) :
    text = before ++ mark :: after ∧ mark ∉ before := by
  induction text generalizing before with
  | nil => simp [splitFirst] at split
  | cons c rest ih =>
    unfold splitFirst at split
    split at split
    · simp_all
    · rename_i other
      obtain ⟨⟨head, tail⟩, tailSplit, equal⟩ := Option.map_eq_some_iff.1 split
      simp only [Prod.mk.injEq] at equal
      obtain ⟨rfl, rfl⟩ := equal
      obtain ⟨rfl, absent⟩ := ih tailSplit
      simp_all [eq_comm]

theorem splitFirst_append {mark : Char} {before : List Char} (absent : mark ∉ before)
    (after : List Char) : splitFirst mark (before ++ mark :: after) = some (before, after) := by
  induction before with
  | nil => simp [splitFirst]
  | cons c rest ih =>
    simp only [List.mem_cons, not_or] at absent
    simp [splitFirst, ih absent.2, Ne.symm absent.1]

theorem splitFirst_eq_none_iff {mark : Char} {text : List Char} :
    splitFirst mark text = none ↔ mark ∉ text := by
  induction text with
  | nil => simp [splitFirst]
  | cons c rest ih =>
    by_cases here : c = mark
    · simp [splitFirst, here]
    · simp [splitFirst, here, ih, Ne.symm here]

/-- The parts of a text between all occurrences of a mark. There is always at least one part. -/
def splitAll (mark : Char) : List Char → List (List Char)
  | [] => [[]]
  | c :: rest =>
    if c = mark then [] :: splitAll mark rest
    else
      match splitAll mark rest with
      | [] => [[c]]
      | first :: others => (c :: first) :: others

end MetricQuery
