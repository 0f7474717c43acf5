import MetricQuery.Proofs.Name.Cutting
import MetricQuery.Proofs.Name.Meaning
import MetricQuery.Proofs.Name.Wild

namespace MetricQuery

def IsWildcard (c : Char) : Prop := c = '*' ∨ c = '?'

/-- A wildcard of the text stands outside its quotes. -/
def Exposes (text : List Char) : Prop :=
  ∃ before c after, text = before ++ c :: after ∧ IsWildcard c ∧ OutsideQuotes before

/-- No wildcard is written in the domain, and in values only inside quotes. -/
structure ResourceName.Guarded (name : ResourceName) : Prop where
  domain : ∀ c ∈ name.domain.toList, ¬IsWildcard c
  values : ∀ entry ∈ name.properties.entries, ¬Exposes entry.2.toList

theorem Literal.not_isWildcard {text : String} (literal : Literal text)
    (unopened : text.toList.head? ≠ some '"') {c : Char} (member : c ∈ text.toList) :
    ¬IsWildcard c := by
  obtain ⟨noStar, noMark⟩ := literal.resolve_left unopened
  rintro (rfl | rfl)
  · exact noStar member
  · exact noMark member

theorem QuotedValue.exists_inner {value : List Char} (quoted : QuotedValue value) :
    ∃ inner, value = '"' :: (inner ++ ['"']) := by
  obtain ⟨first, rest, rfl⟩ := List.exists_cons_of_ne_nil (List.ne_nil_of_length_pos
    (Nat.lt_of_lt_of_le Nat.zero_lt_two quoted.two_le_length))
  obtain rfl : first = '"' := by simpa using quoted.opens
  have longer : rest ≠ [] := by
    rintro rfl
    simpa using quoted.two_le_length
  have ends : rest.getLast longer = '"' := by
    simpa [List.getLast?_eq_some_getLast, longer] using quoted.ends
  exact ⟨rest.dropLast, by rw [← ends, List.dropLast_append_getLast]⟩

/-- A wildcard in a literal value stands between the quotes that open and end the value. -/
theorem exists_quotes_around {value : String} {c : Char}
    (lawful : PlainValue value.toList ∨ QuotedValue value.toList) (literal : Literal value)
    (member : c ∈ value.toList) (wildcard : IsWildcard c) :
    ∃ inner, value.toList = '"' :: (inner ++ ['"']) ∧ c ∈ inner := by
  rcases lawful with plain | quoted
  · have unopened : value.toList.head? ≠ some '"' := fun opens =>
      plain.not_mem (c := '"') (by simp) (List.mem_of_head? opens)
    exact absurd wildcard (literal.not_isWildcard unopened member)
  · obtain ⟨inner, split⟩ := quoted.exists_inner
    have noQuote : c ≠ '"' := by
      rintro rfl
      rcases wildcard with same | same <;> simp at same
    refine ⟨inner, split, ?_⟩
    simpa [split, noQuote] using member

/-- The spellings of concrete names: no star between the commas, and every text taken as it stands. -/
structure NameSpelling.Concrete (spelling : NameSpelling) : Prop where
  closed : .star ∉ spelling.entries
  domain : Literal (String.ofList spelling.domain)
  values : ∀ entry ∈ NameEntry.pairs spelling.entries, Literal entry.2

theorem NameSpelling.isWild_eq_false_iff_concrete (spelling : NameSpelling) :
    spelling.pattern.isWild = false ↔ spelling.Concrete := by
  have closed : spelling.pattern.openEnded = false ↔ .star ∉ spelling.entries := by
    simp [pattern]
  rw [NamePattern.isWild_eq_false_iff, closed]
  simp only [hasWildcard_eq_false_iff]
  constructor
  · rintro ⟨star, domain, values⟩
    exact ⟨star, domain, fun entry held => values entry.1 entry.2 held⟩
  · intro concrete
    exact ⟨concrete.closed, concrete.domain, fun key value held => concrete.values (key, value) held⟩

theorem ResourceName.exists_concrete_of_parse {text : String} {name : ResourceName}
    (parsed : ResourceName.parse text = .ok name) :
    ∃ spelling : NameSpelling, spelling.text = text.toList ∧ spelling.pattern = name.toPattern ∧
      spelling.Concrete := by
  obtain ⟨read, concrete⟩ := parse_eq_ok_iff.1 parsed
  obtain ⟨spelling, equal, same⟩ := NamePattern.parse_eq_ok_iff.1 read
  exact ⟨spelling, equal, same, spelling.isWild_eq_false_iff_concrete.1 (same ▸ concrete)⟩

/-- A text is a concrete name exactly when it has a spelling in which every text is literal. Wildcards
are written only in a domain that opens with a quote, and in values that open and end with one and in
which every quote is closed. -/
theorem concrete_names_are_literal (text : String) :
    ((∃ name, ResourceName.parse text = .ok name) ↔
      ∃ spelling : NameSpelling, spelling.text = text.toList ∧ spelling.Concrete) ∧
    ∀ name, ResourceName.parse text = .ok name →
      (∀ c ∈ name.domain.toList, IsWildcard c → name.domain.toList.head? = some '"') ∧
      ∀ entry ∈ name.properties.entries, OutsideQuotes entry.2.toList ∧
        ∀ c ∈ entry.2.toList, IsWildcard c →
          ∃ inner, entry.2.toList = '"' :: (inner ++ ['"']) ∧ c ∈ inner := by
  constructor
  · constructor
    · rintro ⟨name, parsed⟩
      obtain ⟨spelling, equal, _, concrete⟩ := ResourceName.exists_concrete_of_parse parsed
      exact ⟨spelling, equal, concrete⟩
    · rintro ⟨spelling, equal, concrete⟩
      have parsed := NamePattern.parse_eq_ok_iff.2 ⟨spelling, equal, rfl⟩
      exact (NamePattern.isWild_eq_false_iff_name parsed).1
        (spelling.isWild_eq_false_iff_concrete.2 concrete)
  · intro name parsed
    obtain ⟨spelling, _, same, concrete⟩ := ResourceName.exists_concrete_of_parse parsed
    have domain : String.ofList spelling.domain = name.domain := congrArg NamePattern.domain same
    have entries : NameEntry.pairs spelling.entries = name.properties.entries :=
      congrArg (fun pattern => pattern.properties.entries) same
    rw [← domain, ← entries]
    refine ⟨?_, ?_⟩
    · intro c member wildcard
      by_contra unopened
      exact concrete.domain.not_isWildcard unopened member wildcard
    · rintro ⟨key, value⟩ held
      have lawful := (spelling.lawful _ (NameEntry.mem_pairs_iff.1 held)).2
      have contained := lawful.elim PlainValue.selfContained QuotedValue.contained
      refine ⟨(selfContained_iff_outsideQuotes.1 contained).1, fun c member wildcard => ?_⟩
      exact exists_quotes_around lawful (concrete.values _ held) member wildcard

/-- A value between quotes in which a wildcard stands outside of them all the same. -/
theorem concrete_names_are_literal_of_exposed :
    ResourceName.parse "d:a=\"x\"*\"y\"" = .ok ⟨"d", ⟨[("a", "\"x\"*\"y\"")]⟩⟩ ∧
      OutsideQuotes "\"x\"*\"y\"".toList ∧
      ∃ inner, "\"x\"*\"y\"".toList = '"' :: (inner ++ ['"']) ∧ '*' ∈ inner := by
  have read : ResourceName.parse "d:a=\"x\"*\"y\"" = .ok ⟨"d", ⟨[("a", "\"x\"*\"y\"")]⟩⟩ := rfl
  obtain ⟨outside, between⟩ :=
    ((concrete_names_are_literal _).2 _ read).2 _ List.mem_cons_self
  exact ⟨read, outside, between '*' (by decide) (Or.inl rfl)⟩

/-- Not every concrete name is guarded: a quote in front lets a wildcard into the domain, and a quoted
part in front lets one into a value. -/
theorem unguarded_concrete_names :
    (∃ name, ResourceName.parse "\"*:a=b" = .ok name ∧
      ∃ c ∈ name.domain.toList, IsWildcard c) ∧
    (∃ name, ResourceName.parse "d:a=\"x\"*\"y\"" = .ok name ∧
      ∃ entry ∈ name.properties.entries, Exposes entry.2.toList) ∧
    ¬∀ text name, ResourceName.parse text = .ok name → name.Guarded := by
  have openDomain : ResourceName.parse "\"*:a=b" = .ok ⟨"\"*", ⟨[("a", "b")]⟩⟩ := rfl
  have openValue : ResourceName.parse "d:a=\"x\"*\"y\"" =
      .ok ⟨"d", ⟨[("a", "\"x\"*\"y\"")]⟩⟩ := rfl
  have star : '*' ∈ "\"*".toList := by decide
  have exposed : Exposes "\"x\"*\"y\"".toList :=
    ⟨"\"x\"".toList, '*', "\"y\"".toList, rfl, Or.inl rfl, rfl⟩
  refine ⟨⟨_, openDomain, '*', star, Or.inl rfl⟩,
    ⟨_, openValue, _, List.mem_cons_self, exposed⟩, fun guarded => ?_⟩
  exact (guarded _ _ openDomain).domain '*' star (Or.inl rfl)

end MetricQuery
