import MetricQuery.Proofs.Name.Meaning

namespace MetricQuery

/-- What a relation between patterns and texts has to meet at each way a pattern can begin. -/
structure Glob.Clauses (R : List Char → List Char → Prop) : Prop where
  nil : ∀ text, R [] text ↔ text = []
  star : ∀ pattern text, R ('*' :: pattern) text ↔ ∃ suffix, suffix <:+ text ∧ R pattern suffix
  mark : ∀ pattern text, R ('?' :: pattern) text ↔ ∃ c rest, text = c :: rest ∧ R pattern rest
  other : ∀ c pattern text, c ≠ '*' → c ≠ '?' →
    (R (c :: pattern) text ↔ ∃ rest, text = c :: rest ∧ R pattern rest)

namespace Glob

variable {R : List Char → List Char → Prop}

theorem star_cons_iff_suffix {pattern text : List Char} :
    Glob ('*' :: pattern) text ↔ ∃ suffix, suffix <:+ text ∧ Glob pattern suffix := by
  rw [star_cons_iff]
  constructor
  · rintro ⟨n, _, glob⟩
    exact ⟨text.drop n, List.drop_suffix n text, glob⟩
  · rintro ⟨suffix, ⟨skipped, rfl⟩, glob⟩
    exact ⟨skipped.length, by simp, by simpa using glob⟩

theorem clauses : Clauses Glob where
  nil _ := nil_iff
  star _ _ := star_cons_iff_suffix
  mark pattern text := by
    rw [cons_iff (by decide)]
    simp
  other c pattern text fixed single := by
    rw [cons_iff fixed]
    constructor
    · rintro ⟨d, rest, rfl, accepted, glob⟩
      obtain rfl := accepted.resolve_left single
      exact ⟨rest, rfl, glob⟩
    · rintro ⟨rest, rfl, glob⟩
      exact ⟨c, rest, rfl, Or.inr rfl, glob⟩

/-- The clauses go down the pattern, so that they leave no choice. -/
theorem Clauses.iff_glob (meets : Clauses R) (pattern text : List Char) :
    R pattern text ↔ Glob pattern text := by
  induction pattern generalizing text with
  | nil => rw [meets.nil, clauses.nil]
  | cons c pattern ih =>
    by_cases star : c = '*'
    · subst star
      simp only [meets.star, clauses.star, ih]
    · by_cases mark : c = '?'
      · subst mark
        simp only [meets.mark, clauses.mark, ih]
      · simp only [meets.other c _ _ star mark, clauses.other c _ _ star mark, ih]

end Glob

/-- The match with its single point of return decides the least relation that meets the clauses,
and a literal pattern is compared as it stands. -/
theorem accepts_decides_glob :
    (Glob.Clauses Glob ∧
      ∀ R, Glob.Clauses R → ∀ pattern text, Glob pattern text → R pattern text) ∧
    ∀ pattern text : String,
      (Literal pattern → (accepts pattern.toList text.toList = true ↔ pattern = text)) ∧
      (¬Literal pattern →
        (accepts pattern.toList text.toList = true ↔ Glob pattern.toList text.toList)) := by
  refine ⟨⟨Glob.clauses, fun R meets pattern text => (meets.iff_glob pattern text).2⟩, ?_⟩
  intro pattern text
  rw [accepts_iff_accepted]
  constructor
  · intro literal
    constructor
    · intro accepted
      cases accepted with
      | literal => rfl
      | glob other => exact absurd literal other
    · rintro rfl
      exact .literal literal
  · intro other
    constructor
    · intro accepted
      cases accepted with
      | literal literal => exact absurd literal other
      | glob _ glob => exact glob
    · exact .glob other

/-- Near matches after which a star has to take up more, a star in the text, and a quoted pattern,
which accepts nothing but itself. -/
theorem accepts_decides_glob_of_near :
    Glob "*a?**bc*".toList "aab*abxbbc".toList ∧ ¬Glob "a*b?c".toList "abcbxbc*".toList ∧
      accepts "\"*\"".toList "\"x\"".toList = false := by
  obtain ⟨_, decides⟩ := accepts_decides_glob
  have wild : ¬Literal "*a?**bc*" ∧ ¬Literal "a*b?c" := by
    simp [← hasWildcard_eq_false_iff]
    decide
  refine ⟨((decides _ _).2 wild.1).1 (by cbv), ?_, ?_⟩
  · rw [← (decides "a*b?c" "abcbxbc*").2 wild.2]
    cbv
    decide
  · rw [← Bool.not_eq_true, (decides "\"*\"" "\"x\"").1 (Or.inl rfl)]
    decide

end MetricQuery
