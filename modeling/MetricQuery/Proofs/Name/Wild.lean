import MetricQuery.Proofs.Name.Filling

namespace MetricQuery

theorem ResourceName.toPattern_covers_iff {s t : String} {name other : ResourceName}
    (parsed : ResourceName.parse s = .ok name) (parsedOther : ResourceName.parse t = .ok other) :
    name.toPattern.covers other = true ↔ (other == name) = true :=
  NamePattern.covers_iff_beq_of_concrete (parse_eq_ok_iff.1 parsed).2 (keys_nodup_of_parse parsed)
    (keys_nodup_of_parse parsedOther)

/-- Of two names that a concrete pattern covers, each is the name of the pattern. -/
theorem NamePattern.beq_of_covers_of_concrete {text s t : String} {pattern : NamePattern}
    {a b : ResourceName} (parsed : NamePattern.parse text = .ok pattern)
    (concrete : pattern.isWild = false) (parsedA : ResourceName.parse s = .ok a)
    (parsedB : ResourceName.parse t = .ok b) (coversA : pattern.covers a = true)
    (coversB : pattern.covers b = true) : (a == b) = true := by
  have distinct := keys_nodup_of_parse parsed
  have sameA := (covers_iff_beq_of_concrete concrete distinct
    (ResourceName.keys_nodup_of_parse parsedA)).1 coversA
  have sameB := (covers_iff_beq_of_concrete concrete distinct
    (ResourceName.keys_nodup_of_parse parsedB)).1 coversB
  obtain ⟨domainA, permA⟩ := ResourceName.beq_iff.1 sameA
  obtain ⟨domainB, permB⟩ := ResourceName.beq_iff.1 sameB
  exact ResourceName.beq_iff.2 ⟨domainA.trans domainB.symm, permA.trans permB.symm⟩

/-- A pattern reads as a name exactly when nothing in it is wild. -/
theorem NamePattern.isWild_eq_false_iff_name {text : String} {pattern : NamePattern}
    (parsed : NamePattern.parse text = .ok pattern) :
    pattern.isWild = false ↔ ∃ name, ResourceName.parse text = .ok name := by
  constructor
  · intro concrete
    have same : ResourceName.toPattern ⟨pattern.domain, pattern.properties⟩ = pattern := by
      rw [ResourceName.toPattern, ← pattern.openEnded_of_isWild concrete]
    refine ⟨⟨pattern.domain, pattern.properties⟩, ResourceName.parse_eq_ok_iff.2 ?_⟩
    rw [same]
    exact ⟨parsed, concrete⟩
  · intro named
    obtain ⟨name, read⟩ := named
    obtain ⟨again, concrete⟩ := ResourceName.parse_eq_ok_iff.1 read
    rw [Except.ok.inj (parsed.symm.trans again), concrete]

/-- A pattern is wild exactly when it covers two different names. One that is not wild reads as a
name as well and covers just the names equal to it, and every pattern covers some name. -/
theorem isWild_iff_covers_two {text : String} {pattern : NamePattern}
    (parsed : NamePattern.parse text = .ok pattern) :
    (pattern.isWild = false ↔ ∃ name, ResourceName.parse text = .ok name) ∧
    (∀ name, ResourceName.parse text = .ok name →
      ∀ s other, ResourceName.parse s = .ok other →
        (pattern.covers other = true ↔ (other == name) = true) ∧
        (name.toPattern.covers other = true ↔ (other == name) = true)) ∧
    (pattern.isWild = true ↔
      ∃ s t a b, ResourceName.parse s = .ok a ∧ ResourceName.parse t = .ok b ∧
        (a == b) = false ∧ pattern.covers a = true ∧ pattern.covers b = true) ∧
    ∃ s name, ResourceName.parse s = .ok name ∧ pattern.covers name = true := by
  have letterA : KeyText ['a'] := ⟨by simp, by simp⟩
  have letterB : KeyText ['b'] := ⟨by simp, by simp⟩
  obtain ⟨spelling, equal, rfl⟩ := NamePattern.parse_eq_ok_iff.1 parsed
  refine ⟨NamePattern.isWild_eq_false_iff_name parsed, ?_, ⟨?_, ?_⟩, ?_⟩
  · intro name read s other readOther
    have covers := ResourceName.toPattern_covers_iff read readOther
    rw [Except.ok.inj (parsed.symm.trans (ResourceName.parse_eq_ok_iff.1 read).1)]
    exact ⟨covers, covers⟩
  · intro wild
    exact ⟨_, _, _, _, spelling.parse_filledName letterA, spelling.parse_filledName letterB,
      spelling.filledName_ne letterA letterB (by decide) wild, spelling.covers_filledName letterA,
      spelling.covers_filledName letterB⟩
  · intro two
    obtain ⟨s, t, a, b, parsedA, parsedB, different, coversA, coversB⟩ := two
    rw [← Bool.not_eq_false]
    intro concrete
    have same := NamePattern.beq_of_covers_of_concrete parsed concrete parsedA parsedB coversA coversB
    simp [different] at same
  · exact ⟨_, _, spelling.parse_filledName letterA, spelling.covers_filledName letterA⟩

/-- Wildcards in the domain, in one value of two and in a quoted value, where they count for nothing. -/
theorem isWild_iff_covers_two_of_mixed :
    NamePattern.parse "d?:k=*x,*,q=\"*\"" =
        .ok ⟨"d?", ⟨[("k", "*x"), ("q", "\"*\"")]⟩, true⟩ ∧
      ∃ s t a b, ResourceName.parse s = .ok a ∧ ResourceName.parse t = .ok b ∧
        (a == b) = false ∧
        NamePattern.covers ⟨"d?", ⟨[("k", "*x"), ("q", "\"*\"")]⟩, true⟩ a = true ∧
        NamePattern.covers ⟨"d?", ⟨[("k", "*x"), ("q", "\"*\"")]⟩, true⟩ b = true := by
  have parsed : NamePattern.parse "d?:k=*x,*,q=\"*\"" =
      .ok ⟨"d?", ⟨[("k", "*x"), ("q", "\"*\"")]⟩, true⟩ := rfl
  exact ⟨parsed, (isWild_iff_covers_two parsed).2.2.1.1 rfl⟩

end MetricQuery
