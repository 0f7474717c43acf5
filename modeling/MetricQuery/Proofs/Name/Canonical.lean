import MetricQuery.Proofs.Name.Properties
import MetricQuery.Proofs.Name.Rewriting

namespace MetricQuery

/-- A text form that differs exactly where values do, and that is read as an equal value with the
same text form. -/
structure IsCanonicalForm {α : Type} [BEq α] (parse : String → Except NameError α)
    (form : α → String) : Prop where
  beq_iff : ∀ {s t : String} {a b : α}, parse s = .ok a → parse t = .ok b →
    ((a == b) = true ↔ form a = form b)
  parse_form : ∀ {s : String} {a : α}, parse s = .ok a →
    ∃ b, parse (form a) = .ok b ∧ (b == a) = true ∧ form b = form a

namespace NamePattern

/-- The pattern with its properties in sorted order. -/
def arranged (pattern : NamePattern) : NamePattern :=
  { pattern with properties := ⟨pattern.properties.sorted⟩ }

theorem arranged_beq (pattern : NamePattern) : (pattern.arranged == pattern) = true :=
  beq_iff.2 ⟨rfl, rfl, pattern.properties.sorted_perm⟩

/-- Equality is equality of what is left once the written order has been forgotten. -/
theorem beq_iff_arranged_eq {a b : NamePattern} : (a == b) = true ↔ a.arranged = b.arranged := by
  rw [beq_iff, ← Properties.sorted_eq_sorted_iff]
  simp only [arranged, NamePattern.mk.injEq, Properties.mk.injEq]
  tauto

theorem canonical_eq_of_beq {a b : NamePattern} (equal : (a == b) = true) :
    a.canonical = b.canonical := by
  obtain ⟨domain, openEnded, perm⟩ := beq_iff.1 equal
  rw [canonical, canonical, Properties.canonical, Properties.canonical, domain, openEnded,
    Properties.sorted_eq_sorted_iff.2 perm]

theorem parse_canonical {text : String} {pattern : NamePattern}
    (parsed : parse text = .ok pattern) : parse pattern.canonical = .ok pattern.arranged := by
  obtain ⟨spelling, _, rfl⟩ := parse_eq_ok_iff.1 parsed
  exact spelling.parse_assemble (Properties.sorted_perm _)

theorem canonical_eq_iff {s t : String} {a b : NamePattern} (parsedA : parse s = .ok a)
    (parsedB : parse t = .ok b) : a.canonical = b.canonical ↔ (a == b) = true := by
  constructor
  · intro same
    have readA := parse_canonical parsedA
    have readB := parse_canonical parsedB
    rw [same] at readA
    exact beq_iff_arranged_eq.2 (Except.ok.inj (readA.symm.trans readB))
  · exact canonical_eq_of_beq

theorem isWild_eq_of_beq {a b : NamePattern} (equal : (a == b) = true) : a.isWild = b.isWild := by
  obtain ⟨domain, openEnded, perm⟩ := beq_iff.1 equal
  rw [isWild, isWild, domain, openEnded, perm.any_eq]

end NamePattern

namespace ResourceName

theorem canonical_eq (name : ResourceName) : name.canonical = name.toPattern.canonical := rfl

theorem parse_canonical {text : String} {name : ResourceName}
    (parsed : ResourceName.parse text = .ok name) :
    ResourceName.parse name.canonical = .ok ⟨name.domain, ⟨name.properties.sorted⟩⟩ := by
  obtain ⟨read, concrete⟩ := parse_eq_ok_iff.1 parsed
  rw [parse_eq_ok_iff, canonical_eq, NamePattern.parse_canonical read, ← concrete]
  exact ⟨rfl, NamePattern.isWild_eq_of_beq name.toPattern.arranged_beq⟩

end ResourceName

/-- The sorted text is a canonical form of patterns and of concrete names. -/
theorem canonical_isCanonicalForm :
    IsCanonicalForm NamePattern.parse NamePattern.canonical ∧
      IsCanonicalForm ResourceName.parse ResourceName.canonical := by
  refine ⟨⟨?_, ?_⟩, ⟨?_, ?_⟩⟩
  · intro s t a b parsedA parsedB
    exact (NamePattern.canonical_eq_iff parsedA parsedB).symm
  · intro s pattern parsed
    exact ⟨pattern.arranged, NamePattern.parse_canonical parsed, pattern.arranged_beq,
      NamePattern.canonical_eq_of_beq pattern.arranged_beq⟩
  · intro s t a b parsedA parsedB
    rw [← ResourceName.toPattern_beq_iff, a.canonical_eq, b.canonical_eq]
    exact (NamePattern.canonical_eq_iff (ResourceName.parse_eq_ok_iff.1 parsedA).1
      (ResourceName.parse_eq_ok_iff.1 parsedB).1).symm
  · intro s name parsed
    have same := name.toPattern.arranged_beq
    exact ⟨_, ResourceName.parse_canonical parsed, ResourceName.toPattern_beq_iff.1 same,
      NamePattern.canonical_eq_of_beq same⟩

/-- A quoted value that looks like further properties stays one value when properties are sorted. -/
theorem canonical_isCanonicalForm_of_quoted :
    NamePattern.parse "d:b=\"x,a=1\",a=2" = .ok ⟨"d", ⟨[("b", "\"x,a=1\""), ("a", "2")]⟩, false⟩ ∧
      NamePattern.parse "d:a=2,b=\"x,a=1\"" = .ok ⟨"d", ⟨[("a", "2"), ("b", "\"x,a=1\"")]⟩, false⟩ ∧
      NamePattern.canonical ⟨"d", ⟨[("b", "\"x,a=1\""), ("a", "2")]⟩, false⟩ =
        NamePattern.canonical ⟨"d", ⟨[("a", "2"), ("b", "\"x,a=1\"")]⟩, false⟩ := by
  have first : NamePattern.parse "d:b=\"x,a=1\",a=2" =
      .ok ⟨"d", ⟨[("b", "\"x,a=1\""), ("a", "2")]⟩, false⟩ := rfl
  have second : NamePattern.parse "d:a=2,b=\"x,a=1\"" =
      .ok ⟨"d", ⟨[("a", "2"), ("b", "\"x,a=1\"")]⟩, false⟩ := rfl
  refine ⟨first, second, (canonical_isCanonicalForm.1.beq_iff first second).1 ?_⟩
  exact NamePattern.beq_iff.2 ⟨rfl, rfl, .swap ("a", "2") ("b", "\"x,a=1\"") []⟩

end MetricQuery
