import MetricQuery.Proofs.Name.GlobRun
import MetricQuery.Proofs.Name.Properties
import MetricQuery.Proofs.Name.Rewriting

namespace MetricQuery

theorem NameEntry.map_fst_pairs (entries : List NameEntry) :
    (pairs entries).map Prod.fst = (keys entries).map String.ofList := by
  induction entries with
  | nil => rfl
  | cons entry rest ih =>
    cases entry with
    | star => exact ih
    | property => simpa using ih

/-- What has been read never holds a key twice. -/
theorem NamePattern.keys_nodup_of_parse {text : String} {pattern : NamePattern}
    (parsed : NamePattern.parse text = .ok pattern) : pattern.properties.keys.Nodup := by
  obtain ⟨spelling, _, rfl⟩ := parse_eq_ok_iff.1 parsed
  have keys : spelling.pattern.properties.keys =
      (NameEntry.keys spelling.entries).map String.ofList :=
    NameEntry.map_fst_pairs spelling.entries
  rw [keys]
  exact spelling.distinct.map fun _ _ => String.ofList_inj.1

theorem ResourceName.keys_nodup_of_parse {text : String} {name : ResourceName}
    (parsed : ResourceName.parse text = .ok name) : name.properties.keys.Nodup :=
  NamePattern.keys_nodup_of_parse (parse_eq_ok_iff.1 parsed).1

namespace NamePattern

/-- What it takes to be covered, with lookups replaced by membership. -/
theorem covers_iff {pattern : NamePattern} {name : ResourceName}
    (distinct : name.properties.keys.Nodup) :
    pattern.covers name = true ↔
      accepts pattern.domain.toList name.domain.toList = true ∧
      (pattern.openEnded = true ∨ pattern.properties.size = name.properties.size) ∧
      ∀ key expected, (key, expected) ∈ pattern.properties.entries →
        ∃ actual, (key, actual) ∈ name.properties.entries ∧
          accepts expected.toList actual.toList = true := by
  rw [covers, Bool.and_eq_true, Bool.and_eq_true, and_assoc, Bool.or_eq_true, beq_iff_eq,
    List.all_eq_true, Prod.forall]
  refine and_congr_right fun _ => and_congr_right fun _ => ?_
  refine forall_congr' fun key => forall_congr' fun expected => imp_congr_right fun _ => ?_
  simp only [← Properties.get?_eq_some_iff distinct]
  cases name.properties.get? key with
  | none => simp
  | some actual => simp

theorem isWild_eq_false_iff {pattern : NamePattern} :
    pattern.isWild = false ↔
      pattern.openEnded = false ∧ hasWildcard pattern.domain.toList = false ∧
        ∀ key value, (key, value) ∈ pattern.properties.entries →
          hasWildcard value.toList = false := by
  simp [isWild, and_assoc]

theorem accepts_iff_eq {pattern text : String} (literal : hasWildcard pattern.toList = false) :
    accepts pattern.toList text.toList = true ↔ pattern = text := by
  rw [accepts_iff, literal, if_neg Bool.false_ne_true, String.toList_inj]

/-- A pattern in which nothing is wild covers the names that are equal to it. -/
theorem covers_iff_beq_of_concrete {pattern : NamePattern} {name : ResourceName}
    (concrete : pattern.isWild = false) (patternDistinct : pattern.properties.keys.Nodup)
    (nameDistinct : name.properties.keys.Nodup) :
    pattern.covers name = true ↔ (name == ⟨pattern.domain, pattern.properties⟩) = true := by
  obtain ⟨closed, literalDomain, literalValues⟩ := isWild_eq_false_iff.1 concrete
  rw [covers_iff nameDistinct, ResourceName.beq_iff, accepts_iff_eq literalDomain, closed]
  simp only [Bool.false_eq_true, false_or]
  constructor
  · intro covers
    obtain ⟨domain, size, values⟩ := covers
    refine ⟨domain.symm, (Properties.perm_of_subset patternDistinct ?_ size).symm⟩
    rintro ⟨key, expected⟩ member
    obtain ⟨actual, present, accepted⟩ := values key expected member
    obtain rfl := (accepts_iff_eq (literalValues key expected member)).1 accepted
    exact present
  · intro equal
    obtain ⟨domain, perm⟩ := equal
    refine ⟨domain.symm, perm.symm.length_eq, ?_⟩
    intro key expected member
    exact ⟨expected, perm.mem_iff.2 member,
      (accepts_iff_eq (literalValues key expected member)).2 rfl⟩

end NamePattern

end MetricQuery
