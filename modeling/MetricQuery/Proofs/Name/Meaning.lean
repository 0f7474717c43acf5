import Mathlib.Data.List.Permutation
import MetricQuery.Proofs.Name.Covering

namespace MetricQuery

/-- A text is taken as it stands if it opens with a quote or holds no wildcard. -/
def Literal (text : String) : Prop :=
  text.toList.head? = some '"' ∨ '*' ∉ text.toList ∧ '?' ∉ text.toList

/-- What a pattern text accepts: a literal one only itself, any other one what it matches as a glob. -/
inductive Accepted : String → String → Prop
  | literal {text : String} : Literal text → Accepted text text
  | glob {pattern text : String} :
      ¬Literal pattern → Glob pattern.toList text.toList → Accepted pattern text

theorem hasWildcard_eq_false_iff {text : String} :
    hasWildcard text.toList = false ↔ Literal text := by
  have wildcards : (text.toList.any fun c => c = '*' || c = '?') = false ↔
      '*' ∉ text.toList ∧ '?' ∉ text.toList := by
    simp only [List.any_eq_false, Bool.or_eq_true, decide_eq_true_eq, not_or]
    constructor
    · intro plain
      exact ⟨fun star => (plain _ star).1 rfl, fun mark => (plain _ mark).2 rfl⟩
    · rintro ⟨noStar, noMark⟩ c member
      exact ⟨fun star => noStar (star ▸ member), fun mark => noMark (mark ▸ member)⟩
  rw [hasWildcard, Bool.and_eq_false_iff, bne_eq_false_iff_eq, wildcards, Literal]

theorem accepts_iff_accepted {pattern text : String} :
    accepts pattern.toList text.toList = true ↔ Accepted pattern text := by
  rw [accepts_iff]
  cases wild : hasWildcard pattern.toList with
  | false =>
    have literal := hasWildcard_eq_false_iff.1 wild
    rw [if_neg Bool.false_ne_true, String.toList_inj]
    constructor
    · rintro rfl
      exact .literal literal
    · intro accepted
      cases accepted with
      | literal => rfl
      | glob other => exact absurd literal other
  | true =>
    have other : ¬Literal pattern := by
      rw [← hasWildcard_eq_false_iff, wild]
      decide
    rw [if_pos rfl]
    constructor
    · exact .glob other
    · intro accepted
      cases accepted with
      | literal literal => exact absurd literal other
      | glob _ glob => exact glob

namespace Properties

theorem mem_keys_iff {properties : Properties} {key : String} :
    key ∈ properties.keys ↔ ∃ value, (key, value) ∈ properties.entries := by
  simp [keys]

/-- Once the keys of one list are among those of another, equal sizes say that there are no more. -/
theorem size_eq_iff_keys {a b : Properties} (distinctA : a.keys.Nodup) (distinctB : b.keys.Nodup)
    (subset : a.keys ⊆ b.keys) : a.size = b.size ↔ ∀ key, key ∈ b.keys ↔ key ∈ a.keys := by
  have lengths : a.keys.length = a.size ∧ b.keys.length = b.size := by simp [keys, size]
  constructor
  · intro size key
    have perm : a.keys.Perm b.keys :=
      (distinctA.subperm subset).perm_of_length_le (by omega)
    exact perm.mem_iff.symm
  · intro same
    have perm : b.keys.Perm a.keys := (List.perm_ext_iff_of_nodup distinctB distinctA).2 same
    have length := perm.length_eq
    omega

end Properties

namespace NamePattern

/-- What covering means when properties are taken as maps from keys to values. -/
structure Embraces (pattern : NamePattern) (name : ResourceName) : Prop where
  domain : Accepted pattern.domain name.domain
  values : ∀ key expected, pattern.properties.get? key = some expected →
    ∃ actual, name.properties.get? key = some actual ∧ Accepted expected actual
  keys : pattern.openEnded = false →
    ∀ key, key ∈ name.properties.keys ↔ key ∈ pattern.properties.keys

theorem covers_iff_embraces {pattern : NamePattern} {name : ResourceName}
    (patternDistinct : pattern.properties.keys.Nodup) (nameDistinct : name.properties.keys.Nodup) :
    pattern.covers name = true ↔ pattern.Embraces name := by
  have values : (∀ key expected, (key, expected) ∈ pattern.properties.entries →
      ∃ actual, (key, actual) ∈ name.properties.entries ∧
        accepts expected.toList actual.toList = true) ↔
      ∀ key expected, pattern.properties.get? key = some expected →
        ∃ actual, name.properties.get? key = some actual ∧ Accepted expected actual := by
    simp only [Properties.get?_eq_some_iff patternDistinct, Properties.get?_eq_some_iff nameDistinct,
      accepts_iff_accepted]
  have subset (held : ∀ key expected, pattern.properties.get? key = some expected →
      ∃ actual, name.properties.get? key = some actual ∧ Accepted expected actual) :
      pattern.properties.keys ⊆ name.properties.keys := by
    intro key member
    obtain ⟨expected, entry⟩ := Properties.mem_keys_iff.1 member
    obtain ⟨actual, found, _⟩ := held key expected ((Properties.get?_eq_some_iff patternDistinct).2 entry)
    exact Properties.mem_keys_iff.2 ⟨actual, (Properties.get?_eq_some_iff nameDistinct).1 found⟩
  rw [covers_iff nameDistinct, accepts_iff_accepted, values]
  constructor
  · rintro ⟨domain, size, held⟩
    refine ⟨domain, held, fun closed => ?_⟩
    have same := size.resolve_left (by simp [closed])
    exact (Properties.size_eq_iff_keys patternDistinct nameDistinct (subset held)).1 same
  · rintro ⟨domain, held, keys⟩
    refine ⟨domain, ?_, held⟩
    cases openEnded : pattern.openEnded with
    | true => exact Or.inl rfl
    | false =>
      exact Or.inr ((Properties.size_eq_iff_keys patternDistinct nameDistinct (subset held)).2
        (keys openEnded))

/-- Neither order, that of the pattern nor that of the name, has a say in what is covered. -/
theorem covers_congr {a b : NamePattern} {x y : ResourceName}
    (distinctX : x.properties.keys.Nodup) (distinctY : y.properties.keys.Nodup)
    (patterns : (a == b) = true) (names : (x == y) = true) : a.covers x = b.covers y := by
  obtain ⟨patternDomain, openEnded, patternPerm⟩ := beq_iff.1 patterns
  obtain ⟨nameDomain, namePerm⟩ := ResourceName.beq_iff.1 names
  have patternSize : a.properties.size = b.properties.size := patternPerm.length_eq
  have nameSize : x.properties.size = y.properties.size := namePerm.length_eq
  rw [Bool.eq_iff_iff, covers_iff distinctX, covers_iff distinctY, patternDomain, openEnded,
    nameDomain, patternSize, nameSize]
  simp only [patternPerm.mem_iff, namePerm.mem_iff]

end NamePattern

/-- A pattern covers a name exactly when it embraces it, and then every equal pattern covers every
equal name. -/
theorem covers_follows_keys {s t : String} {pattern : NamePattern} {name : ResourceName}
    (parsed : NamePattern.parse s = .ok pattern) (parsedName : ResourceName.parse t = .ok name) :
    (pattern.covers name = true ↔ pattern.Embraces name) ∧
      ∀ s t other another, NamePattern.parse s = .ok other → ResourceName.parse t = .ok another →
        (pattern == other) = true → (name == another) = true →
          pattern.covers name = other.covers another := by
  have distinct := ResourceName.keys_nodup_of_parse parsedName
  refine ⟨NamePattern.covers_iff_embraces (NamePattern.keys_nodup_of_parse parsed) distinct, ?_⟩
  intro s t other another _ parsedAnother patterns names
  exact NamePattern.covers_congr distinct (ResourceName.keys_nodup_of_parse parsedAnother) patterns names

/-- An open pattern with its keys in another order than the name, which has one key more. -/
theorem covers_follows_keys_of_reordered :
    NamePattern.parse "d*:b=\"*\",a=x?,*" = .ok ⟨"d*", ⟨[("b", "\"*\""), ("a", "x?")]⟩, true⟩ ∧
      ResourceName.parse "dd:a=xy,c=1,b=\"*\"" =
        .ok ⟨"dd", ⟨[("a", "xy"), ("c", "1"), ("b", "\"*\"")]⟩⟩ ∧
      NamePattern.Embraces ⟨"d*", ⟨[("b", "\"*\""), ("a", "x?")]⟩, true⟩
        ⟨"dd", ⟨[("a", "xy"), ("c", "1"), ("b", "\"*\"")]⟩⟩ := by
  have pattern : NamePattern.parse "d*:b=\"*\",a=x?,*" =
      .ok ⟨"d*", ⟨[("b", "\"*\""), ("a", "x?")]⟩, true⟩ := rfl
  have name : ResourceName.parse "dd:a=xy,c=1,b=\"*\"" =
      .ok ⟨"dd", ⟨[("a", "xy"), ("c", "1"), ("b", "\"*\"")]⟩⟩ := rfl
  have covers : NamePattern.covers ⟨"d*", ⟨[("b", "\"*\""), ("a", "x?")]⟩, true⟩
      ⟨"dd", ⟨[("a", "xy"), ("c", "1"), ("b", "\"*\"")]⟩⟩ = true := by cbv
  exact ⟨pattern, name, (covers_follows_keys pattern name).1.1 covers⟩

end MetricQuery
