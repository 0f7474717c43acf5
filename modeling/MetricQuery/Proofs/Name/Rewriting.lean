import Mathlib.Data.List.Basic
import MetricQuery.Name.Resource
import MetricQuery.Proofs.Name.Grammar

namespace MetricQuery

namespace NameEntry

def ofPair (pair : String × String) : NameEntry := .property pair.1.toList pair.2.toList

@[simp] theorem pairs_map_ofPair (order : List (String × String)) :
    pairs (order.map ofPair) = order := by
  induction order with
  | nil => rfl
  | cons pair rest ih => simp [ofPair, ih]

theorem map_ofPair_pairs (entries : List NameEntry) :
    (pairs entries).map ofPair = entries.filter (· ≠ .star) := by
  induction entries with
  | nil => rfl
  | cons entry rest ih =>
    cases entry with
    | star => simpa using ih
    | property => simpa [ofPair] using ih

theorem star_not_mem_map_ofPair (order : List (String × String)) : .star ∉ order.map ofPair := by
  simp [ofPair]

end NameEntry

namespace NameSpelling

/-- The same entries in another order make a spelling again. -/
def reorder (spelling : NameSpelling) (entries : List NameEntry)
    (perm : entries.Perm spelling.entries) : NameSpelling where
  domain := spelling.domain
  entries := entries
  domain_plain := spelling.domain_plain
  nonempty := fun empty => spelling.nonempty (by simpa [empty] using perm)
  lawful := fun entry member => spelling.lawful entry (perm.mem_iff.1 member)
  one_star := by
    rw [perm.count_eq]
    exact spelling.one_star
  distinct := (perm.filterMap NameEntry.key?).nodup_iff.2 spelling.distinct

@[simp] theorem reorder_domain (spelling : NameSpelling) {entries : List NameEntry}
    (perm : entries.Perm spelling.entries) :
    (spelling.reorder entries perm).domain = spelling.domain := rfl

@[simp] theorem reorder_entries (spelling : NameSpelling) {entries : List NameEntry}
    (perm : entries.Perm spelling.entries) : (spelling.reorder entries perm).entries = entries := rfl

/-- The spelling with its star, if it has one, moved to the end and nothing else changed. -/
def starLast (spelling : NameSpelling) : NameSpelling :=
  spelling.reorder (spelling.entries.filter (· ≠ .star) ++ spelling.entries.filter (· = .star))
    (by simpa using List.filter_append_perm (· ≠ NameEntry.star) spelling.entries)

theorem filter_star (spelling : NameSpelling) :
    spelling.entries.filter (· = .star) = if spelling.pattern.openEnded then [.star] else [] := by
  have bound := spelling.one_star
  have all : spelling.entries.filter (· = .star) =
      List.replicate (spelling.entries.count .star) .star := by
    rw [← List.filter_eq]
  rw [all]
  split
  · rename_i openEnded
    have some : 0 < spelling.entries.count .star :=
      List.count_pos_iff.2 (by simpa [pattern] using openEnded)
    have one : spelling.entries.count .star = 1 := by omega
    rw [one]
    rfl
  · rename_i closed
    have none : spelling.entries.count .star = 0 :=
      List.count_eq_zero.2 (by simpa [pattern] using closed)
    rw [none]
    rfl

/-- The spelling with its properties in a given order, and with the star last. -/
def arrange (spelling : NameSpelling) (order : List (String × String))
    (perm : order.Perm spelling.pattern.properties.entries) : NameSpelling :=
  spelling.reorder (order.map NameEntry.ofPair ++ spelling.entries.filter (· = .star)) (by
    have moved : (order.map NameEntry.ofPair).Perm (spelling.entries.filter (· ≠ .star)) := by
      rw [← NameEntry.map_ofPair_pairs]
      exact perm.map _
    refine (moved.append_right _).trans ?_
    simpa using List.filter_append_perm (· ≠ NameEntry.star) spelling.entries)

@[simp] theorem arrange_domain (spelling : NameSpelling) {order : List (String × String)}
    (perm : order.Perm spelling.pattern.properties.entries) :
    (spelling.arrange order perm).domain = spelling.domain := rfl

theorem arrange_entries (spelling : NameSpelling) {order : List (String × String)}
    (perm : order.Perm spelling.pattern.properties.entries) :
    (spelling.arrange order perm).entries =
      order.map NameEntry.ofPair ++ if spelling.pattern.openEnded then [.star] else [] := by
  rw [← filter_star, arrange, reorder_entries]

theorem arrange_pattern (spelling : NameSpelling) {order : List (String × String)}
    (perm : order.Perm spelling.pattern.properties.entries) :
    (spelling.arrange order perm).pattern = { spelling.pattern with properties := ⟨order⟩ } := by
  have pairs : NameEntry.pairs (spelling.arrange order perm).entries = order := by
    rw [arrange_entries, NameEntry.pairs_append, NameEntry.pairs_map_ofPair]
    split
    · exact List.append_nil order
    · exact List.append_nil order
  have star : (spelling.arrange order perm).entries.contains .star = spelling.pattern.openEnded := by
    rw [arrange_entries, Bool.eq_iff_iff]
    simp [NameEntry.star_not_mem_map_ofPair]
  rw [pattern, pairs, star, arrange_domain]
  rfl

end NameSpelling

theorem Properties.render_beq_empty (order : List (String × String)) :
    (Properties.render order == "") = order.isEmpty := by
  cases order with
  | nil => rfl
  | cons pair rest =>
    have mark : '=' ∈ (Properties.render (pair :: rest)).toList := by
      rw [render, String.toList_intercalate, List.map_cons, List.map_cons]
      cases rest <;> simp
    rw [List.isEmpty_cons, beq_eq_false_iff_ne]
    intro empty
    simp [empty] at mark

/-- A name is put together by joining its properties and its star with commas. -/
theorem NamePattern.assemble_render (domain : String) (order : List (String × String))
    (openEnded : Bool) :
    NamePattern.assemble domain (Properties.render order) openEnded =
      domain ++ ":" ++ ",".intercalate
        (order.map (fun pair => pair.1 ++ "=" ++ pair.2) ++ if openEnded then ["*"] else []) := by
  unfold assemble
  rw [Properties.render_beq_empty]
  cases openEnded with
  | false => simp [Properties.render]
  | true =>
    cases order with
    | nil => simp [String.append_assoc]
    | cons pair rest =>
      rw [if_pos rfl, String.intercalate_append_of_ne_nil (by simp) (by simp)]
      simp [Properties.render, String.append_assoc]

namespace NameSpelling

theorem toList_assemble (spelling : NameSpelling) {order : List (String × String)}
    (perm : order.Perm spelling.pattern.properties.entries) :
    (NamePattern.assemble spelling.pattern.domain (Properties.render order)
      spelling.pattern.openEnded).toList = (spelling.arrange order perm).text := by
  have pieces : (order.map (fun pair => pair.1 ++ "=" ++ pair.2) ++
      if spelling.pattern.openEnded then ["*"] else []).map String.toList =
      (spelling.arrange order perm).entries.map NameEntry.text := by
    rw [arrange_entries, List.map_append, List.map_append, List.map_map, List.map_map]
    congr 1
    · simp [NameEntry.ofPair, NameEntry.text]
    · split <;> rfl
  rw [NamePattern.assemble_render, String.toList_append, String.toList_intercalate, pieces, text]
  simp [pattern]

/-- A name put together again from its parts, with its properties in any order, is read as such. -/
theorem parse_assemble (spelling : NameSpelling) {order : List (String × String)}
    (perm : order.Perm spelling.pattern.properties.entries) :
    NamePattern.parse (NamePattern.assemble spelling.pattern.domain (Properties.render order)
      spelling.pattern.openEnded) = .ok { spelling.pattern with properties := ⟨order⟩ } :=
  NamePattern.parse_eq_ok_iff.2
    ⟨spelling.arrange order perm, (spelling.toList_assemble perm).symm, spelling.arrange_pattern perm⟩

theorem starLast_eq_arrange (spelling : NameSpelling) :
    spelling.starLast = spelling.arrange spelling.pattern.properties.entries (.refl _) := by
  simp [starLast, arrange, pattern, NameEntry.map_ofPair_pairs]

theorem toList_display (spelling : NameSpelling) :
    spelling.pattern.display.toList = spelling.starLast.text := by
  rw [starLast_eq_arrange, ← spelling.toList_assemble]
  rfl

theorem text_starLast_of_closed (spelling : NameSpelling)
    (closed : spelling.pattern.openEnded = false) : spelling.starLast.text = spelling.text := by
  have absent : .star ∉ spelling.entries := by simpa [pattern] using closed
  have kept : spelling.entries.filter (· ≠ .star) = spelling.entries := by
    refine List.filter_eq_self.2 fun entry member => ?_
    have other : entry ≠ .star := by
      rintro rfl
      exact absent member
    simpa using other
  simp only [starLast, reorder, text, kept, filter_star, closed, Bool.false_eq_true, if_false,
    List.append_nil]

end NameSpelling

theorem NamePattern.openEnded_of_isWild (pattern : NamePattern) (concrete : pattern.isWild = false) :
    pattern.openEnded = false := by
  simp only [isWild, Bool.or_eq_false_iff] at concrete
  exact concrete.1.1

/-- Concrete names are the patterns in which nothing is wild. -/
theorem ResourceName.parse_eq_ok_iff {text : String} {name : ResourceName} :
    ResourceName.parse text = .ok name ↔
      NamePattern.parse text = .ok name.toPattern ∧ name.toPattern.isWild = false := by
  unfold ResourceName.parse
  rw [bind_eq_ok_iff]
  constructor
  · intro run
    obtain ⟨pattern, parsed, accepted⟩ := run
    split at accepted
    · simp at accepted
    · rename_i concrete
      rw [Bool.not_eq_true] at concrete
      have same : pattern = name.toPattern := by
        rw [← Except.ok.inj accepted, toPattern, ← pattern.openEnded_of_isWild concrete]
      exact ⟨same ▸ parsed, same ▸ concrete⟩
  · intro both
    obtain ⟨parsed, concrete⟩ := both
    exact ⟨name.toPattern, parsed, by rw [concrete]; rfl⟩

theorem ResourceName.display_eq (name : ResourceName) : name.display = name.toPattern.display := by
  simp [display, toPattern, NamePattern.display, NamePattern.assemble]

/-- Showing a pattern gives the text that it was read from with the star moved to the end, however
that text is spelled, and this is read as the same pattern. A concrete name is shown exactly as it
was given. -/
theorem display_inverts_parse (text : String) :
    (∀ pattern, NamePattern.parse text = .ok pattern →
      (∃ spelling : NameSpelling, spelling.text = text.toList) ∧
      (∀ spelling : NameSpelling, spelling.text = text.toList →
        pattern.display.toList = spelling.starLast.text) ∧
      NamePattern.parse pattern.display = .ok pattern) ∧
    ∀ name, ResourceName.parse text = .ok name → name.display = text := by
  constructor
  · intro pattern parsed
    obtain ⟨spelling, equal, rfl⟩ := NamePattern.parse_eq_ok_iff.1 parsed
    refine ⟨⟨spelling, equal⟩, ?_, spelling.parse_assemble (.refl _)⟩
    intro other otherEqual
    have read := NamePattern.parse_eq_ok_iff.2 ⟨other, otherEqual, rfl⟩
    rw [Except.ok.inj (parsed.symm.trans read), other.toList_display]
  · intro name parsed
    obtain ⟨read, concrete⟩ := ResourceName.parse_eq_ok_iff.1 parsed
    obtain ⟨spelling, equal, same⟩ := NamePattern.parse_eq_ok_iff.1 read
    have closed : spelling.pattern.openEnded = false := same ▸ rfl
    rw [← String.toList_inj, name.display_eq, ← same, spelling.toList_display,
      spelling.text_starLast_of_closed closed, equal]

/-- A star in front of a value that holds commas, equals signs and a hidden quote. -/
theorem display_inverts_parse_of_quoted :
    NamePattern.parse "d:*,k=\"a,\\\"=b\",l=x" =
        .ok ⟨"d", ⟨[("k", "\"a,\\\"=b\""), ("l", "x")]⟩, true⟩ ∧
      NamePattern.parse
          (NamePattern.display ⟨"d", ⟨[("k", "\"a,\\\"=b\""), ("l", "x")]⟩, true⟩) =
        .ok ⟨"d", ⟨[("k", "\"a,\\\"=b\""), ("l", "x")]⟩, true⟩ ∧
      ResourceName.parse "d:l=x,k=\"a,\\\"=b\"" = .ok ⟨"d", ⟨[("l", "x"), ("k", "\"a,\\\"=b\"")]⟩⟩ ∧
      ResourceName.display ⟨"d", ⟨[("l", "x"), ("k", "\"a,\\\"=b\"")]⟩⟩ = "d:l=x,k=\"a,\\\"=b\"" := by
  have pattern : NamePattern.parse "d:*,k=\"a,\\\"=b\",l=x" =
      .ok ⟨"d", ⟨[("k", "\"a,\\\"=b\""), ("l", "x")]⟩, true⟩ := rfl
  have name : ResourceName.parse "d:l=x,k=\"a,\\\"=b\"" =
      .ok ⟨"d", ⟨[("l", "x"), ("k", "\"a,\\\"=b\"")]⟩⟩ := rfl
  exact ⟨pattern, ((display_inverts_parse _).1 _ pattern).2.2, name, (display_inverts_parse _).2 _ name⟩

end MetricQuery
