import MetricQuery.Proofs.Name.Covering

namespace MetricQuery

/-- The text with a letter for each wildcard, unless it is taken literally. -/
def fillText (letter : Char) (text : List Char) : List Char :=
  if hasWildcard text then text.map fun c => if c = '*' ∨ c = '?' then letter else c else text

theorem hasWildcard_eq_true_iff {text : List Char} :
    hasWildcard text = true ↔ text.head? ≠ some '"' ∧ ∃ c ∈ text, c = '*' ∨ c = '?' := by
  simp [hasWildcard]

theorem glob_map_fill (letter : Char) (text : List Char) :
    Glob text (text.map fun c => if c = '*' ∨ c = '?' then letter else c) := by
  induction text with
  | nil => exact .nil
  | cons c rest ih =>
    rw [List.map_cons]
    by_cases star : c = '*'
    · subst star
      have glob : Glob ('*' :: rest) ([letter] ++ _) := .anyRun ih
      exact glob
    by_cases mark : c = '?'
    · subst mark
      exact .anyChar ih
    · simpa [star, mark] using Glob.same star mark ih

theorem accepts_fillText (letter : Char) (text : List Char) :
    accepts text (fillText letter text) = true := by
  rw [accepts_iff, fillText]
  split
  · exact glob_map_fill letter text
  · rfl

theorem KeyText.ne_special {letter c : Char} (plain : KeyText [letter])
    (special : c ∈ [':', '*', '?', '=', ',', '\n', '"']) : letter ≠ c := by
  rintro rfl
  exact plain.plain letter (by simp) special

theorem hasWildcard_fillText {letter : Char} (plain : KeyText [letter]) (text : List Char) :
    hasWildcard (fillText letter text) = false := by
  have notStar : letter ≠ '*' := plain.ne_special (by simp)
  have notMark : letter ≠ '?' := plain.ne_special (by simp)
  unfold fillText
  split
  · rw [Bool.eq_false_iff, ne_eq, hasWildcard_eq_true_iff]
    intro found
    obtain ⟨_, c, member, wild⟩ := found
    obtain ⟨d, _, rfl⟩ := List.mem_map.1 member
    split at wild
    · exact wild.elim notStar notMark
    · rename_i tame
      exact tame wild
  · rename_i literal
    exact Bool.eq_false_iff.2 literal

/-- Letters show where there were wildcards. -/
theorem fillText_ne {a b : Char} (different : a ≠ b) {text : List Char}
    (wild : hasWildcard text = true) : fillText a text ≠ fillText b text := by
  rw [fillText, fillText, if_pos wild, if_pos wild]
  obtain ⟨_, c, member, wildcard⟩ := hasWildcard_eq_true_iff.1 wild
  intro equal
  have same := List.map_inj_left.1 equal c member
  rw [if_pos wildcard, if_pos wildcard] at same
  exact different same

theorem not_mem_fillText {letter c : Char} {text : List Char} (absent : c ∉ text)
    (other : c ≠ letter) : c ∉ fillText letter text := by
  unfold fillText
  split
  · intro member
    obtain ⟨d, original, equal⟩ := List.mem_map.1 member
    split at equal
    · exact other equal.symm
    · exact absent (equal ▸ original)
  · exact absent

theorem PlainValue.fillText {letter : Char} (plain : KeyText [letter]) {value : List Char}
    (lawful : PlainValue value) : PlainValue (fillText letter value) := by
  refine ⟨?_, ?_⟩
  · unfold MetricQuery.fillText
    split
    · simpa using lawful.nonempty
    · exact lawful.nonempty
  · intro c member special
    have other : letter ≠ c := plain.ne_special (by simp at special ⊢; tauto)
    exact not_mem_fillText (lawful.not_mem special) other.symm member

theorem QuotedValue.fillText {value : List Char} (quoted : QuotedValue value) (letter : Char) :
    fillText letter value = value := by
  refine if_neg ?_
  rw [hasWildcard_eq_true_iff]
  exact fun wild => wild.1 quoted.opens

theorem KeyText.plainValue {letter : Char} (plain : KeyText [letter]) : PlainValue [letter] := by
  refine ⟨plain.nonempty, ?_⟩
  intro c member special
  exact plain.plain c member (by simp at special ⊢; tauto)

namespace NameEntry

theorem mem_pairs_iff {entries : List NameEntry} {key value : String} :
    (key, value) ∈ pairs entries ↔ .property key.toList value.toList ∈ entries := by
  induction entries with
  | nil => simp
  | cons entry rest ih =>
    cases entry with
    | star => simpa using ih
    | property k v =>
      have same : (key, value) = (String.ofList k, String.ofList v) ↔
          property key.toList value.toList = property k v := by
        simp [← String.toList_inj]
      rw [pairs_property_cons, List.mem_cons, List.mem_cons, ih, same]

/-- A property with its value filled in. -/
def fillPair (letter : Char) (pair : String × String) : NameEntry :=
  .property pair.1.toList (fillText letter pair.2.toList)

/-- A key longer than all the given ones. -/
def freshKey (entries : List NameEntry) : List Char :=
  List.replicate ((keys entries).flatten.length + 1) 'a'

theorem freshKey_not_mem (entries : List NameEntry) : freshKey entries ∉ keys entries := by
  intro member
  have bound := (List.sublist_flatten_of_mem member).length_le
  rw [freshKey, List.length_replicate] at bound
  omega

theorem freshKey_lawful (entries : List NameEntry) : KeyText (freshKey entries) := by
  refine ⟨by simp [freshKey], ?_⟩
  intro c member
  obtain rfl := List.eq_of_mem_replicate member
  decide

theorem fillPair_lawful {letter : Char} (plain : KeyText [letter]) {key value : List Char}
    (lawful : (property key value).Lawful) :
    (fillPair letter (String.ofList key, String.ofList value)).Lawful := by
  obtain ⟨keyText, valueText⟩ := lawful
  simp only [fillPair, String.toList_ofList, Lawful]
  refine ⟨keyText, ?_⟩
  rcases valueText with plainValue | quoted
  · exact Or.inl (plainValue.fillText plain)
  · rw [quoted.fillText letter]
    exact Or.inr quoted

theorem keys_map_fillPair (letter : Char) (entries : List NameEntry) :
    keys ((pairs entries).map (fillPair letter)) = keys entries := by
  induction entries with
  | nil => rfl
  | cons entry rest ih =>
    cases entry with
    | star => exact ih
    | property => simpa [fillPair] using ih

theorem pairs_map_fillPair (letter : Char) (order : List (String × String)) :
    pairs (order.map (fillPair letter)) =
      order.map fun (key, value) => (key, String.ofList (fillText letter value.toList)) := by
  induction order with
  | nil => rfl
  | cons pair rest ih => simpa [fillPair] using ih

end NameEntry

namespace NameSpelling

/-- What an open end is filled with: a property that is new, with the letter as its value. -/
def filledEnd (spelling : NameSpelling) (letter : Char) : List NameEntry :=
  if spelling.pattern.openEnded then [.property (NameEntry.freshKey spelling.entries) [letter]]
  else []

theorem filledEnd_lawful (spelling : NameSpelling) {letter : Char} (plain : KeyText [letter]) :
    ∀ entry ∈ spelling.filledEnd letter, entry.Lawful := by
  unfold filledEnd
  split
  · rw [List.forall_mem_singleton]
    exact ⟨NameEntry.freshKey_lawful _, Or.inl plain.plainValue⟩
  · simp

theorem star_not_mem_filledEnd (spelling : NameSpelling) (letter : Char) :
    .star ∉ spelling.filledEnd letter := by
  unfold filledEnd
  split <;> simp

theorem fill_distinct (spelling : NameSpelling) (letter : Char) :
    (NameEntry.keys (spelling.pattern.properties.entries.map (NameEntry.fillPair letter) ++
      spelling.filledEnd letter)).Nodup := by
  have kept : NameEntry.keys (spelling.pattern.properties.entries.map (NameEntry.fillPair letter)) =
      NameEntry.keys spelling.entries := NameEntry.keys_map_fillPair letter spelling.entries
  rw [NameEntry.keys_append, kept]
  unfold filledEnd
  split
  · refine List.nodup_append.2 ⟨spelling.distinct, by simp, ?_⟩
    rintro key member fresh last rfl
    obtain rfl : key = NameEntry.freshKey spelling.entries := by simpa using last
    exact NameEntry.freshKey_not_mem _ member
  · simpa using spelling.distinct

/-- A concrete spelling that falls under the given one. -/
def fill (spelling : NameSpelling) (letter : Char) (plain : KeyText [letter]) : NameSpelling where
  domain := fillText letter spelling.domain
  entries := spelling.pattern.properties.entries.map (NameEntry.fillPair letter) ++
    spelling.filledEnd letter
  domain_plain :=
    ⟨not_mem_fillText spelling.domain_plain.1 (plain.ne_special (by simp)).symm,
      not_mem_fillText spelling.domain_plain.2 (plain.ne_special (by simp)).symm⟩
  nonempty := by
    have something := spelling.pattern_nonempty
    intro empty
    obtain ⟨noProperty, noEnd⟩ := List.append_eq_nil_iff.1 empty
    rw [List.map_eq_nil_iff] at noProperty
    cases openEnded : spelling.pattern.openEnded with
    | true => simp [filledEnd, openEnded] at noEnd
    | false => simp [Properties.size, noProperty, openEnded] at something
  lawful := by
    intro entry member
    rcases List.mem_append.1 member with filled | last
    · obtain ⟨⟨key, value⟩, present, rfl⟩ := List.mem_map.1 filled
      have lawful := spelling.lawful _ (NameEntry.mem_pairs_iff.1 present)
      simpa using NameEntry.fillPair_lawful plain lawful
    · exact spelling.filledEnd_lawful plain entry last
  one_star := by
    have absent : .star ∉ spelling.pattern.properties.entries.map (NameEntry.fillPair letter) := by
      simp [NameEntry.fillPair]
    rw [List.count_eq_zero.2 (List.not_mem_append absent (spelling.star_not_mem_filledEnd letter))]
    exact Nat.zero_le 1
  distinct := spelling.fill_distinct letter

variable (spelling : NameSpelling) {letter : Char} (plain : KeyText [letter])

theorem fill_openEnded : (spelling.fill letter plain).pattern.openEnded = false := by
  have absent : .star ∉ (spelling.fill letter plain).entries := by
    simp [fill, NameEntry.fillPair, spelling.star_not_mem_filledEnd letter]
  simpa [pattern] using absent

theorem fill_entries :
    (spelling.fill letter plain).pattern.properties.entries =
      (spelling.pattern.properties.entries.map fun (key, value) =>
        (key, String.ofList (fillText letter value.toList))) ++
      NameEntry.pairs (spelling.filledEnd letter) := by
  simp only [pattern, fill, NameEntry.pairs_append, NameEntry.pairs_map_fillPair]

theorem mem_fill_of_mem {key value : String}
    (member : (key, value) ∈ spelling.pattern.properties.entries) :
    (key, String.ofList (fillText letter value.toList)) ∈
      (spelling.fill letter plain).pattern.properties.entries := by
  rw [fill_entries]
  exact List.mem_append_left _ (List.mem_map.2 ⟨(key, value), member, rfl⟩)

theorem mem_fill_of_openEnded (openEnded : spelling.pattern.openEnded = true) :
    (String.ofList (NameEntry.freshKey spelling.entries), String.ofList [letter]) ∈
      (spelling.fill letter plain).pattern.properties.entries := by
  rw [fill_entries, filledEnd, if_pos openEnded]
  simp

theorem fill_isWild : (spelling.fill letter plain).pattern.isWild = false := by
  refine NamePattern.isWild_eq_false_iff.2 ⟨spelling.fill_openEnded plain, ?_, ?_⟩
  · simpa [pattern, fill] using hasWildcard_fillText plain spelling.domain
  · intro key value member
    rw [fill_entries, List.mem_append] at member
    rcases member with filled | last
    · obtain ⟨⟨_, original⟩, _, equal⟩ := List.mem_map.1 filled
      obtain ⟨_, rfl⟩ := Prod.mk.inj equal
      simpa using hasWildcard_fillText plain original.toList
    · unfold filledEnd at last
      split at last
      · obtain ⟨_, rfl⟩ : key = _ ∧ value = String.ofList [letter] := by simpa using last
        simp [hasWildcard, plain.ne_special (c := '*'), plain.ne_special (c := '?')]
      · simp at last

/-- The concrete name that is spelled by filling in. -/
def filledName : ResourceName :=
  ⟨(spelling.fill letter plain).pattern.domain, (spelling.fill letter plain).pattern.properties⟩

theorem parse_filledName :
    ResourceName.parse (String.ofList (spelling.fill letter plain).text) =
      .ok (spelling.filledName plain) := by
  have concrete : (spelling.fill letter plain).pattern = (spelling.filledName plain).toPattern := by
    rw [ResourceName.toPattern, ← spelling.fill_openEnded plain]
    rfl
  refine ResourceName.parse_eq_ok_iff.2 ⟨?_, concrete ▸ spelling.fill_isWild plain⟩
  exact NamePattern.parse_eq_ok_iff.2 ⟨spelling.fill letter plain, by simp, concrete⟩

theorem covers_filledName : spelling.pattern.covers (spelling.filledName plain) = true := by
  have distinct := ResourceName.keys_nodup_of_parse (spelling.parse_filledName plain)
  refine (NamePattern.covers_iff distinct).2 ⟨?_, ?_, ?_⟩
  · simpa [filledName, pattern, fill] using accepts_fillText letter spelling.domain
  · cases openEnded : spelling.pattern.openEnded with
    | true => exact Or.inl rfl
    | false =>
      right
      simp [Properties.size, filledName, fill_entries, filledEnd, openEnded]
  · intro key expected member
    exact ⟨_, spelling.mem_fill_of_mem plain member, by simpa using accepts_fillText letter _⟩

/-- If anything is wild, different letters make different names. -/
theorem filledName_ne {other : Char} (otherPlain : KeyText [other]) (different : letter ≠ other)
    (wild : spelling.pattern.isWild = true) :
    (spelling.filledName plain == spelling.filledName otherPlain) = false := by
  rw [Bool.eq_false_iff, ne_eq, ResourceName.beq_iff]
  intro equal
  obtain ⟨domain, perm⟩ := equal
  have distinct := ResourceName.keys_nodup_of_parse (spelling.parse_filledName otherPlain)
  simp only [NamePattern.isWild, Bool.or_eq_true, List.any_eq_true] at wild
  rcases wild with (openEnded | wildDomain) | ⟨⟨key, value⟩, member, wildValue⟩
  · have one := perm.mem_iff.1 (spelling.mem_fill_of_openEnded plain openEnded)
    have two := spelling.mem_fill_of_openEnded otherPlain openEnded
    have same := Properties.value_unique distinct one two
    simp [different] at same
  · refine fillText_ne different wildDomain ?_
    simpa [filledName, pattern, fill, String.ofList_inj] using domain
  · have one := perm.mem_iff.1 (spelling.mem_fill_of_mem plain member)
    have two := spelling.mem_fill_of_mem otherPlain member
    have same := Properties.value_unique distinct one two
    exact fillText_ne different wildValue (String.ofList_inj.1 same)

end NameSpelling

end MetricQuery
