import Mathlib.Data.List.Basic
import MetricQuery.Name.Pattern
import MetricQuery.Proofs.Except
import MetricQuery.Proofs.Name.Properties
import MetricQuery.Proofs.Name.Spelling

namespace MetricQuery

namespace EntriesRead

/-- What has been read once an entry is accepted. -/
def add (read : EntriesRead) : NameEntry → EntriesRead
  | .star => { read with star := true }
  | .property key value =>
    { read with
      properties := ⟨read.properties.entries ++ [(String.ofList key, String.ofList value)]⟩ }

@[simp] theorem add_star_star (read : EntriesRead) : (read.add .star).star = true := rfl

@[simp] theorem add_star_properties (read : EntriesRead) :
    (read.add .star).properties = read.properties := rfl

@[simp] theorem add_property_star (read : EntriesRead) (key value : List Char) :
    (read.add (.property key value)).star = read.star := rfl

@[simp] theorem add_property_keys (read : EntriesRead) (key value : List Char) :
    (read.add (.property key value)).properties.keys =
      read.properties.keys ++ [String.ofList key] := by
  simp [add, Properties.keys]

/-- Entries that repeat neither each other nor anything read before them. -/
structure Admits (read : EntriesRead) (entries : List NameEntry) : Prop where
  fresh : ∀ key ∈ NameEntry.keys entries, String.ofList key ∉ read.properties.keys
  distinct : (NameEntry.keys entries).Nodup
  one_star : entries.count .star + read.star.toNat ≤ 1

theorem admits_nil (read : EntriesRead) : read.Admits [] :=
  ⟨by simp, by simp, by simpa using read.star.toNat_le⟩

theorem admits_star_iff {read : EntriesRead} : read.Admits [.star] ↔ read.star = false := by
  constructor
  · intro admits
    have bound := admits.one_star
    cases star : read.star with
    | false => rfl
    | true => simp [star] at bound
  · intro star
    exact ⟨by simp, by simp, by simp [star]⟩

theorem admits_property_iff {read : EntriesRead} {key value : List Char} :
    read.Admits [.property key value] ↔ String.ofList key ∉ read.properties.keys := by
  constructor
  · intro admits
    exact admits.fresh key (by simp)
  · intro absent
    exact ⟨by simpa using absent, by simp, by simpa using read.star.toNat_le⟩

/-- Entries can be accepted one after the other. -/
theorem admits_cons_iff {read : EntriesRead} {entry : NameEntry} {rest : List NameEntry} :
    read.Admits (entry :: rest) ↔ read.Admits [entry] ∧ (read.add entry).Admits rest := by
  cases entry with
  | star =>
    rw [admits_star_iff]
    constructor
    · intro admits
      obtain ⟨fresh, distinct, bound⟩ := admits
      rw [List.count_cons_self] at bound
      cases star : read.star with
      | true => simp [star] at bound
      | false =>
        refine ⟨rfl, fresh, distinct, ?_⟩
        simpa [star] using bound
    · intro accepted
      obtain ⟨star, fresh, distinct, bound⟩ := accepted
      refine ⟨fresh, distinct, ?_⟩
      rw [List.count_cons_self, star]
      simpa using bound
  | property key value =>
    rw [admits_property_iff]
    constructor
    · intro admits
      obtain ⟨fresh, distinct, bound⟩ := admits
      simp only [NameEntry.keys_property_cons, List.nodup_cons] at distinct
      rw [List.count_cons_of_ne (by simp)] at bound
      refine ⟨fresh key (by simp), ?_, distinct.2, bound⟩
      intro other member
      have different : other ≠ key := by
        rintro rfl
        exact distinct.1 member
      simpa [String.ofList_inj, different] using fresh other (by simp [member])
    · intro accepted
      obtain ⟨absent, fresh, distinct, bound⟩ := accepted
      have apart : key ∉ NameEntry.keys rest := fun member => fresh key member (by simp)
      refine ⟨?_, by simpa using ⟨apart, distinct⟩, ?_⟩
      · intro other member old
        rcases List.mem_cons.1 member with rfl | member
        · exact absent old
        · exact fresh other member (by simp [old])
      · rw [List.count_cons_of_ne (by simp)]
        exact bound

theorem foldl_add (read : EntriesRead) (entries : List NameEntry) :
    entries.foldl add read =
      ⟨⟨read.properties.entries ++ NameEntry.pairs entries⟩,
        read.star || entries.contains .star⟩ := by
  induction entries generalizing read with
  | nil => simp
  | cons entry rest ih =>
    rw [List.foldl_cons, ih]
    cases entry with
    | star => simp [add]
    | property => simp [add]

end EntriesRead

theorem readProperty_eq_ok_iff {read next : EntriesRead} {piece : List Char} :
    readProperty read piece = .ok next ↔
      ∃ key value, splitFirst '=' piece = some (key, value) ∧
        (checkKey key = .ok () ∧ checkValue key value = .ok ()) ∧
        read.Admits [.property key value] ∧ next = read.add (.property key value) := by
  unfold readProperty
  split
  · rename_i unsplit
    simp [unsplit]
  · rename_i key value split
    simp only [bind_eq_ok_iff, split, Option.some.injEq, Prod.mk.injEq,
      EntriesRead.admits_property_iff, ← Properties.contains_eq_false_iff]
    constructor
    · intro run
      obtain ⟨_, keyChecked, _, valueChecked, accepted⟩ := run
      split at accepted
      · simp at accepted
      · rename_i absent
        refine ⟨key, value, ⟨rfl, rfl⟩, ⟨keyChecked, valueChecked⟩, by simpa using absent, ?_⟩
        rw [← Except.ok.inj accepted]
        simp [EntriesRead.add, Properties.insert, absent]
    · intro lawful
      obtain ⟨_, _, ⟨rfl, rfl⟩, ⟨keyChecked, valueChecked⟩, absent, rfl⟩ := lawful
      refine ⟨(), keyChecked, (), valueChecked, ?_⟩
      simp [absent, EntriesRead.add, Properties.insert]

/-- One step of the reading accepts exactly the entries of the grammar that repeat nothing. -/
theorem readEntry_eq_ok_iff {read next : EntriesRead} {piece : List Char}
    (contained : SelfContained piece) :
    readEntry read piece = .ok next ↔
      ∃ entry : NameEntry, entry.text = piece ∧ entry.Lawful ∧ read.Admits [entry] ∧
        next = read.add entry := by
  unfold readEntry
  by_cases star : piece = ['*']
  · rw [if_pos star]
    constructor
    · intro accepted
      split at accepted
      · simp at accepted
      · rename_i first
        refine ⟨.star, star.symm, trivial, EntriesRead.admits_star_iff.2 (by simpa using first), ?_⟩
        exact (Except.ok.inj accepted).symm
    · intro spelled
      obtain ⟨entry, text, _, admits, rfl⟩ := spelled
      cases entry with
      | star =>
        rw [if_neg (by simp [EntriesRead.admits_star_iff.1 admits])]
        rfl
      | property key value =>
        -- an entry with a key always holds an equals sign
        have member : '=' ∈ ['*'] := by
          rw [← star, ← text]
          simp [NameEntry.text]
        simp at member
  · rw [if_neg star, readProperty_eq_ok_iff]
    constructor
    · intro accepted
      obtain ⟨key, value, split, checked, admits, rfl⟩ := accepted
      obtain ⟨rfl, noEquals⟩ := splitFirst_eq_some split
      exact ⟨.property key value, rfl, (checks_iff_lawful noEquals contained).1 checked, admits, rfl⟩
    · intro spelled
      obtain ⟨entry, rfl, lawful, admits, rfl⟩ := spelled
      cases entry with
      | star => exact absurd rfl star
      | property key value =>
        have noEquals : '=' ∉ key := lawful.1.not_mem (by simp)
        exact ⟨key, value, splitFirst_append noEquals value,
          (checks_iff_lawful noEquals contained).2 lawful, admits, rfl⟩

theorem readEntries_eq_ok_iff {read final : EntriesRead} {pieces : List (List Char)}
    (contained : ∀ piece ∈ pieces, SelfContained piece) :
    readEntries read pieces = .ok final ↔
      ∃ entries : List NameEntry, entries.map NameEntry.text = pieces ∧
        (∀ entry ∈ entries, entry.Lawful) ∧ read.Admits entries ∧
        final = entries.foldl EntriesRead.add read := by
  induction pieces generalizing read with
  | nil =>
    constructor
    · intro done
      exact ⟨[], rfl, by simp, read.admits_nil, (Except.ok.inj done).symm⟩
    · intro spelled
      obtain ⟨entries, none, _, _, rfl⟩ := spelled
      obtain rfl := List.map_eq_nil_iff.1 none
      rfl
  | cons piece rest ih =>
    obtain ⟨pieceContained, restContained⟩ := List.forall_mem_cons.1 contained
    rw [readEntries, bind_eq_ok_iff]
    simp only [readEntry_eq_ok_iff pieceContained, ih restContained]
    constructor
    · intro run
      obtain ⟨_, ⟨entry, rfl, lawful, admits, rfl⟩, entries, rfl, allLawful, later, rfl⟩ := run
      exact ⟨entry :: entries, rfl, List.forall_mem_cons.2 ⟨lawful, allLawful⟩,
        EntriesRead.admits_cons_iff.2 ⟨admits, later⟩, rfl⟩
    · intro spelled
      obtain ⟨entries, equal, allLawful, admits, rfl⟩ := spelled
      obtain ⟨entry, others, rfl, rfl, rfl⟩ := List.map_eq_cons_iff.1 equal
      obtain ⟨lawful, othersLawful⟩ := List.forall_mem_cons.1 allLawful
      obtain ⟨here, later⟩ := EntriesRead.admits_cons_iff.1 admits
      exact ⟨_, ⟨entry, rfl, lawful, here, rfl⟩, others, rfl, othersLawful, later, rfl⟩

theorem NameEntry.text_ne_nil (entry : NameEntry) : entry.text ≠ [] := by
  cases entry with
  | star => simp [text]
  | property => simp [text]

namespace NameSpelling

/-- The list of entries is never empty text. -/
theorem list_ne_nil (spelling : NameSpelling) :
    [','].intercalate (spelling.entries.map NameEntry.text) ≠ [] := by
  obtain ⟨entry, rest, equal⟩ := List.exists_cons_of_ne_nil spelling.nonempty
  obtain ⟨c, text, first⟩ := List.exists_cons_of_ne_nil entry.text_ne_nil
  rw [equal, List.map_cons, first, List.intercalate_cons_cons_left]
  exact List.cons_ne_nil _ _

/-- No pattern is without properties and without an open end. -/
theorem pattern_nonempty (spelling : NameSpelling) :
    (spelling.pattern.properties.size = 0 && !spelling.pattern.openEnded) = false := by
  obtain ⟨entry, rest, equal⟩ := List.exists_cons_of_ne_nil spelling.nonempty
  cases entry with
  | star => simp [pattern, equal]
  | property => simp [pattern, equal, Properties.size]

theorem selfContained_of_mem (spelling : NameSpelling) :
    ∀ piece ∈ spelling.entries.map NameEntry.text, SelfContained piece := by
  intro piece member
  obtain ⟨entry, present, rfl⟩ := List.mem_map.1 member
  exact (spelling.lawful entry present).selfContained

theorem splitEntries_list (spelling : NameSpelling) :
    splitEntries ([','].intercalate (spelling.entries.map NameEntry.text)) =
      some (spelling.entries.map NameEntry.text) :=
  splitEntries_eq_some_iff.2 ⟨by simpa using spelling.nonempty, spelling.selfContained_of_mem, rfl⟩

theorem readEntries_entries (spelling : NameSpelling) :
    readEntries ⟨.empty, false⟩ (spelling.entries.map NameEntry.text) =
      .ok ⟨spelling.pattern.properties, spelling.pattern.openEnded⟩ := by
  rw [readEntries_eq_ok_iff spelling.selfContained_of_mem]
  refine ⟨spelling.entries, rfl, spelling.lawful, ⟨?_, spelling.distinct, ?_⟩, ?_⟩
  · simp [Properties.keys, Properties.empty]
  · simpa using spelling.one_star
  · rw [EntriesRead.foldl_add]
    simp [Properties.empty, pattern]

/-- Whatever follows the grammar is read as what it stands for. -/
theorem ofChars_text (spelling : NameSpelling) :
    NamePattern.ofChars spelling.text = .ok spelling.pattern := by
  have noNewline : spelling.domain.contains '\n' = false := by
    simpa using spelling.domain_plain.2
  unfold NamePattern.ofChars text
  rw [splitFirst_append spelling.domain_plain.1]
  simp only [noNewline, Bool.false_eq_true, if_false]
  rw [if_neg (by simpa using spelling.list_ne_nil), spelling.splitEntries_list]
  simp only [spelling.readEntries_entries, bind, Except.bind]
  rw [if_neg (by simpa using spelling.pattern_nonempty)]
  rfl

end NameSpelling

/-- Whatever is read follows the grammar. -/
theorem NamePattern.exists_spelling_of_ofChars {text : List Char} {pattern : NamePattern}
    (parsed : NamePattern.ofChars text = .ok pattern) :
    ∃ spelling : NameSpelling, spelling.text = text ∧ spelling.pattern = pattern := by
  unfold NamePattern.ofChars at parsed
  split at parsed
  · simp at parsed
  · rename_i domain list split
    obtain ⟨rfl, noColon⟩ := splitFirst_eq_some split
    split at parsed
    · simp at parsed
    · rename_i noNewline
      split at parsed
      · simp at parsed
      · split at parsed
        · simp at parsed
        · rename_i pieces cut
          obtain ⟨nonempty, contained, rfl⟩ := splitEntries_eq_some_iff.1 cut
          obtain ⟨read, run, accepted⟩ := bind_eq_ok_iff.1 parsed
          obtain ⟨entries, rfl, lawful, admits, rfl⟩ := (readEntries_eq_ok_iff contained).1 run
          rw [EntriesRead.foldl_add] at accepted
          split at accepted
          · simp at accepted
          · refine ⟨⟨domain, entries, ⟨noColon, by simpa using noNewline⟩, by simpa using nonempty,
              lawful, by simpa using admits.one_star, admits.distinct⟩, rfl, ?_⟩
            rw [← Except.ok.inj accepted]
            simp [NameSpelling.pattern, Properties.empty]

/-- The texts that are read as patterns are those of the grammar, each read as what it stands for. -/
theorem NamePattern.parse_eq_ok_iff {text : String} {pattern : NamePattern} :
    NamePattern.parse text = .ok pattern ↔
      ∃ spelling : NameSpelling, spelling.text = text.toList ∧ spelling.pattern = pattern := by
  unfold NamePattern.parse
  constructor
  · intro parsed
    split at parsed
    · simp at parsed
    · rename_i read
      rw [← Except.ok.inj parsed]
      exact exists_spelling_of_ofChars read
  · intro spelled
    obtain ⟨spelling, equal, rfl⟩ := spelled
    rw [← equal, spelling.ofChars_text]

theorem NamePattern.input_of_parse_eq_error {text : String} {error : NameError}
    (failed : NamePattern.parse text = .error error) : error.input = text := by
  unfold NamePattern.parse at failed
  split at failed
  · rw [← Except.error.inj failed]
  · simp at failed

/-- A text is accepted exactly when it follows the grammar. Any spelling of it says what has been
read: the domain, the properties as written and, where there is a star, an open end. A refusal shows
the text as it was given. -/
theorem parse_follows_grammar (text : String) :
    ((∃ pattern, NamePattern.parse text = .ok pattern) ↔
      ∃ spelling : NameSpelling, spelling.text = text.toList) ∧
    (∀ (pattern : NamePattern) (spelling : NameSpelling),
      NamePattern.parse text = .ok pattern → spelling.text = text.toList →
        pattern.domain = String.ofList spelling.domain ∧
        pattern.properties.entries = NameEntry.pairs spelling.entries ∧
        (pattern.openEnded = true ↔ .star ∈ spelling.entries)) ∧
    ∀ error, NamePattern.parse text = .error error → error.input = text := by
  refine ⟨⟨?_, ?_⟩, ?_, fun error => NamePattern.input_of_parse_eq_error⟩
  · intro accepted
    obtain ⟨pattern, parsed⟩ := accepted
    obtain ⟨spelling, equal, _⟩ := NamePattern.parse_eq_ok_iff.1 parsed
    exact ⟨spelling, equal⟩
  · intro spelled
    obtain ⟨spelling, equal⟩ := spelled
    exact ⟨spelling.pattern, NamePattern.parse_eq_ok_iff.2 ⟨spelling, equal, rfl⟩⟩
  · intro pattern spelling parsed equal
    have same := NamePattern.parse_eq_ok_iff.2 ⟨spelling, equal, rfl⟩
    obtain rfl : pattern = spelling.pattern := Except.ok.inj (parsed.symm.trans same)
    exact ⟨rfl, rfl, by simp [NameSpelling.pattern]⟩

/-- A quoted value with a comma and a hidden quote, behind a star. -/
theorem parse_follows_grammar_of_quoted :
    NamePattern.parse "d:*,k=\"a,\\\"=b\"" = .ok ⟨"d", ⟨[("k", "\"a,\\\"=b\"")]⟩, true⟩ ∧
      ∃ spelling : NameSpelling, spelling.text = "d:*,k=\"a,\\\"=b\"".toList ∧
        "d" = String.ofList spelling.domain ∧
        [("k", "\"a,\\\"=b\"")] = NameEntry.pairs spelling.entries ∧
        .star ∈ spelling.entries := by
  have read : NamePattern.parse "d:*,k=\"a,\\\"=b\"" =
      .ok ⟨"d", ⟨[("k", "\"a,\\\"=b\"")]⟩, true⟩ := rfl
  obtain ⟨spelling, equal⟩ := (parse_follows_grammar _).1.1 ⟨_, read⟩
  obtain ⟨domain, pairs, star⟩ := (parse_follows_grammar _).2.1 _ spelling read equal
  exact ⟨read, spelling, equal, domain, pairs, star.1 rfl⟩

end MetricQuery
