import Mathlib.Data.List.Basic
import MetricQuery.Name.Pattern
import MetricQuery.Proofs.Name.Splitting

namespace MetricQuery

/-- What stands between two commas of a property list. -/
inductive NameEntry where
  | star
  | property (key value : List Char)
deriving DecidableEq, Repr

structure KeyText (key : List Char) : Prop where
  nonempty : key ≠ []
  plain : ∀ c ∈ key, c ∉ [':', '*', '?', '=', ',', '\n', '"']

structure PlainValue (value : List Char) : Prop where
  nonempty : value ≠ []
  plain : ∀ c ∈ value, c ∉ [':', '=', ',', '\n', '"']

structure QuotedValue (value : List Char) : Prop where
  opens : value.head? = some '"'
  ends : value.getLast? = some '"'
  contained : SelfContained value

namespace NameEntry

def text : NameEntry → List Char
  | .star => ['*']
  | .property key value => key ++ '=' :: value

def key? : NameEntry → Option (List Char)
  | .star => none
  | .property key _ => some key

def pair? : NameEntry → Option (String × String)
  | .star => none
  | .property key value => some (String.ofList key, String.ofList value)

def Lawful : NameEntry → Prop
  | .star => True
  | .property key value => KeyText key ∧ (PlainValue value ∨ QuotedValue value)

def keys (entries : List NameEntry) : List (List Char) := entries.filterMap key?

def pairs (entries : List NameEntry) : List (String × String) := entries.filterMap pair?

@[simp] theorem keys_nil : keys [] = [] := rfl

@[simp] theorem keys_star_cons (rest : List NameEntry) : keys (.star :: rest) = keys rest := rfl

@[simp] theorem keys_property_cons (key value : List Char) (rest : List NameEntry) :
    keys (.property key value :: rest) = key :: keys rest := rfl

@[simp] theorem keys_append (front back : List NameEntry) :
    keys (front ++ back) = keys front ++ keys back := by
  simp [keys]

@[simp] theorem pairs_nil : pairs [] = [] := rfl

@[simp] theorem pairs_star_cons (rest : List NameEntry) : pairs (.star :: rest) = pairs rest := rfl

@[simp] theorem pairs_property_cons (key value : List Char) (rest : List NameEntry) :
    pairs (.property key value :: rest) =
      (String.ofList key, String.ofList value) :: pairs rest := rfl

@[simp] theorem pairs_append (front back : List NameEntry) :
    pairs (front ++ back) = pairs front ++ pairs back := by
  simp [pairs]

end NameEntry

/-- The grammar of names: a domain and a list of entries that may be written with it. -/
structure NameSpelling where
  domain : List Char
  entries : List NameEntry
  domain_plain : ':' ∉ domain ∧ '\n' ∉ domain
  nonempty : entries ≠ []
  lawful : ∀ entry ∈ entries, entry.Lawful
  one_star : entries.count .star ≤ 1
  distinct : (NameEntry.keys entries).Nodup

namespace NameSpelling

def text (spelling : NameSpelling) : List Char :=
  spelling.domain ++ ':' :: [','].intercalate (spelling.entries.map NameEntry.text)

/-- The pattern that a spelling stands for. -/
def pattern (spelling : NameSpelling) : NamePattern where
  domain := String.ofList spelling.domain
  properties := ⟨NameEntry.pairs spelling.entries⟩
  openEnded := spelling.entries.contains .star

end NameSpelling

theorem KeyText.not_mem {key : List Char} (lawful : KeyText key) {c : Char}
    (special : c ∈ [':', '*', '?', '=', ',', '\n', '"']) : c ∉ key :=
  fun member => lawful.plain c member special

theorem PlainValue.not_mem {value : List Char} (lawful : PlainValue value) {c : Char}
    (special : c ∈ [':', '=', ',', '\n', '"']) : c ∉ value :=
  fun member => lawful.plain c member special

theorem checkKey_eq_ok_iff {key : List Char} :
    checkKey key = .ok () ↔ key ≠ [] ∧ ∀ c ∈ key, c ∉ [':', '*', '?', '"', '\n'] := by
  have legal : (key.any fun c => c = ':' || c = '*' || c = '?' || c = '"' || c = '\n') = false ↔
      ∀ c ∈ key, c ∉ [':', '*', '?', '"', '\n'] := by
    simp [and_assoc]
  unfold checkKey
  by_cases empty : key = []
  · simp [empty]
  rw [if_neg (by simpa using empty), ← legal]
  split
  · rename_i illegal
    simp [illegal]
  · rename_i plain
    simpa [empty] using plain

/-- A value passes if it opens and ends with two quotes, or if it is plain. -/
theorem checkValue_eq_ok_iff {key value : List Char} :
    checkValue key value = .ok () ↔
      (value.head? = some '"' ∧ value.getLast? = some '"' ∧ 2 ≤ value.length) ∨
        (value ≠ [] ∧ ∀ c ∈ value, c ∉ [':', '"', '=', '\n']) := by
  have closed : (value.length < 2 || value.getLast? != some '"') = false ↔
      value.getLast? = some '"' ∧ 2 ≤ value.length := by
    rw [Bool.or_eq_false_iff, decide_eq_false_iff_not, Nat.not_lt, bne_eq_false_iff_eq, and_comm]
  have legal : (value.any fun c => c = ':' || c = '"' || c = '=' || c = '\n') = false ↔
      ∀ c ∈ value, c ∉ [':', '"', '=', '\n'] := by
    simp [and_assoc]
  unfold checkValue
  by_cases empty : value = []
  · simp [empty]
  rw [if_neg (by simpa using empty), ← closed]
  by_cases opens : value.head? = some '"'
  · have quoted : ¬∀ c ∈ value, c ∉ [':', '"', '=', '\n'] := fun plain =>
      plain '"' (List.mem_of_head? opens) (by simp)
    rw [if_pos opens, and_iff_right opens, or_iff_left fun plain => quoted plain.2]
    split
    · rename_i bad
      rw [bad]
      simp
    · rename_i ends
      exact ⟨fun _ => Bool.eq_false_iff.2 ends, fun _ => rfl⟩
  · rw [if_neg opens, ← legal]
    split
    · rename_i illegal
      simp [opens, illegal]
    · rename_i plain
      simpa [opens, empty] using plain

/-- A single quote cannot both open and end a value. -/
theorem QuotedValue.two_le_length {value : List Char} (quoted : QuotedValue value) :
    2 ≤ value.length := by
  obtain ⟨opens, _, contained⟩ := quoted
  rcases value with _ | ⟨c, _ | ⟨d, rest⟩⟩
  · simp at opens
  · obtain rfl : c = '"' := by simpa using opens
    exact absurd contained.after_eq (by decide)
  · simp

theorem PlainValue.selfContained {value : List Char} (lawful : PlainValue value) :
    SelfContained value :=
  (selfContained_iff_of_unquoted (lawful.not_mem (by simp))).2 (lawful.not_mem (by simp))

theorem NameEntry.Lawful.selfContained {entry : NameEntry} (lawful : entry.Lawful) :
    SelfContained entry.text := by
  cases entry with
  | star => exact (selfContained_iff_of_unquoted (by decide)).2 (by decide)
  | property key value =>
    obtain ⟨keyText, valueText⟩ := lawful
    have front : '"' ∉ key ++ ['='] := by simpa using keyText.not_mem (c := '"') (by simp)
    have comma : ',' ∉ key ++ ['='] := by simpa using keyText.not_mem (c := ',') (by simp)
    have contained : SelfContained value := valueText.elim (·.selfContained) (·.contained)
    simpa [text] using (selfContained_append_iff front).2 ⟨comma, contained⟩

theorem checkKey_iff_keyText {key : List Char} (noEquals : '=' ∉ key) (noComma : ',' ∉ key) :
    checkKey key = .ok () ↔ KeyText key := by
  rw [checkKey_eq_ok_iff]
  constructor
  · intro checked
    refine ⟨checked.1, ?_⟩
    intro c member special
    have legal := checked.2 c member
    have notEquals : c ≠ '=' := by
      rintro rfl
      exact noEquals member
    have notComma : c ≠ ',' := by
      rintro rfl
      exact noComma member
    simp_all
  · intro keyText
    refine ⟨keyText.nonempty, ?_⟩
    intro c member special
    exact keyText.plain c member (by simp at special ⊢; tauto)

theorem checkValue_iff_of_selfContained {key value : List Char} (contained : SelfContained value) :
    checkValue key value = .ok () ↔ PlainValue value ∨ QuotedValue value := by
  rw [checkValue_eq_ok_iff]
  constructor
  · intro checked
    rcases checked with ⟨opens, ends, _⟩ | ⟨nonempty, legal⟩
    · exact Or.inr ⟨opens, ends, contained⟩
    · have unquoted : '"' ∉ value := fun member => legal '"' member (by simp)
      have noComma := (selfContained_iff_of_unquoted unquoted).1 contained
      refine Or.inl ⟨nonempty, ?_⟩
      intro c member special
      have legalHere := legal c member
      have notComma : c ≠ ',' := by
        rintro rfl
        exact noComma member
      simp_all
  · intro lawful
    rcases lawful with plain | quoted
    · refine Or.inr ⟨plain.nonempty, ?_⟩
      intro c member special
      exact plain.plain c member (by simp at special ⊢; tauto)
    · exact Or.inl ⟨quoted.opens, quoted.ends, quoted.two_le_length⟩

/-- For an entry that has been cut out of a list, the checks on key and value come to the grammar. -/
theorem checks_iff_lawful {key value : List Char} (noEquals : '=' ∉ key)
    (contained : SelfContained (key ++ '=' :: value)) :
    checkKey key = .ok () ∧ checkValue key value = .ok () ↔
      (NameEntry.property key value).Lawful := by
  constructor
  · intro checked
    obtain ⟨keyChecked, valueChecked⟩ := checked
    have noQuote : '"' ∉ key ++ ['='] := by
      simpa using fun member => (checkKey_eq_ok_iff.1 keyChecked).2 '"' member (by simp)
    have split : SelfContained ((key ++ ['=']) ++ value) := by simpa using contained
    obtain ⟨noComma, valueContained⟩ := (selfContained_append_iff noQuote).1 split
    have noCommaInKey : ',' ∉ key := fun member => noComma (List.mem_append_left _ member)
    exact ⟨(checkKey_iff_keyText noEquals noCommaInKey).1 keyChecked,
      (checkValue_iff_of_selfContained valueContained).1 valueChecked⟩
  · intro lawful
    obtain ⟨keyText, valueText⟩ := lawful
    have valueContained : SelfContained value := valueText.elim (·.selfContained) (·.contained)
    exact ⟨(checkKey_iff_keyText noEquals (keyText.not_mem (by simp))).2 keyText,
      (checkValue_iff_of_selfContained valueContained).2 valueText⟩

end MetricQuery
