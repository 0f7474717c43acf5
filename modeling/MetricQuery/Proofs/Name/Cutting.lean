import MetricQuery.Proofs.Name.Splitting

namespace MetricQuery

/-- A reading of a text from left to right: a quote turns being inside quotes on and off, and a
backslash inside quotes hides the character after it. -/
structure QuoteScan where
  inQuotes : Bool
  escaped : Bool
deriving DecidableEq, Repr

namespace QuoteScan

def start : QuoteScan := ⟨false, false⟩

def next (scan : QuoteScan) (c : Char) : QuoteScan :=
  if scan.escaped then { scan with escaped := false }
  else if c = '\\' ∧ scan.inQuotes then { scan with escaped := true }
  else if c = '"' then { scan with inQuotes := !scan.inQuotes }
  else scan

def read (scan : QuoteScan) (text : List Char) : QuoteScan := text.foldl next scan

end QuoteScan

/-- Every quote of the text that is opened is also closed. -/
def OutsideQuotes (text : List Char) : Prop := (QuoteScan.start.read text).inQuotes = false

instance (text : List Char) : Decidable (OutsideQuotes text) :=
  inferInstanceAs (Decidable (_ = false))

namespace QuoteState

def scan : QuoteState → QuoteScan
  | .outside => ⟨false, false⟩
  | .inside => ⟨true, false⟩
  | .hidden => ⟨true, true⟩

theorem scan_next (state : QuoteState) (c : Char) : (state.next c).scan = state.scan.next c := by
  cases state with
  | outside =>
    by_cases quote : c = '"'
    · simp [next, scan, QuoteScan.next, quote]
    · simp [next, scan, QuoteScan.next, quote]
  | inside =>
    by_cases quote : c = '"'
    · simp [next, scan, QuoteScan.next, quote]
    by_cases backslash : c = '\\'
    · simp [next, scan, QuoteScan.next, backslash]
    · simp [next, scan, QuoteScan.next, quote, backslash]
  | hidden => simp [next, scan, QuoteScan.next]

theorem scan_after (state : QuoteState) (text : List Char) :
    (state.after text).scan = state.scan.read text := by
  induction text generalizing state with
  | nil => rfl
  | cons c rest ih =>
    rw [after_cons, ih, scan_next]
    rfl

end QuoteState

theorem outsideQuotes_iff_after {text : List Char} :
    OutsideQuotes text ↔ QuoteState.outside.after text = .outside := by
  have same : (QuoteState.outside.after text).scan = QuoteScan.start.read text :=
    QuoteState.scan_after .outside text
  rw [OutsideQuotes, ← same]
  cases QuoteState.outside.after text <;> decide

theorem selfContained_iff_outsideQuotes {text : List Char} :
    SelfContained text ↔ OutsideQuotes text ∧
      ∀ before after, text = before ++ ',' :: after → ¬OutsideQuotes before := by
  simp only [selfContained_iff_after, outsideQuotes_iff_after]

theorem splitEntries_eq_none_iff {text : List Char} :
    splitEntries text = none ↔ ¬OutsideQuotes text := by
  rw [outsideQuotes_iff_after, splitEntries]
  split <;> simp_all

theorem exists_splitEntries {text : List Char} (outside : OutsideQuotes text) :
    ∃ pieces, splitEntries text = some pieces :=
  Option.ne_none_iff_exists'.1 fun none => splitEntries_eq_none_iff.1 none outside

/-- A text is an entry of its own exactly when there is nothing to cut in it. -/
theorem splitEntries_eq_singleton_iff {text : List Char} :
    splitEntries text = some [text] ↔ SelfContained text := by
  simp [splitEntries_eq_some_iff]

theorem intercalate_append {α : Type} (separator : List α) {front back : List (List α)}
    (filled : front ≠ []) (filledBack : back ≠ []) :
    separator.intercalate (front ++ back) =
      separator.intercalate front ++ separator ++ separator.intercalate back := by
  induction front with
  | nil => exact absurd rfl filled
  | cons first others ih =>
    by_cases last : others = []
    · subst last
      rw [List.singleton_append, List.intercalate_cons_of_ne_nil filledBack,
        List.intercalate_singleton]
    · have more : others ++ back ≠ [] := List.append_ne_nil_of_left_ne_nil last back
      rw [List.cons_append, List.intercalate_cons_of_ne_nil more, ih last,
        List.intercalate_cons_of_ne_nil last]
      simp only [List.append_assoc]

/-- A comma outside quotes takes the two sides of a text apart. -/
theorem outsideQuotes_comma_iff {before after : List Char} (outside : OutsideQuotes before) :
    OutsideQuotes (before ++ ',' :: after) ↔ OutsideQuotes after := by
  rw [outsideQuotes_iff_after] at outside
  rw [outsideQuotes_iff_after, outsideQuotes_iff_after, QuoteState.after_append, outside,
    QuoteState.after_cons]
  rfl

/-- What stands on the two sides of a comma outside quotes is cut for itself. -/
theorem splitEntries_comma {before after : List Char} {front back : List (List Char)}
    (cutFront : splitEntries before = some front) (cutBack : splitEntries after = some back) :
    splitEntries (before ++ ',' :: after) = some (front ++ back) := by
  obtain ⟨filled, contained, rfl⟩ := splitEntries_eq_some_iff.1 cutFront
  obtain ⟨filledBack, containedBack, rfl⟩ := splitEntries_eq_some_iff.1 cutBack
  refine splitEntries_eq_some_iff.2 ⟨List.append_ne_nil_of_left_ne_nil filled back, ?_, ?_⟩
  · intro piece held
    rcases List.mem_append.1 held with inFront | inBack
    · exact contained piece inFront
    · exact containedBack piece inBack
  · rw [intercalate_append _ filled filledBack, List.append_assoc, List.singleton_append]

/-- The cuts of a text are exactly its commas outside quotes. -/
theorem cut_iff {text : List Char} {pieces : List (List Char)}
    (cut : splitEntries text = some pieces) (before after : List Char) :
    (text = before ++ ',' :: after ∧ OutsideQuotes before) ↔
      ∃ front back, pieces = front ++ back ∧ front ≠ [] ∧ back ≠ [] ∧
        [','].intercalate front = before ∧ [','].intercalate back = after := by
  constructor
  · rintro ⟨rfl, outside⟩
    have whole : OutsideQuotes (before ++ ',' :: after) := by
      by_contra inside
      rw [splitEntries_eq_none_iff.2 inside] at cut
      cases cut
    obtain ⟨front, cutFront⟩ := exists_splitEntries outside
    obtain ⟨back, cutBack⟩ := exists_splitEntries ((outsideQuotes_comma_iff outside).1 whole)
    rw [splitEntries_comma cutFront cutBack] at cut
    obtain ⟨filled, _, joined⟩ := splitEntries_eq_some_iff.1 cutFront
    obtain ⟨filledBack, _, joinedBack⟩ := splitEntries_eq_some_iff.1 cutBack
    exact ⟨front, back, (Option.some.inj cut).symm, filled, filledBack, joined, joinedBack⟩
  · rintro ⟨front, back, rfl, filled, filledBack, rfl, rfl⟩
    obtain ⟨_, contained, joined⟩ := splitEntries_eq_some_iff.1 cut
    have inFront := fun piece held => contained piece (List.mem_append_left back held)
    rw [intercalate_append _ filled filledBack, List.append_assoc, List.singleton_append] at joined
    exact ⟨joined.symm, outsideQuotes_iff_after.2 (segments_intercalate filled inFront).2⟩

/-- A text is cut unless it ends inside quotes. Nothing of it is lost, the cuts are its commas outside
quotes, and each piece stands for itself. Pieces that stand for themselves are found again when they
are joined. -/
theorem splitEntries_cuts_outside_quotes :
    (∀ text, splitEntries text = none ↔ ¬OutsideQuotes text) ∧
    (∀ text pieces, splitEntries text = some pieces →
      pieces ≠ [] ∧ [','].intercalate pieces = text ∧
      (∀ before after, (text = before ++ ',' :: after ∧ OutsideQuotes before) ↔
        ∃ front back, pieces = front ++ back ∧ front ≠ [] ∧ back ≠ [] ∧
          [','].intercalate front = before ∧ [','].intercalate back = after) ∧
      ∀ piece ∈ pieces, splitEntries piece = some [piece] ∧ OutsideQuotes piece ∧
        ∀ before after, piece = before ++ ',' :: after → ¬OutsideQuotes before) ∧
    ∀ pieces, pieces ≠ [] →
      (∀ piece ∈ pieces, OutsideQuotes piece ∧
        ∀ before after, piece = before ++ ',' :: after → ¬OutsideQuotes before) →
      splitEntries ([','].intercalate pieces) = some pieces := by
  refine ⟨fun text => splitEntries_eq_none_iff, ?_, ?_⟩
  · intro text pieces cut
    obtain ⟨filled, contained, joined⟩ := splitEntries_eq_some_iff.1 cut
    refine ⟨filled, joined, cut_iff cut, fun piece held => ?_⟩
    have own := contained piece held
    exact ⟨splitEntries_eq_singleton_iff.2 own, selfContained_iff_outsideQuotes.1 own⟩
  · intro pieces filled contained
    have own := fun piece held => selfContained_iff_outsideQuotes.2 (contained piece held)
    exact splitEntries_eq_some_iff.2 ⟨filled, own, rfl⟩

/-- A hidden quote before a comma inside quotes, a backslash outside them, an empty piece and a character
of several bytes. -/
theorem splitEntries_cuts_outside_quotes_of_hidden :
    splitEntries "k=\"a\\\",b\",l\\,,é".toList =
        some ["k=\"a\\\",b\"".toList, "l\\".toList, [], ['é']] ∧
      splitEntries "k=\"a\\\",b\"".toList = some ["k=\"a\\\",b\"".toList] ∧
      (∃ front back, ["k=\"a\\\",b\"".toList, "l\\".toList, [], ['é']] = front ++ back ∧
        front ≠ [] ∧ back ≠ [] ∧ [','].intercalate front = "k=\"a\\\",b\",l\\".toList ∧
        [','].intercalate back = ",é".toList) ∧
      splitEntries ([','].intercalate ["l\\".toList, []]) = some ["l\\".toList, []] := by
  have cut : splitEntries "k=\"a\\\",b\",l\\,,é".toList =
      some ["k=\"a\\\",b\"".toList, "l\\".toList, [], ['é']] := rfl
  obtain ⟨_, _, cuts, own⟩ := splitEntries_cuts_outside_quotes.2.1 _ _ cut
  refine ⟨cut, (own _ List.mem_cons_self).1, (cuts _ _).1 ⟨rfl, rfl⟩, ?_⟩
  refine splitEntries_cuts_outside_quotes.2.2 _ (List.cons_ne_nil _ _) fun piece held => ?_
  have known : piece = "l\\".toList ∨ piece = [] := by simpa using held
  have plain : ',' ∉ piece := by rcases known with rfl | rfl <;> decide
  refine ⟨by rcases known with rfl | rfl <;> rfl, fun before after same => ?_⟩
  exact absurd (same ▸ List.mem_append_right before List.mem_cons_self) plain

end MetricQuery
