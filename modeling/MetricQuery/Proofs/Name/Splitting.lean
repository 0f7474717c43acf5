import Mathlib.Data.List.Basic
import MetricQuery.Name.Quoting

namespace MetricQuery

/-- What may follow in each state up to the end of an entry of a list. Outside quotes there is no
rule for a comma, and only outside them may the text end. -/
inductive QuoteState.Closes : QuoteState → List Char → Prop
  | done : Closes .outside []
  | plain {c rest} : c ≠ '"' → c ≠ ',' → Closes .outside rest → Closes .outside (c :: rest)
  | opening {rest} : Closes .inside rest → Closes .outside ('"' :: rest)
  | quoted {c rest} : c ≠ '"' → c ≠ '\\' → Closes .inside rest → Closes .inside (c :: rest)
  | escape {rest} : Closes .hidden rest → Closes .inside ('\\' :: rest)
  | escaped {c rest} : Closes .inside rest → Closes .hidden (c :: rest)
  | closing {rest} : Closes .outside rest → Closes .inside ('"' :: rest)

/-- A text that can stand as one entry of a list. -/
def SelfContained (text : List Char) : Prop := QuoteState.outside.Closes text

namespace QuoteState

theorem closes_nil_iff {state : QuoteState} : state.Closes [] ↔ state = .outside := by
  constructor
  · intro closes
    cases closes
    rfl
  · intro outside
    rw [outside]
    exact .done

/-- The states follow the rules. -/
theorem closes_cons_iff {state : QuoteState} {c : Char} {rest : List Char} :
    state.Closes (c :: rest) ↔ (c = ',' → state ≠ .outside) ∧ (state.next c).Closes rest := by
  constructor
  · intro closes
    cases closes with
    | plain notQuote notComma closes =>
      refine ⟨fun comma => absurd comma notComma, ?_⟩
      rwa [next, if_neg notQuote]
    | opening closes => exact ⟨by simp, closes⟩
    | quoted notQuote notBackslash closes =>
      refine ⟨by simp, ?_⟩
      rwa [next, if_neg notQuote, if_neg notBackslash]
    | escape closes => exact ⟨by simp, closes⟩
    | escaped closes => exact ⟨by simp, closes⟩
    | closing closes => exact ⟨by simp, closes⟩
  · intro both
    obtain ⟨inside, closes⟩ := both
    cases state with
    | outside =>
      by_cases quote : c = '"'
      · subst quote
        exact .opening closes
      · rw [next, if_neg quote] at closes
        exact .plain quote (fun comma => inside comma rfl) closes
    | inside =>
      by_cases quote : c = '"'
      · subst quote
        exact .closing closes
      by_cases backslash : c = '\\'
      · subst backslash
        exact .escape closes
      · rw [next, if_neg quote, if_neg backslash] at closes
        exact .quoted quote backslash closes
    | hidden => exact .escaped closes

theorem after_cons (state : QuoteState) (c : Char) (rest : List Char) :
    state.after (c :: rest) = (state.next c).after rest := rfl

theorem Closes.after_eq {state : QuoteState} {text : List Char} (closes : state.Closes text) :
    state.after text = .outside := by
  induction text generalizing state with
  | nil => exact closes_nil_iff.1 closes
  | cons c rest ih => exact ih (closes_cons_iff.1 closes).2

theorem Closes.comma_inside {state : QuoteState} {before after : List Char}
    (closes : state.Closes (before ++ ',' :: after)) : state.after before ≠ .outside := by
  induction before generalizing state with
  | nil => exact (closes_cons_iff.1 closes).1 rfl
  | cons c rest ih => exact ih (closes_cons_iff.1 closes).2

theorem closes_of_commas_inside {state : QuoteState} {text : List Char}
    (outside : state.after text = .outside)
    (commas : ∀ before after, text = before ++ ',' :: after → state.after before ≠ .outside) :
    state.Closes text := by
  induction text generalizing state with
  | nil => exact closes_nil_iff.2 outside
  | cons c rest ih =>
    refine closes_cons_iff.2 ⟨?_, ih outside ?_⟩
    · rintro rfl
      exact commas [] rest rfl
    · rintro before after rfl
      exact commas (c :: before) after rfl

end QuoteState

/-- Read from outside quotes, an entry ends outside them and has all its commas inside. -/
theorem selfContained_iff_after {text : List Char} :
    SelfContained text ↔ QuoteState.outside.after text = .outside ∧
      ∀ before after, text = before ++ ',' :: after →
        QuoteState.outside.after before ≠ .outside := by
  constructor
  · intro closes
    refine ⟨closes.after_eq, ?_⟩
    rintro before after rfl
    exact closes.comma_inside
  · intro read
    exact QuoteState.closes_of_commas_inside read.1 read.2

/-- Text without quotes in front only adds commas that would be met outside quotes. -/
theorem selfContained_append_iff {unquoted text : List Char} (plain : '"' ∉ unquoted) :
    SelfContained (unquoted ++ text) ↔ ',' ∉ unquoted ∧ SelfContained text := by
  unfold SelfContained
  induction unquoted with
  | nil => simp
  | cons c rest ih =>
    simp only [List.mem_cons, not_or] at plain
    have stays : QuoteState.outside.next c = .outside := if_neg (Ne.symm plain.1)
    rw [List.cons_append, QuoteState.closes_cons_iff, stays, ih plain.2]
    simp only [List.mem_cons, not_or, ne_eq, not_true_eq_false, imp_false, and_assoc, eq_comm]

theorem selfContained_nil : SelfContained [] := .done

theorem selfContained_iff_of_unquoted {text : List Char} (plain : '"' ∉ text) :
    SelfContained text ↔ ',' ∉ text := by
  have alone : SelfContained (text ++ []) ↔ ',' ∉ text ∧ SelfContained [] :=
    selfContained_append_iff plain
  simpa [selfContained_nil] using alone

theorem segments_cons (state : QuoteState) (c : Char) (rest : List Char) :
    segments state (c :: rest) =
      if c = ',' ∧ state = .outside then [] :: segments .outside rest
      else extendFirst c (segments (state.next c) rest) := rfl

theorem segments_ne_nil (state : QuoteState) (text : List Char) : segments state text ≠ [] := by
  cases text with
  | nil => simp [segments]
  | cons c rest =>
    unfold segments
    split
    · simp
    · cases segments (state.next c) rest <;> simp [extendFirst]

/-- Cutting loses nothing. -/
theorem intercalate_segments (state : QuoteState) (text : List Char) :
    [','].intercalate (segments state text) = text := by
  induction text generalizing state with
  | nil => simp [segments, List.intercalate]
  | cons c rest ih =>
    rw [segments_cons]
    split
    · rename_i cut
      rw [List.intercalate_cons_of_ne_nil (segments_ne_nil _ _), ih, cut.1]
      rfl
    · have joined := ih (state.next c)
      obtain ⟨first, others, cutRest⟩ :=
        List.exists_cons_of_ne_nil (segments_ne_nil (state.next c) rest)
      rw [cutRest] at joined ⊢
      rw [extendFirst, List.intercalate_cons_cons_left, joined]

/-- The first piece of a cut closes what was open before it, and the others stand for themselves. -/
theorem closes_of_segments_eq {state : QuoteState} {text first : List Char}
    {others : List (List Char)} (outside : state.after text = .outside)
    (cut : segments state text = first :: others) :
    state.Closes first ∧ ∀ piece ∈ others, SelfContained piece := by
  induction text generalizing state first others with
  | nil =>
    obtain rfl : state = .outside := outside
    simp only [segments, List.cons.injEq, List.nil_eq] at cut
    obtain ⟨rfl, rfl⟩ := cut
    exact ⟨.done, by simp⟩
  | cons c rest ih =>
    rw [segments_cons] at cut
    split at cut
    · rename_i comma
      obtain ⟨rfl, rfl⟩ := comma
      obtain ⟨rfl, rfl⟩ := List.cons.inj cut
      obtain ⟨head, tail, cutRest⟩ := List.exists_cons_of_ne_nil (segments_ne_nil .outside rest)
      obtain ⟨closes, contained⟩ := ih outside cutRest
      refine ⟨.done, ?_⟩
      rw [cutRest, List.forall_mem_cons]
      exact ⟨closes, contained⟩
    · rename_i other
      obtain ⟨head, tail, cutRest⟩ :=
        List.exists_cons_of_ne_nil (segments_ne_nil (state.next c) rest)
      rw [cutRest] at cut
      obtain ⟨rfl, rfl⟩ := List.cons.inj cut
      obtain ⟨closes, contained⟩ := ih outside cutRest
      exact ⟨QuoteState.closes_cons_iff.2 ⟨fun comma stays => other ⟨comma, stays⟩, closes⟩, contained⟩

theorem QuoteState.Closes.segments_eq {state : QuoteState} {piece : List Char}
    (closes : state.Closes piece) : segments state piece = [piece] := by
  induction piece generalizing state with
  | nil => rfl
  | cons c rest ih =>
    obtain ⟨inside, closes⟩ := QuoteState.closes_cons_iff.1 closes
    rw [segments_cons, if_neg fun cut => inside cut.1 cut.2, ih closes]
    rfl

theorem QuoteState.Closes.segments_append {state : QuoteState} {piece : List Char}
    (closes : state.Closes piece) (rest : List Char) :
    segments state (piece ++ ',' :: rest) = piece :: segments .outside rest := by
  induction piece generalizing state with
  | nil =>
    obtain rfl := QuoteState.closes_nil_iff.1 closes
    simp [segments]
  | cons c others ih =>
    obtain ⟨inside, closes⟩ := QuoteState.closes_cons_iff.1 closes
    rw [List.cons_append, segments_cons, if_neg fun cut => inside cut.1 cut.2, ih closes]
    rfl

/-- Joining self-contained pieces and cutting again gives the pieces back. -/
theorem segments_intercalate {pieces : List (List Char)} (nonempty : pieces ≠ [])
    (contained : ∀ piece ∈ pieces, SelfContained piece) :
    segments .outside ([','].intercalate pieces) = pieces ∧
      QuoteState.outside.after ([','].intercalate pieces) = .outside := by
  induction pieces with
  | nil => exact absurd rfl nonempty
  | cons piece others ih =>
    have closes : QuoteState.outside.Closes piece := contained piece (List.mem_cons_self ..)
    by_cases last : others = []
    · subst last
      rw [List.intercalate_singleton]
      exact ⟨closes.segments_eq, closes.after_eq⟩
    · obtain ⟨cut, outside⟩ := ih last
        fun other member => contained other (List.mem_cons_of_mem _ member)
      rw [List.intercalate_cons_of_ne_nil last, List.append_assoc, List.singleton_append]
      refine ⟨by rw [closes.segments_append, cut], ?_⟩
      rw [QuoteState.after_append, closes.after_eq, QuoteState.after_cons]
      exact outside

/-- A list is cut into given entries exactly when it joins them and each is self-contained. -/
theorem splitEntries_eq_some_iff {text : List Char} {pieces : List (List Char)} :
    splitEntries text = some pieces ↔
      pieces ≠ [] ∧ (∀ piece ∈ pieces, SelfContained piece) ∧ [','].intercalate pieces = text := by
  unfold splitEntries
  constructor
  · intro cut
    split at cut
    · rename_i outside
      obtain rfl : segments .outside text = pieces := Option.some.inj cut
      refine ⟨segments_ne_nil _ _, ?_, intercalate_segments _ _⟩
      obtain ⟨first, others, equal⟩ := List.exists_cons_of_ne_nil (segments_ne_nil .outside text)
      obtain ⟨closes, contained⟩ := closes_of_segments_eq outside equal
      rw [equal, List.forall_mem_cons]
      exact ⟨closes, contained⟩
    · simp at cut
  · intro joined
    obtain ⟨nonempty, contained, rfl⟩ := joined
    obtain ⟨cut, outside⟩ := segments_intercalate nonempty contained
    rw [if_pos outside, cut]

end MetricQuery
