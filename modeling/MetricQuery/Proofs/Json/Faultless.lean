import Mathlib.Data.List.TakeWhile
import MetricQuery.Proofs.Json.Reading

namespace MetricQuery.Json

theorem span_eq {p : Char → Bool} {input run rest : List Char}
    (split : input.span p = (run, rest)) :
    (∀ c ∈ run, p c = true) ∧ run ++ rest = input := by
  rw [List.span_eq_takeWhile_dropWhile] at split
  obtain ⟨rfl, rfl⟩ := Prod.mk.inj split
  exact ⟨fun c held => List.mem_takeWhile_imp held, List.takeWhile_append_dropWhile⟩

theorem takeBlanks_eq {input blanks rest : List Char} (split : takeBlanks input = (blanks, rest)) :
    Blanks blanks ∧ blanks ++ rest = input := span_eq split

section Skip

theorem Spelling.skip_eq_ok_iff {spelling : Spelling} :
    spelling.skip = .ok () ↔ spelling.fault = none := by
  rw [skip]
  cases spelling.fault <;> simp

theorem Node.skip_string_iff {spelling : Spelling} :
    (Node.string spelling).skip = .ok () ↔ spelling.fault = none := by
  rw [skip, Spelling.skip_eq_ok_iff]

theorem Node.skip_array_iff {items : Items} :
    (Node.array items).skip = .ok () ↔ items.skip = .ok () := by
  rw [skip, after_eq_ok_iff]

theorem Node.skip_object_iff {members : Members} :
    (Node.object members).skip = .ok () ↔ members.skip = .ok () := by
  rw [skip, after_eq_ok_iff]

@[simp] theorem Node.skip_broken (bytes : Nat) (fault : Fault) :
    (Node.broken bytes fault).skip ≠ .ok () := by
  simp [skip]

theorem Items.skip_done_iff {ending : Ending} :
    (Items.done ending).skip = .ok () ↔ ending.fault = none := by
  rw [skip]
  cases ending.fault <;> simp

theorem Members.skip_done_iff {ending : Ending} :
    (Members.done ending).skip = .ok () ↔ ending.fault = none := by
  rw [skip]
  cases ending.fault <;> simp

variable {before blanks : List Char} {value : Node}

theorem Items.skip_item_iff {rest : Items} :
    (Items.item before value blanks rest).skip = .ok () ↔
      value.skip = .ok () ∧ rest.skip = .ok () := by
  simp only [skip, bind_unit_eq_ok_iff, after_eq_ok_iff]

theorem Members.skip_member_iff {key : MemberKey} {rest : Members} :
    (Members.member key value blanks rest).skip = .ok () ↔
      key.key.fault = none ∧ value.skip = .ok () ∧ rest.skip = .ok () := by
  simp only [skip, bind_unit_eq_ok_iff, after_eq_ok_iff, Spelling.skip_eq_ok_iff]

end Skip

/-- A node that has been scanned from an input. If it can be passed over it keeps to the grammar, and
its text is what the scan has taken from the input. -/
def Scanned (input : List Char) (read : Node × List Char) : Prop :=
  read.1.skip = .ok () → read.1.Sound ∧ read.1.text ++ read.2 = input

theorem scanned_broken (input : List Char) (bytes : Nat) (fault : Fault) (rest : List Char) :
    Scanned input (.broken bytes fault, rest) :=
  fun skipped => absurd skipped (Node.skip_broken _ _)

theorem scanLetters_scanned (word : Word) (front letters input : List Char) (read : Nat)
    (whole : word.text = front ++ letters) :
    Scanned (front ++ input) (scanLetters word read letters input) := by
  induction letters generalizing front input read with
  | nil =>
    intro _
    rw [scanLetters, Node.text, whole, List.append_nil]
    exact ⟨.word word, rfl⟩
  | cons wanted letters ih =>
    cases input with
    | nil => exact scanned_broken _ _ _ _
    | cons c input =>
      rw [scanLetters]
      split
      · rename_i same
        have longer := ih (front ++ [wanted]) input (read + 1) (by simp [whole])
        rwa [List.append_assoc, List.singleton_append, ← same] at longer
      · exact scanned_broken _ _ _ _

theorem scanWord_scanned (word : Word) (input : List Char) :
    Scanned input (scanWord word input) :=
  scanLetters_scanned word [] word.text input 0 rfl

section Numerals

variable {numeral : Numeral}

theorem isDigits_of_span {input digits rest : List Char}
    (split : input.span isDigit = (digits, rest)) (filled : ¬digits.isEmpty = true) :
    IsDigits digits :=
  ⟨fun none => filled (List.isEmpty_iff.2 none), (span_eq split).1⟩

theorem scanned_number (sound : numeral.Sound) (input : List Char) :
    Scanned (numeral.text ++ input) (.number numeral, input) := fun _ => ⟨.number sound, rfl⟩

theorem scanned_exponent (sound : numeral.Sound) (absent : numeral.exponent = none) {mark : Char}
    (marks : mark = 'e' ∨ mark = 'E') (sign : Option Char) (signs : ∀ c ∈ sign, c = '+' ∨ c = '-')
    {input digits rest : List Char} (split : input.span isDigit = (digits, rest))
    (filled : ¬digits.isEmpty = true) :
    Scanned (numeral.text ++ mark :: (sign.toList ++ input))
      (.number { numeral with exponent := some ⟨mark, sign, digits⟩ }, rest) := by
  have exponent : Exponent.Sound ⟨mark, sign, digits⟩ :=
    ⟨marks, signs, isDigits_of_span split filled⟩
  have whole : Numeral.Sound { numeral with exponent := some ⟨mark, sign, digits⟩ } :=
    ⟨sound.whole, sound.noLeadingZero, sound.fraction, by
      rintro _ ⟨⟩
      exact exponent⟩
  intro _
  refine ⟨.number whole, ?_⟩
  rw [← (span_eq split).2]
  simp [Node.text, Numeral.text, Numeral.mantissaText, Exponent.text, absent]

theorem scanExponent_scanned (sound : numeral.Sound) (absent : numeral.exponent = none)
    (input : List Char) : Scanned (numeral.text ++ input) (scanExponent numeral input) := by
  cases input with
  | nil => exact scanned_number sound []
  | cons mark rest =>
    simp only [scanExponent]
    by_cases marks : mark = 'e' ∨ mark = 'E'
    · rw [if_pos marks]
      cases rest with
      | nil => exact scanned_broken _ _ _ _
      | cons c more =>
        by_cases signs : c = '+' ∨ c = '-'
        · simp only [if_pos signs]
          rcases split : more.span isDigit with ⟨digits, remaining⟩
          by_cases empty : digits.isEmpty = true
          · simp only [if_pos empty]
            exact scanned_broken _ _ _ _
          · simp only [if_neg empty]
            exact scanned_exponent sound absent marks (some c) (by simpa using signs) split empty
        · simp only [if_neg signs]
          rcases split : (c :: more).span isDigit with ⟨digits, remaining⟩
          by_cases empty : digits.isEmpty = true
          · simp only [if_pos empty]
            exact scanned_broken _ _ _ _
          · simp only [if_neg empty]
            exact scanned_exponent sound absent marks none (by simp) split empty
    · rw [if_neg marks]
      exact scanned_number sound _

theorem scanFraction_scanned (sound : numeral.Sound) (noFraction : numeral.fraction = none)
    (noExponent : numeral.exponent = none) (input : List Char) :
    Scanned (numeral.text ++ input) (scanFraction numeral input) := by
  rw [scanFraction.eq_def]
  split
  · rename_i rest
    rcases split : rest.span isDigit with ⟨digits, remaining⟩
    by_cases empty : digits.isEmpty = true
    · simp only [if_pos empty]
      exact scanned_broken _ _ _ _
    · simp only [if_neg empty]
      have digitsSound := isDigits_of_span split empty
      have partSound : Numeral.Sound { numeral with fraction := some digits } :=
        ⟨sound.whole, sound.noLeadingZero, by rintro _ ⟨⟩; exact digitsSound, sound.exponent⟩
      have scanned := scanExponent_scanned partSound noExponent remaining
      have same : Numeral.text { numeral with fraction := some digits } ++ remaining =
          numeral.text ++ '.' :: rest := by
        rw [← (span_eq split).2]
        simp [Numeral.text, Numeral.mantissaText, noFraction, noExponent]
      rwa [same] at scanned
  · exact scanExponent_scanned sound noExponent input

theorem scanned_whole (negative : Bool) {whole : List Char} (digits : IsDigits whole)
    (noLeadingZero : whole.head? = some '0' → whole = ['0']) (input : List Char) :
    Scanned ((if negative then ['-'] else []) ++ (whole ++ input))
      (scanFraction ⟨negative, whole, none, none⟩ input) := by
  have sound : Numeral.Sound ⟨negative, whole, none, none⟩ :=
    ⟨digits, noLeadingZero, by simp, by simp⟩
  have scanned := scanFraction_scanned sound rfl rfl input
  simpa [Numeral.text, Numeral.mantissaText] using scanned

theorem scanNumeral_scanned (negative : Bool) (input : List Char) :
    Scanned ((if negative then ['-'] else []) ++ input) (scanNumeral negative input) := by
  cases input with
  | nil => exact scanned_broken _ _ _ _
  | cons c rest =>
    by_cases zero : c = '0'
    · subst zero
      have alone : IsDigits ['0'] := ⟨by simp, List.forall_mem_singleton.2 rfl⟩
      have scanned := scanned_whole negative alone (fun _ => rfl) rest
      cases rest with
      | nil => exact scanned
      | cons d more =>
        simp only [scanNumeral, List.head?_cons]
        by_cases digit : isDigit d = true
        · rw [if_pos digit]
          exact scanned_broken _ _ _ _
        · rw [if_neg digit]
          exact scanned
    · rw [scanNumeral.eq_3 negative c rest zero]
      by_cases digit : isDigit c = true
      · rw [if_pos digit]
        rcases split : (c :: rest).span isDigit with ⟨digits, remaining⟩
        obtain ⟨others, same⟩ : ∃ others, digits = c :: others := by
          rw [List.span_eq_takeWhile_dropWhile, List.takeWhile_cons_of_pos digit] at split
          exact ⟨_, (Prod.mk.inj split).1.symm⟩
        have filled : ¬digits.isEmpty = true := by simp [same]
        have noZero : digits.head? = some '0' → digits = ['0'] := fun head =>
          absurd (by simpa [same] using head) zero
        rw [← (span_eq split).2]
        exact scanned_whole negative (isDigits_of_span split filled) noZero remaining
      · rw [if_neg digit]
        exact scanned_broken _ _ _ _

end Numerals

/-- A string that has been scanned from an input: if it has no fault it keeps to the grammar, and
together with its closing quote it is what the scan has taken from the input. -/
def ScannedString (input : List Char) (read : Spelling × List Char) : Prop :=
  read.1.fault = none →
    read.1.Sound ∧ read.1.pieces.flatMap Piece.text ++ '"' :: read.2 = input

theorem ScannedString.cons {input : List Char} {read : Spelling × List Char}
    (scanned : ScannedString input read) {piece : Piece} (sound : piece.Sound) :
    ScannedString (piece.text ++ input) (Spelling.consRead piece read) := by
  intro whole
  obtain ⟨others, same⟩ := scanned whole
  refine ⟨⟨List.forall_mem_cons.2 ⟨sound, others.pieces⟩, whole⟩, ?_⟩
  rw [← same]
  simp [Spelling.consRead]

theorem scanString_scanned (input : List Char) : ScannedString input (scanString input) := by
  fun_induction scanString input with
  | case2 rest =>
    intro _
    exact ⟨⟨by simp, rfl⟩, rfl⟩
  | case3 a b c d rest hex spelling remaining read ih =>
    simp only [Bool.and_eq_true] at hex
    rw [read] at ih
    exact ih.cons (.unit hex.1.1.1 hex.1.1.2 hex.1.2 hex.2)
  | case7 c rest _ _ known spelling remaining read ih =>
    rw [read] at ih
    exact ih.cons (.short known)
  | case10 c rest noQuote _ _ noEnd noEscape visible spelling remaining read ih =>
    rw [read] at ih
    have plain : c ≠ '\\' := by
      intro same
      cases rest with
      | nil => exact noEnd same rfl
      | cons d more => exact noEscape d more same rfl
    exact ih.cons (.plain noQuote plain (Nat.not_lt.1 visible))
  | _ =>
    intro whole
    cases whole

/-- The items that have been scanned from an input, with their closing bracket. After a comma there
is at least one of them. -/
def ScannedItems (later : Bool) (input : List Char) (read : Items × List Char) : Prop :=
  read.1.skip = .ok () → read.1.Sound later ∧ (later = true → read.1.hasComma = true) ∧
    read.1.text ++ read.2 = input

def ScannedMembers (later : Bool) (input : List Char) (read : Members × List Char) : Prop :=
  read.1.skip = .ok () → read.1.Sound later ∧ (later = true → read.1.hasComma = true) ∧
    read.1.text ++ read.2 = input

section Containers

variable {later : Bool} {before blanks start next rest : List Char} {value : Node}

theorem scannedItems_done {ending : Ending} {input : List Char} (fault : ending.fault ≠ none) :
    ScannedItems later input (.done ending, rest) := fun skipped =>
  absurd (Items.skip_done_iff.1 skipped) fault

theorem scannedItems_item {items : Items} (blank : Blanks before)
    (scanned : Scanned start (value, blanks ++ next)) (gap : Blanks blanks)
    (others : items.skip = .ok () →
      items.Sound true ∧ comma items.hasComma ++ (items.text ++ rest) = next) :
    ScannedItems later (before ++ start) (.item before value blanks items, rest) := by
  intro skipped
  obtain ⟨here, more⟩ := Items.skip_item_iff.1 skipped
  obtain ⟨sound, same⟩ := scanned here
  obtain ⟨soundRest, sameRest⟩ := others more
  refine ⟨.item blank sound gap soundRest, fun _ => rfl, ?_⟩
  rw [← same, ← sameRest]
  simp [Items.text]

theorem scannedItems_next {items : Items} (blank : Blanks before)
    (scanned : Scanned start (value, blanks ++ ',' :: next)) (gap : Blanks blanks)
    (others : ScannedItems true next (items, rest)) :
    ScannedItems later (before ++ start) (.item before value blanks items, rest) := by
  refine scannedItems_item blank scanned gap fun skipped => ?_
  obtain ⟨sound, more, same⟩ := others skipped
  rw [more rfl]
  exact ⟨sound, congrArg (',' :: ·) same⟩

theorem scannedItems_last (blank : Blanks before)
    (scanned : Scanned start (value, blanks ++ ']' :: rest)) (gap : Blanks blanks) :
    ScannedItems later (before ++ start)
      (.item before value blanks (.done (.closed [])), rest) :=
  scannedItems_item blank scanned gap fun _ => ⟨.last, rfl⟩

theorem scannedItems_broken {items : Items} {input : List Char} (fault : items.skip ≠ .ok ()) :
    ScannedItems later input (.item before value blanks items, rest) := fun skipped =>
  absurd (Items.skip_item_iff.1 skipped).2 fault

variable {afterKey gap keyText : List Char} {key : Spelling}

theorem scannedMembers_done {ending : Ending} {input : List Char} (fault : ending.fault ≠ none) :
    ScannedMembers later input (.done ending, rest) := fun skipped =>
  absurd (Members.skip_done_iff.1 skipped) fault

theorem scannedMembers_member {members : Members} (blank : Blanks before)
    (spelled : ScannedString keyText (key, afterKey ++ ':' :: (gap ++ start)))
    (blankKey : Blanks afterKey) (blankGap : Blanks gap)
    (scanned : Scanned start (value, blanks ++ next)) (blankEnd : Blanks blanks)
    (others : members.skip = .ok () →
      members.Sound true ∧ comma members.hasComma ++ (members.text ++ rest) = next) :
    ScannedMembers later (before ++ '"' :: keyText)
      (.member ⟨before, key, afterKey, some gap⟩ value blanks members, rest) := by
  intro skipped
  obtain ⟨whole, here, more⟩ := Members.skip_member_iff.1 skipped
  obtain ⟨soundKey, sameKey⟩ := spelled whole
  obtain ⟨sound, same⟩ := scanned here
  obtain ⟨soundRest, sameRest⟩ := others more
  refine ⟨.member blank soundKey blankKey blankGap sound blankEnd soundRest, fun _ => rfl, ?_⟩
  rw [← sameKey, ← same, ← sameRest, Members.text, List.append_assoc, List.append_assoc,
    List.append_assoc, List.append_assoc, keyText_append]

theorem scannedMembers_next {members : Members} (blank : Blanks before)
    (spelled : ScannedString keyText (key, afterKey ++ ':' :: (gap ++ start)))
    (blankKey : Blanks afterKey) (blankGap : Blanks gap)
    (scanned : Scanned start (value, blanks ++ ',' :: next)) (blankEnd : Blanks blanks)
    (others : ScannedMembers true next (members, rest)) :
    ScannedMembers later (before ++ '"' :: keyText)
      (.member ⟨before, key, afterKey, some gap⟩ value blanks members, rest) := by
  refine scannedMembers_member blank spelled blankKey blankGap scanned blankEnd fun skipped => ?_
  obtain ⟨sound, more, same⟩ := others skipped
  rw [more rfl]
  exact ⟨sound, congrArg (',' :: ·) same⟩

theorem scannedMembers_last (blank : Blanks before)
    (spelled : ScannedString keyText (key, afterKey ++ ':' :: (gap ++ start)))
    (blankKey : Blanks afterKey) (blankGap : Blanks gap)
    (scanned : Scanned start (value, blanks ++ '\x7d' :: rest)) (blankEnd : Blanks blanks) :
    ScannedMembers later (before ++ '"' :: keyText)
      (.member ⟨before, key, afterKey, some gap⟩ value blanks (.done (.closed [])), rest) :=
  scannedMembers_member blank spelled blankKey blankGap scanned blankEnd fun _ => ⟨.last, rfl⟩

theorem scannedMembers_broken {head : MemberKey} {members : Members} {input : List Char}
    (fault : value.skip ≠ .ok () ∨ members.skip ≠ .ok ()) :
    ScannedMembers later input (.member head value blanks members, rest) := by
  intro skipped
  obtain ⟨_, here, more⟩ := Members.skip_member_iff.1 skipped
  exact fault.elim (absurd here) (absurd more)

end Containers

mutual

theorem scanNode_scanned : ∀ (fuel : Nat) (input : List Char), Scanned input (scanNode fuel input)
  | 0, input => scanned_broken input _ _ _
  | fuel + 1, input => by
    unfold scanNode
    dsimp only
    split
    · exact scanned_broken _ _ _ _
    · exact scanWord_scanned .null _
    · exact scanWord_scanned .true _
    · exact scanWord_scanned .false _
    · rename_i rest
      intro skipped
      obtain ⟨sound, same⟩ := scanString_scanned rest (Node.skip_string_iff.1 skipped)
      exact ⟨.string sound, by rw [Node.text, Spelling.text_append, same]⟩
    · rename_i rest
      intro skipped
      obtain ⟨sound, _, same⟩ := scanItems_scanned fuel false rest (Node.skip_array_iff.1 skipped)
      exact ⟨.array sound, by rw [Node.text, List.cons_append, same]⟩
    · rename_i rest
      intro skipped
      obtain ⟨sound, _, same⟩ :=
        scanMembers_scanned fuel false rest (Node.skip_object_iff.1 skipped)
      exact ⟨.object sound, by rw [Node.text, List.cons_append, same]⟩
    · exact scanNumeral_scanned true _
    · split
      · exact scanNumeral_scanned false _
      · exact scanned_broken _ _ _ _

theorem scanItems_scanned : ∀ (fuel : Nat) (later : Bool) (input : List Char),
    ScannedItems later input (scanItems fuel later input)
  | 0, later, input => by
    intro skipped
    exact absurd (Items.skip_done_iff.1 skipped) (by simp)
  | fuel + 1, later, input => by
    -- Each run of blanks is taken off as an equation, so that the rest is the input of the next scan.
    rcases first : takeBlanks input with ⟨before, start⟩
    rcases scan : scanNode fuel start with ⟨value, afterValue⟩
    rcases second : takeBlanks afterValue with ⟨blanks, next⟩
    obtain ⟨blank, rfl⟩ := takeBlanks_eq first
    obtain ⟨gap, rfl⟩ := takeBlanks_eq second
    have scanned := scanNode_scanned fuel start
    rw [scan] at scanned
    unfold scanItems
    rw [first]
    dsimp only
    split
    · exact scannedItems_done (by simp)
    · split
      · exact scannedItems_done (by simp)
      · rename_i closed first_item
        obtain rfl : later = false := by simpa using first_item
        intro _
        exact ⟨.empty blank, by simp, by simp [Items.text, Ending.closed]⟩
    · rw [scan]
      dsimp only
      rw [second]
      dsimp only
      split
      · exact scannedItems_next blank scanned gap (scanItems_scanned fuel true _)
      · exact scannedItems_last blank scanned gap
      · exact scannedItems_broken (by simp [Items.skip_done_iff])

theorem scanMembers_scanned : ∀ (fuel : Nat) (later : Bool) (input : List Char),
    ScannedMembers later input (scanMembers fuel later input)
  | 0, later, input => by
    intro skipped
    exact absurd (Members.skip_done_iff.1 skipped) (by simp)
  | fuel + 1, later, input => by
    rcases first : takeBlanks input with ⟨before, start⟩
    obtain ⟨blank, rfl⟩ := takeBlanks_eq first
    unfold scanMembers
    rw [first]
    dsimp only
    split
    · rename_i keyText
      have spelled := scanString_scanned keyText
      rcases string : scanString keyText with ⟨key, afterSpelling⟩
      rcases second : takeBlanks afterSpelling with ⟨afterKey, beforeColon⟩
      obtain ⟨blankKey, rfl⟩ := takeBlanks_eq second
      rw [string] at spelled
      dsimp only
      split
      · rename_i afterColon
        rcases third : takeBlanks afterColon with ⟨gap, valueText⟩
        rcases scan : scanNode fuel valueText with ⟨value, afterValue⟩
        rcases fourth : takeBlanks afterValue with ⟨blanks, next⟩
        obtain ⟨blankGap, rfl⟩ := takeBlanks_eq third
        obtain ⟨blankEnd, rfl⟩ := takeBlanks_eq fourth
        have scanned := scanNode_scanned fuel valueText
        rw [scan] at scanned
        dsimp only
        split
        · exact scannedMembers_next blank spelled blankKey blankGap scanned blankEnd
            (scanMembers_scanned fuel true _)
        · exact scannedMembers_last blank spelled blankKey blankGap scanned blankEnd
        · exact scannedMembers_broken (Or.inr (by simp [Members.skip_done_iff]))
      · exact scannedMembers_broken (Or.inl (Node.skip_broken _ _))
    · split
      · exact scannedMembers_done (by simp)
      · rename_i closed firstMember
        obtain rfl : later = false := by simpa using firstMember
        intro _
        exact ⟨.empty blank, by simp, by simp [Members.text, Ending.closed]⟩
    · exact scannedMembers_done (by simp)

end

/-- A text whose value can be passed over, and that goes on with nothing but blanks, keeps to the
grammar, and nothing of it is lost in the document. -/
theorem Document.ofChars_sound {input : List Char}
    (skipped : (Document.ofChars input).root.skip = .ok ())
    (ended : (Document.ofChars input).excess = none) :
    (Document.ofChars input).Sound ∧ (Document.ofChars input).text = input := by
  rcases first : takeBlanks input with ⟨before, start⟩
  rcases scan : scanNode (2 * input.length + 2) start with ⟨root, rest⟩
  rcases second : takeBlanks rest with ⟨blanks, excess⟩
  have scanned := scanNode_scanned (2 * input.length + 2) start
  have read : Document.ofChars input = ⟨before, root, blanks, excess.head?⟩ := by
    simp only [Document.ofChars, first, scan, second]
  rw [read] at skipped ended ⊢
  rw [scan] at scanned
  obtain ⟨blank, same⟩ := takeBlanks_eq first
  obtain ⟨blankEnd, sameEnd⟩ := takeBlanks_eq second
  obtain ⟨sound, sameRoot⟩ := scanned skipped
  obtain rfl := List.head?_eq_none_iff.1 ended
  refine ⟨⟨blank, sound, blankEnd, rfl⟩, ?_⟩
  rw [← same, ← sameRoot, ← sameEnd]
  simp [Document.text]

theorem Spelling.fault_of_readPieces {fault : Option Fault} {pieces : List Piece}
    {chars : List Char} (read : readPieces fault pieces = .ok chars) : fault = none := by
  fun_induction readPieces fault pieces generalizing chars with
  | case1 none => exact none
  | case3 | case4 | case6 | case9 =>
    rename_i ih
    obtain ⟨_, inside, _⟩ := bind_eq_ok_iff.1 read
    exact ih (after_eq_ok_iff.1 inside)
  | _ => cases read

theorem Spelling.fault_of_read {spelling : Spelling} {text : String}
    (read : spelling.read = .ok text) : spelling.fault = none := by
  rw [Spelling.read] at read
  split at read
  · cases read
  · rename_i inside
    exact fault_of_readPieces (after_eq_ok_iff.1 inside)

mutual

/-- What has been read as a value could also have been passed over. -/
theorem skip_of_readAny {room : Nat} : ∀ {node : Node} {value : Json},
    node.readAny room = .ok value → node.skip = .ok ()
  | .word _, _, _ => rfl
  | .number _, _, _ => rfl
  | .string _, _, read => by
    obtain ⟨_, inside, _⟩ := Node.readAny_string_iff.1 read
    exact Node.skip_string_iff.2 (Spelling.fault_of_read inside)
  | .array _, _, read => by
    obtain ⟨_, _, inside, _⟩ := Node.readAny_array_iff.1 read
    exact Node.skip_array_iff.2 (skip_of_readItems inside)
  | .object _, _, read => by
    obtain ⟨_, _, inside, _⟩ := Node.readAny_object_iff.1 read
    exact Node.skip_object_iff.2 (skip_of_readMembers inside)
  | .broken .., _, read => by simp [Node.readAny] at read

theorem skip_of_readItems {room : Nat} : ∀ {items : Items} {values : List Json},
    items.readAny room = .ok values → items.skip = .ok ()
  | .done _, _, read => Items.skip_done_iff.2 (Items.readAny_done_iff.1 read).1
  | .item .., _, read => by
    obtain ⟨_, here, _, later, _⟩ := Items.readAny_item_iff.1 read
    exact Items.skip_item_iff.2 ⟨skip_of_readAny here, skip_of_readItems later⟩

theorem skip_of_readMembers {room : Nat} : ∀ {members : Members} {entries : List (String × Json)},
    members.readAny room = .ok entries → members.skip = .ok ()
  | .done _, _, read => Members.skip_done_iff.2 (Members.readAny_done_iff.1 read).1
  | .member .., _, read => by
    obtain ⟨_, named, _, here, _, later, _⟩ := Members.readAny_member_iff.1 read
    exact Members.skip_member_iff.2
      ⟨Spelling.fault_of_read named, skip_of_readAny here, skip_of_readMembers later⟩

end

end MetricQuery.Json
