import MetricQuery.Proofs.Json.Numeral
import MetricQuery.Proofs.Json.Spelling

namespace MetricQuery.Json

def Blanks (text : List Char) : Prop := ∀ c ∈ text, isBlank c = true

theorem blanks_nil : Blanks [] := by simp [Blanks]

mutual

/-- A value that is written as the grammar allows it, with blanks where there may be blanks. -/
inductive Node.Sound : Node → Prop
  | word (word : Word) : Node.Sound (.word word)
  | number {numeral : Numeral} : numeral.Sound → Node.Sound (.number numeral)
  | string {spelling : Spelling} : spelling.Sound → Node.Sound (.string spelling)
  | array {items : Items} : Items.Sound false items → Node.Sound (.array items)
  | object {members : Members} : Members.Sound false members → Node.Sound (.object members)

/-- The items of an array. If there is an item before them, the blanks after it are its own. -/
inductive Items.Sound : Bool → Items → Prop
  | empty {blanks : List Char} : Blanks blanks → Items.Sound false (.done (.closed blanks))
  | last : Items.Sound true (.done (.closed []))
  | item {later : Bool} {before blanks : List Char} {value : Node} {rest : Items} :
      Blanks before → Node.Sound value → Blanks blanks → Items.Sound true rest →
      Items.Sound later (.item before value blanks rest)

inductive Members.Sound : Bool → Members → Prop
  | empty {blanks : List Char} : Blanks blanks → Members.Sound false (.done (.closed blanks))
  | last : Members.Sound true (.done (.closed []))
  | member {later : Bool} {before afterKey gap blanks : List Char} {key : Spelling} {value : Node}
      {rest : Members} :
      Blanks before → key.Sound → Blanks afterKey → Blanks gap → Node.Sound value →
      Blanks blanks → Members.Sound true rest →
      Members.Sound later (.member ⟨before, key, afterKey, some gap⟩ value blanks rest)

end

theorem takeBlanks_append {blanks rest : List Char} (blank : Blanks blanks)
    (stop : ∀ c, rest.head? = some c → isBlank c = false) :
    takeBlanks (blanks ++ rest) = (blanks, rest) := span_append blank stop

theorem takeBlanks_cons {blanks : List Char} (blank : Blanks blanks) {c : Char}
    (stop : isBlank c = false) (rest : List Char) :
    takeBlanks (blanks ++ c :: rest) = (blanks, c :: rest) := by
  refine takeBlanks_append blank fun d head => ?_
  obtain rfl := Option.some.inj head
  exact stop

theorem endsNumeral_cons {c : Char} (other : isDigit c = false ∧ c ≠ '.' ∧ c ≠ 'e' ∧ c ≠ 'E')
    (rest : List Char) : EndsNumeral (c :: rest) := by
  intro d head
  exact Option.some.inj head ▸ other

/-- No numeral goes on over blanks. -/
theorem EndsNumeral.append {blanks rest : List Char} (blank : Blanks blanks)
    (ends : EndsNumeral rest) : EndsNumeral (blanks ++ rest) := by
  cases blanks with
  | nil => exact ends
  | cons first others =>
    have isBlank := blank first List.mem_cons_self
    simp only [Json.isBlank, Bool.or_eq_true, decide_eq_true_eq] at isBlank
    refine endsNumeral_cons ?_ _
    rcases isBlank with ((rfl | rfl) | rfl) | rfl <;> decide

theorem endsNumeral_of_blanks {blanks : List Char} (blank : Blanks blanks) : EndsNumeral blanks := by
  have ended : EndsNumeral [] := by simp [EndsNumeral]
  simpa using ended.append blank

/-- The characters with which a value starts. -/
def StartsValue (c : Char) : Prop := isBlank c = false ∧ c ≠ ']'

theorem startsValue_of_isDigit {c : Char} (digit : isDigit c = true) : StartsValue c := by
  refine ⟨?_, isDigit_ne digit (by decide)⟩
  have blankless (d : Char) (other : isDigit d = false) : c ≠ d := isDigit_ne digit other
  simp only [isBlank, Bool.or_eq_false_iff, decide_eq_false_iff_not]
  exact ⟨⟨⟨blankless _ (by decide), blankless _ (by decide)⟩, blankless _ (by decide)⟩,
    blankless _ (by decide)⟩

theorem Numeral.Sound.unsignedText_eq {numeral : Numeral} (sound : numeral.Sound) :
    ∃ c tail, numeral.unsignedText = c :: tail ∧ isDigit c = true := by
  cases whole : numeral.whole with
  | nil => exact absurd whole sound.whole.nonempty
  | cons c others =>
    refine ⟨c, _, by rw [unsignedText, whole, List.cons_append], ?_⟩
    exact sound.whole.digits c (whole ▸ List.mem_cons_self)

theorem Node.Sound.text_eq {node : Node} (sound : node.Sound) :
    ∃ c tail, node.text = c :: tail ∧ StartsValue c := by
  cases sound with
  | word word => cases word <;> exact ⟨_, _, rfl, by decide, by decide⟩
  | @number numeral number =>
    obtain ⟨c, tail, same, digit⟩ := number.unsignedText_eq
    rw [text, numeral.text_eq, same]
    cases numeral.negative with
    | true => exact ⟨'-', c :: tail, rfl, by decide, by decide⟩
    | false => exact ⟨c, tail, rfl, startsValue_of_isDigit digit⟩
  | string => exact ⟨_, _, by rw [text, Spelling.text, List.cons_append], by decide, by decide⟩
  | array => exact ⟨_, _, by rw [text], by decide, by decide⟩
  | object => exact ⟨_, _, by rw [text], by decide, by decide⟩

theorem scanLetters_text (word : Word) (read : Nat) (letters rest : List Char) :
    scanLetters word read letters (letters ++ rest) = (.word word, rest) := by
  induction letters generalizing read with
  | nil => rfl
  | cons letter letters ih => rw [List.cons_append, scanLetters, if_pos rfl, ih]

theorem scanNode_word (word : Word) (fuel : Nat) (rest : List Char) :
    scanNode (fuel + 1) (word.text ++ rest) = (.word word, rest) := by
  have whole := scanLetters_text word 0 word.text rest
  cases word <;> exact whole

theorem scanNode_numeral {numeral : Numeral} (sound : numeral.Sound) (fuel : Nat)
    {rest : List Char} (ends : EndsNumeral rest) :
    scanNode (fuel + 1) (numeral.text ++ rest) = (.number numeral, rest) := by
  have read := sound.scan ends
  rw [numeral.text_eq, List.append_assoc]
  cases negative : numeral.negative with
  | true => rwa [negative] at read
  | false =>
    rw [negative] at read
    obtain ⟨c, tail, same, digit⟩ := sound.unsignedText_eq
    rw [same, List.cons_append] at read
    simp only [Bool.false_eq_true, if_false, List.nil_append, same, List.cons_append]
    rw [scanNode.eq_10 fuel c (tail ++ rest) (isDigit_ne digit (by decide))
      (isDigit_ne digit (by decide)) (isDigit_ne digit (by decide)) (isDigit_ne digit (by decide))
      (isDigit_ne digit (by decide)) (isDigit_ne digit (by decide)) (isDigit_ne digit (by decide)),
      if_pos digit, read]

section Containers

variable {fuel : Nat} {later : Bool} {before blanks : List Char} {value : Node}

theorem scanItems_empty (blank : Blanks blanks) (fuel : Nat) (rest : List Char) :
    scanItems (fuel + 1) false (blanks ++ ']' :: rest) = (.done (.closed blanks), rest) := by
  simp only [scanItems, takeBlanks_cons blank (by decide : isBlank ']' = false)]
  rfl

theorem scanItems_next (blank : Blanks before) (sound : value.Sound) (gap : Blanks blanks)
    {more rest : List Char} {items : Items}
    (read : scanNode fuel (value.text ++ (blanks ++ ',' :: more)) = (value, blanks ++ ',' :: more))
    (others : scanItems fuel true more = (items, rest)) :
    scanItems (fuel + 1) later (before ++ (value.text ++ (blanks ++ ',' :: more))) =
      (.item before value blanks items, rest) := by
  obtain ⟨c, tail, same, starts⟩ := sound.text_eq
  rw [same, List.cons_append] at read ⊢
  simp only [scanItems, takeBlanks_cons blank starts.1]
  split
  · rename_i ended
    exact absurd ended (List.cons_ne_nil _ _)
  · rename_i closes
    exact absurd (List.cons.inj closes).1 starts.2
  · simp only [read, takeBlanks_cons gap (by decide : isBlank ',' = false), others]

theorem scanItems_last (blank : Blanks before) (sound : value.Sound) (gap : Blanks blanks)
    {rest : List Char}
    (read : scanNode fuel (value.text ++ (blanks ++ ']' :: rest)) = (value, blanks ++ ']' :: rest)) :
    scanItems (fuel + 1) later (before ++ (value.text ++ (blanks ++ ']' :: rest))) =
      (.item before value blanks (.done (.closed [])), rest) := by
  obtain ⟨c, tail, same, starts⟩ := sound.text_eq
  rw [same, List.cons_append] at read ⊢
  simp only [scanItems, takeBlanks_cons blank starts.1]
  split
  · rename_i ended
    exact absurd ended (List.cons_ne_nil _ _)
  · rename_i closes
    exact absurd (List.cons.inj closes).1 starts.2
  · simp only [read, takeBlanks_cons gap (by decide : isBlank ']' = false)]

variable {afterKey gap : List Char} {key : Spelling}

theorem scanMembers_empty (blank : Blanks blanks) (fuel : Nat) (rest : List Char) :
    scanMembers (fuel + 1) false (blanks ++ '\x7d' :: rest) = (.done (.closed blanks), rest) := by
  simp only [scanMembers, takeBlanks_cons blank (by decide : isBlank '\x7d' = false)]
  rfl

/-- The text of a member up to its value. -/
theorem keyText_append (before afterKey gap rest : List Char) (key : Spelling) :
    (MemberKey.text ⟨before, key, afterKey, some gap⟩) ++ rest =
      before ++ '"' :: (key.pieces.flatMap Piece.text ++
        '"' :: (afterKey ++ ':' :: (gap ++ rest))) := by
  simp [MemberKey.text, Spelling.text]

theorem scanMembers_next (blank : Blanks before) (spelled : key.Sound)
    (blankKey : Blanks afterKey) (blankGap : Blanks gap) (sound : value.Sound)
    (blankEnd : Blanks blanks) {more rest : List Char} {members : Members}
    (read : scanNode fuel (value.text ++ (blanks ++ ',' :: more)) = (value, blanks ++ ',' :: more))
    (others : scanMembers fuel true more = (members, rest)) :
    scanMembers (fuel + 1) later (MemberKey.text ⟨before, key, afterKey, some gap⟩ ++
        (value.text ++ (blanks ++ ',' :: more))) =
      (.member ⟨before, key, afterKey, some gap⟩ value blanks members, rest) := by
  obtain ⟨c, tail, same, starts⟩ := sound.text_eq
  rw [same, List.cons_append] at read ⊢
  rw [keyText_append]
  simp only [scanMembers, takeBlanks_cons blank (by decide : isBlank '"' = false), spelled.scan,
    takeBlanks_cons blankKey (by decide : isBlank ':' = false), takeBlanks_cons blankGap starts.1,
    read, takeBlanks_cons blankEnd (by decide : isBlank ',' = false), others]

theorem scanMembers_last (blank : Blanks before) (spelled : key.Sound)
    (blankKey : Blanks afterKey) (blankGap : Blanks gap) (sound : value.Sound)
    (blankEnd : Blanks blanks) {rest : List Char}
    (read : scanNode fuel (value.text ++ (blanks ++ '\x7d' :: rest)) =
      (value, blanks ++ '\x7d' :: rest)) :
    scanMembers (fuel + 1) later (MemberKey.text ⟨before, key, afterKey, some gap⟩ ++
        (value.text ++ (blanks ++ '\x7d' :: rest))) =
      (.member ⟨before, key, afterKey, some gap⟩ value blanks (.done (.closed [])), rest) := by
  obtain ⟨c, tail, same, starts⟩ := sound.text_eq
  rw [same, List.cons_append] at read ⊢
  rw [keyText_append]
  simp only [scanMembers, takeBlanks_cons blank (by decide : isBlank '"' = false), spelled.scan,
    takeBlanks_cons blankKey (by decide : isBlank ':' = false), takeBlanks_cons blankGap starts.1,
    read, takeBlanks_cons blankEnd (by decide : isBlank '\x7d' = false)]

end Containers

theorem Items.length_text_pos : ∀ items : Items, 0 < items.text.length
  | .done _ => by simp [text]
  | .item _ _ _ rest => by
    have more := rest.length_text_pos
    simp only [text, List.length_append]
    omega

theorem Members.length_text_pos : ∀ members : Members, 0 < members.text.length
  | .done _ => by simp [text]
  | .member _ _ _ rest => by
    have more := rest.length_text_pos
    simp only [text, List.length_append]
    omega

mutual

/-- Every sound value is read back from its text, by fuel for two steps a character. -/
theorem scanNode_text : ∀ (node : Node) (fuel : Nat) (rest : List Char), node.Sound →
    EndsNumeral rest → 2 * node.text.length ≤ fuel + 1 →
    scanNode fuel (node.text ++ rest) = (node, rest)
  | node, 0, rest, sound, _, enough => by
    obtain ⟨c, tail, same, _⟩ := sound.text_eq
    rw [same, List.length_cons] at enough
    omega
  | .word word, fuel + 1, rest, _, _, _ => scanNode_word word fuel rest
  | .number numeral, fuel + 1, rest, .number sound, ends, _ => scanNode_numeral sound fuel ends
  | .string spelling, fuel + 1, rest, .string sound, _, _ => by
    rw [Node.text, spelling.text_append]
    simp only [scanNode, sound.scan]
  | .array items, fuel + 1, rest, .array sound, _, enough => by
    rw [Node.text, List.length_cons] at enough
    have read := scanItems_text items false fuel rest sound (by simp) (by omega)
    rw [Node.text, List.cons_append]
    simp only [scanNode, read]
  | .object members, fuel + 1, rest, .object sound, _, enough => by
    rw [Node.text, List.length_cons] at enough
    have read := scanMembers_text members false fuel rest sound (by simp) (by omega)
    rw [Node.text, List.cons_append]
    simp only [scanNode, read]

theorem scanItems_text : ∀ (items : Items) (later : Bool) (fuel : Nat) (rest : List Char),
    items.Sound later → (later = true → items.hasComma = true) → 2 * items.text.length ≤ fuel →
    scanItems fuel later (items.text ++ rest) = (items, rest)
  | items, _, 0, _, _, _, enough => by
    have some := items.length_text_pos
    omega
  | .done _, _, fuel + 1, rest, .empty blank, _, _ => by
    rw [Items.text, List.append_assoc]
    exact scanItems_empty blank fuel rest
  | .done _, _, _ + 1, _, .last, comma, _ => absurd (comma rfl) Bool.false_ne_true
  | .item before value blanks (.done _), later, fuel + 1, rest, .item blank sound gap .last, _,
      enough => by
    have ends := (endsNumeral_cons (by decide : isDigit ']' = false ∧ _) rest).append gap
    have length : 2 * value.text.length ≤ fuel + 1 := by
      simp only [Items.text, List.length_append] at enough
      omega
    have read := scanNode_text value fuel _ sound ends length
    simpa [Items.text, Items.hasComma, comma, Ending.closed] using
      scanItems_last blank sound gap read
  | .item before value blanks (.item b v g r), later, fuel + 1, rest, .item blank sound gap others,
      _, enough => by
    have more := (Items.item b v g r).length_text_pos
    have split : (Items.item before value blanks (.item b v g r)).text ++ rest =
        before ++ (value.text ++ (blanks ++ ',' :: ((Items.item b v g r).text ++ rest))) := by
      rw [Items.text]
      simp [Items.hasComma, comma]
    have lengths := congrArg List.length split
    simp only [List.length_append, List.length_cons] at lengths
    have next := scanItems_text (.item b v g r) true fuel rest others (fun _ => rfl) (by omega)
    have ends := (endsNumeral_cons (by decide : isDigit ',' = false ∧ _)
      ((Items.item b v g r).text ++ rest)).append gap
    have read := scanNode_text value fuel _ sound ends (by omega)
    rw [split]
    exact scanItems_next blank sound gap read next

theorem scanMembers_text : ∀ (members : Members) (later : Bool) (fuel : Nat) (rest : List Char),
    members.Sound later → (later = true → members.hasComma = true) →
    2 * members.text.length ≤ fuel →
    scanMembers fuel later (members.text ++ rest) = (members, rest)
  | members, _, 0, _, _, _, enough => by
    have some := members.length_text_pos
    omega
  | .done _, _, fuel + 1, rest, .empty blank, _, _ => by
    rw [Members.text, List.append_assoc]
    exact scanMembers_empty blank fuel rest
  | .done _, _, _ + 1, _, .last, comma, _ => absurd (comma rfl) Bool.false_ne_true
  | .member _ value blanks (.done _), later, fuel + 1, rest,
      .member blank spelled blankKey blankGap sound blankEnd .last, _, enough => by
    have ends := (endsNumeral_cons (by decide : isDigit '\x7d' = false ∧ _) rest).append blankEnd
    have length : 2 * value.text.length ≤ fuel + 1 := by
      simp only [Members.text, List.length_append] at enough
      omega
    have read := scanNode_text value fuel _ sound ends length
    simpa [Members.text, Members.hasComma, comma, Ending.closed] using
      scanMembers_last blank spelled blankKey blankGap sound blankEnd read
  | .member ⟨before, key, afterKey, some gap⟩ value blanks (.member k v g r), later, fuel + 1, rest,
      .member blank spelled blankKey blankGap sound blankEnd others, _, enough => by
    have split : (Members.member ⟨before, key, afterKey, some gap⟩ value blanks
          (.member k v g r)).text ++ rest =
        MemberKey.text ⟨before, key, afterKey, some gap⟩ ++
          (value.text ++ (blanks ++ ',' :: ((Members.member k v g r).text ++ rest))) := by
      rw [Members.text]
      simp [Members.hasComma, comma]
    have lengths := congrArg List.length split
    simp only [List.length_append, List.length_cons] at lengths
    have next := scanMembers_text (.member k v g r) true fuel rest others (fun _ => rfl) (by omega)
    have ends := (endsNumeral_cons (by decide : isDigit ',' = false ∧ _)
      ((Members.member k v g r).text ++ rest)).append blankEnd
    have read := scanNode_text value fuel _ sound ends (by omega)
    rw [split]
    exact scanMembers_next blank spelled blankKey blankGap sound blankEnd read next

end

/-- A document with nothing behind its value but blanks. -/
structure Document.Sound (document : Document) : Prop where
  before : Blanks document.before
  root : document.root.Sound
  blanks : Blanks document.blanks
  excess : document.excess = none

/-- A sound document is read back from its text. -/
theorem Document.ofChars_text {document : Document} (sound : document.Sound) :
    Document.ofChars document.text = document := by
  obtain ⟨before, root, blanks, excess⟩ := document
  obtain ⟨blankBefore, soundRoot, blankEnd, rfl⟩ := sound
  obtain ⟨c, tail, same, starts⟩ := soundRoot.text_eq
  have ends := endsNumeral_of_blanks blankEnd
  have front : takeBlanks (before ++ (root.text ++ blanks)) = (before, root.text ++ blanks) := by
    rw [same, List.cons_append]
    exact takeBlanks_cons blankBefore starts.1 _
  have back : takeBlanks (blanks ++ []) = (blanks, []) := takeBlanks_append blankEnd (by simp)
  rw [List.append_nil] at back
  have read (fuel : Nat) (enough : 2 * root.text.length ≤ fuel + 1) :=
    scanNode_text root fuel blanks soundRoot ends enough
  rw [ofChars, text, List.append_assoc, front]
  dsimp only
  rw [read _ (by simp only [List.length_append]; omega), back]
  rfl

end MetricQuery.Json
