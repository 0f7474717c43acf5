import Mathlib.Data.List.Induction
import Mathlib.Data.List.TakeDrop
import MetricQuery.Json.Scan

namespace MetricQuery

/-- A run of characters of one kind ends where another kind of character follows. -/
theorem span_append {p : Char → Bool} {run rest : List Char} (all : ∀ c ∈ run, p c = true)
    (stop : ∀ c, rest.head? = some c → p c = false) : (run ++ rest).span p = (run, rest) := by
  have none : rest.takeWhile p = [] ∧ rest.dropWhile p = rest := by
    cases rest with
    | nil => exact ⟨rfl, rfl⟩
    | cons c rest =>
      have other := Bool.eq_false_iff.1 (stop c rfl)
      exact ⟨List.takeWhile_cons_of_neg other, List.dropWhile_cons_of_neg other⟩
  rw [List.span_eq_takeWhile_dropWhile, List.takeWhile_append_of_pos all,
    List.dropWhile_append_of_pos all, none.1, none.2, List.append_nil]

namespace Json

/-- Whole numbers that are read as such: those of 64 bits, with a sign if they are negative. -/
def FitsWord (n : Int) : Prop := -9223372036854775808 ≤ n ∧ n < 18446744073709551616

structure IsDigits (text : List Char) : Prop where
  nonempty : text ≠ []
  digits : ∀ c ∈ text, isDigit c = true

theorem IsDigits.isEmpty {text : List Char} (digits : IsDigits text) : text.isEmpty = false :=
  List.isEmpty_eq_false_iff.2 digits.nonempty

structure Exponent.Sound (exponent : Exponent) : Prop where
  mark : exponent.mark = 'e' ∨ exponent.mark = 'E'
  sign : ∀ c ∈ exponent.sign, c = '+' ∨ c = '-'
  digits : IsDigits exponent.digits

/-- A numeral that keeps to the grammar. -/
structure Numeral.Sound (numeral : Numeral) : Prop where
  whole : IsDigits numeral.whole
  noLeadingZero : numeral.whole.head? = some '0' → numeral.whole = ['0']
  fraction : ∀ digits ∈ numeral.fraction, IsDigits digits
  exponent : ∀ exponent ∈ numeral.exponent, exponent.Sound

/-- What comes after a numeral and is no part of it. -/
def EndsNumeral (rest : List Char) : Prop :=
  ∀ c, rest.head? = some c → isDigit c = false ∧ c ≠ '.' ∧ c ≠ 'e' ∧ c ≠ 'E'

section Scanning

theorem isDigit_ne {c d : Char} (digit : isDigit c = true) (other : isDigit d = false) : c ≠ d := by
  rintro rfl
  exact Bool.noConfusion (digit.symm.trans other)

theorem scanExponent_of_absent {numeral : Numeral} {rest : List Char} (ends : EndsNumeral rest) :
    scanExponent numeral rest = (.number numeral, rest) := by
  cases rest with
  | nil => rfl
  | cons c rest =>
    obtain ⟨_, _, noMark⟩ := ends c rfl
    simp only [scanExponent, if_neg (not_or.2 noMark)]

theorem scanExponent_of_present {numeral : Numeral} {exponent : Exponent} (sound : exponent.Sound)
    {rest : List Char} (ends : EndsNumeral rest) :
    scanExponent numeral (exponent.text ++ rest) =
      (.number { numeral with exponent := some exponent }, rest) := by
  obtain ⟨mark, sign, digits⟩ := exponent
  have span : (digits ++ rest).span isDigit = (digits, rest) :=
    span_append sound.digits.digits fun c head => (ends c head).1
  have nonempty := sound.digits.isEmpty
  cases sign with
  | some c =>
    have signed := sound.sign c rfl
    simp only [Exponent.text, Option.toList_some, List.cons_append, List.nil_append, scanExponent,
      if_pos sound.mark, if_pos signed, span, nonempty]
    rfl
  | none =>
    cases digits with
    | nil => exact absurd rfl sound.digits.nonempty
    | cons first others =>
      have digit := sound.digits.digits first List.mem_cons_self
      have unsigned : ¬(first = '+' ∨ first = '-') :=
        not_or.2 ⟨isDigit_ne digit (by decide), isDigit_ne digit (by decide)⟩
      rw [List.cons_append] at span
      simp only [Exponent.text, Option.toList_none, List.cons_append, List.nil_append, scanExponent,
        if_pos sound.mark, if_neg unsigned, span, nonempty]
      rfl

/-- The text of an exponent, if there is one. -/
def exponentText (exponent : Option Exponent) : List Char :=
  match exponent with
  | none => []
  | some exponent => exponent.text

theorem scanExponent_text {numeral : Numeral} (absent : numeral.exponent = none)
    {exponent : Option Exponent} (sound : ∀ present ∈ exponent, present.Sound) {rest : List Char}
    (ends : EndsNumeral rest) :
    scanExponent numeral (exponentText exponent ++ rest) =
      (.number { numeral with exponent }, rest) := by
  cases exponent with
  | some exponent => exact scanExponent_of_present (sound exponent rfl) ends
  | none =>
    obtain ⟨negative, whole, fraction, _⟩ := numeral
    obtain rfl := absent
    exact scanExponent_of_absent ends

/-- An exponent, or the end of the numeral, is no further digit and no point. -/
theorem head_exponentText {exponent : Option Exponent} (sound : ∀ present ∈ exponent, present.Sound)
    {rest : List Char} (ends : EndsNumeral rest) (c : Char)
    (head : (exponentText exponent ++ rest).head? = some c) : isDigit c = false ∧ c ≠ '.' := by
  cases exponent with
  | none => exact ⟨(ends c head).1, (ends c head).2.1⟩
  | some exponent =>
    obtain rfl : exponent.mark = c := Option.some.inj head
    rcases (sound exponent rfl).mark with mark | mark
    · rw [mark]; decide
    · rw [mark]; decide

/-- The text of a fraction, if there is one. -/
def fractionText (fraction : Option (List Char)) : List Char :=
  match fraction with
  | none => []
  | some digits => '.' :: digits

theorem scanFraction_text {numeral : Numeral} (absent : numeral.fraction = none)
    {fraction : Option (List Char)} (sound : ∀ digits ∈ fraction, IsDigits digits)
    {rest : List Char} (stop : ∀ c, rest.head? = some c → isDigit c = false ∧ c ≠ '.') :
    scanFraction numeral (fractionText fraction ++ rest) =
      scanExponent { numeral with fraction } rest := by
  cases fraction with
  | some digits =>
    have span : (digits ++ rest).span isDigit = (digits, rest) :=
      span_append (sound digits rfl).digits fun c head => (stop c head).1
    simp only [fractionText, List.cons_append, scanFraction, span, (sound digits rfl).isEmpty]
    rfl
  | none =>
    obtain ⟨negative, whole, _, exponent⟩ := numeral
    obtain rfl := absent
    exact scanFraction.eq_2 _ rest fun _ same => (stop '.' (same ▸ rfl)).2 rfl

theorem scanNumeral_whole {negative : Bool} {whole : List Char} (digits : IsDigits whole)
    (noLeadingZero : whole.head? = some '0' → whole = ['0']) {rest : List Char}
    (stop : ∀ c, rest.head? = some c → isDigit c = false) :
    scanNumeral negative (whole ++ rest) = scanFraction ⟨negative, whole, none, none⟩ rest := by
  have span : (whole ++ rest).span isDigit = (whole, rest) := span_append digits.digits stop
  cases whole with
  | nil => exact absurd rfl digits.nonempty
  | cons first others =>
    have digit := digits.digits first List.mem_cons_self
    by_cases zero : first = '0'
    · subst zero
      obtain rfl : others = [] := (List.cons.inj (noLeadingZero rfl)).2
      simp only [List.cons_append, List.nil_append, scanNumeral]
      cases rest with
      | nil => rfl
      | cons c rest =>
        simp only [List.head?_cons, stop c rfl]
        rfl
    · rw [List.cons_append] at span ⊢
      rw [scanNumeral.eq_3 negative first _ zero, if_pos digit, span]

/-- The text of a numeral without its sign. -/
def Numeral.unsignedText (numeral : Numeral) : List Char :=
  numeral.whole ++ (fractionText numeral.fraction ++ exponentText numeral.exponent)

theorem Numeral.text_eq (numeral : Numeral) :
    numeral.text = (if numeral.negative then ['-'] else []) ++ numeral.unsignedText := by
  simp only [text, mantissaText, unsignedText, List.append_assoc]
  rfl

/-- A sound numeral is read to its end. -/
theorem Numeral.Sound.scan {numeral : Numeral} (sound : numeral.Sound) {rest : List Char}
    (ends : EndsNumeral rest) :
    scanNumeral numeral.negative (numeral.unsignedText ++ rest) = (.number numeral, rest) := by
  have afterFraction := head_exponentText sound.exponent ends
  have afterWhole (c : Char) (head : (fractionText numeral.fraction ++
      (exponentText numeral.exponent ++ rest)).head? = some c) : isDigit c = false := by
    cases fraction : numeral.fraction with
    | none =>
      rw [fraction] at head
      exact (afterFraction c head).1
    | some digits =>
      rw [fraction] at head
      obtain rfl := Option.some.inj head
      decide
  rw [unsignedText, List.append_assoc, List.append_assoc,
    scanNumeral_whole sound.whole sound.noLeadingZero afterWhole,
    scanFraction_text rfl sound.fraction afterFraction, scanExponent_text rfl sound.exponent ends]

end Scanning

section Reading

theorem digitsValue_append_singleton (digits : List Char) (c : Char) :
    digitsValue (digits ++ [c]) = 10 * digitsValue digits + digitsValue [c] := by
  simp [digitsValue]

theorem digitsValue_decimalDigits (n : Nat) : digitsValue (decimalDigits n) = n := by
  have folded : Nat.ofDigitChars 10 (decimalDigits n) 0 = n := Nat.ofDigitChars_ten_toDigits
  rwa [Nat.ofDigitChars_eq_foldl] at folded

theorem isDigits_decimalDigits (n : Nat) : IsDigits (decimalDigits n) where
  nonempty := Nat.toDigits_ne_nil
  digits := by
    intro c member
    have digit := Nat.isDigit_of_mem_toDigits (by decide) (by decide) member
    exact digit

/-- Only zero is written with a zero in front. -/
theorem decimalDigits_of_head_zero {n : Nat} (zero : (decimalDigits n).head? = some '0') :
    decimalDigits n = ['0'] := by
  induction n using Nat.strongRecOn with
  | ind n ih =>
    rcases Nat.lt_or_ge n 10 with small | large
    · rw [decimalDigits, Nat.toDigits_of_lt_base small] at zero ⊢
      rw [Option.some.inj zero]
    · have split : decimalDigits n = decimalDigits (n / 10) ++ [Nat.digitChar (n % 10)] :=
        Nat.toDigits_of_base_le (by decide) large
      have front : (decimalDigits (n / 10)).head? = some '0' := by
        cases same : decimalDigits (n / 10) with
        | nil => exact absurd same Nat.toDigits_ne_nil
        | cons first others => rwa [split, same] at zero
      have value := digitsValue_decimalDigits (n / 10)
      rw [ih (n / 10) (by omega) front] at value
      have nothing : n / 10 = 0 := value.symm
      omega

theorem Numeral.ofInt_sound (n : Int) : (ofInt n).Sound where
  whole := isDigits_decimalDigits _
  noLeadingZero := decimalDigits_of_head_zero
  fraction := by simp [ofInt]
  exponent := by simp [ofInt]

end Reading

end Json

namespace Gathered

theorem whole_append (g : Gathered) (first second : List Char) :
    g.whole (first ++ second) = (g.whole first).whole second := by
  induction first generalizing g with
  | nil => rfl
  | cons c rest ih =>
    rw [List.cons_append, whole, whole]
    split
    · exact ih _
    · exact ih _

/-- What has been gathered always fits in a word. -/
theorem whole_lt {g : Gathered} (fits : g.significand < wordLimit) (digits : List Char) :
    (g.whole digits).significand < wordLimit := by
  induction digits generalizing g with
  | nil => exact fits
  | cons c rest ih =>
    rw [whole]
    split
    · exact ih fits
    · rename_i room
      simp only [Bool.or_eq_true, decide_eq_true_eq, not_or, Nat.not_le] at room
      exact ih room.2

theorem full_whole {g : Gathered} (full : g.full = true) (digits : List Char) :
    (g.whole digits).full = true := by
  induction digits generalizing g with
  | nil => exact full
  | cons c rest ih =>
    rw [whole, if_pos (by rw [full, Bool.true_or])]
    exact ih rfl

/-- Digits whose value fits in a word are all gathered. -/
theorem whole_of_lt {digits : List Char} (fits : digitsValue digits < wordLimit) :
    Gathered.whole ⟨0, 0, false⟩ digits = ⟨digitsValue digits, 0, false⟩ := by
  induction digits using List.reverseRecOn with
  | nil => rfl
  | append_singleton front c ih =>
    rw [Json.digitsValue_append_singleton] at fits
    rw [whole_append, ih (by omega), Json.digitsValue_append_singleton]
    simp [whole, Nat.not_le.2 fits]

/-- If their value does not fit, that is noticed at one of them. -/
theorem full_whole_of_le {digits : List Char} (large : wordLimit ≤ digitsValue digits) :
    (Gathered.whole ⟨0, 0, false⟩ digits).full = true := by
  induction digits using List.reverseRecOn with
  | nil => cases large
  | append_singleton front c ih =>
    rw [whole_append]
    rcases Nat.lt_or_ge (digitsValue front) wordLimit with fits | early
    · rw [Json.digitsValue_append_singleton] at large
      rw [whole_of_lt fits]
      simp [whole, large]
    · exact full_whole (ih early) [c]

end Gathered

namespace Json.Numeral

/-- A scaled numeral is a float, or too large for one. -/
theorem scaled_cases (numeral : Numeral) (significand : Nat) (exponent : Int) :
    (∃ x, numeral.scaled significand exponent = .ok (.real x)) ∨
      ∃ count, numeral.scaled significand exponent = .error count := by
  rw [scaled]
  split
  · exact Or.inr ⟨_, rfl⟩
  · exact Or.inl ⟨_, rfl⟩

theorem scaled_ne_integer (numeral : Numeral) (significand : Nat) (exponent n : Int) :
    numeral.scaled significand exponent ≠ .ok (.integer n) := by
  rcases numeral.scaled_cases significand exponent with ⟨x, same⟩ | ⟨count, same⟩ <;> simp [same]

theorem readExponent_ne_integer (numeral : Numeral) (g : Gathered) (exponent : Exponent) (n : Int) :
    numeral.readExponent g exponent ≠ .ok (.integer n) := by
  simp only [readExponent]
  split
  · exact numeral.scaled_ne_integer _ _ _
  · split
    · simp
    · simp

theorem fitsWord_of_readWhole {numeral : Numeral} {g : Gathered} {n : Int}
    (fits : g.significand < wordLimit) (read : numeral.readWhole g = .ok (.integer n)) :
    FitsWord n := by
  have limit : g.significand < 18446744073709551616 := fits
  simp only [readWhole] at read
  split at read
  · exact absurd read (numeral.scaled_ne_integer _ _ _)
  · split at read
    · split at read
      · obtain rfl := Number.integer.inj (Except.ok.inj read)
        rw [FitsWord]
        omega
      · exact absurd read (numeral.scaled_ne_integer _ _ _)
    · obtain rfl := Number.integer.inj (Except.ok.inj read)
      rw [FitsWord]
      omega

/-- A numeral that is read as a whole number fits in a word. -/
theorem fitsWord_of_read {numeral : Numeral} {n : Int} (read : numeral.read = .ok (.integer n)) :
    FitsWord n := by
  rw [Numeral.read] at read
  split at read
  · exact fitsWord_of_readWhole (Gathered.whole_lt (by decide) _) read
  · exact absurd read (numeral.readExponent_ne_integer _ _ _)
  · exact absurd read (numeral.scaled_ne_integer _ _ _)
  · exact absurd read (numeral.readExponent_ne_integer _ _ _)

theorem read_ofInt_eq (n : Int) : (ofInt n).read =
    (ofInt n).readWhole (Gathered.whole ⟨0, 0, false⟩ (decimalDigits n.natAbs)) := rfl

/-- A whole number that fits in a word is read back from its digits. -/
theorem read_ofInt {n : Int} (fits : FitsWord n) : (ofInt n).read = .ok (.integer n) := by
  obtain ⟨low, high⟩ := fits
  have small : digitsValue (decimalDigits n.natAbs) < wordLimit := by
    rw [digitsValue_decimalDigits]
    show n.natAbs < 18446744073709551616
    omega
  rw [read_ofInt_eq, Gathered.whole_of_lt small, digitsValue_decimalDigits, readWhole,
    if_neg Bool.false_ne_true]
  by_cases negative : n < 0
  · have sign : (ofInt n).negative = true := decide_eq_true negative
    have room : 0 < n.natAbs ∧ n.natAbs ≤ 9223372036854775808 := by omega
    have value : -(n.natAbs : Int) = n := by omega
    rw [if_pos sign, if_pos room, value]
  · have sign : (ofInt n).negative ≠ true := by simpa [ofInt] using negative
    have value : (n.natAbs : Int) = n := by omega
    rw [if_neg sign, value]

/-- A whole number that does not fit is never read as another one. -/
theorem read_ofInt_of_not_fits {n : Int} (large : ¬FitsWord n) :
    (∃ x, (ofInt n).read = .ok (.real x)) ∨ ∃ count, (ofInt n).read = .error count := by
  rw [read_ofInt_eq, readWhole]
  rcases Nat.lt_or_ge (digitsValue (decimalDigits n.natAbs)) wordLimit with small | long
  · rw [Gathered.whole_of_lt small, if_neg Bool.false_ne_true]
    rw [digitsValue_decimalDigits] at small ⊢
    have limit : n.natAbs < 18446744073709551616 := small
    rw [FitsWord] at large
    have negative : (ofInt n).negative = true := decide_eq_true (by omega)
    have low : ¬(0 < n.natAbs ∧ n.natAbs ≤ 9223372036854775808) := by omega
    rw [if_pos negative, if_neg low]
    exact (ofInt n).scaled_cases _ _
  · rw [if_pos (Gathered.full_whole_of_le long)]
    exact (ofInt n).scaled_cases _ _

theorem read_ofInt_eq_integer_iff {n m : Int} :
    (ofInt n).read = .ok (.integer m) ↔ FitsWord n ∧ n = m := by
  constructor
  · intro read
    by_cases fits : FitsWord n
    · have same := (read_ofInt fits).symm.trans read
      exact ⟨fits, Number.integer.inj (Except.ok.inj same)⟩
    · rcases read_ofInt_of_not_fits fits with ⟨x, other⟩ | ⟨count, other⟩ <;>
        cases read.symm.trans other
  · rintro ⟨fits, rfl⟩
    exact read_ofInt fits

end Json.Numeral

end MetricQuery
