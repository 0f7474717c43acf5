import Mathlib.Tactic.IntervalCases
import MetricQuery.Proofs.Json.Thorough

namespace MetricQuery.Json

/-- A digit is the one that its value is written as. -/
theorem digitChar_digitsValue {c : Char} (digit : isDigit c = true) :
    digitsValue [c] < 10 ∧ Nat.digitChar (digitsValue [c]) = c := by
  have value : digitsValue [c] = c.toNat - 48 := by simp [digitsValue]
  simp only [isDigit, Bool.and_eq_true, decide_eq_true_eq] at digit
  have low : 48 ≤ c.toNat := digit.1
  have high : c.toNat ≤ 57 := digit.2
  refine ⟨by omega, ?_⟩
  rw [value, ← Char.ofNat_toNat c]
  generalize c.toNat = code at low high
  interval_cases code <;> rfl

/-- Digits without a zero in front are the digits of their value. -/
theorem decimalDigits_digitsValue {digits : List Char} (all : IsDigits digits)
    (noLeadingZero : digits.head? = some '0' → digits = ['0']) :
    decimalDigits (digitsValue digits) = digits := by
  induction digits using List.reverseRecOn with
  | nil => exact absurd rfl all.nonempty
  | append_singleton front c ih =>
    obtain ⟨small, same⟩ := digitChar_digitsValue (all.digits c (by simp))
    cases front with
    | nil =>
      rw [List.nil_append, decimalDigits, Nat.toDigits_of_lt_base small, same]
    | cons first rest =>
      have headless : first ≠ '0' := by
        rintro rfl
        simpa using congrArg List.length (noLeadingZero rfl)
      have front : decimalDigits (digitsValue (first :: rest)) = first :: rest := by
        refine ih ⟨List.cons_ne_nil _ _, fun d held => all.digits d (List.mem_append_left _ held)⟩ ?_
        intro head
        exact absurd (Option.some.inj head) headless
      have positive : 0 < digitsValue (first :: rest) := by
        refine Nat.pos_of_ne_zero fun zero => headless ?_
        rw [zero] at front
        exact (List.cons.inj front).1.symm
      rw [digitsValue_append_singleton, decimalDigits,
        ← Nat.toDigits_append_toDigits (by decide) positive small, Nat.toDigits_of_lt_base small, same]
      exact congrArg (· ++ [c]) front

/-- A whole number is shown as it is written in a document. -/
theorem Numeral.ofList_text_ofInt (n : Int) : String.ofList (ofInt n).text = toString n := by
  rw [Int.toString_eq_repr, Int.repr_eq_if, text, mantissaText]
  rcases lt_or_ge n 0 with negative | nonnegative
  · have size : (-n).toNat = n.natAbs := by omega
    rw [if_neg (Int.not_le.2 negative), size, ← String.toList_inj]
    simp [ofInt, negative, Nat.repr_eq_ofList_toDigits, decimalDigits]
  · have size : n.toNat = n.natAbs := by omega
    rw [if_pos nonnegative, size, ← String.toList_inj]
    simp [ofInt, Int.not_lt.2 nonnegative, Nat.repr_eq_ofList_toDigits, decimalDigits]

/-- A whole number as it is written, of any length: digits without a zero in front, and a sign in
front of them unless there is only a zero. -/
structure IntegerLiteral where
  negative : Bool
  digits : List Char
  isDigits : IsDigits digits
  noLeadingZero : digits.head? = some '0' → digits = ['0']
  noNegativeZero : negative = true → digits ≠ ['0']

namespace IntegerLiteral

def text (literal : IntegerLiteral) : String :=
  String.ofList (if literal.negative then '-' :: literal.digits else literal.digits)

def value (literal : IntegerLiteral) : Int :=
  if literal.negative then -(digitsValue literal.digits : Int) else digitsValue literal.digits

def numeral (literal : IntegerLiteral) : Numeral := ⟨literal.negative, literal.digits, none, none⟩

theorem digits_eq (literal : IntegerLiteral) :
    literal.digits = decimalDigits (digitsValue literal.digits) :=
  (decimalDigits_digitsValue literal.isDigits literal.noLeadingZero).symm

theorem natAbs_value (literal : IntegerLiteral) :
    literal.value.natAbs = digitsValue literal.digits := by
  rw [value]
  split
  · rw [Int.natAbs_neg, Int.natAbs_natCast]
  · rw [Int.natAbs_natCast]

theorem value_neg_iff (literal : IntegerLiteral) : literal.value < 0 ↔ literal.negative = true := by
  have zero : literal.negative = true → digitsValue literal.digits ≠ 0 := by
    intro negative none
    refine literal.noNegativeZero negative ?_
    rw [literal.digits_eq, none]
    rfl
  rw [value]
  cases sign : literal.negative with
  | true =>
    have positive := zero sign
    rw [if_pos rfl]
    exact iff_of_true (by omega) rfl
  | false =>
    rw [if_neg Bool.false_ne_true]
    exact iff_of_false (by omega) Bool.false_ne_true

/-- A literal is the one numeral that its value is written as. -/
theorem numeral_eq (literal : IntegerLiteral) : literal.numeral = .ofInt literal.value := by
  have sign : decide (literal.value < 0) = literal.negative :=
    Bool.eq_iff_iff.2 (decide_eq_true_iff.trans literal.value_neg_iff)
  rw [numeral, Numeral.ofInt, sign, literal.natAbs_value, ← literal.digits_eq]

theorem text_eq (literal : IntegerLiteral) : literal.text = String.ofList literal.numeral.text := by
  rw [text, Numeral.text, Numeral.mantissaText, numeral]
  cases literal.negative <;> simp

/-- The document of a literal that stands alone. -/
def document (literal : IntegerLiteral) : Document := ⟨[], .number literal.numeral, [], none⟩

theorem writes (literal : IntegerLiteral) : literal.document.Writes literal.text where
  sound := ⟨blanks_nil, .number (literal.numeral_eq ▸ Numeral.ofInt_sound _), blanks_nil, rfl⟩
  same := by
    rw [literal.text_eq, String.toList_ofList]
    simp [document, Document.text, Node.text]

theorem text_eq_toString (literal : IntegerLiteral) : literal.text = toString literal.value := by
  rw [literal.text_eq, literal.numeral_eq, Numeral.ofList_text_ofInt]

/-- Every whole number is written as a literal. -/
def ofInt (n : Int) : IntegerLiteral where
  negative := n < 0
  digits := decimalDigits n.natAbs
  isDigits := isDigits_decimalDigits _
  noLeadingZero := decimalDigits_of_head_zero
  noNegativeZero := by
    intro negative zero
    have size := digitsValue_decimalDigits n.natAbs
    rw [zero] at size
    have positive : n < 0 := of_decide_eq_true negative
    have nothing : 0 = n.natAbs := size
    omega

@[simp] theorem value_ofInt (n : Int) : (ofInt n).value = n := by
  rw [value, ofInt, digitsValue_decimalDigits]
  split
  · rename_i negative
    have below : n < 0 := of_decide_eq_true negative
    omega
  · rename_i other
    have above : ¬n < 0 := fun below => other (decide_eq_true below)
    omega

theorem text_ofInt (n : Int) : (ofInt n).text = toString n := by
  rw [text_eq_toString, value_ofInt]

end IntegerLiteral

end MetricQuery.Json
