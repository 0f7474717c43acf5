import MetricQuery.Proofs.Json.Integer
import MetricQuery.Proofs.Value.Denotation

namespace MetricQuery

open Json

namespace Value

/-- The whole numbers that are kept as such: those of 64 bits with a sign. -/
def FitsSigned (n : Int) : Prop := -2 ^ 63 ≤ n ∧ n ≤ 2 ^ 63 - 1

theorem ofInt_of_fits {n : Int} (fits : FitsSigned n) : ofInt n = .integer n := by
  rw [FitsSigned] at fits
  rw [ofInt, if_pos (by omega)]

theorem ofInt_of_not_fits {n : Int} (large : ¬FitsSigned n) : ∃ x, ofInt n = .real x := by
  rw [FitsSigned] at large
  exact ⟨_, if_neg (by omega)⟩

variable {numeral : Numeral} {room : Nat}

theorem decoder_integer {n : Int} (counted : numeral.read = .ok (.integer n)) :
    decoder room (.number numeral) = .ok (ofInt n) :=
  decoder_eq_ok_iff_denotes.2 (.integer counted)

theorem decoder_real {x : Float} (counted : numeral.read = .ok (.real x)) :
    decoder room (.number numeral) = .ok (.real x) :=
  decoder_eq_ok_iff_denotes.2 (.real counted)

theorem decoder_tooLarge {count : Nat} (counted : numeral.read = .error count) :
    decoder room (.number numeral) = .error ⟨.numberTooLarge, count⟩ := by
  simp only [decoder, Decoder.map, Decoder.any, Node.readAny, Numeral.number, counted]
  rfl

/-- What a text is read as when its number is not kept as a whole one. -/
def ReadInexactly (text : String) : Prop :=
  (∃ x, parse text = .ok (.real x)) ∨
    ∃ error, parse text = .error error ∧ error.problem = .numberTooLarge

theorem parse_literal_of_fits {literal : IntegerLiteral} (fits : FitsSigned literal.value) :
    parse literal.text = .ok (.integer literal.value) := by
  have word : FitsWord literal.value := by
    rw [FitsSigned] at fits
    rw [FitsWord]
    omega
  have counted : literal.numeral.read = .ok (.integer literal.value) := by
    rw [literal.numeral_eq]
    exact Numeral.read_ofInt word
  rw [parse, literal.writes.decode_iff, ← ofInt_of_fits fits]
  exact decoder_integer counted

theorem readInexactly_of_not_fits {literal : IntegerLiteral} (large : ¬FitsSigned literal.value) :
    ReadInexactly literal.text := by
  have real {x : Float} (read : decoder fullRoom (.number literal.numeral) = .ok (.real x)) :
      ReadInexactly literal.text := Or.inl ⟨x, literal.writes.decode_iff.2 read⟩
  by_cases word : FitsWord literal.value
  · have counted := Numeral.read_ofInt word
    rw [← literal.numeral_eq] at counted
    obtain ⟨x, same⟩ := ofInt_of_not_fits large
    exact real (same ▸ decoder_integer counted)
  · have counted := Numeral.read_ofInt_of_not_fits word
    rw [← literal.numeral_eq] at counted
    rcases counted with ⟨x, counted⟩ | ⟨count, counted⟩
    · exact real (decoder_real counted)
    · exact Or.inr (literal.writes.exists_error (decoder_tooLarge counted))

theorem ReadInexactly.ne_integer {text : String} (inexact : ReadInexactly text) (n : Int) :
    parse text ≠ .ok (.integer n) := by
  rcases inexact with ⟨x, same⟩ | ⟨error, same, _⟩ <;> simp [same]

theorem parse_literal_iff {literal : IntegerLiteral} :
    parse literal.text = .ok (.integer literal.value) ↔ FitsSigned literal.value := by
  refine ⟨fun parsed => ?_, parse_literal_of_fits⟩
  by_contra large
  exact (readInexactly_of_not_fits large).ne_integer _ parsed

theorem display_literal (literal : IntegerLiteral) :
    (Value.integer literal.value).display = literal.text := literal.text_eq_toString.symm

theorem write_literal (literal : IntegerLiteral) :
    (Value.integer literal.value).write = literal.text := by
  rw [literal.text_eq, literal.numeral_eq]
  rfl

end Value

end MetricQuery
