import Mathlib.Data.List.Basic
import MetricQuery.Json.Scan

namespace MetricQuery.Json

/-- A piece that is read as one piece: it neither ends the string nor breaks its grammar. -/
inductive Piece.Sound : Piece → Prop
  | plain {c : Char} : c ≠ '"' → c ≠ '\\' → 0x20 ≤ c.toNat → Sound (.plain c)
  | short {c : Char} : (shortEscape c).isSome = true → Sound (.short c)
  | unit {a b c d : Char} : isHex a = true → isHex b = true → isHex c = true → isHex d = true →
      Sound (.unit a b c d)

/-- A string that goes on to its closing quote. -/
structure Spelling.Sound (spelling : Spelling) : Prop where
  pieces : ∀ piece ∈ spelling.pieces, piece.Sound
  fault : spelling.fault = none

/-- Puts a piece in front of what has been read of a string. -/
def Spelling.consRead (piece : Piece) (read : Spelling × List Char) : Spelling × List Char :=
  (⟨piece :: read.1.pieces, read.1.fault⟩, read.2)

theorem scanString_plain {c : Char} (noQuote : c ≠ '"') (noEscape : c ≠ '\\')
    (visible : 0x20 ≤ c.toNat) (rest : List Char) :
    scanString (c :: rest) = Spelling.consRead (.plain c) (scanString rest) := by
  rw [scanString.eq_7 c rest noQuote (fun _ _ _ _ _ same => absurd same noEscape)
    (fun _ same => absurd same noEscape) (fun same => absurd same noEscape)
    (fun _ _ same => absurd same noEscape), if_neg (Nat.not_lt.2 visible)]
  rfl

theorem scanString_short {c : Char} (known : (shortEscape c).isSome = true) (rest : List Char) :
    scanString ('\\' :: c :: rest) = Spelling.consRead (.short c) (scanString rest) := by
  have noUnit : c ≠ 'u' := by
    rintro rfl
    exact absurd known (by decide)
  rw [scanString.eq_6 c rest (fun _ _ _ _ _ same => absurd same noUnit) noUnit, if_pos known]
  rfl

theorem scanString_unit {a b c d : Char} (hexA : isHex a = true) (hexB : isHex b = true)
    (hexC : isHex c = true) (hexD : isHex d = true) (rest : List Char) :
    scanString ('\\' :: 'u' :: a :: b :: c :: d :: rest) =
      Spelling.consRead (.unit a b c d) (scanString rest) := by
  rw [scanString, hexA, hexB, hexC, hexD]
  rfl

theorem scanString_piece {piece : Piece} (sound : piece.Sound) (rest : List Char) :
    scanString (piece.text ++ rest) = Spelling.consRead piece (scanString rest) := by
  cases sound with
  | plain noQuote noEscape visible => exact scanString_plain noQuote noEscape visible rest
  | short known => exact scanString_short known rest
  | unit hexA hexB hexC hexD => exact scanString_unit hexA hexB hexC hexD rest

theorem scanString_pieces {pieces : List Piece} (sound : ∀ piece ∈ pieces, piece.Sound)
    (rest : List Char) :
    scanString (pieces.flatMap Piece.text ++ '"' :: rest) = (⟨pieces, none⟩, rest) := by
  induction pieces with
  | nil => rw [List.flatMap_nil, List.nil_append, scanString]
  | cons piece pieces ih =>
    obtain ⟨first, others⟩ := List.forall_mem_cons.1 sound
    rw [List.flatMap_cons, List.append_assoc, scanString_piece first, ih others]
    rfl

theorem Spelling.text_append (spelling : Spelling) (rest : List Char) :
    spelling.text ++ rest = '"' :: (spelling.pieces.flatMap Piece.text ++ '"' :: rest) := by
  simp [text]

/-- A sound string is read up to its closing quote, whatever comes after it. -/
theorem Spelling.Sound.scan {spelling : Spelling} (sound : spelling.Sound) (rest : List Char) :
    scanString (spelling.pieces.flatMap Piece.text ++ '"' :: rest) = (spelling, rest) := by
  obtain ⟨pieces, fault⟩ := spelling
  obtain rfl : fault = none := sound.fault
  exact scanString_pieces sound.pieces rest

/-- The ways in which a character is written. -/
inductive Piece.Spells (c : Char) : Piece → Prop
  | short {mark : Char} : shortEscape mark = some c → Spells c (.short mark)
  | control : c.toNat < 0x20 →
      Spells c (.unit '0' '0' (Nat.digitChar (c.toNat / 16)) (Nat.digitChar (c.toNat % 16)))
  | plain : c ≠ '"' → c ≠ '\\' → 0x20 ≤ c.toNat → Spells c (.plain c)

theorem Spelling.pieceOf_spells (c : Char) : (pieceOf c).Spells c := by
  unfold pieceOf
  split_ifs with quote backslash backspace feed line carriage tab control
  · exact .short (by rw [quote]; decide)
  · exact .short (by rw [backslash]; decide)
  · exact .short (by rw [backspace]; decide)
  · exact .short (by rw [feed]; decide)
  · exact .short (by rw [line]; decide)
  · exact .short (by rw [carriage]; decide)
  · exact .short (by rw [tab]; decide)
  · exact .control control
  · exact .plain quote backslash (Nat.not_lt.1 control)

theorem hexValue_digitChar {n : Nat} (small : n < 16) : hexValue (Nat.digitChar n) = some n := by
  revert n
  decide

theorem isHex_digitChar {n : Nat} (small : n < 16) : isHex (Nat.digitChar n) = true := by
  rw [isHex, hexValue_digitChar small]
  rfl

theorem unitValue_control {n : Nat} (control : n < 0x20) :
    unitValue '0' '0' (Nat.digitChar (n / 16)) (Nat.digitChar (n % 16)) = n := by
  have zero : hexValue '0' = some 0 := by decide
  have high : hexValue (Nat.digitChar (n / 16)) = some (n / 16) := hexValue_digitChar (by omega)
  have low : hexValue (Nat.digitChar (n % 16)) = some (n % 16) := hexValue_digitChar (by omega)
  simp only [unitValue, List.foldl_cons, List.foldl_nil, zero, high, low, Option.getD_some]
  omega

theorem Piece.Spells.sound {c : Char} {piece : Piece} (spells : piece.Spells c) : piece.Sound := by
  cases spells with
  | short stands => exact .short (stands ▸ rfl)
  | control control =>
    exact .unit (by decide) (by decide) (isHex_digitChar (by omega)) (isHex_digitChar (by omega))
  | plain noQuote noEscape visible => exact .plain noQuote noEscape visible

/-- A piece that spells a character is read as this character. -/
theorem Piece.Spells.readPieces {c : Char} {piece : Piece} (spells : piece.Spells c)
    {pieces : List Piece} {chars : List Char}
    (read : Spelling.readPieces none pieces = .ok chars) :
    Spelling.readPieces none (piece :: pieces) = .ok (c :: chars) := by
  cases spells with
  | short stands =>
    rw [Spelling.readPieces, read, stands]
    rfl
  | control control =>
    have leading : isLeading c.toNat = false := by
      simp only [isLeading, Bool.and_eq_false_iff, decide_eq_false_iff_not]
      omega
    have trailing : isTrailing c.toNat = false := by
      simp only [isTrailing, Bool.and_eq_false_iff, decide_eq_false_iff_not]
      omega
    rw [Spelling.readPieces.eq_def]
    simp only [unitValue_control control, leading, trailing, Bool.false_eq_true, if_false, read]
    rw [Char.ofNat_toNat]
    rfl
  | plain =>
    rw [Spelling.readPieces, read]
    rfl

namespace Spelling

theorem ofString_sound (text : String) : (ofString text).Sound where
  pieces := by
    intro piece member
    obtain ⟨c, _, rfl⟩ := List.mem_map.1 member
    exact (pieceOf_spells c).sound
  fault := rfl

theorem readPieces_map_pieceOf (chars : List Char) :
    readPieces none (chars.map pieceOf) = .ok chars := by
  induction chars with
  | nil => rfl
  | cons c rest ih => exact (pieceOf_spells c).readPieces ih

/-- A text is read back from its shortest spelling. -/
theorem read_ofString (text : String) : (ofString text).read = .ok text := by
  rw [read, ofString, readPieces_map_pieceOf]
  exact congrArg Except.ok (String.ofList_toList)

end Spelling

end MetricQuery.Json
