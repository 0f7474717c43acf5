import MetricQuery.Decimal.Layout
import MetricQuery.Decimal.Reading

namespace MetricQuery.Json

structure Exponent where
  mark : Char
  sign : Option Char
  digits : List Char
deriving DecidableEq, Repr

/-- A number as it is written. -/
structure Numeral where
  negative : Bool
  whole : List Char
  fraction : Option (List Char)
  exponent : Option Exponent
deriving DecidableEq, Repr

def isDigit (c : Char) : Bool := '0' ≤ c && c ≤ '9'

def Exponent.text (exponent : Exponent) : List Char :=
  exponent.mark :: exponent.sign.toList ++ exponent.digits

/-- The value of a numeral: whole numbers of up to 64 bits are exact, all others are floats. -/
inductive Number where
  | integer (value : Int)
  | real (value : Float)

namespace Numeral

/-- The part of a numeral that comes before its exponent. -/
def mantissaText (numeral : Numeral) : List Char :=
  (if numeral.negative then ['-'] else []) ++ numeral.whole ++
    match numeral.fraction with
    | none => []
    | some digits => '.' :: digits

def text (numeral : Numeral) : List Char :=
  numeral.mantissaText ++
    match numeral.exponent with
    | none => []
    | some exponent => exponent.text

def ofInt (n : Int) : Numeral :=
  ⟨n < 0, decimalDigits n.natAbs, none, none⟩

def ofParts (parts : DecimalParts) : Numeral where
  negative := parts.negative
  whole := parts.whole
  fraction := if parts.fraction.isEmpty then none else some parts.fraction
  exponent := parts.power.map fun power =>
    ⟨'e', some (if power < 0 then '-' else '+'), decimalDigits power.natAbs⟩

def signed (numeral : Numeral) (x : Float) : Float :=
  if numeral.negative then -x else x

def exponentLimit : Nat := 2147483647

/-- How many digits have been read once their value exceeds a limit. -/
def digitsPast (limit value : Nat) : List Char → Option Nat
  | [] => none
  | c :: rest =>
    let next := 10 * value + digitsValue [c]
    if limit < next then some 1 else (digitsPast limit next rest).map (· + 1)

/-- A float is refused for its size once the whole numeral has been read. -/
def scaled (numeral : Numeral) (significand : Nat) (exponent : Int) : Except Nat Number :=
  match scaleByTen significand exponent with
  | none => .error numeral.text.length
  | some x => .ok (.real (numeral.signed x))

def readExponent (numeral : Numeral) (g : Gathered) (exponent : Exponent) : Except Nat Number :=
  let shrinks := exponent.sign = some '-'
  match digitsPast exponentLimit 0 exponent.digits with
  | none =>
    let power : Int := digitsValue exponent.digits
    numeral.scaled g.significand (if shrinks then g.exponent - power else g.exponent + power)
  | some count =>
    if g.significand = 0 ∨ shrinks then .ok (.real (numeral.signed 0))
    else .error (numeral.mantissaText.length + 1 + exponent.sign.toList.length + count)

/-- A whole number keeps its value if it fits in 64 bits, signed when it is negative. The
negative zero is a float. -/
def readWhole (numeral : Numeral) (g : Gathered) : Except Nat Number :=
  if g.full then numeral.scaled g.significand g.exponent
  else if numeral.negative then
    if 0 < g.significand ∧ g.significand ≤ 9223372036854775808 then .ok (.integer (-g.significand))
    else numeral.scaled g.significand 0
  else .ok (.integer g.significand)

/-- Reads a numeral; an error tells how many characters had been read when it became too large. -/
def read (numeral : Numeral) : Except Nat Number :=
  let whole := Gathered.whole ⟨0, 0, false⟩ numeral.whole
  match numeral.fraction, numeral.exponent with
  | none, none => numeral.readWhole whole
  | none, some exponent => numeral.readExponent whole exponent
  | some digits, none =>
    let g := whole.fraction digits
    numeral.scaled g.significand g.exponent
  | some digits, some exponent => numeral.readExponent (whole.fraction digits) exponent

end Numeral

end MetricQuery.Json
