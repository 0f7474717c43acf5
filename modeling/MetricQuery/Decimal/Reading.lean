namespace MetricQuery

/-- The value of a run of decimal digits. -/
def digitsValue (digits : List Char) : Nat :=
  digits.foldl (fun value c => 10 * value + (c.toNat - '0'.toNat)) 0

/-- Decimal digits gathered into one word of 64 bits. Once a digit no longer fits, it and the
digits after it only move the decimal point. -/
structure Gathered where
  significand : Nat
  exponent : Int
  full : Bool
deriving DecidableEq, Repr

def wordLimit : Nat := 18446744073709551616

/-- Digits before the point: those that do not fit shift the point to the right. -/
def Gathered.whole (g : Gathered) : List Char → Gathered
  | [] => g
  | c :: rest =>
    let next := 10 * g.significand + digitsValue [c]
    if g.full || wordLimit ≤ next then
      Gathered.whole { g with exponent := g.exponent + 1, full := true } rest
    else Gathered.whole { g with significand := next } rest

/-- Digits after the point: those that fit shift the point to the left, the rest are dropped. -/
def Gathered.fraction (g : Gathered) : List Char → Gathered
  | [] => g
  | c :: rest =>
    let next := 10 * g.significand + digitsValue [c]
    if wordLimit ≤ next then g
    else Gathered.fraction { g with significand := next, exponent := g.exponent - 1 } rest

/-- A power of ten that a float can hold, correctly rounded. -/
def powerOfTen (n : Nat) : Float := Float.ofScientific 1 false n

/-- A significand scaled by a power of ten in float arithmetic, `none` when the result is too
large for a float. Two divisions by `10^308` already bring every significand to zero. -/
def scaleByTen (significand : Nat) (exponent : Int) : Option Float :=
  let x := (UInt64.ofNat significand).toFloat
  if significand = 0 then some x
  else if 308 < exponent then none
  else if 0 ≤ exponent then
    let y := x * powerOfTen exponent.toNat
    if y.isInf then none else some y
  else if -308 ≤ exponent then some (x / powerOfTen (-exponent).toNat)
  else
    let y := x / powerOfTen 308
    if -616 ≤ exponent then some (y / powerOfTen (-exponent - 308).toNat)
    else some (y / powerOfTen 308)

end MetricQuery
