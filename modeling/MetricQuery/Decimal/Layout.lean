import MetricQuery.Decimal.Shortest

namespace MetricQuery

/-- How the shortest digits of a float are laid out. The point stands `place` digits after the
start of the digits; outside the plain places an exponent is written instead. -/
structure DecimalLayout where
  tie : Tie
  plainPlace : Int → Bool
  wholePoint : Bool

/-- Documents write plain notation from `0.00001` to below `10^16`, with a point in every float. -/
def DecimalLayout.document : DecimalLayout where
  tie := .even
  plainPlace place := -4 ≤ place && place ≤ 16
  wholePoint := true

/-- Messages write every float without an exponent, and whole ones without a point. -/
def DecimalLayout.message : DecimalLayout where
  tie := .upper
  plainPlace _ := true
  wholePoint := false

/-- A decimal number as it is written: digits before the point, digits after it, which may be
missing, and a power of ten. -/
structure DecimalParts where
  negative : Bool
  whole : List Char
  fraction : List Char
  power : Option Int
deriving DecidableEq, Repr

def decimalDigits (n : Nat) : List Char := Nat.toDigits 10 n

/-- The text of the number. An exponent always shows its sign. -/
def DecimalParts.text (parts : DecimalParts) : List Char :=
  (if parts.negative then ['-'] else []) ++ parts.whole ++
    (if parts.fraction.isEmpty then [] else '.' :: parts.fraction) ++
    match parts.power with
    | none => []
    | some power => ['e', if power < 0 then '-' else '+'] ++ decimalDigits power.natAbs

namespace DecimalLayout

def zeros (count : Nat) : List Char := List.replicate count '0'

def plain (layout : DecimalLayout) (negative : Bool) (digits : List Char) (place : Int) :
    DecimalParts :=
  if place ≤ 0 then ⟨negative, ['0'], zeros (-place).toNat ++ digits, none⟩
  else if digits.length ≤ place.toNat then
    ⟨negative, digits ++ zeros (place.toNat - digits.length),
      if layout.wholePoint then ['0'] else [], none⟩
  else ⟨negative, digits.take place.toNat, digits.drop place.toNat, none⟩

/-- The parts of a finite float. A minus sign is written for every number with the sign bit set,
zero included. -/
def parts (layout : DecimalLayout) (x : Float) : DecimalParts :=
  let b := Binary.ofFloat x
  let negative : Bool := x.toBits.toNat / Nat.pow 2 63 = 1
  if b.fraction = 0 then layout.plain negative ['0'] 1
  else
    let decimal := b.shortest layout.tie
    let digits := decimalDigits decimal.digits
    let place := decimal.exponent + digits.length
    if layout.plainPlace place then layout.plain negative digits place
    else ⟨negative, digits.take 1, digits.drop 1, some (place - 1)⟩

def render (layout : DecimalLayout) (x : Float) : String :=
  String.ofList (layout.parts x).text

end DecimalLayout

end MetricQuery
