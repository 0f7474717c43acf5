namespace MetricQuery

/-- The number `digits * 10 ^ exponent`. -/
structure Decimal where
  digits : Nat
  exponent : Int
deriving DecidableEq, Repr

/-- The number `fraction * 2 ^ exponent`, as a finite float holds its magnitude. -/
structure Binary where
  fraction : Nat
  exponent : Int
deriving DecidableEq, Repr

/-- Which of two equally near decimals stands for a number: the upper one or the even one. -/
inductive Tie where
  | upper
  | even
deriving DecidableEq, Repr

namespace Binary

def leastExponent : Int := -1074

/-- The leading bit of a fraction, which is left out of the bits unless the exponent is the least. -/
def hiddenBit : Nat := Nat.pow 2 52

/-- The magnitude of a finite float, read off its bits. -/
def ofFloat (x : Float) : Binary :=
  let bits := x.toBits.toNat
  let power := bits / hiddenBit % 2048
  let low := bits % hiddenBit
  if power = 0 then ⟨low, leastExponent⟩ else ⟨low + hiddenBit, Int.ofNat power - 1075⟩

/-- Four times the fraction, together with the ends of the interval of numbers that round to the
float. Below a power of two the floats lie twice as dense. -/
def lowEnd (b : Binary) : Nat :=
  4 * b.fraction - (if b.fraction = hiddenBit ∧ b.exponent ≠ leastExponent then 1 else 2)

def highEnd (b : Binary) : Nat := 4 * b.fraction + 2

/-- The factors that bring quarters of the fraction and points of the grid `10 ^ grid` to a
common unit. -/
def quarterFactor (b : Binary) (grid : Int) : Nat :=
  Nat.pow 2 (b.exponent - 2).toNat * Nat.pow 10 (-grid).toNat

def gridFactor (b : Binary) (grid : Int) : Nat :=
  Nat.pow 10 grid.toNat * Nat.pow 2 (2 - b.exponent).toNat

/-- Whether a point of a grid rounds to the float. The ends of the interval do so exactly if the
fraction is even. -/
def reads (b : Binary) (grid : Int) (point : Nat) : Bool :=
  let low := b.lowEnd * b.quarterFactor grid
  let high := b.highEnd * b.quarterFactor grid
  let place := point * b.gridFactor grid
  if b.fraction % 2 = 0 then low ≤ place && place ≤ high else low < place && place < high

/-- The neighbour of the number on a grid that stands for it, if one of the two does. -/
def onGrid (tie : Tie) (b : Binary) (grid : Int) : Option Decimal :=
  let exact := 4 * b.fraction * b.quarterFactor grid
  let unit := b.gridFactor grid
  let below := exact / unit
  let above := below + 1
  match b.reads grid below, b.reads grid above with
  | false, false => none
  | true, false => some ⟨below, grid⟩
  | false, true => some ⟨above, grid⟩
  | true, true =>
    let down := exact - below * unit
    let up := above * unit - exact
    if down < up then some ⟨below, grid⟩
    else if up < down then some ⟨above, grid⟩
    else
      match tie with
      | .upper => some ⟨above, grid⟩
      | .even => if below % 2 = 0 then some ⟨below, grid⟩ else some ⟨above, grid⟩

/-- A grid whose unit exceeds the number. -/
def topGrid (b : Binary) : Int :=
  ((b.fraction.log2 + b.exponent + 1) * 30103).fdiv 100000 + 2

/-- The fewest digits that read back as the float and, of those, the nearest to it: the coarsest
grid with a point that reads back decides. Seventeen digits always suffice. -/
def shortest (tie : Tie) (b : Binary) : Decimal :=
  ((List.range 24).findSome? fun (step : Nat) => b.onGrid tie (b.topGrid - step)).getD ⟨0, 0⟩

end Binary

end MetricQuery
