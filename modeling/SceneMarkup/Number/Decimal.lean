/-!
Decimals and the doubles that they are read as. A decimal keeps as many leading digits as fit into
64 bits. Reading rounds at every step: the digits become a double, which is then multiplied or
divided by a power of ten that is a double too.

The fewest decimal digits that round to a given binary value. The reals that round to the value
form an interval, closed if the significand is even; the first grid of powers of ten with a point
in the interval wins, and of its two points next to the value the nearer.
-/

namespace SceneMarkup.Number

structure Decimal where
  digits : Nat
  exponent : Int
  deriving DecidableEq

def digitsBound : Nat := 0x10000000000000000

def digitValue (c : Char) : Nat := c.toNat - '0'.toNat

def appendDigits (n : Nat) : List Char → Nat × List Char
  | [] => (n, [])
  | c :: rest =>
    let next := 10 * n + digitValue c
    if next < digitsBound then appendDigits next rest else (n, c :: rest)

def Decimal.ofDigits (whole fraction : List Char) (exponent : Int) : Decimal :=
  let (n, places) := appendDigits 0 whole
  let (n, dropped) := appendDigits n fraction
  ⟨n, exponent + places.length - (fraction.length - dropped.length : Nat)⟩

def maxTenExponent : Nat := 308

def powerOfTen (e : Nat) : Float := Float.ofScientific 1 false e

def multiplied (x : Float) (e : Nat) : Option Float :=
  if x == 0 then some x
  else if maxTenExponent < e then none
  else
    let y := x * powerOfTen e
    if y.isInf then none else some y

/-- One step divides by `10 ^ 308` at most, and two such steps leave nothing of 64 bits. -/
def divided (x : Float) (e : Nat) : Float :=
  if e ≤ maxTenExponent then x / powerOfTen e
  else if e ≤ 2 * maxTenExponent then
    x / powerOfTen maxTenExponent / powerOfTen (e - maxTenExponent)
  else 0

def Decimal.toFloat? (d : Decimal) : Option Float :=
  let x := Float.ofNat d.digits
  match d.exponent with
  | .ofNat e => multiplied x e
  | .negSucc e => some (divided x (e + 1))

/-- The value `significand * 2 ^ exponent`; its lower neighbour is at half the usual distance if
`narrowBelow`. -/
structure Binary where
  significand : Nat
  exponent : Int
  narrowBelow : Bool

def hiddenBit : Nat := 0x10000000000000

def exponents : Nat := 0x800

def Binary.ofFloat (x : Float) : Binary :=
  let bits : Nat := x.toBits.toNat
  let fraction : Nat := bits % hiddenBit
  let biased : Nat := bits / hiddenBit % exponents
  if biased = 0 then ⟨fraction, -1074, false⟩
  else ⟨fraction + hiddenBit, (biased : Int) - 1075, fraction == 0 && biased != 1⟩

inductive Tie
  | up
  | even

def Tie.choose : Tie → Nat → Nat
  | .up, below => below + 1
  | .even, below => below + below % 2

structure Scaled where
  value : Nat
  low : Nat
  high : Nat
  step : Nat
  closed : Bool

def Binary.scaled (b : Binary) (grid : Int) : Scaled :=
  let quarter := b.exponent - 2
  let unit := Nat.pow 2 quarter.toNat * Nat.pow 10 (-grid).toNat
  { value := 4 * b.significand * unit
    low := (4 * b.significand - if b.narrowBelow then 1 else 2) * unit
    high := (4 * b.significand + 2) * unit
    step := Nat.pow 2 (-quarter).toNat * Nat.pow 10 grid.toNat
    closed := b.significand % 2 == 0 }

def Scaled.holds (s : Scaled) (point : Nat) : Bool :=
  let p := point * s.step
  if s.closed then s.low ≤ p && p ≤ s.high else s.low < p && p < s.high

/-- The point of the grid that rounds to the value and is nearest to it. -/
def Scaled.point? (tie : Tie) (s : Scaled) : Option Nat :=
  let below := s.value / s.step
  match s.holds below, s.holds (below + 1) with
  | true, true =>
    match compare (2 * (s.value % s.step)) s.step with
    | .lt => some below
    | .eq => some (tie.choose below)
    | .gt => some (below + 1)
  | true, false => some below
  | false, true => some (below + 1)
  | false, false => none

/-- The least `k` with the value below `10 ^ k`, for a positive value: the binary logarithm leaves
three choices. -/
def Binary.magnitude (b : Binary) : Int :=
  let least := ((Nat.log2 b.significand : Int) + b.exponent) * 30103 / 100000
  let isBelow (k : Int) := let s := b.scaled k; s.value < s.step
  if isBelow least then least else if isBelow (least + 1) then least + 1 else least + 2

/-- A point of a grid as a decimal. Of the first points found only the tenth has a final zero. -/
def Decimal.ofPoint (grid : Int) (point : Nat) : Decimal :=
  if point % 10 = 0 then ⟨point / 10, grid + 1⟩ else ⟨point, grid⟩

def Binary.shortest (tie : Tie) (b : Binary) : Decimal :=
  let top := b.magnitude
  let attempt (n : Nat) : Option Decimal :=
    let grid := top - 1 - (n : Int)
    ((b.scaled grid).point? tie).map (Decimal.ofPoint grid)
  ((List.range 17).findSome? attempt).getD ⟨0, 0⟩

end SceneMarkup.Number
