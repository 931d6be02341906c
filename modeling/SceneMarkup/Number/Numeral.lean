import SceneMarkup.Number.Decimal

namespace SceneMarkup.Number

def zeros (n : Nat) : String := String.ofList (List.replicate n '0')

def Decimal.positional (d : Decimal) : String :=
  let digits := toString d.digits
  let whole : Int := digits.length + d.exponent
  if 0 ≤ d.exponent then digits ++ zeros d.exponent.toNat
  else if 0 < whole then
    let cs := digits.toList
    String.ofList (cs.take whole.toNat) ++ "." ++ String.ofList (cs.drop whole.toNat)
  else "0." ++ zeros (-whole).toNat ++ digits

def isNegative (x : Float) : Bool := 0x8000000000000000 ≤ x.toBits.toNat

def text (x : Float) : String :=
  if x.isNaN then "NaN"
  else if x == 0 then "0"
  else
    let sign := if isNegative x then "-" else ""
    let magnitude := if x.isInf then "Infinity" else ((Binary.ofFloat x).shortest .up).positional
    sign ++ magnitude

def maxPlaces : Nat := 15

structure Precision where
  places : Nat
  deriving DecidableEq

def Precision.clamped (places : Nat) : Precision := ⟨min places maxPlaces⟩

def integralBound : Float := 4503599627370496

def floor (x : Float) : Float :=
  if x.isNaN || integralBound ≤ x.abs then x
  else if 0 ≤ x then x.toUInt64.toFloat
  else
    let whole := (-x).toUInt64.toFloat
    if whole < -x then -(whole + 1) else -whole

def Precision.factor (p : Precision) : Float := Float.ofNat (Nat.pow 10 (min p.places maxPlaces))

def Precision.round (p : Precision) (x : Float) : Float :=
  if x.isNaN || x.isInf then x
  else
    let scaled := x.abs * p.factor
    if integralBound ≤ scaled then x
    else
      let magnitude := floor (scaled + 0.5) / p.factor
      if magnitude == 0 then 0 else if x < 0 then -magnitude else magnitude

def Precision.agrees (p : Precision) (x target : Float) : Bool :=
  p.round x == p.round target

inductive PiMultiple
  | one
  | over (n : Nat)
  | times (n : Nat)
  deriving DecidableEq

inductive Numeral
  | decimal (x : Float)
  | pi (negative : Bool) (multiple : PiMultiple)
  deriving DecidableEq

def pi : Float := 3.141592653589793

def maxPiFactor : Nat := 10

/-- An angle in units of its fifth decimal place, a half going up. -/
def angleUnits (x : Float) : Float := floor (x * 100000 + 0.5)

def piRelation? (units : Float) (n : Nat) : Option PiMultiple :=
  let factor := Float.ofNat n
  if units == angleUnits (pi / factor) then some (if n = 1 then .one else .over n)
  else if units == angleUnits (pi * factor) then some (if n = 1 then .one else .times n)
  else none

def piMultiple? (x : Float) : Option PiMultiple :=
  (List.range' 1 maxPiFactor).findSome? (piRelation? (angleUnits x).abs)

def Precision.numeral (p : Precision) (x : Float) : Numeral := .decimal (p.round x)

def Precision.angle (p : Precision) (x : Float) : Numeral :=
  match piMultiple? x with
  | some multiple => .pi (x < 0) multiple
  | none => p.numeral x

def PiMultiple.text : PiMultiple → String
  | .one => "Math.PI"
  | .over n => "Math.PI / " ++ toString n
  | .times n => "Math.PI * " ++ toString n

def Numeral.text : Numeral → String
  | .decimal x => Number.text x
  | .pi negative multiple => (if negative then "-" else "") ++ multiple.text

end SceneMarkup.Number
