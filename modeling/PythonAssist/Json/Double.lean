set_option autoImplicit false

namespace PythonAssist

structure Double where
  bits : UInt64
  deriving DecidableEq, Repr

namespace Double

def toFloat (d : Double) : Float := Float.ofBits d.bits

def ofFloat (x : Float) : Double := { bits := x.toBits }

def isNegative (d : Double) : Bool := d.bits.toNat / Nat.pow 2 63 == 1

def exponentField (d : Double) : Nat := d.bits.toNat / Nat.pow 2 52 % Nat.pow 2 11

def fractionField (d : Double) : Nat := d.bits.toNat % Nat.pow 2 52

def mantissa (d : Double) : Nat :=
  if d.exponentField = 0 then d.fractionField else d.fractionField + Nat.pow 2 52

def exponent (d : Double) : Int :=
  if d.exponentField = 0 then -1074 else (d.exponentField : Int) - 1075

-- Four times the magnitude and the ends of the interval that rounds to it, all over `den`.
structure Interval where
  low : Nat
  value : Nat
  high : Nat
  den : Nat
  closed : Bool

def interval (d : Double) : Interval :=
  let below := if d.fractionField = 0 ∧ 1 < d.exponentField then 1 else 2
  let scale := Nat.pow 2 (d.exponent - 2).toNat
  { low := (4 * d.mantissa - below) * scale
    value := 4 * d.mantissa * scale
    high := (4 * d.mantissa + 2) * scale
    den := Nat.pow 2 (2 - d.exponent).toNat
    closed := d.mantissa % 2 == 0 }

def Interval.holds (i : Interval) (num den : Nat) : Bool :=
  if i.closed then decide (i.low * den ≤ num * i.den ∧ num * i.den ≤ i.high * den)
  else decide (i.low * den < num * i.den ∧ num * i.den < i.high * den)

def magnitude (num den : Nat) : Int :=
  if den ≤ num then ((Nat.toDigits 10 (num / den)).length : Int) - 1
  else -(firstPower 400 1 num den : Int)
where
  firstPower : Nat → Nat → Nat → Nat → Nat
    | 0, power, _, _ => power
    | fuel + 1, power, num, den =>
      if den ≤ num * 10 then power else firstPower fuel (power + 1) (num * 10) den

def gridNum (step : Int) (count : Nat) : Nat := count * Nat.pow 10 step.toNat

def gridDen (step : Int) : Nat := Nat.pow 10 (-step).toNat

def onGrid (i : Interval) (step : Int) : Option Nat :=
  let num := i.value * gridDen step
  let den := i.den * Nat.pow 10 step.toNat
  let down := num / den
  let up := down + 1
  let fits (n : Nat) := i.holds (gridNum step n) (gridDen step)
  let nearDown := 2 * (num % den) < den || (2 * (num % den) == den && down % 2 == 0)
  if fits down && (nearDown || !fits up) then some down
  else if fits up then some up
  else none

def shortestFrom (i : Interval) (top : Int) : Nat → Nat → Nat × Int
  | 0, _ => (i.value / i.den, 0)
  | fuel + 1, places =>
    let step := top + 1 - places
    match onGrid i step with
    | some n => (n, step)
    | none => shortestFrom i top fuel (places + 1)

def dropZeros : Nat → Nat → Int → Nat × Int
  | 0, n, e => (n, e)
  | fuel + 1, n, e => if n % 10 = 0 ∧ n ≠ 0 then dropZeros fuel (n / 10) (e + 1) else (n, e)

def shortest (d : Double) : Nat × Int :=
  let i := d.interval
  let (n, e) := shortestFrom i (magnitude i.value i.den) 17 1
  dropZeros 20 n e

def zeros (count : Nat) : List Char := List.replicate count '0'

def exponentText (e : Int) : List Char :=
  let digits := Nat.toDigits 10 e.natAbs
  (if e < 0 then '-' else '+') :: (if digits.length < 2 then '0' :: digits else digits)

-- Positional from 10^-5 up to below 10^16, otherwise one digit before the point and an exponent.
def magnitudeText (digits : List Char) (e : Int) : List Char :=
  let lead : Int := e + digits.length - 1
  if 0 ≤ e ∧ lead < 16 then digits ++ zeros e.toNat ++ ['.', '0']
  else if 0 ≤ lead ∧ lead < 16 then
    digits.take (lead.toNat + 1) ++ '.' :: digits.drop (lead.toNat + 1)
  else if -5 ≤ lead ∧ lead < 0 then '0' :: '.' :: zeros (-lead - 1).toNat ++ digits
  else
    match digits with
    | [] => []
    | [only] => only :: 'e' :: exponentText lead
    | first :: rest => first :: '.' :: rest ++ 'e' :: exponentText lead

def render (d : Double) : String :=
  let sign := if d.isNegative then ['-'] else []
  if d.mantissa = 0 then String.ofList (sign ++ ['0', '.', '0'])
  else
    let (n, e) := d.shortest
    String.ofList (sign ++ magnitudeText (Nat.toDigits 10 n) e)

def plainText (digits : List Char) (e : Int) : List Char :=
  let lead : Int := e + digits.length - 1
  if 0 ≤ e then digits ++ zeros e.toNat
  else if 0 ≤ lead then
    digits.take (lead.toNat + 1) ++ '.' :: digits.drop (lead.toNat + 1)
  else '0' :: '.' :: zeros (-lead - 1).toNat ++ digits

def isNaN (d : Double) : Bool := d.exponentField == 2047 && d.fractionField != 0

def isInfinite (d : Double) : Bool := d.exponentField == 2047 && d.fractionField == 0

def renderPlain (d : Double) : String :=
  let sign := if d.isNegative then ['-'] else []
  if d.isNaN then "NaN"
  else if d.isInfinite then String.ofList (sign ++ "inf".toList)
  else if d.mantissa = 0 then String.ofList (sign ++ ['0'])
  else
    let (n, e) := d.shortest
    String.ofList (sign ++ plainText (Nat.toDigits 10 n) e)

def ofDecimal (negative : Bool) (digits : Nat) (exponent : Int) : Double :=
  let size : Int := (Nat.toDigits 10 digits).length
  let x : Float :=
    if digits = 0 ∨ exponent + size < -400 then 0.0
    else if 400 < exponent + size then 1.0 / 0.0
    else Float.ofScientific digits (decide (exponent < 0)) exponent.natAbs
  ofFloat (if negative then -x else x)

def infinite (negative : Bool) : Double := ofFloat (if negative then -1.0 / 0.0 else 1.0 / 0.0)

def notANumber : Double := { bits := 0x7FF8000000000000 }

end Double

end PythonAssist
