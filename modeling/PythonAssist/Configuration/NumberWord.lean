import PythonAssist.Text.Split
import PythonAssist.Json.Double

set_option autoImplicit false

namespace PythonAssist

def integerWord? (word : List Char) : Option Int :=
  match word with
  | '-' :: rest =>
    if rest.isEmpty || !rest.all Char.isDigit then none
    else if natOfDigits rest ≤ 9223372036854775808 then some (-(natOfDigits rest : Int))
    else none
  | word => (unsigned? 9223372036854775808 word).map Int.ofNat

def realWord? (word : List Char) : Option Double :=
  let (negative, digits) : Bool × List Char :=
    match word with
    | '-' :: rest => (true, rest)
    | '+' :: rest => (false, rest)
    | rest => (false, rest)
  let name := digits.map Char.toLower
  if name = "inf".toList ∨ name = "infinity".toList then some (.infinite negative)
  else if name = "nan".toList then some .notANumber
  else
    let whole := digits.takeWhile Char.isDigit
    let (fraction, rest) : List Char × List Char :=
      match digits.drop whole.length with
      | '.' :: rest =>
        let fraction := rest.takeWhile Char.isDigit
        (fraction, rest.drop fraction.length)
      | rest => ([], rest)
    if whole.isEmpty && fraction.isEmpty then none
    else
      let value (exponent : Int) : Double :=
        .ofDecimal negative (natOfDigits (whole ++ fraction)) (exponent - fraction.length)
      match rest with
      | [] => some (value 0)
      | mark :: rest =>
        if mark == 'e' || mark == 'E' then
          let (down, power) : Bool × List Char :=
            match rest with
            | '-' :: rest => (true, rest)
            | '+' :: rest => (false, rest)
            | rest => (false, rest)
          if power.isEmpty || !power.all Char.isDigit then none
          else
            let n : Int := natOfDigits power
            some (value (if down then -n else n))
        else none

end PythonAssist
