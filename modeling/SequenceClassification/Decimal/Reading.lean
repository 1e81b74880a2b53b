import SequenceClassification.Decimal.Binary

/-!
Reading decimals. A numeral is read as a whole number and a power of ten, and rounded once.
-/
namespace SequenceClassification.Decimal

def digitsValue (digits : List Char) : Nat := digits.foldl (fun n c => 10 * n + (c.toNat - 48)) 0

def isAsciiDigit (c : Char) : Bool := '0' ≤ c && c ≤ '9'

/-- `digits * 10 ^ exp` rounded to the nearest floating-point value. Numbers far outside the range of
such values are not computed. -/
def toFloat (digits : Nat) (exp : Int) : Float :=
  let size : Int := (Nat.toDigits 10 digits).length
  if digits == 0 || exp + size < -400 then 0
  else if 400 < exp + size then 1 / 0
  else Float.ofScientific digits (exp < 0) exp.natAbs

def intToFloat (n : Int) : Float :=
  let x := toFloat n.natAbs 0
  if n < 0 then -x else x

/-- The digits and the power of ten of an exponent part after its letter, if it is one; the rest. -/
def exponent? (s : List Char) : Option (Int × List Char) :=
  let (negative, body) := match s with
    | '-' :: r => (true, r)
    | '+' :: r => (false, r)
    | _ => (false, s)
  let digits := body.takeWhile isAsciiDigit
  if digits.isEmpty then none
  else
    let n : Int := digitsValue digits
    some (if negative then -n else n, body.dropWhile isAsciiDigit)

end SequenceClassification.Decimal
