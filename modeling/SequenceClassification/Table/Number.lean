import SequenceClassification.Decimal.Reading

/-!
Numbers in table cells. A cell is a whole number, or a decimal with a point or an exponent; blanks around
it do not count. Whole numbers have a range, and one that leaves it is told apart from a cell that is no
number.
-/
namespace SequenceClassification.Table

inductive WholeFault where
  | noNumber
  | outOfRange
deriving Repr, DecidableEq

def isCellBlank (c : Char) : Bool := c == ' ' || ('\t' ≤ c && c ≤ '\r')

def wholeDigits (bound : Nat) (s : List Char) : Except WholeFault Nat :=
  let digits := s.takeWhile Decimal.isAsciiDigit
  if digits.isEmpty then .error .noNumber
  else
    let n := Decimal.digitsValue digits
    if bound < n then .error .outOfRange
    else if (s.drop digits.length).all isCellBlank then .ok n
    else .error .noNumber

def maxSigned : Nat := 9223372036854775807

def maxUnsigned : Nat := 18446744073709551615

def signedCell (s : List Char) : Except WholeFault Int :=
  match s.dropWhile isCellBlank with
  | '-' :: r => (wholeDigits (maxSigned + 1) r).map fun n => -(n : Int)
  | '+' :: r => (wholeDigits maxSigned r).map fun n => (n : Int)
  | r => (wholeDigits maxSigned r).map fun n => (n : Int)

/-- Reads an unsigned 64-bit integer; a minus sign gives none. -/
def unsignedCell (s : List Char) : Except WholeFault (Option Nat) :=
  match s.dropWhile isCellBlank with
  | '-' :: _ => .ok none
  | '+' :: r => (wholeDigits maxUnsigned r).map some
  | r => (wholeDigits maxUnsigned r).map some

/-- How many digits of a decimal count; the others only move its point. -/
def countedDigits : Nat := 17

def digitsFloat (digits : List Char) : Float :=
  digits.foldl (fun x c => x * 10 + Decimal.intToFloat (c.toNat - 48 : Nat)) 0

def tenTo (n : Nat) : Float := Decimal.toFloat 1 n

/-- A value moved by a power of ten; none if the result is out of range. -/
def scaled (x : Float) (exp : Int) : Option Float :=
  let y :=
    if 308 < exp then 1 / 0
    else if 0 < exp then x * tenTo exp.toNat
    else if exp < -616 then 0
    else if exp < -308 then x / tenTo (-308 - exp).toNat / tenTo 308
    else x / tenTo (-exp).toNat
  if y.isInf then none else some y

def infiniteName? (s : List Char) : Option Float :=
  let name := String.ofList (s.map Char.toLower)
  if ["inf", "+inf", "infinity", "+infinity"].contains name then some (1 / 0)
  else if ["-inf", "-infinity"].contains name then some (-1 / 0)
  else none

def decimalCell (s : List Char) : Option Float :=
  let body := s.dropWhile isCellBlank
  let (negative, body) := match body with
    | '-' :: r => (true, r)
    | '+' :: r => (false, r)
    | _ => (false, body)
  let whole := body.takeWhile Decimal.isAsciiDigit
  let rest := body.drop whole.length
  let (places, rest) := match rest with
    | '.' :: r => (r.takeWhile Decimal.isAsciiDigit, r.dropWhile Decimal.isAsciiDigit)
    | _ => ([], rest)
  let counted := (whole ++ places).take countedDigits
  let shift : Int := (whole.drop countedDigits).length - (counted.length - whole.length : Nat)
  let (exp, rest) := match rest with
    | 'e' :: r => (Decimal.exponent? r).getD (0, rest)
    | 'E' :: r => (Decimal.exponent? r).getD (0, rest)
    | _ => (0, rest)
  if counted.isEmpty || !rest.all isCellBlank then none
  else
    let x := digitsFloat counted
    scaled (if negative then -x else x) (shift + exp)

def floatCell (s : List Char) : Option Float := (decimalCell s).orElse fun _ => infiniteName? s

def truthCell (s : List Char) : Option Bool :=
  let name := String.ofList (s.map Char.toLower)
  if name == "true" then some true else if name == "false" then some false else none

/-- What is read is in the range. -/
theorem wholeDigits_le {bound n : Nat} {s : List Char} (h : wholeDigits bound s = .ok n) : n ≤ bound := by
  simp only [wholeDigits] at h
  split at h
  · cases h
  · split at h
    · cases h
    · split at h
      · cases h
        omega
      · cases h

end SequenceClassification.Table
