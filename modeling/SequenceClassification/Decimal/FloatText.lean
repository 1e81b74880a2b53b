import SequenceClassification.Decimal.Reading
import SequenceClassification.Text.Blank

/-!
Reading floating-point values from texts: white space around, a sign, digits with a point anywhere among
them, an exponent, or the name of a value that is not finite. Single underscores may stand inside a text
that has no white space around it.
-/
namespace SequenceClassification.Decimal

def namedFloats : List (String × Float) := [("inf", 1 / 0), ("infinity", 1 / 0), ("nan", 0 / 0)]

def namedFloat? (s : List Char) : Option Float :=
  namedFloats.lookup (String.ofList (s.map Char.toLower))

def plainFloat? (s : List Char) : Option Float :=
  let whole := s.takeWhile isAsciiDigit
  let (places, rest) := match s.dropWhile isAsciiDigit with
    | '.' :: r => (r.takeWhile isAsciiDigit, r.dropWhile isAsciiDigit)
    | r => ([], r)
  let value (exp : Int) : Float := toFloat (digitsValue (whole ++ places)) (exp - places.length)
  if whole.isEmpty && places.isEmpty then none
  else match rest with
    | [] => some (value 0)
    | c :: r =>
      if c == 'e' || c == 'E' then
        match exponent? r with
        | some (exp, []) => some (value exp)
        | _ => none
      else none

def signedFloat? (s : List Char) : Option Float :=
  let unsigned (r : List Char) : Option Float := (namedFloat? r).orElse fun _ => plainFloat? r
  match s with
  | '-' :: r => (unsigned r).map fun x => -x
  | '+' :: r => unsigned r
  | _ => unsigned s

def trimWhiteSpace (s : List Char) : List Char :=
  (Text.skipWhiteSpace (Text.skipWhiteSpace s).reverse).reverse

/-- The text without its underscores, if each stands alone between other characters. -/
def dropUnderscores? (s : List Char) : Option (List Char) :=
  let isDouble := (s.zip (s.drop 1)).any fun (a, b) => a == '_' && b == '_'
  if s.head? == some '_' || s.getLast? == some '_' || isDouble then none
  else some (s.filter (· != '_'))

def readFloat? (text : String) : Option Float :=
  let s := text.toList
  (signedFloat? (trimWhiteSpace s)).orElse fun _ => (dropUnderscores? s).bind signedFloat?

/-- A text without underscores loses nothing. -/
theorem dropUnderscores?_of_not_mem {s : List Char} (h : '_' ∉ s) : dropUnderscores? s = some s := by
  have hhead : s.head? ≠ some '_' := fun e => h (List.mem_of_head? e)
  have hlast : s.getLast? ≠ some '_' := fun e => h (List.mem_of_getLast? e)
  have hpairs : ('_', '_') ∉ s.zip s.tail := fun e => h (List.of_mem_zip e).1
  have hall : s.filter (· != '_') = s := by
    rw [List.filter_eq_self]
    intro c hc
    simpa using fun e : c = '_' => h (e ▸ hc)
  simp [dropUnderscores?, hhead, hlast, hpairs, hall]

end SequenceClassification.Decimal
