import SequenceClassification.Text.Blank
import SequenceClassification.Text.Digit
import SequenceClassification.Text.Quoted
import SequenceClassification.Json.Reader

/-!
Reading whole numbers from texts: white space around, a sign, digits of any script, single underscores between
digits. Numerals with more digits than the limit are refused.
-/
namespace SequenceClassification.Decimal

inductive IntegerFault where
  | malformed
  | tooManyDigits (count : Nat)
deriving Repr, DecidableEq

def IntegerFault.message (text : String) : IntegerFault → String
  | .malformed => "invalid literal for int() with base 10: " ++
      String.ofList ((Text.quoted text).toList.take 200)
  | .tooManyDigits count => Json.tooManyDigitsMessage count

/-- Reads digits with single underscores between them: the values of the digits, the last first, and what
follows. `underscore` says that the character before was an underscore. -/
def scanDigits (underscore : Bool) (digits : List Nat) :
    List Char → Option (List Nat × List Char)
  | [] => if underscore then none else some (digits, [])
  | c :: s =>
    if c == '_' then
      if underscore || digits.isEmpty then none else scanDigits true digits s
    else match Text.digitValue? c with
      | some d => scanDigits false (d :: digits) s
      | none => if underscore then none else some (digits, c :: s)

def readInteger (text : String) : Except IntegerFault Int :=
  let body := Text.skipWhiteSpace text.toList
  let (negative, body) := match body with
    | '-' :: r => (true, r)
    | '+' :: r => (false, r)
    | _ => (false, body)
  match scanDigits false [] body with
  | none => .error .malformed
  | some (digits, rest) =>
    if digits.isEmpty then .error .malformed
    else if Json.maxIntegerDigits < digits.length then .error (.tooManyDigits digits.length)
    else if !(Text.skipWhiteSpace rest).isEmpty then .error .malformed
    else
      let n : Nat := digits.reverse.foldl (fun n d => 10 * n + d) 0
      .ok (if negative then -(n : Int) else n)

/-- What the digit scan keeps are values below ten. -/
theorem scanDigits_lt {underscore : Bool} {digits kept : List Nat} {s rest : List Char}
    (h : scanDigits underscore digits s = some (kept, rest)) (hd : ∀ d ∈ digits, d < 10) :
    ∀ d ∈ kept, d < 10 := by
  fun_induction scanDigits underscore digits s with
  | case1 => cases h
  | case2 => cases h; exact hd
  | case3 => cases h
  | case4 _ _ _ _ _ _ ih => exact ih h hd
  | case5 _ _ c s _ d hc ih =>
    refine ih h fun e he => ?_
    rcases List.mem_cons.1 he with rfl | he
    · exact Text.digitValue?_lt hc
    · exact hd e he
  | case6 => cases h
  | case7 => cases h; exact hd

end SequenceClassification.Decimal
