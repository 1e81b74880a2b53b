import SequenceClassification.Json.Wire
import SequenceClassification.Decimal.Reading

/-!
Reading JSON text. Beside the standard grammar the numerals `NaN`, `Infinity` and `-Infinity` are read,
of members with one name the last counts, and a refusal says why and where: the place is counted from the
end of the text, so that reading needs no position of its own. How deep arrays and objects may be nested
depends on the calls in progress, so the number of levels is given to the reader.
-/
namespace SequenceClassification.Json

inductive Fault where
  | expectingValue
  | expectingName
  | expectingColon
  | expectingComma
  | extraData
  | byteOrderMark
  | controlCharacter
  | badEscape
  | badUnicodeEscape
  | unterminatedString
  | tooManyDigits (count : Nat)
  | tooDeepArray
  | tooDeepObject
deriving Repr, DecidableEq

/-- A fault and the number of characters from its place to the end of the text. -/
structure Refusal where
  fault : Fault
  left : Nat
deriving Repr, DecidableEq

def maxIntegerDigits : Nat := 4300

def tooManyDigitsMessage (count : Nat) : String :=
  "Exceeds the limit (" ++ toString maxIntegerDigits ++
    " digits) for integer string conversion: value has " ++ toString count ++
    " digits; use sys.set_int_max_str_digits() to increase the limit"

def Fault.message : Fault → String
  | .expectingValue => "Expecting value"
  | .expectingName => "Expecting property name enclosed in double quotes"
  | .expectingColon => "Expecting ':' delimiter"
  | .expectingComma => "Expecting ',' delimiter"
  | .extraData => "Extra data"
  | .byteOrderMark => "Unexpected UTF-8 BOM (decode using utf-8-sig)"
  | .controlCharacter => "Invalid control character at"
  | .badEscape => "Invalid \\escape"
  | .badUnicodeEscape => "Invalid \\uXXXX escape"
  | .unterminatedString => "Unterminated string starting at"
  | .tooManyDigits count => tooManyDigitsMessage count
  | .tooDeepArray => "maximum recursion depth exceeded while decoding a JSON array from a unicode string"
  | .tooDeepObject => "maximum recursion depth exceeded while decoding a JSON object from a unicode string"

def Fault.hasPlace : Fault → Bool
  | .tooManyDigits _ | .tooDeepArray | .tooDeepObject => false
  | _ => true

def Fault.isDepth : Fault → Bool
  | .tooDeepArray | .tooDeepObject => true
  | _ => false

def Refusal.position (text : List Char) (r : Refusal) : Nat := text.length - r.left

def Refusal.message (text : List Char) (r : Refusal) : String :=
  if r.fault.hasPlace then
    let before := text.take (r.position text)
    let line := before.count '\n' + 1
    let column := (before.reverse.takeWhile (· != '\n')).length + 1
    r.fault.message ++ ": line " ++ toString line ++ " column " ++ toString column ++
      " (char " ++ toString (r.position text) ++ ")"
  else r.fault.message

def isGap (c : Char) : Bool := c == ' ' || c == '\t' || c == '\n' || c == '\r'

def skipGap (s : List Char) : List Char := s.dropWhile isGap

def hexDigit? (c : Char) : Option Nat :=
  if '0' ≤ c && c ≤ '9' then some (c.toNat - 48)
  else if 'a' ≤ c && c ≤ 'f' then some (c.toNat - 87)
  else if 'A' ≤ c && c ≤ 'F' then some (c.toNat - 55)
  else none

def hexQuad? (a b c d : Char) : Option Nat := do
  let w ← hexDigit? a
  let x ← hexDigit? b
  let y ← hexDigit? c
  let z ← hexDigit? d
  pure (((w * 16 + x) * 16 + y) * 16 + z)

def unescape? : Char → Option Char
  | '"' => some '"'
  | '\\' => some '\\'
  | '/' => some '/'
  | 'b' => some '\x08'
  | 'f' => some '\x0c'
  | 'n' => some '\n'
  | 'r' => some '\r'
  | 't' => some '\t'
  | _ => none

def joinSurrogates (high low : Nat) : Nat := 0x10000 + (high - 0xD800) * 0x400 + (low - 0xDC00)

def escaped (n : Nat) : CodePoint :=
  if 0xD800 ≤ n then
    if h : n - 0xD800 < 0x800 then .half ⟨n - 0xD800, h⟩ else .char (Char.ofNat n)
  else .char (Char.ofNat n)

/-- One unit of a string body: a code point written plainly or by an escape, and the rest. A high surrogate
takes the low one after it along, provided that the string goes on behind the two. -/
def stringUnit (start : Nat) (c : Char) (s : List Char) : Except Refusal (CodePoint × List Char) :=
  if c != '\\' then
    if c.toNat < 0x20 then .error ⟨.controlCharacter, s.length + 1⟩ else .ok (.char c, s)
  else match s with
    | [] => .error ⟨.unterminatedString, start⟩
    | 'u' :: a :: b :: c :: d :: e :: rest =>
      let place := rest.length + 6
      match hexQuad? a b c d with
      | none => .error ⟨.badUnicodeEscape, place⟩
      | some n =>
        if 0xD800 ≤ n && n < 0xDC00 then
          match e, rest with
          | '\\', 'u' :: f :: g :: h :: i :: j :: rest' =>
            match hexQuad? f g h i with
            | none => .error ⟨.badUnicodeEscape, rest'.length + 6⟩
            | some m =>
              if 0xDC00 ≤ m && m < 0xE000 then
                .ok (.char (Char.ofNat (joinSurrogates n m)), j :: rest')
              else .ok (escaped n, e :: rest)
          | _, _ => .ok (escaped n, e :: rest)
        else .ok (escaped n, e :: rest)
    | 'u' :: rest => .error ⟨.badUnicodeEscape, rest.length + 1⟩
    | c :: rest =>
      match unescape? c with
      | some x => .ok (.char x, rest)
      | none => .error ⟨.badEscape, rest.length + 2⟩

def stringBody (fuel start : Nat) (done : CodePoints) (s : List Char) :
    Except Refusal (CodePoints × List Char) :=
  match fuel, s with
  | _, [] => .error ⟨.unterminatedString, start⟩
  | _, '"' :: s => .ok (done.reverse, s)
  | 0, _ :: _ => .error ⟨.unterminatedString, start⟩
  | fuel + 1, c :: s =>
    match stringUnit start c s with
    | .error e => .error e
    | .ok (x, rest) => stringBody fuel start (x :: done) rest

def numeral (s : List Char) : Except Refusal (Wire × List Char) :=
  let (negative, body) := match s with
    | '-' :: r => (true, r)
    | _ => (false, s)
  let whole := match body with
    | '0' :: _ => ['0']
    | _ => body.takeWhile Decimal.isAsciiDigit
  if whole.isEmpty then .error ⟨.expectingValue, s.length⟩
  else
    let rest := body.drop whole.length
    let places := match rest with
      | '.' :: r => r.takeWhile Decimal.isAsciiDigit
      | _ => []
    let rest := if places.isEmpty then rest else rest.drop (places.length + 1)
    let power := match rest with
      | 'e' :: r => Decimal.exponent? r
      | 'E' :: r => Decimal.exponent? r
      | _ => none
    if places.isEmpty && power.isNone then
      if maxIntegerDigits < whole.length then .error ⟨.tooManyDigits whole.length, s.length⟩
      else
        let n : Int := Decimal.digitsValue whole
        .ok (.int (if negative then -n else n), rest)
    else
      let (exp, rest) := power.getD (0, rest)
      let x := Decimal.toFloat (Decimal.digitsValue (whole ++ places)) (exp - places.length)
      .ok (.float (if negative then -x else x), rest)

def afterWord? (word s : List Char) : Option (List Char) :=
  if word.isPrefixOf s then some (s.drop word.length) else none

def names : List (String × Wire) :=
  [("null", .null), ("true", .bool true), ("false", .bool false), ("NaN", .float (0 / 0)),
   ("Infinity", .float (1 / 0)), ("-Infinity", .float (-1 / 0))]

def scalar (s : List Char) : Except Refusal (Wire × List Char) :=
  match names.findSome? fun (name, v) => (afterWord? name.toList s).map fun r => (v, r) with
  | some found => .ok found
  | none => numeral s

mutual

/-- Reads a value at the front of `s`; `levels` levels of nesting are still allowed. -/
def value (fuel levels : Nat) (s : List Char) : Except Refusal (Wire × List Char) :=
  match fuel, s with
  | 0, s => .error ⟨.expectingValue, s.length⟩
  | _ + 1, '"' :: s =>
    match stringBody s.length (s.length + 1) [] s with
    | .ok (text, rest) => .ok (.str text, rest)
    | .error e => .error e
  | fuel + 1, '[' :: s =>
    match levels with
    | 0 => .error ⟨.tooDeepArray, s.length⟩
    | levels + 1 =>
      match skipGap s with
      | ']' :: rest => .ok (.arr [], rest)
      | rest => items fuel levels [] rest
  | fuel + 1, '\x7b' :: s =>
    match levels with
    | 0 => .error ⟨.tooDeepObject, s.length⟩
    | levels + 1 =>
      match skipGap s with
      | '\x7d' :: rest => .ok (.obj [], rest)
      | rest => members fuel levels [] rest
  | _ + 1, s => scalar s

/-- Reads the items of an array up to its end; `done` holds those before, the last first. -/
def items (fuel levels : Nat) (done : List Wire) (s : List Char) :
    Except Refusal (Wire × List Char) :=
  match fuel with
  | 0 => .error ⟨.expectingValue, s.length⟩
  | fuel + 1 =>
    match value fuel levels s with
    | .error e => .error e
    | .ok (v, rest) =>
      match skipGap rest with
      | ']' :: rest => .ok (.arr (v :: done).reverse, rest)
      | ',' :: rest => items fuel levels (v :: done) (skipGap rest)
      | rest => .error ⟨.expectingComma, rest.length⟩

def members (fuel levels : Nat) (done : List (CodePoints × Wire)) (s : List Char) :
    Except Refusal (Wire × List Char) :=
  match fuel, s with
  | 0, s => .error ⟨.expectingName, s.length⟩
  | fuel + 1, '"' :: s =>
    match stringBody s.length (s.length + 1) [] s with
    | .error e => .error e
    | .ok (name, rest) =>
      match skipGap rest with
      | ':' :: rest =>
        match value fuel levels (skipGap rest) with
        | .error e => .error e
        | .ok (v, rest) =>
          match skipGap rest with
          | '\x7d' :: rest => .ok (.obj ((name, v) :: done).reverse, rest)
          | ',' :: rest => members fuel levels ((name, v) :: done) (skipGap rest)
          | rest => .error ⟨.expectingComma, rest.length⟩
      | rest => .error ⟨.expectingColon, rest.length⟩
  | _ + 1, s => .error ⟨.expectingName, s.length⟩

end

mutual

/-- The value in which of members with one name only the last is kept, in the place of the first. -/
def mergeMembers : Wire → Wire
  | .arr items => .arr (mergeItems items)
  | .obj fields => .obj (Entries.ofPairs (mergeFields fields))
  | v => v

def mergeItems : List Wire → List Wire
  | [] => []
  | v :: rest => mergeMembers v :: mergeItems rest

def mergeFields : List (CodePoints × Wire) → List (CodePoints × Wire)
  | [] => []
  | (name, v) :: rest => (name, mergeMembers v) :: mergeFields rest

end

def readWire (levels : Nat) (text : List Char) : Except Refusal Wire :=
  if text.head? == some '\ufeff' then .error ⟨.byteOrderMark, text.length⟩
  else match value (2 * text.length + 2) levels (skipGap text) with
    | .error e => .error e
    | .ok (v, rest) =>
      match skipGap rest with
      | [] => .ok (mergeMembers v)
      | rest => .error ⟨.extraData, rest.length⟩

def read (levels : Nat) (text : List Char) : Except Refusal Json := (readWire levels text).map Wire.toJson

/-- Blanks are skipped: what is left begins with none. -/
theorem head?_skipGap (s : List Char) : ∀ c, (skipGap s).head? = some c → isGap c = false := by
  intro c h
  induction s with
  | nil => simp [skipGap] at h
  | cons a s ih =>
    by_cases ha : isGap a
    · exact ih (by simpa [skipGap, ha] using h)
    · simp [skipGap, ha] at h
      subst h
      simpa using ha

end SequenceClassification.Json
