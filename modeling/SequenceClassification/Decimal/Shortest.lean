import SequenceClassification.Decimal.Binary

/-!
The fewest digits that read back. A finite value stands for the interval of reals that round to it; the
grids of one digit, two digits and so on are tried in turn, on each of them the two neighbours of the
value, and the first that lies in the interval is taken, the nearer of two.
-/
namespace SequenceClassification.Decimal

/-- The decimal `digits * 10 ^ exp`. -/
structure Scaled where
  digits : Nat
  exp : Int
deriving Repr, DecidableEq

/-- Compares `a * 10 ^ i` with `n * 2 ^ j`. -/
def compareScaled (a : Nat) (i : Int) (n : Nat) (j : Int) : Ordering :=
  compare (a * tenTo i.toNat * twoTo (-j).toNat) (n * twoTo j.toNat * tenTo (-i).toNat)

/-- Whether the decimal lies among the reals that round to the value. The ends of the interval round to
it exactly when its last bit is even. -/
def Binary.readsBack (x : Binary) (d : Scaled) : Bool :=
  let low := compareScaled d.digits d.exp (if x.narrowBelow then 4 * x.m - 1 else 4 * x.m - 2) (x.q - 2)
  let high := compareScaled d.digits d.exp (4 * x.m + 2) (x.q - 2)
  let closed := x.m % 2 == 0
  (low == .gt || (closed && low == .eq)) && (high == .lt || (closed && high == .eq))

def Binary.scale (x : Binary) : Int :=
  let guess : Int := ((x.m.log2 : Int) + x.q) * 30103 / 100000
  let candidates := [guess - 1, guess, guess + 1, guess + 2]
  (candidates.find? fun k => compareScaled 1 k x.m x.q == .gt).getD (guess + 3)

/-- The neighbour of the value on the grid `10 ^ exp` that reads back, the nearer of two. -/
def Binary.onGrid (x : Binary) (exp : Int) : Option Scaled :=
  let num := x.m * twoTo x.q.toNat * tenTo (-exp).toNat
  let den := twoTo (-x.q).toNat * tenTo exp.toNat
  let below : Scaled := ⟨num / den, exp⟩
  let above : Scaled := ⟨num / den + 1, exp⟩
  match x.readsBack below, x.readsBack above with
  | true, false => some below
  | false, true => some above
  | false, false => none
  | true, true =>
    let twice := 2 * (num % den)
    if twice < den || (twice == den && below.digits % 2 == 0) then some below else some above

def Scaled.strip : Nat → Scaled → Scaled
  | 0, d => d
  | fuel + 1, d => if d.digits != 0 && d.digits % 10 == 0 then strip fuel ⟨d.digits / 10, d.exp + 1⟩ else d

/-- The fewest digits that read back; seventeen always do. -/
def Binary.shortest (x : Binary) : Scaled :=
  if x.m == 0 then ⟨0, 0⟩
  else
    let k := x.scale
    match (List.range 17).findSome? fun (n : Nat) => x.onGrid (k - ((n : Nat) + 1 : Int)) with
    | some d => d.strip 400
    | none => ⟨x.m * twoTo x.q.toNat * Nat.pow 5 (-x.q).toNat, min x.q 0⟩

/-- What the grid search returns reads back to the value. -/
theorem Binary.readsBack_of_onGrid {x : Binary} {exp : Int} {d : Scaled}
    (h : x.onGrid exp = some d) : x.readsBack d = true := by
  simp only [onGrid] at h
  split at h
  · rename_i hb _; cases h; exact hb
  · rename_i _ ha; cases h; exact ha
  · cases h
  · rename_i hb ha
    split at h
    · cases h; exact hb
    · cases h; exact ha

/-- The digits laid out: positional from `10 ^ -4` up to `10 ^ 16`, with at least one place after the
point, and with a signed exponent of at least two digits elsewhere. -/
def Scaled.layout (d : Scaled) : String :=
  let digits := Nat.toDigits 10 d.digits
  let count : Int := digits.length
  let point := count + d.exp
  if d.digits == 0 then "0.0"
  else if -3 ≤ point && point ≤ 16 then
    if point ≤ 0 then "0." ++ String.ofList (List.replicate (-point).toNat '0' ++ digits)
    else if count ≤ point then
      String.ofList (digits ++ List.replicate (point - count).toNat '0') ++ ".0"
    else String.ofList (digits.take point.toNat ++ '.' :: digits.drop point.toNat)
  else
    let e := point - 1
    let expDigits := Nat.toDigits 10 e.natAbs
    let expDigits := List.replicate (2 - expDigits.length) '0' ++ expDigits
    let rest := digits.drop 1
    String.ofList (digits.take 1 ++ (if rest.isEmpty then [] else '.' :: rest) ++
      'e' :: (if e < 0 then '-' else '+') :: expDigits)

def shortest (x : Float) : String :=
  if x.isNaN then "nan"
  else if x.isInf then (if isNegative x then "-inf" else "inf")
  else (if isNegative x then "-" else "") ++ (Binary.ofFloat x).shortest.layout

end SequenceClassification.Decimal
