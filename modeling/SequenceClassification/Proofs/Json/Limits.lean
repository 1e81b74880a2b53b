import Mathlib
import SequenceClassification.Json.Reader
import SequenceClassification.Json.Writer

/-!
The limits of the reader. A whole number may have many digits where it is written, but not where it is read.
Main statement: an object with a number of too many digits is written as a text that is refused for them.
-/
namespace SequenceClassification.Json

theorem toDigits_ten_pow (k : ℕ) : Nat.toDigits 10 (10 ^ k) = '1' :: List.replicate k '0' := by
  induction k with
  | zero => rfl
  | succ k ih =>
    have hstep : Nat.toDigits 10 (10 ^ k) ++ Nat.toDigits 10 0 = Nat.toDigits 10 (10 * 10 ^ k + 0) :=
      Nat.toDigits_append_toDigits (by decide) (Nat.pow_pos (by decide)) (by decide)
    rw [Nat.pow_succ', ← Nat.add_zero (10 * 10 ^ k), ← hstep, ih, Nat.toDigits_zero, List.cons_append,
      ← List.replicate_succ']

/-- A whole number with more digits than allowed is refused at its place. -/
theorem numeral_of_long {digits rest : List Char} (hdigits : ∀ c ∈ digits, Decimal.isAsciiDigit c = true)
    (hlong : maxIntegerDigits ≤ digits.length) :
    numeral ('1' :: digits ++ ',' :: rest) =
      .error ⟨.tooManyDigits ('1' :: digits).length, ('1' :: digits ++ ',' :: rest).length⟩ := by
  have hwhole : ('1' :: digits ++ ',' :: rest).takeWhile Decimal.isAsciiDigit = '1' :: digits := by
    rw [List.takeWhile_append_of_pos, List.takeWhile_cons_of_neg (by decide), List.append_nil]
    intro c hc
    rcases List.mem_cons.1 hc with rfl | hc
    · decide
    · exact hdigits c hc
  have hrest : ('1' :: digits ++ ',' :: rest).drop ('1' :: digits).length = ',' :: rest :=
    List.drop_left
  have hlarge : maxIntegerDigits < ('1' :: digits).length := Nat.lt_succ_of_le hlong
  unfold numeral
  split
  rename_i negative body hbody
  obtain ⟨rfl, rfl⟩ : false = negative ∧ '1' :: digits ++ ',' :: rest = body := Prod.mk.inj hbody
  extract_lets whole after places end_ power n
  have hall : whole = '1' :: digits := hwhole
  have hafter : after = ',' :: rest := by
    change List.drop whole.length ('1' :: digits ++ ',' :: rest) = _
    rw [hall, hrest]
  have hplaces : places = [] := by
    simp only [places, hafter]
    rfl
  have hend : end_ = ',' :: rest := by
    simp only [end_, hplaces, hafter]
    rfl
  have hpower : power = none := by
    simp only [power, hend]
    rfl
  rw [hall, hplaces, hpower]
  simp only [List.isEmpty_cons, List.isEmpty_nil, Option.isNone_none, Bool.and_self, if_true]
  rw [if_neg (by decide), if_pos hlarge]

def oversized (k : ℕ) : Json := .obj [("n", .int (10 ^ k : ℕ)), ("texts", .arr [.str "a"])]

def oversizedRest : List Char := "\"texts\":[\"a\"]\x7d".toList

theorem toList_write_oversized (k : ℕ) : (oversized k).write.toList =
    '\x7b' :: '"' :: 'n' :: '"' :: ':' :: ('1' :: List.replicate k '0' ++ ',' :: oversizedRest) := by
  have hnumber : (toString ((10 ^ k : ℕ) : ℤ)).toList = '1' :: List.replicate k '0' := by
    change (Nat.repr (10 ^ k)).toList = _
    rw [Nat.toList_repr, toDigits_ten_pow]
  have hname : (writeString "n").toList = ['"', 'n', '"'] := by rfl
  rw [oversized, write, writeFields, writeFields, writeFields, String.intercalate_cons_cons,
    String.intercalate_singleton]
  simp only [String.toList_append, hname, write, hnumber, List.append_assoc]
  rfl

theorem readWire_oversized {k : ℕ} (hk : maxIntegerDigits ≤ k) (levels : ℕ) :
    ∃ left, readWire (levels + 1) (oversized k).write.toList = .error ⟨.tooManyDigits (k + 1), left⟩ := by
  set number := '1' :: List.replicate k '0' ++ ',' :: oversizedRest with hnumber
  have hzeros : ∀ c ∈ List.replicate k '0', Decimal.isAsciiDigit c = true := by
    intro c hc
    rw [List.eq_of_mem_replicate hc]
    decide
  have hnumeral : numeral number = .error ⟨.tooManyDigits (k + 1), number.length⟩ := by
    rw [hnumber, numeral_of_long hzeros (by rwa [List.length_replicate]), List.length_cons,
      List.length_replicate]
  have hvalue : ∀ fuel depth, value (fuel + 1) depth number = numeral number := fun _ _ => rfl
  have hname : stringBody ('n' :: '"' :: ':' :: number).length (('n' :: '"' :: ':' :: number).length + 1) []
      ('n' :: '"' :: ':' :: number) = .ok (.ofString "n", ':' :: number) := rfl
  have hgap : ∀ rest, skipGap ('\x7b' :: rest) = '\x7b' :: rest ∧ skipGap ('"' :: rest) = '"' :: rest ∧
      skipGap (':' :: rest) = ':' :: rest := fun _ => ⟨rfl, rfl, rfl⟩
  have hstart : skipGap number = number := rfl
  have hmembers : ∀ fuel depth, members (fuel + 2) depth [] ('"' :: 'n' :: '"' :: ':' :: number) =
      .error ⟨.tooManyDigits (k + 1), number.length⟩ := by
    intro fuel depth
    simp only [members, hname, (hgap number).2.2, hstart, hvalue, hnumeral]
  have hobject : ∀ fuel, value (fuel + 3) (levels + 1) ('\x7b' :: '"' :: 'n' :: '"' :: ':' :: number) =
      .error ⟨.tooManyDigits (k + 1), number.length⟩ := fun fuel => hmembers fuel levels
  have hfuel : 2 * ('\x7b' :: '"' :: 'n' :: '"' :: ':' :: number).length + 2 = 2 * number.length + 9 + 3 := by
    simp only [List.length_cons]
    omega
  refine ⟨number.length, ?_⟩
  rw [toList_write_oversized, ← hnumber, readWire, if_neg (by simp), hfuel, (hgap _).1, hobject]

end SequenceClassification.Json
