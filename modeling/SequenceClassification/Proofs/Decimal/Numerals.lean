import Mathlib.Data.Nat.Digits.Defs
import SequenceClassification.Decimal.Integer

/-!
Numerals in the decimal digits of any script. A decimal digit is a digit, and it is no white space, sign
or underscore, so nothing of a numeral is dropped. Main statements: a text of decimal digits, no longer than
numerals may be, is made of digits and is read as the number that they write; and a text of digits is read
only if it is such a numeral.
-/
namespace SequenceClassification

namespace Text

/-- Between two boundaries membership does not change. -/
theorem insideBoundaries_congr {bounds : List Nat} {m n : Nat} (h : ∀ b ∈ bounds, b ≤ m ↔ b ≤ n) :
    insideBoundaries bounds m = insideBoundaries bounds n := by
  induction bounds with
  | nil => rfl
  | cons b bounds ih =>
    have hb := h b List.mem_cons_self
    rw [insideBoundaries, insideBoundaries, ih fun b' hb' => h b' (List.mem_cons_of_mem _ hb')]
    by_cases hm : m < b
    · rw [if_pos hm, if_pos (by omega)]
    · rw [if_neg hm, if_neg (by omega)]

def undivided (bounds : List Nat) (z : Nat) : Bool := bounds.all fun b => decide (b ≤ z) || decide (z + 9 < b)

theorem insideBoundaries_of_undivided {bounds : List Nat} {z n : Nat} (h : undivided bounds z = true)
    (hlow : z ≤ n) (hhigh : n ≤ z + 9) : insideBoundaries bounds n = insideBoundaries bounds z := by
  refine insideBoundaries_congr fun b hb => ?_
  have hapart := List.all_eq_true.1 h b hb
  rw [Bool.or_eq_true, decide_eq_true_eq, decide_eq_true_eq] at hapart
  omega

/-- The blocks of decimal digits begin among the digits, and no boundary of the digits divides them. -/
theorem decimalZeros_digits : (decimalZeros.all fun z =>
    insideBoundaries digitBounds z && undivided digitBounds z) = true := by
  decide +kernel

/-- The blocks of decimal digits hold no white space, underscore or sign. -/
theorem decimalZeros_marks : (decimalZeros.all fun z =>
    !insideBoundaries whiteSpaceBounds z && undivided whiteSpaceBounds z &&
      ['_', '+', '-'].all fun mark => decide (mark.toNat < z) || decide (z + 9 < mark.toNat)) = true := by
  decide +kernel

section
variable {c : Char} {d : Nat}

theorem exists_block (h : digitValue? c = some d) : ∃ z ∈ decimalZeros, z ≤ c.toNat ∧ c.toNat ≤ z + 9 := by
  obtain ⟨z, hz, -⟩ := Option.map_eq_some_iff.1 h
  have hblock := List.find?_some hz
  rw [Bool.and_eq_true, decide_eq_true_eq, decide_eq_true_eq] at hblock
  exact ⟨z, List.mem_of_find?_eq_some hz, hblock.1, by omega⟩

theorem isDigit_of_digitValue? (h : digitValue? c = some d) : isDigit c = true := by
  obtain ⟨z, hz, hlow, hhigh⟩ := exists_block h
  have hblock := List.all_eq_true.1 decimalZeros_digits z hz
  rw [Bool.and_eq_true] at hblock
  rw [isDigit, insideBoundaries_of_undivided hblock.2 hlow hhigh, hblock.1]

theorem isWhiteSpace_of_digitValue? (h : digitValue? c = some d) : isWhiteSpace c = false := by
  obtain ⟨z, hz, hlow, hhigh⟩ := exists_block h
  have hblock := List.all_eq_true.1 decimalZeros_marks z hz
  rw [Bool.and_eq_true, Bool.and_eq_true, Bool.not_eq_true'] at hblock
  rw [isWhiteSpace, insideBoundaries_of_undivided hblock.1.2 hlow hhigh, hblock.1.1]

/-- A decimal digit is neither an underscore nor a sign. -/
theorem ne_of_digitValue? (h : digitValue? c = some d) {mark : Char} (hmark : mark ∈ ['_', '+', '-']) :
    c ≠ mark := by
  obtain ⟨z, hz, hlow, hhigh⟩ := exists_block h
  have hblock := List.all_eq_true.1 decimalZeros_marks z hz
  rw [Bool.and_eq_true] at hblock
  have hapart := List.all_eq_true.1 hblock.2 mark hmark
  rw [Bool.or_eq_true, decide_eq_true_eq, decide_eq_true_eq] at hapart
  intro heq
  rw [heq] at hlow hhigh
  omega

end

/-- The ranges between the boundaries, the last one included only if it ends. -/
def ranges : List Nat → List (Nat × Nat)
  | a :: b :: rest => (a, b) :: ranges rest
  | _ => []

theorem exists_range {bounds : List Nat} {n : Nat} (h : insideBoundaries bounds n = true)
    (heven : bounds.length % 2 = 0) : ∃ r ∈ ranges bounds, r.1 ≤ n ∧ n < r.2 := by
  fun_induction ranges bounds with
  | case1 a b rest ih =>
    rw [insideBoundaries, insideBoundaries] at h
    by_cases ha : n < a
    · simp [ha] at h
    · by_cases hb : n < b
      · exact ⟨(a, b), List.mem_cons_self, Nat.not_lt.1 ha, hb⟩
      · simp only [ha, hb, if_false, Bool.not_not] at h
        obtain ⟨r, hr, hin⟩ := ih h (by simp only [List.length_cons] at heven; omega)
        exact ⟨r, List.mem_cons_of_mem _ hr, hin⟩
  | case2 bounds hshort =>
    rcases bounds with _ | ⟨a, _ | ⟨b, rest⟩⟩
    · cases h
    · cases heven
    · exact absurd rfl (hshort a b rest)

/-- No white space is a digit. -/
theorem whiteSpace_ranges_digits : ((ranges whiteSpaceBounds).all fun r =>
    (List.range (r.2 - r.1)).all fun i => !insideBoundaries digitBounds (r.1 + i)) = true := by
  decide +kernel

theorem isWhiteSpace_of_isDigit {c : Char} (h : isDigit c = true) : isWhiteSpace c = false := by
  rw [Bool.eq_false_iff]
  intro hspace
  obtain ⟨r, hr, hlow, hhigh⟩ := exists_range hspace rfl
  have hnone := List.all_eq_true.1 (List.all_eq_true.1 whiteSpace_ranges_digits r hr) (c.toNat - r.1)
    (List.mem_range.2 (by omega))
  rw [Nat.add_sub_cancel' hlow, ← isDigit, h] at hnone
  cases hnone

theorem marks_digits : (['_', '+', '-'].all fun mark => !insideBoundaries digitBounds mark.toNat) = true := by
  decide +kernel

theorem ne_of_isDigit {c mark : Char} (h : isDigit c = true) (hmark : mark ∈ ['_', '+', '-']) : c ≠ mark := by
  rintro rfl
  have hnone := List.all_eq_true.1 marks_digits c hmark
  rw [← isDigit, h] at hnone
  cases hnone

theorem skipWhiteSpace_nil : skipWhiteSpace [] = [] := rfl

theorem skipWhiteSpace_cons {c : Char} {s : List Char} (h : isWhiteSpace c = false) : skipWhiteSpace (c :: s) = c :: s := by
  rw [skipWhiteSpace, List.dropWhile_cons, h]
  rfl

end Text

namespace Decimal

open Text

/-- The text is a numeral of the number in decimal digits of any script: there may be zeros in front, and
there are not more digits than are read. -/
def IsNumeral (text : String) (n : Nat) : Prop :=
  ∃ digits : List Nat, text.toList.map digitValue? = digits.map some ∧ digits ≠ [] ∧
    digits.length ≤ Json.maxIntegerDigits ∧ Nat.ofDigits 10 digits.reverse = n

theorem foldl_digits (digits : List Nat) :
    digits.foldl (fun n d => 10 * n + d) 0 = Nat.ofDigits 10 digits.reverse := by
  rw [Nat.ofDigits_eq_foldr, List.foldr_reverse]
  refine congrFun (congrFun (congrArg _ ?_) _) _
  funext n d
  exact Nat.add_comm ..

/-- The digit scan keeps every digit of a text that has nothing else. -/
theorem scanDigits_digits {s : List Char} {digits : List Nat} (h : s.map digitValue? = digits.map some)
    (kept : List Nat) : scanDigits false kept s = some (digits.reverse ++ kept, []) := by
  induction s generalizing digits kept with
  | nil =>
    rw [List.map_nil, eq_comm, List.map_eq_nil_iff] at h
    rw [h]
    rfl
  | cons c s ih =>
    cases digits with
    | nil => cases h
    | cons d digits =>
      rw [List.map_cons, List.map_cons, List.cons.injEq] at h
      obtain ⟨hc, hs⟩ := h
      have hunderscore : (c == '_') = false := beq_eq_false_iff_ne.2 (ne_of_digitValue? hc List.mem_cons_self)
      rw [scanDigits, hunderscore, hc]
      simp only [Bool.false_eq_true, if_false, ih hs, List.reverse_cons, List.append_assoc,
        List.singleton_append]

/-- Of a text of digits the scan keeps the values of a front, and what follows has none. -/
theorem exists_of_scanDigits {s : List Char} (hs : ∀ c ∈ s, isDigit c = true) {kept digits : List Nat}
    {rest : List Char} (h : scanDigits false kept s = some (digits, rest)) :
    ∃ (front : List Char) (values : List Nat), s = front ++ rest ∧
      front.map digitValue? = values.map some ∧ digits = values.reverse ++ kept := by
  induction s generalizing kept with
  | nil =>
    cases h
    exact ⟨[], [], rfl, rfl, rfl⟩
  | cons c s ih =>
    have hunderscore : (c == '_') = false :=
      beq_eq_false_iff_ne.2 (ne_of_isDigit (hs c List.mem_cons_self) List.mem_cons_self)
    rw [scanDigits, hunderscore, if_neg Bool.false_ne_true] at h
    cases hc : digitValue? c with
    | none =>
      simp only [hc, Bool.false_eq_true, if_false, Option.some.injEq, Prod.mk.injEq] at h
      obtain ⟨rfl, rfl⟩ := h
      exact ⟨[], [], rfl, rfl, rfl⟩
    | some d =>
      simp only [hc] at h
      obtain ⟨front, values, rfl, hfront, rfl⟩ := ih (fun c hc => hs c (List.mem_cons_of_mem _ hc)) h
      refine ⟨c :: front, d :: values, rfl, by rw [List.map_cons, List.map_cons, hc, hfront], ?_⟩
      rw [List.reverse_cons, List.append_assoc]
      rfl

section
variable {text : String} {n : Nat}

theorem exists_digitValue? (h : IsNumeral text n) {c : Char} (hc : c ∈ text.toList) :
    ∃ d, digitValue? c = some d := by
  obtain ⟨digits, hdigits, -⟩ := h
  have hvalue : digitValue? c ∈ digits.map some := hdigits ▸ List.mem_map_of_mem hc
  obtain ⟨d, -, hd⟩ := List.mem_map.1 hvalue
  exact ⟨d, hd.symm⟩

theorem toList_ne_nil_of_isNumeral (h : IsNumeral text n) : text.toList ≠ [] := by
  obtain ⟨digits, hdigits, hne, -⟩ := h
  intro hnil
  rw [hnil, List.map_nil, eq_comm, List.map_eq_nil_iff] at hdigits
  exact hne hdigits

theorem isAllDigits_of_isNumeral (h : IsNumeral text n) : isAllDigits text = true := by
  have hempty : text.isEmpty = false := by
    rw [String.isEmpty_eq_false_iff]
    intro hnil
    exact toList_ne_nil_of_isNumeral h (by rw [hnil]; rfl)
  rw [isAllDigits, hempty, Bool.not_false, Bool.true_and, List.all_eq_true]
  intro c hc
  obtain ⟨d, hd⟩ := exists_digitValue? h hc
  exact isDigit_of_digitValue? hd

/-- A numeral is read as its number. -/
theorem readInteger_of_isNumeral (h : IsNumeral text n) : readInteger text = .ok n := by
  obtain ⟨c, s, htext⟩ := List.exists_cons_of_ne_nil (toList_ne_nil_of_isNumeral h)
  obtain ⟨d, hd⟩ := exists_digitValue? h (c := c) (by rw [htext]; exact List.mem_cons_self)
  obtain ⟨digits, hdigits, hne, hlength, hn⟩ := h
  have htrim : skipWhiteSpace text.toList = c :: s := by rw [htext, skipWhiteSpace_cons (isWhiteSpace_of_digitValue? hd)]
  have hscan : scanDigits false [] (c :: s) = some (digits.reverse, []) := by
    rw [scanDigits_digits (htext ▸ hdigits), List.append_nil]
  have hplus : c ≠ '+' := ne_of_digitValue? hd (by decide)
  have hminus : c ≠ '-' := ne_of_digitValue? hd (by decide)
  simp [readInteger, htrim, hminus, hplus, hscan, hne, hlength, skipWhiteSpace_nil, foldl_digits, hn]

/-- A text of digits that is read is a numeral: after its digits there is nothing. -/
theorem exists_isNumeral_of_digits (h : isAllDigits text = true) {id : Int}
    (hread : readInteger text = .ok id) : ∃ n : Nat, IsNumeral text n ∧ id = n := by
  rw [isAllDigits, Bool.and_eq_true, Bool.not_eq_true', String.isEmpty_eq_false_iff, List.all_eq_true] at h
  obtain ⟨hne, hdigits⟩ := h
  obtain ⟨c, s, htext⟩ := List.exists_cons_of_ne_nil (mt String.toList_eq_nil_iff.1 hne)
  have hc : isDigit c = true := hdigits c (by rw [htext]; exact List.mem_cons_self)
  have htrim : skipWhiteSpace text.toList = c :: s := by rw [htext, skipWhiteSpace_cons (isWhiteSpace_of_isDigit hc)]
  have hplus : c ≠ '+' := ne_of_isDigit hc (by decide)
  have hminus : c ≠ '-' := ne_of_isDigit hc (by decide)
  cases hscan : scanDigits false [] (c :: s) with
  | none => simp [readInteger, htrim, hminus, hplus, hscan] at hread
  | some scanned =>
    obtain ⟨kept, rest⟩ := scanned
    obtain ⟨front, values, hsplit, hfront, rfl⟩ := exists_of_scanDigits (htext ▸ hdigits) hscan
    have houtcome : (if values = [] then Except.error IntegerFault.malformed
        else if Json.maxIntegerDigits < values.length then .error (.tooManyDigits values.length)
        else if skipWhiteSpace rest = [] then .ok ((Nat.ofDigits 10 values.reverse : Nat) : Int)
        else .error .malformed) = .ok id := by
      simpa [readInteger, htrim, hminus, hplus, hscan, foldl_digits] using hread
    have hrest : skipWhiteSpace rest = [] → rest = [] := by
      cases rest with
      | nil => exact fun _ => rfl
      | cons r rest =>
        have hr : isDigit r = true := hdigits r (by rw [htext, hsplit]; simp)
        rw [skipWhiteSpace_cons (isWhiteSpace_of_isDigit hr)]
        exact fun h => h
    split_ifs at houtcome with hvalues hlength htrimmed
    obtain rfl := hrest htrimmed
    rw [List.append_nil] at hsplit
    exact ⟨_, ⟨values, by rw [htext, hsplit, hfront], hvalues, Nat.not_lt.1 hlength, rfl⟩,
      (Except.ok.inj houtcome).symm⟩

/-- A text of digits is read exactly if it is a numeral. -/
theorem readInteger_digits_iff (h : isAllDigits text = true) {id : Int} :
    readInteger text = .ok id ↔ ∃ n : Nat, IsNumeral text n ∧ id = n := by
  constructor
  · exact exists_isNumeral_of_digits h
  · rintro ⟨n, hn, rfl⟩
    exact readInteger_of_isNumeral hn

end

end Decimal

end SequenceClassification
