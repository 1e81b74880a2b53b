import Mathlib.Tactic.IntervalCases
import SequenceClassification.Text.Utf8

/-!
Reading back what UTF-8 writes. The first octet of a character tells how many follow and bounds the second
one; no character has a code point that these bounds exclude. Main statement: the octets of a text are read
as that text.
-/
namespace SequenceClassification.Text

theorem secondOctet_two {b : Nat} (hlow : 0xC2 ≤ b) (hhigh : b ≤ 0xDF) :
    secondOctet b = some (1, 0x80, 0xBF) := by
  simp [secondOctet, hlow, hhigh]

theorem secondOctet_three {b : Nat} (hlow : 0xE0 ≤ b) (hhigh : b ≤ 0xEF) :
    secondOctet b =
      some (2, if b = 0xE0 then 0xA0 else 0x80, if b = 0xED then 0x9F else 0xBF) := by
  interval_cases b <;> rfl

theorem secondOctet_four {b : Nat} (hlow : 0xF0 ≤ b) (hhigh : b ≤ 0xF4) :
    secondOctet b =
      some (3, if b = 0xF0 then 0x90 else 0x80, if b = 0xF4 then 0x8F else 0xBF) := by
  interval_cases b <;> rfl

/-- An octet within the bounds of the first one is read on from. -/
theorem decodeChar_of_secondOctet {b more lo hi c : Nat} (hlong : 0x80 ≤ b)
    (hsecond : secondOctet b = some (more, lo, hi)) (hlo : lo ≤ c) (hhi : c ≤ hi) (s : List Nat) :
    decodeChar b (c :: s) = continueChar (leadBits more b * 64 + c % 64) 2 (more - 1) s := by
  have hshort : ¬ b < 0x80 := by omega
  simp [decodeChar, hshort, hsecond, hlo, hhi]

theorem continueChar_succ {c : Nat} (hlow : 0x80 ≤ c) (hhigh : c < 0xC0) (value good more : Nat)
    (s : List Nat) :
    continueChar value good (more + 1) (c :: s) =
      continueChar (value * 64 + c % 64) (good + 1) more s := by
  simp [continueChar, isContinuation, hlow, hhigh]

/-- The code point of a character is none of those that stand for halves of a pair. -/
theorem toNat_valid (c : Char) : c.toNat < 0xD800 ∨ 0xDFFF < c.toNat ∧ c.toNat < 0x110000 := c.valid

/-- The octets of a character are read as its code point, whatever follows them. -/
theorem decodeChar_utf8Char (c : Char) :
    ∃ b t, utf8Char c = b :: t ∧ ∀ rest, decodeChar b (t ++ rest) = .ok (c.toNat, rest) := by
  have hvalid := toNat_valid c
  unfold utf8Char
  generalize c.toNat = n at *
  dsimp only
  split
  · rename_i hone
    exact ⟨n, [], rfl, fun rest => by simp [decodeChar, hone]⟩
  split
  · refine ⟨_, _, rfl, fun rest => ?_⟩
    rw [List.cons_append, decodeChar_of_secondOctet (by omega)
      (secondOctet_two (by omega) (by omega)) (by omega) (by omega)]
    have hvalue : leadBits 1 (0xC0 + n / 64) * 64 + (0x80 + n % 64) % 64 = n := by
      simp only [leadBits]
      norm_num
      omega
    simp only [List.nil_append, Nat.sub_self, continueChar, hvalue]
  split
  · refine ⟨_, _, rfl, fun rest => ?_⟩
    rw [List.cons_append, decodeChar_of_secondOctet (by omega)
      (secondOctet_three (by omega) (by omega)) (by split <;> omega) (by split <;> omega)]
    rw [show 2 - 1 = 0 + 1 from rfl, List.cons_append, continueChar_succ (by omega) (by omega)]
    have hvalue : (leadBits 2 (0xE0 + n / 4096) * 64 + (0x80 + n / 64 % 64) % 64) * 64 +
        (0x80 + n % 64) % 64 = n := by
      simp only [leadBits]
      norm_num
      omega
    simp only [List.nil_append, continueChar, hvalue]
  · refine ⟨_, _, rfl, fun rest => ?_⟩
    rw [List.cons_append, decodeChar_of_secondOctet (by omega)
      (secondOctet_four (by omega) (by omega)) (by split <;> omega) (by split <;> omega)]
    rw [show 3 - 1 = 1 + 1 from rfl, List.cons_append, continueChar_succ (by omega) (by omega),
      show 1 = 0 + 1 from rfl, List.cons_append, continueChar_succ (by omega) (by omega)]
    have hvalue : ((leadBits 3 (0xF0 + n / 262144) * 64 + (0x80 + n / 4096 % 64) % 64) * 64 +
        (0x80 + n / 64 % 64) % 64) * 64 + (0x80 + n % 64) % 64 = n := by
      simp only [leadBits]
      norm_num
      omega
    simp only [List.nil_append, continueChar, hvalue]

theorem decodeUtf8From_utf8 (s : List Char) {fuel : Nat} (hfuel : (utf8 s).length ≤ fuel) (pos : Nat)
    (done : List Char) : decodeUtf8From fuel pos done (utf8 s) = .ok (done.reverse ++ s) := by
  induction s generalizing fuel pos done with
  | nil => simp [utf8, decodeUtf8From]
  | cons c s ih =>
    obtain ⟨b, t, hchar, hdecode⟩ := decodeChar_utf8Char c
    have hutf8 : utf8 (c :: s) = b :: (t ++ utf8 s) := by
      rw [utf8, List.flatMap_cons, hchar]
      rfl
    rw [hutf8] at hfuel ⊢
    cases fuel with
    | zero => cases hfuel
    | succ fuel =>
      simp only [List.length_cons, List.length_append] at hfuel
      simp only [decodeUtf8From, hdecode]
      rw [ih (by omega), Char.ofNat_toNat]
      simp

/-- The octets of a text are read as that text. -/
theorem decodeUtf8_utf8 (s : List Char) : decodeUtf8 (utf8 s) = .ok s :=
  decodeUtf8From_utf8 s (Nat.le_refl _) 0 []

end SequenceClassification.Text
