import SequenceClassification.Text.LowerCase

/-!
Lower-casing what is lower-case. The runs of the table lead out of all of its runs, so a lower-case form has
no other one; nor is any of them one of the two capitals with rules of their own, the I with a dot above and
the sigma. After lower-casing no sigma is left whose context could decide, so it does not matter that a second
time this context is another one. Main statement: lower-casing twice is lower-casing once.
-/
namespace SequenceClassification.Text

/-- A run of the table of lower-case forms. -/
abbrev LowerRun := Nat × Nat × Nat × Nat

namespace LowerRun

abbrev first (r : LowerRun) : Nat := r.1

abbrev last (r : LowerRun) : Nat := r.2.1

abbrev step (r : LowerRun) : Nat := r.2.2.1

abbrev target (r : LowerRun) : Nat := r.2.2.2

abbrev form (r : LowerRun) (n : Nat) : Nat := n - r.first + r.target

def covers (r : LowerRun) (n : Nat) : Bool :=
  decide (r.first ≤ n) && decide (n ≤ r.last) && (n - r.first) % r.step == 0

/-- Whether the forms that a run gives are outside of another run: they end before it, begin behind it, or
are those that its steps leave out. -/
def leadsOut (r r' : LowerRun) : Bool :=
  Nat.blt (r.form r.last) r'.first || Nat.blt r'.last r.target ||
    (r'.step == 2 && (r.step == 2 || r.first == r.last) && (r.target + r'.first) % 2 == 1)

theorem covers_iff {r : LowerRun} {n : Nat} :
    r.covers n = true ↔ r.first ≤ n ∧ n ≤ r.last ∧ (n - r.first) % r.step = 0 := by
  simp only [covers, Bool.and_eq_true, decide_eq_true_eq, beq_iff_eq, and_assoc]

theorem leadsOut_iff {r r' : LowerRun} : r.leadsOut r' = true ↔
    r.form r.last < r'.first ∨ r'.last < r.target ∨
      r'.step = 2 ∧ (r.step = 2 ∨ r.first = r.last) ∧ (r.target + r'.first) % 2 = 1 := by
  simp only [leadsOut, Bool.or_eq_true, Bool.and_eq_true, Nat.blt_eq, beq_iff_eq, or_assoc, and_assoc]

/-- The forms of a run lie between those of its ends. -/
theorem form_bounds {r : LowerRun} {n : Nat} (h : r.covers n = true) :
    r.target ≤ r.form n ∧ r.form n ≤ r.form r.last := by
  obtain ⟨-, hlast, -⟩ := covers_iff.1 h
  unfold form
  omega

theorem covers_form_eq_false {r r' : LowerRun} (h : r.leadsOut r' = true) {n : Nat}
    (hn : r.covers n = true) : r'.covers (r.form n) = false := by
  obtain ⟨hfirst, hlast, hstep⟩ := covers_iff.1 hn
  obtain ⟨hlow, hhigh⟩ := form_bounds hn
  rw [← Bool.not_eq_true, covers_iff]
  rintro ⟨hfirst', hlast', hstep'⟩
  rcases leadsOut_iff.1 h with hbefore | hbehind | ⟨htwo', hgap, hodd⟩
  · omega
  · omega
  · rw [htwo'] at hstep'
    have heven : (n - r.first) % 2 = 0 := by
      rcases hgap with htwo | hsingle
      · rwa [htwo] at hstep
      · omega
    unfold form at hfirst' hstep'
    omega

end LowerRun

/-- No run leads into a run, not even into itself. -/
theorem lowerRuns_leadOut : ∀ r : LowerRun, r ∈ lowerRuns → lowerRuns.all r.leadsOut = true := by
  decide +kernel

/-- All runs lead to characters, and past the capital I with a dot above. -/
theorem lowerRuns_lead : ∀ r : LowerRun, r ∈ lowerRuns →
    (r.form r.last < 0xD800 ∨ 0xDFFF < r.target ∧ r.form r.last < 0x110000) ∧
      (r.form r.last < 0x130 ∨ 0x130 < r.target) := by
  decide +kernel

theorem lowerCode_eq (n : Nat) : lowerCode n =
    match lowerRuns.find? fun r => LowerRun.covers r n with
    | some r => LowerRun.form r n
    | none => n := rfl

theorem lowerCode_of_not_covered {n : Nat} (h : ∀ r : LowerRun, r ∈ lowerRuns → r.covers n = false) :
    lowerCode n = n := by
  have hnone : (lowerRuns.find? fun r => LowerRun.covers r n) = none :=
    List.find?_eq_none.2 fun r hr => by rw [h r hr]; exact Bool.false_ne_true
  rw [lowerCode_eq, hnone]

/-- A code point is in no run, or gets its form from one. -/
theorem lowerCode_cases (n : Nat) :
    lowerCode n = n ∨ ∃ r : LowerRun, r ∈ lowerRuns ∧ r.covers n = true ∧ lowerCode n = r.form n := by
  cases hfound : lowerRuns.find? fun r => LowerRun.covers r n with
  | none =>
    refine .inl (lowerCode_of_not_covered fun r hr => ?_)
    exact Bool.not_eq_true _ ▸ List.find?_eq_none.1 hfound r hr
  | some r =>
    have hcovers := List.find?_some hfound
    exact .inr ⟨r, List.mem_of_find?_eq_some hfound, hcovers, by rw [lowerCode_eq, hfound]⟩

/-- A lower-case form is in no run. -/
theorem lowerCode_lowerCode (n : Nat) : lowerCode (lowerCode n) = lowerCode n := by
  rcases lowerCode_cases n with hself | ⟨r, hr, hn, hform⟩
  · rw [hself, hself]
  · rw [hform]
    refine lowerCode_of_not_covered fun r' hr' => LowerRun.covers_form_eq_false ?_ hn
    exact List.all_eq_true.1 (lowerRuns_leadOut r hr) r' hr'

theorem isValidChar_lowerCode (c : Char) : (lowerCode c.toNat).isValidChar := by
  rcases lowerCode_cases c.toNat with hself | ⟨r, hr, hn, hform⟩
  · rw [hself]
    exact c.valid
  · obtain ⟨hlow, hhigh⟩ := LowerRun.form_bounds hn
    have hlead := (lowerRuns_lead r hr).1
    rw [hform]
    change r.form c.toNat < 0xD800 ∨ 0xDFFF < r.form c.toNat ∧ r.form c.toNat < 0x110000
    omega

theorem lowerCode_ne_dotted {n : Nat} (h : n ≠ 0x130) : lowerCode n ≠ 0x130 := by
  rcases lowerCode_cases n with hself | ⟨r, hr, hn, hform⟩
  · rwa [hself]
  · obtain ⟨hlow, hhigh⟩ := LowerRun.form_bounds hn
    have hlead := (lowerRuns_lead r hr).2
    rw [hform]
    omega

/-- What a character is lower-cased to is its own lower-case form. -/
theorem lowerChar_of_mem_lowerChar {c d : Char} (h : d ∈ lowerChar c) : lowerChar d = [d] := by
  unfold lowerChar at h
  split at h
  · simp only [List.mem_cons, List.not_mem_nil, or_false] at h
    rcases h with rfl | rfl
    · decide +kernel
    · decide +kernel
  · rename_i hdotted
    have hcode : d.toNat = lowerCode c.toNat := by
      rw [List.mem_singleton.1 h, Char.ofNat, dif_pos (isValidChar_lowerCode c)]
      rfl
    have hne : d.toNat ≠ 0x130 := by
      rw [hcode]
      exact lowerCode_ne_dotted (by simpa using hdotted)
    rw [lowerChar, if_neg (by simpa using hne), hcode, lowerCode_lowerCode, ← hcode, Char.ofNat_toNat]

/-- A character that is its own lower-case form is no capital sigma. -/
theorem toNat_ne_sigma {c : Char} (h : lowerChar c = [c]) : c.toNat ≠ 0x3A3 := by
  intro hsigma
  have hc : c = '\u03a3' := Char.toNat_inj.1 hsigma
  rw [hc] at h
  exact absurd h (by decide +kernel)

/-- Lower-casing leaves nothing but characters that are their own lower-case forms, by induction on the text,
whatever stands before it. -/
theorem lowerChar_of_mem_lowerFrom {s before : List Char} {d : Char} (h : d ∈ lowerFrom before s) :
    lowerChar d = [d] := by
  induction s generalizing before with
  | nil => cases h
  | cons c s ih =>
    rw [lowerFrom] at h
    rcases List.mem_append.1 h with hhere | hrest
    · split at hhere
      · split at hhere
        · rw [List.mem_singleton.1 hhere]
          decide +kernel
        · rw [List.mem_singleton.1 hhere]
          decide +kernel
      · exact lowerChar_of_mem_lowerChar hhere
    · exact ih hrest

/-- Characters that are their own lower-case forms stay as they are, in any context. -/
theorem lowerFrom_eq_self {s : List Char} (h : ∀ c ∈ s, lowerChar c = [c]) (before : List Char) :
    lowerFrom before s = s := by
  induction s generalizing before with
  | nil => rfl
  | cons c s ih =>
    obtain ⟨hc, hs⟩ := List.forall_mem_cons.1 h
    rw [lowerFrom, ih hs]
    simp only [beq_iff_eq, if_neg (toNat_ne_sigma hc), hc, List.singleton_append]

/-- Lower-casing twice is lower-casing once. -/
theorem lower_lower (s : List Char) : lower (lower s) = lower s :=
  lowerFrom_eq_self (fun _ => lowerChar_of_mem_lowerFrom) []

theorem lower_toList_lowerString (s : String) : lower (lowerString s).toList = lower s.toList := by
  rw [lowerString, String.toList_ofList, lower_lower]

end SequenceClassification.Text
