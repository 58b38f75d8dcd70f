import Textile.Unicode.Classes

/-!
# Classes of characters

* **ASCII**: what is a letter or a digit is said by bounds on code points
  (`isLower_iff`, `isDigit_iff`), and so is what a letter becomes in lower case
  (`toNat_toLower`). Only capitals change there, so a character that is no small
  letter is what it was (`eq_of_toLower_eq`).
* **Tables**: white space has no character in common with digits and words
  (`isDecimalDigit_of_isWhiteSpace`, `isWordCharacter_of_isWhiteSpace`), since no
  range of the one table meets a range of the other.
-/

namespace Textile.Unicode

/-! ## ASCII -/

theorem isLower_iff {c : Char} : c.isLower = true ↔ 97 ≤ c.toNat ∧ c.toNat ≤ 122 := by
  rw [show c.isLower = (decide (c.val ≥ 97) && decide (c.val ≤ 122)) from rfl]
  simp [UInt32.le_iff_toNat_le, ← Char.toNat_val]

theorem isDigit_iff {c : Char} : c.isDigit = true ↔ 48 ≤ c.toNat ∧ c.toNat ≤ 57 := by
  rw [show c.isDigit = (decide (c.val ≥ 48) && decide (c.val ≤ 57)) from rfl]
  simp [UInt32.le_iff_toNat_le, ← Char.toNat_val]

theorem toNat_of_isAlphanum {c : Char} (h : c.isAlphanum = true) :
    48 ≤ c.toNat ∧ c.toNat ≤ 122 := by
  have hupper : c.isUpper = true → 65 ≤ c.toNat ∧ c.toNat ≤ 90 := of_decide_eq_true
  have hclasses : c.isAlphanum = ((c.isUpper || c.isLower) || c.isDigit) := rfl
  rw [hclasses, Bool.or_eq_true, Bool.or_eq_true, isLower_iff, isDigit_iff] at h
  rcases h with (h | h) | h
  · have hbounds := hupper h
    omega
  · omega
  · omega

theorem toNat_toLower (c : Char) :
    c.toLower.toNat = if 65 ≤ c.toNat ∧ c.toNat ≤ 90 then c.toNat + 32 else c.toNat := by
  have hcapital : (c.val ≥ 'A'.val ∧ c.val ≤ 'Z'.val) ↔ 65 ≤ c.toNat ∧ c.toNat ≤ 90 := Iff.rfl
  unfold Char.toLower
  split
  · next h =>
      obtain ⟨hfrom, hto⟩ := hcapital.mp h
      rw [if_pos ⟨hfrom, hto⟩]
      show (c.val + ('a'.val - 'A'.val)).toNat = c.val.toNat + 32
      have hval : c.val.toNat ≤ 90 := hto
      have hshift : ('a'.val - 'A'.val).toNat = 32 := rfl
      rw [UInt32.toNat_add, hshift]
      omega
  · next h => rw [if_neg fun hbounds => h (hcapital.mpr hbounds)]

/-- Only small letters are the lower case of another character. -/
theorem eq_of_toLower_eq {c d : Char} (h : c.toLower = d) (hd : d.isLower = false) : c = d := by
  have hnat := toNat_toLower c
  rw [h] at hnat
  have hsmall : ¬(97 ≤ d.toNat ∧ d.toNat ≤ 122) := by
    rw [← isLower_iff, hd]
    exact Bool.false_ne_true
  apply Char.toNat_inj.mp
  split at hnat <;> omega

/-! ## Tables -/

/-- No range of one table meets a range of the other. -/
def Ranges.disjoint (ranges others : Ranges) : Bool :=
  ranges.all fun range => others.all fun other => range.2 < other.1 || other.2 < range.1

theorem Ranges.contains_eq_false {ranges others : Ranges} (h : ranges.disjoint others = true)
    {c : Char} (hc : ranges.contains c = true) : others.contains c = false := by
  obtain ⟨range, hrange, hin⟩ := List.any_eq_true.mp hc
  apply List.any_eq_false.mpr
  intro other hother hin'
  have hapart := List.all_eq_true.mp (List.all_eq_true.mp h range hrange) other hother
  simp only [Bool.or_eq_true, Bool.and_eq_true, decide_eq_true_eq] at hapart hin hin'
  omega

/-- White space in ASCII is neither a letter nor a digit. -/
theorem toNat_of_isWhiteSpace {c : Char} (h : isWhiteSpace c = true) :
    c.toNat < 48 ∨ 122 < c.toNat := by
  have hapart : whiteSpaceRanges.disjoint [(48, 122)] = true := by decide
  have hout := Ranges.contains_eq_false hapart h
  simp only [Ranges.contains, List.any_cons, List.any_nil, Bool.or_false, Bool.and_eq_false_iff,
    decide_eq_false_iff_not] at hout
  omega

theorem toLower_of_isWhiteSpace {c : Char} (h : isWhiteSpace c = true) : c.toLower = c := by
  have hout := toNat_of_isWhiteSpace h
  apply Char.toNat_inj.mp
  rw [toNat_toLower, if_neg (by omega)]

theorem isDecimalDigit_of_isWhiteSpace {c : Char} (h : isWhiteSpace c = true) :
    isDecimalDigit c = false := by
  have hapart : whiteSpaceRanges.disjoint digitRangesBeyondAscii = true := by decide
  have hout := toNat_of_isWhiteSpace h
  have hdigit : c.isDigit = false := by
    rw [← Bool.not_eq_true, isDigit_iff]
    omega
  rw [isDecimalDigit, hdigit, Ranges.contains_eq_false hapart h]
  rfl

theorem isWordCharacter_of_isWhiteSpace {c : Char} (h : isWhiteSpace c = true) :
    isWordCharacter c = false := by
  have hapart : whiteSpaceRanges.disjoint wordRangesBeyondAscii = true := by decide +kernel
  have hout := toNat_of_isWhiteSpace h
  have halphanum : c.isAlphanum = false := by
    rw [← Bool.not_eq_true]
    intro hin
    have hbounds := toNat_of_isAlphanum hin
    omega
  have hunderscore : c ≠ '_' := by
    rintro rfl
    exact absurd h (by decide)
  rw [isWordCharacter, halphanum, Ranges.contains_eq_false hapart h]
  simp [hunderscore]

end Textile.Unicode
