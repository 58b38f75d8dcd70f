import Textile.Proofs.Unicode.Classes
import Textile.Unicode.Lowercase

/-!
# Two ways to ignore case

Lower case takes in that of the ASCII letters, on either side:

* no capital ASCII letter is left in lower case (`lowercaseAscii_lowercase`), not even where the
  small form of a letter beyond ASCII is an ASCII letter, as that of the Kelvin sign is;
* it is the same for texts that differ in the case of ASCII letters only
  (`lowercase_lowercaseAscii`), as the properties that decide on a final sigma are.
-/

namespace Textile.Unicode

/-! ## Nothing is left to do -/

theorem toLower_eq_self_iff {c : Char} : c.toLower = c ↔ ¬(65 ≤ c.toNat ∧ c.toNat ≤ 90) := by
  rw [← Char.toNat_inj, toNat_toLower]
  split <;> omega

theorem toLower_toLower (c : Char) : c.toLower.toLower = c.toLower := by
  rw [toLower_eq_self_iff, toNat_toLower]
  split <;> omega

/-- The small letters in the table come after the ASCII capitals. -/
theorem lt_of_mem_caseRunsBeyondAscii {run : CaseRun} (h : run ∈ caseRunsBeyondAscii) :
    90 < run.first + run.shift := by
  have hall : caseRunsBeyondAscii.all (fun run => decide (90 < run.first + run.shift)) = true := by
    decide +kernel
  exact of_decide_eq_true (List.all_eq_true.mp hall run h)

/-- The code point of a character is the one it has been made of, or that of NUL. -/
theorem toNat_ofNat (code : Nat) :
    (Char.ofNat code).toNat = code ∨ (Char.ofNat code).toNat = 0 := by
  by_cases hvalid : code.isValidChar
  · left
    rw [Char.ofNat, dif_pos hvalid]
    rfl
  · right
    rw [Char.ofNat, dif_neg hvalid]
    rfl

theorem toLower_of_mem_lowercaseChar {c d : Char} (h : d ∈ lowercaseChar c) : d.toLower = d := by
  unfold lowercaseChar at h
  split at h
  · rw [List.mem_singleton.mp h, toLower_toLower]
  · next hascii =>
      split at h
      · simp only [List.mem_cons, List.not_mem_nil, or_false] at h
        rcases h with rfl | rfl
        · decide
        · decide
      · split at h
        · next code hfound =>
            -- The shift of a run leads beyond the capitals wherever in the run the letter is.
            obtain ⟨run, hrun, hsmall⟩ := List.exists_of_findSome?_eq_some hfound
            have hbeyond := lt_of_mem_caseRunsBeyondAscii hrun
            unfold CaseRun.small? at hsmall
            split at hsmall
            · next hin =>
                have hcode := Option.some.inj hsmall
                rw [List.mem_singleton.mp h, toLower_eq_self_iff]
                rcases toNat_ofNat code with hnat | hnat <;> omega
            · cases hsmall
        · rw [List.mem_singleton.mp h, toLower_eq_self_iff]
          omega

theorem toLower_smallSigma (before after : List Char) :
    (smallSigma before after).toLower = smallSigma before after := by
  unfold smallSigma
  split <;> decide

theorem toLower_of_mem_lowercaseAfter {before cs : List Char} {d : Char}
    (h : d ∈ lowercaseAfter before cs) : d.toLower = d := by
  induction cs generalizing before with
  | nil => cases h
  | cons c cs ih =>
      rcases List.mem_append.mp h with h | h
      · split at h
        · rw [List.mem_singleton.mp h, toLower_smallSigma]
        · exact toLower_of_mem_lowercaseChar h
      · exact ih h

/-- No capital ASCII letter is left in lower case. -/
theorem lowercaseAscii_lowercase (text : String) :
    lowercaseAscii (lowercase text) = lowercase text := by
  have hmap : (lowercaseAfter [] text.toList).map Char.toLower = lowercaseAfter [] text.toList := by
    rw [List.map_congr_left fun d hd => toLower_of_mem_lowercaseAfter hd, List.map_id']
  rw [lowercaseAscii, lowercase, String.toList_ofList, hmap]

/-! ## Nothing is lost -/

theorem lowercaseChar_toLower (c : Char) : lowercaseChar c.toLower = lowercaseChar c := by
  by_cases hcapital : 65 ≤ c.toNat ∧ c.toNat ≤ 90
  · have hascii : c.toLower.toNat < 0x80 := by
      rw [toNat_toLower, if_pos hcapital]
      omega
    rw [lowercaseChar, if_pos hascii, toLower_toLower, lowercaseChar, if_pos (by omega)]
  · rw [toLower_eq_self_iff.mpr hcapital]

/-- The ASCII letters are letters of words. -/
theorem contains_of_letter {c : Char}
    (h : 65 ≤ c.toNat ∧ c.toNat ≤ 90 ∨ 97 ≤ c.toNat ∧ c.toNat ≤ 122) :
    caseIgnorableRanges.contains c = false ∧ casedRanges.contains c = true := by
  constructor
  · have hapart : Ranges.disjoint [(65, 90), (97, 122)] caseIgnorableRanges = true := by
      decide +kernel
    apply Ranges.contains_eq_false hapart
    simpa [Ranges.contains] using h
  · rcases h with h | h
    · exact List.any_eq_true.mpr ⟨(65, 90), by decide, by simpa using h⟩
    · exact List.any_eq_true.mpr ⟨(97, 122), by decide, by simpa using h⟩

/-- The case of an ASCII letter does not matter to whether it is one of a word. -/
theorem contains_toLower (c : Char) :
    caseIgnorableRanges.contains c.toLower = caseIgnorableRanges.contains c ∧
      casedRanges.contains c.toLower = casedRanges.contains c := by
  by_cases hcapital : 65 ≤ c.toNat ∧ c.toNat ≤ 90
  · have hsmall : 97 ≤ c.toLower.toNat ∧ c.toLower.toNat ≤ 122 := by
      rw [toNat_toLower, if_pos hcapital]
      omega
    obtain ⟨hignorable, hcased⟩ := contains_of_letter (.inl hcapital)
    obtain ⟨hignorable', hcased'⟩ := contains_of_letter (.inr hsmall)
    rw [hignorable, hignorable', hcased, hcased']
    exact ⟨rfl, rfl⟩
  · rw [toLower_eq_self_iff.mpr hcapital]
    exact ⟨rfl, rfl⟩

theorem meetsCased_map_toLower (cs : List Char) :
    meetsCased (cs.map Char.toLower) = meetsCased cs := by
  induction cs with
  | nil => rfl
  | cons c cs ih =>
      obtain ⟨hignorable, hcased⟩ := contains_toLower c
      unfold meetsCased at ih ⊢
      rw [List.map_cons]
      cases hc : caseIgnorableRanges.contains c with
      | true =>
          rw [List.dropWhile_cons_of_pos (hignorable.trans hc), List.dropWhile_cons_of_pos hc]
          exact ih
      | false =>
          rw [List.dropWhile_cons_of_neg (by simp [hignorable, hc]),
            List.dropWhile_cons_of_neg (by simp [hc])]
          exact hcased

theorem lowercaseAfter_map_toLower (before cs : List Char) :
    lowercaseAfter (before.map Char.toLower) (cs.map Char.toLower) = lowercaseAfter before cs := by
  induction cs generalizing before with
  | nil => rfl
  | cons c cs ih =>
      have hsigma : c.toLower = 'Σ' ↔ c = 'Σ' := by
        constructor
        · intro h
          exact eq_of_toLower_eq h (by decide)
        · rintro rfl
          decide
      have hrest := ih (c :: before)
      rw [List.map_cons] at hrest
      rw [List.map_cons, lowercaseAfter, lowercaseAfter, hrest, lowercaseChar_toLower, smallSigma,
        smallSigma, meetsCased_map_toLower, meetsCased_map_toLower]
      simp only [hsigma]

/-- Lower case ignores the case of ASCII letters. -/
theorem lowercase_lowercaseAscii (text : String) :
    lowercase (lowercaseAscii text) = lowercase text := by
  rw [lowercase, lowercaseAscii, String.toList_ofList]
  exact congrArg String.ofList (lowercaseAfter_map_toLower [] text.toList)

end Textile.Unicode
