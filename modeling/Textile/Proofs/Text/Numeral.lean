import Textile.Proofs.Unicode.Classes
import Textile.Text.Reference

/-!
# Numerals

A number as it may be written in digits: with zeros in front, and with letters of
either case in a base that has them (`IsNumeral`). Whatever the way of writing, the
digits are digits of the base (`IsNumeral.isHexDigit`, `IsNumeral.isDigit`) and are
read as the number (`IsNumeral.numberOfDigits_eq`).
-/

namespace Textile.Text

open Textile.Unicode

/-- The digits write a number in a base, perhaps with zeros in front. -/
def IsNumeral (base number : Nat) (digits : List Char) : Prop :=
  ∃ zeros, digits.map Char.toLower = List.replicate zeros '0' ++ Nat.toDigits base number

/-! ## Digits -/

theorem le_iff_toNat_le {c d : Char} : c ≤ d ↔ c.toNat ≤ d.toNat := by
  rw [Char.le_def, UInt32.le_iff_toNat_le]
  rfl

theorem isHexDigit_iff {c : Char} :
    isHexDigit c = true ↔ (48 ≤ c.toNat ∧ c.toNat ≤ 57 ∨ 97 ≤ c.toNat ∧ c.toNat ≤ 102) ∨
      65 ≤ c.toNat ∧ c.toNat ≤ 70 := by
  simp only [isHexDigit, Bool.or_eq_true, Bool.and_eq_true, decide_eq_true_eq, isDigit_iff,
    le_iff_toNat_le]
  rfl

theorem hexDigitValue_eq (c : Char) :
    hexDigitValue c = if 48 ≤ c.toNat ∧ c.toNat ≤ 57 then c.toNat - 48
      else if 97 ≤ c.toNat then c.toNat - 97 + 10 else c.toNat - 65 + 10 := by
  simp only [hexDigitValue, isDigit_iff, le_iff_toNat_le]
  rfl

/-- The case of a digit does not change its value. -/
theorem hexDigitValue_toLower (c : Char) : hexDigitValue c.toLower = hexDigitValue c := by
  rw [hexDigitValue_eq, hexDigitValue_eq, toNat_toLower]
  split
  · rw [if_neg (by omega), if_pos (by omega), if_neg (by omega), if_neg (by omega)]
    omega
  · rfl

theorem isHexDigit_of_toLower {c : Char} (h : isHexDigit c.toLower = true) :
    isHexDigit c = true := by
  rw [isHexDigit_iff, toNat_toLower] at h
  rw [isHexDigit_iff]
  split at h <;> omega

theorem isDigit_of_toLower {c : Char} (h : c.toLower.isDigit = true) : c.isDigit = true := by
  rw [isDigit_iff, toNat_toLower] at h
  rw [isDigit_iff]
  split at h <;> omega

theorem isHexDigit_digitChar {digit : Nat} (h : digit < 16) :
    isHexDigit digit.digitChar = true := by
  revert digit
  decide

theorem hexDigitValue_digitChar {digit : Nat} (h : digit < 16) :
    hexDigitValue digit.digitChar = digit := by
  revert digit
  decide

theorem toLower_digitChar {digit : Nat} (h : digit < 16) :
    digit.digitChar.toLower = digit.digitChar := by
  revert digit
  decide

/-! ## Shortest numerals -/

theorem numberOfDigits_append (base : Nat) (before after : List Char) :
    numberOfDigits base (before ++ after) =
      after.foldl (fun number digit => base * number + hexDigitValue digit)
        (numberOfDigits base before) :=
  List.foldl_append

section
variable {base : Nat} (hbase : 1 < base)
include hbase

theorem exists_of_mem_toDigits {number : Nat} {c : Char} (h : c ∈ Nat.toDigits base number) :
    ∃ digit < base, c = digit.digitChar := by
  induction number using Nat.strongRecOn with
  | ind number ih =>
      rw [Nat.toDigits_eq_if hbase] at h
      split at h
      · next hsmall => exact ⟨number, hsmall, List.mem_singleton.mp h⟩
      · next hlarge =>
          have hpos : 0 < number := by omega
          rcases List.mem_append.mp h with h | h
          · exact ih (number / base) (Nat.div_lt_self hpos hbase) h
          · exact ⟨number % base, Nat.mod_lt _ (by omega), List.mem_singleton.mp h⟩

theorem numberOfDigits_toDigits (hmost : base ≤ 16) (number : Nat) :
    numberOfDigits base (Nat.toDigits base number) = number := by
  induction number using Nat.strongRecOn with
  | ind number ih =>
      rw [Nat.toDigits_eq_if hbase]
      split
      · next hsmall =>
          show base * 0 + hexDigitValue number.digitChar = number
          rw [hexDigitValue_digitChar (by omega), Nat.mul_zero, Nat.zero_add]
      · next hlarge =>
          have hless : number / base < number := Nat.div_lt_self (by omega) hbase
          have hdigit : number % base < 16 :=
            Nat.lt_of_lt_of_le (Nat.mod_lt _ (by omega)) hmost
          rw [numberOfDigits_append, ih _ hless]
          show base * (number / base) + hexDigitValue (number % base).digitChar = number
          rw [hexDigitValue_digitChar hdigit, Nat.div_add_mod]

end

theorem numberOfDigits_replicate_append (base zeros : Nat) (digits : List Char) :
    numberOfDigits base (List.replicate zeros '0' ++ digits) = numberOfDigits base digits := by
  induction zeros with
  | zero => rfl
  | succ zeros ih =>
      rw [List.replicate_succ, List.cons_append, ← ih]
      show List.foldl _ (base * 0 + hexDigitValue '0') _ = _
      rfl

theorem numberOfDigits_map_toLower (base : Nat) (digits : List Char) :
    numberOfDigits base (digits.map Char.toLower) = numberOfDigits base digits := by
  simp only [numberOfDigits, List.foldl_map, hexDigitValue_toLower]

/-- The shortest numeral is one. -/
theorem isNumeral_toDigits {base : Nat} (hbase : 1 < base) (hmost : base ≤ 16) (number : Nat) :
    IsNumeral base number (Nat.toDigits base number) := by
  have hlower : (Nat.toDigits base number).map Char.toLower = Nat.toDigits base number := by
    conv => rhs; rw [← List.map_id (Nat.toDigits base number)]
    apply List.map_congr_left
    intro c hc
    obtain ⟨digit, hdigit, rfl⟩ := exists_of_mem_toDigits hbase hc
    exact toLower_digitChar (by omega)
  exact ⟨0, hlower⟩

/-! ## All numerals -/

namespace IsNumeral

variable {base number : Nat} {digits : List Char}

theorem ne_nil (h : IsNumeral base number digits) : digits ≠ [] := by
  obtain ⟨zeros, heq⟩ := h
  rintro rfl
  exact Nat.toDigits_ne_nil (List.append_eq_nil_iff.mp heq.symm).2

/-- A numeral is read as its number. -/
theorem numberOfDigits_eq (h : IsNumeral base number digits) (hbase : 1 < base)
    (hmost : base ≤ 16) : numberOfDigits base digits = number := by
  obtain ⟨zeros, heq⟩ := h
  rw [← numberOfDigits_map_toLower, heq, numberOfDigits_replicate_append,
    numberOfDigits_toDigits hbase hmost]

theorem toLower_eq (h : IsNumeral base number digits) (hbase : 1 < base) {c : Char}
    (hc : c ∈ digits) : ∃ digit < base, c.toLower = digit.digitChar := by
  obtain ⟨zeros, heq⟩ := h
  have hlower : c.toLower ∈ digits.map Char.toLower := List.mem_map_of_mem hc
  rw [heq, List.mem_append] at hlower
  rcases hlower with hzero | hdigit
  · exact ⟨0, by omega, List.eq_of_mem_replicate hzero⟩
  · exact exists_of_mem_toDigits hbase hdigit

theorem isHexDigit (h : IsNumeral base number digits) (hbase : 1 < base) (hmost : base ≤ 16)
    {c : Char} (hc : c ∈ digits) : isHexDigit c = true := by
  obtain ⟨digit, hdigit, hlower⟩ := h.toLower_eq hbase hc
  apply isHexDigit_of_toLower
  rw [hlower]
  exact isHexDigit_digitChar (by omega)

theorem isDigit (h : IsNumeral 10 number digits) {c : Char} (hc : c ∈ digits) :
    c.isDigit = true := by
  obtain ⟨digit, hdigit, hlower⟩ := h.toLower_eq (by omega) hc
  apply isDigit_of_toLower
  rw [hlower, Nat.isDigit_digitChar]
  exact decide_eq_true hdigit

end IsNumeral

end Textile.Text
