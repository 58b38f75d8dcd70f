import Mathlib.Data.List.Forall2
import Textile.Proofs.Text.Escape
import Textile.Proofs.Text.Numeral

/-!
# Characters and their references

A character can be written as it is, or as a reference: by its code point in decimal
or hexadecimal digits, or by a name. `Spells` lists the ways of writing one character.

* **Reach** (`length_toDigits_le`): every code point has numerals that are short enough
  for a reference.
* **One reference** (`decode_numeric`): a reference is taken whole, whatever follows it.
* **Texts** (`decodeString_spelled`): each character of a text may be written in a way of
  its own, and decoding gives the text back.
-/

namespace Textile.Text

open Textile.Unicode

/-- The special characters that have names here. -/
def namedChars : List (Char × String) :=
  [('&', "amp"), ('<', "lt"), ('>', "gt"), ('"', "quot")]

/-- A way of writing a character. -/
inductive Spells (c : Char) : List Char → Prop
  /-- As it is. -/
  | itself : c ≠ '&' → Spells c [c]
  /-- By its code point in decimal digits. -/
  | decimal {digits : List Char} : IsNumeral 10 c.toNat digits → digits.length ≤ 7 →
      Spells c ('&' :: '#' :: (digits ++ [';']))
  /-- By its code point in hexadecimal digits. -/
  | hexadecimal {x : Char} {digits : List Char} : x = 'x' ∨ x = 'X' →
      IsNumeral 16 c.toNat digits → digits.length ≤ 6 →
      Spells c ('&' :: '#' :: x :: (digits ++ [';']))
  /-- By its name. -/
  | named {name : String} : (c, name) ∈ namedChars → Spells c ('&' :: (name.toList ++ [';']))

/-! ## Reach -/

theorem toNat_lt (c : Char) : c.toNat < 0x110000 := by
  have hvalid : c.toNat < 0xD800 ∨ (0xDFFF < c.toNat ∧ c.toNat < 0x110000) := c.valid
  omega

/-- No code point needs more digits than a reference may have. -/
theorem length_toDigits_le (c : Char) :
    (Nat.toDigits 10 c.toNat).length ≤ 7 ∧ (Nat.toDigits 16 c.toNat).length ≤ 6 := by
  have hlt := toNat_lt c
  constructor
  · exact (Nat.length_toDigits_le_iff (by decide) (by decide)).mpr (by omega)
  · exact (Nat.length_toDigits_le_iff (by decide) (by decide)).mpr (by omega)

/-! ## References -/

theorem scalar?_toNat (c : Char) : scalar? c.toNat = some c := by
  have hvalid : c.toNat.isValidChar := c.valid
  rw [scalar?, dif_pos hvalid]
  rfl

theorem Reference.read?_decimal {digits : List Char} {number : Nat}
    (h : IsNumeral 10 number digits) (hmost : digits.length ≤ 7) (rest : List Char) :
    read? ('#' :: (digits ++ ';' :: rest)) = some (.decimal digits, rest) := by
  have hbody := readBody?_append (fun _ hc => h.isDigit hc) (by decide)
    (List.length_pos_iff.mpr h.ne_nil) hmost decimal rest
  cases digits with
  | nil => exact absurd rfl h.ne_nil
  | cons c digits =>
      have hdigit : c.isDigit = true := h.isDigit List.mem_cons_self
      have hx : ¬(c = 'x' ∨ c = 'X') := by
        rintro (rfl | rfl)
        · exact absurd hdigit (by decide)
        · exact absurd hdigit (by decide)
      rw [List.cons_append, read?, if_neg hx]
      exact hbody

theorem Reference.read?_hexadecimal {x : Char} (hx : x = 'x' ∨ x = 'X') {digits : List Char}
    {number : Nat} (h : IsNumeral 16 number digits) (hmost : digits.length ≤ 6)
    (rest : List Char) :
    read? ('#' :: x :: (digits ++ ';' :: rest)) = some (.hexadecimal digits, rest) := by
  rw [read?, if_pos hx]
  exact readBody?_append (fun _ hc => h.isHexDigit (by decide) (by decide) hc) (by decide)
    (List.length_pos_iff.mpr h.ne_nil) hmost hexadecimal rest

/-- Decoding takes a reference to the code point of a character whole. -/
theorem decode_numeric {cs rest : List Char} {reference : Reference} {c : Char}
    (hread : Reference.read? cs = some (reference, rest))
    (hcode : reference.codePoint? = some c.toNat) : decode ('&' :: cs) = c :: decode rest := by
  apply decode_of_readCharacter?
  simp only [Reference.readCharacter?, hread, Option.bind_some, Reference.character?, hcode,
    scalar?_toNat, Option.map_some]

/-- However a character is written, it is read back, and what follows is left alone. -/
theorem decode_spelling {c : Char} {spelling : List Char} (h : Spells c spelling)
    (rest : List Char) : decode (spelling ++ rest) = c :: decode rest := by
  cases h with
  | itself hc => exact decode_cons_of_ne hc rest
  | @decimal digits hnumeral hmost =>
      have hread := Reference.read?_decimal hnumeral hmost rest
      have hcode := hnumeral.numberOfDigits_eq (by decide) (by decide)
      simpa using decode_numeric hread (congrArg some hcode)
  | @hexadecimal x digits hx hnumeral hmost =>
      have hread := Reference.read?_hexadecimal hx hnumeral hmost rest
      have hcode := hnumeral.numberOfDigits_eq (by decide) (by decide)
      simpa using decode_numeric hread (congrArg some hcode)
  | named hname =>
      simp only [namedChars, List.mem_cons, Prod.mk.injEq, List.not_mem_nil, or_false] at hname
      rcases hname with ⟨rfl, rfl⟩ | ⟨rfl, rfl⟩ | ⟨rfl, rfl⟩ | ⟨rfl, rfl⟩
      · exact decode_named 'a' ['m', 'p'] (by decide) (by decide) (by decide) (by decide) rfl rfl
          rest
      · exact decode_named 'l' ['t'] (by decide) (by decide) (by decide) (by decide) rfl rfl rest
      · exact decode_named 'g' ['t'] (by decide) (by decide) (by decide) (by decide) rfl rfl rest
      · exact decode_named 'q' ['u', 'o', 't'] (by decide) (by decide) (by decide) (by decide) rfl
          rfl rest

/-! ## Texts -/

theorem decode_flatten {text : List Char} {spellings : List (List Char)}
    (h : List.Forall₂ Spells text spellings) : decode spellings.flatten = text := by
  induction h with
  | nil => rw [List.flatten_nil, decode]
  | cons hc _ ih => rw [List.flatten_cons, decode_spelling hc, ih]

/-- Each character of a text may be written in a way of its own: decoding gives the text back.
Both kinds of numeric references are open to every character. -/
theorem decodeString_spelled {text : String} {spellings : List (List Char)}
    (h : List.Forall₂ Spells text.toList spellings) :
    decodeString (String.ofList spellings.flatten) = text ∧
      ∀ c : Char, Spells c ('&' :: '#' :: (Nat.toDigits 10 c.toNat ++ [';'])) ∧
        Spells c ('&' :: '#' :: 'x' :: (Nat.toDigits 16 c.toNat ++ [';'])) := by
  refine ⟨?_, fun c => ⟨?_, ?_⟩⟩
  · rw [decodeString, String.toList_ofList, decode_flatten h, String.ofList_toList]
  · exact .decimal (isNumeral_toDigits (by decide) (by decide) _) (length_toDigits_le c).1
  · exact .hexadecimal (.inl rfl) (isNumeral_toDigits (by decide) (by decide) _)
      (length_toDigits_le c).2

/-- A text that looks like a reference, with each of its characters written in another way: it is
decoded once, and the reference that comes out stays as it is. -/
theorem decodeString_spelled_reference :
    let spellings := ["&amp;".toList, "&#x00023;".toList, "&#0000054;".toList, [';']]
    List.Forall₂ Spells "&#6;".toList spellings ∧
      decodeString (String.ofList spellings.flatten) = "&#6;" := by
  intro spellings
  have hampersand : Spells '&' "&amp;".toList :=
    .named (show ('&', "amp") ∈ namedChars by decide)
  have hsign : Spells '#' "&#x00023;".toList :=
    .hexadecimal (.inl rfl) (show IsNumeral 16 '#'.toNat "00023".toList from ⟨3, by decide⟩)
      (by decide)
  have hdigit : Spells '6' "&#0000054;".toList :=
    .decimal (show IsNumeral 10 '6'.toNat "0000054".toList from ⟨5, by decide⟩) (by decide)
  have hspelled : List.Forall₂ Spells "&#6;".toList spellings :=
    .cons hampersand (.cons hsign (.cons hdigit (.cons (.itself (by decide)) .nil)))
  exact ⟨hspelled, (decodeString_spelled hspelled).1⟩

end Textile.Text
