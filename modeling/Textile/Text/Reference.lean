import Textile.Text.Reference.Names

/-!
# Character references

A character reference stands for one character: `&#65;` and `&#x41;` give its code point, `&amp;`
its name. It ends in a semicolon and is taken whole: a name is looked up as it stands, without its
beginnings being tried. `decode` replaces every reference to a character and leaves all else as it
is written, references that stand for no character included.
-/

namespace Textile.Text

/-- What stands between the ampersand and the semicolon. -/
inductive Reference
  | decimal (digits : List Char)
  | hexadecimal (digits : List Char)
  | named (name : List Char)
  deriving Repr, DecidableEq

/-- The character with a code point, if there is one: surrogates and numbers beyond U+10FFFF have
none. -/
def scalar? (code : Nat) : Option Char :=
  if h : code.isValidChar then some (Char.ofNatAux code h) else none

/-- Whether `c` is a hexadecimal digit of either case. -/
def isHexDigit (c : Char) : Bool :=
  c.isDigit || ('a' ≤ c && c ≤ 'f') || ('A' ≤ c && c ≤ 'F')

/-- The value of a hexadecimal digit. -/
def hexDigitValue (c : Char) : Nat :=
  if c.isDigit then c.toNat - '0'.toNat
  else if 'a' ≤ c then c.toNat - 'a'.toNat + 10
  else c.toNat - 'A'.toNat + 10

/-- The number that digits of a base up to sixteen write. -/
def numberOfDigits (base : Nat) (digits : List Char) : Nat :=
  digits.foldl (fun number digit => base * number + hexDigitValue digit) 0

namespace Reference

/-- The code point that a reference gives or names. -/
def codePoint? : Reference → Option Nat
  | decimal digits => some (numberOfDigits 10 digits)
  | hexadecimal digits => some (numberOfDigits 16 digits)
  | named name => Names.codePoint? (String.ofList name)

/-- The character that a reference stands for. -/
def character? (reference : Reference) : Option Char :=
  reference.codePoint?.bind scalar?

/-- Reads a body of `least` to `most` characters of one class and the semicolon after it. -/
def readBody? (ofBody : List Char → Reference) (inBody : Char → Bool) (least most : Nat)
    (cs : List Char) : Option (Reference × List Char) :=
  match cs.takeWhile inBody, cs.dropWhile inBody with
  | body, ';' :: rest =>
    if least ≤ body.length ∧ body.length ≤ most then some (ofBody body, rest) else none
  | _, _ => none

/-- Reads a reference from the text after an ampersand: one to seven decimal digits, one to six
hexadecimal ones, or a name of two to thirty-two letters and digits that starts with a letter. -/
def read? : List Char → Option (Reference × List Char)
  | '#' :: c :: cs =>
    if c = 'x' ∨ c = 'X' then readBody? hexadecimal isHexDigit 1 6 cs
    else readBody? decimal Char.isDigit 1 7 (c :: cs)
  | c :: cs => if c.isAlpha then readBody? named Char.isAlphanum 2 32 (c :: cs) else none
  | [] => none

/-- Reads a reference from the text after an ampersand, as the character it stands for. -/
def readCharacter? (cs : List Char) : Option (Char × List Char) :=
  (read? cs).bind fun (reference, rest) => reference.character?.map (·, rest)

theorem length_of_readBody? {ofBody : List Char → Reference} {inBody : Char → Bool}
    {least most : Nat} {cs rest : List Char} {reference : Reference}
    (h : readBody? ofBody inBody least most cs = some (reference, rest)) :
    rest.length < cs.length := by
  have hle : (cs.dropWhile inBody).length ≤ cs.length := (List.dropWhile_sublist _).length_le
  unfold readBody? at h
  split at h
  · rename_i rest' heq
    rw [heq] at hle
    split at h
    · cases h; exact hle
    · cases h
  · cases h

theorem length_of_read? {cs rest : List Char} {reference : Reference}
    (h : read? cs = some (reference, rest)) : rest.length < cs.length := by
  unfold read? at h
  split at h
  · split at h
    · have := length_of_readBody? h; simp; omega
    · have := length_of_readBody? h; simp at this ⊢; omega
  · split at h
    · exact length_of_readBody? h
    · cases h
  · cases h

theorem length_of_readCharacter? {cs rest : List Char} {c : Char}
    (h : readCharacter? cs = some (c, rest)) : rest.length < cs.length := by
  simp only [readCharacter?, Option.bind_eq_some_iff, Option.map_eq_some_iff] at h
  obtain ⟨⟨reference, rest'⟩, hread, d, -, heq⟩ := h
  cases heq
  exact length_of_read? hread

end Reference

/-- Replaces every reference that stands for a character by that character. -/
def decode : List Char → List Char
  | [] => []
  | c :: cs =>
    if c = '&' then
      match _h : Reference.readCharacter? cs with
      | some (decoded, rest) => decoded :: decode rest
      | none => c :: decode cs
    else
      c :: decode cs
  termination_by cs => cs.length
  decreasing_by
    · have := Reference.length_of_readCharacter? _h
      simp; omega
    all_goals simp

/-- Replaces every reference of a string that stands for a character by that character. -/
def decodeString (text : String) : String :=
  String.ofList (decode text.toList)

end Textile.Text
