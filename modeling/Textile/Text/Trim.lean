import Textile.Unicode.Classes

/-!
# Trimming, words and keywords

White space at the two ends of a text, the words that white space separates, and the keywords that a
text may start with: words that are known in advance and are recognised whatever the case of their
ASCII letters.
-/

namespace Textile.Text

open Textile.Unicode

/-- The text without the white space it starts with. -/
def trimStart (cs : List Char) : List Char :=
  cs.dropWhile isWhiteSpace

/-- The text without the white space it ends with. -/
def trimEnd (cs : List Char) : List Char :=
  (trimStart cs.reverse).reverse

/-- The text without white space at either end. -/
def trim (cs : List Char) : List Char :=
  trimEnd (trimStart cs)

/-- Whether the text is white space throughout, as the empty text is. -/
def isBlank (cs : List Char) : Bool :=
  cs.all isWhiteSpace

/-- The pieces between the separators of a text, empty ones included. -/
def pieces (separates : Char → Bool) : List Char → List (List Char)
  | [] => [[]]
  | c :: cs =>
    if separates c then [] :: pieces separates cs
    else match pieces separates cs with
      | piece :: others => (c :: piece) :: others
      | [] => [[c]]

/-- The words: the longest stretches without white space. -/
def words (cs : List Char) : List (List Char) :=
  (pieces isWhiteSpace cs).filter (!·.isEmpty)

theorem isBlank_iff_trimStart_eq_nil {cs : List Char} : isBlank cs = true ↔ trimStart cs = [] := by
  induction cs with
  | nil => simp [isBlank, trimStart]
  | cons c cs ih => by_cases h : isWhiteSpace c <;> simp_all [isBlank, trimStart]

/-! ## Whole strings -/

/-- A string without white space at either end. -/
def trimString (text : String) : String :=
  String.ofList (trim text.toList)

/-! ## Keywords -/

/-- Drops a keyword, which is given in small letters, from the start of a text. -/
def dropKeyword? : List Char → List Char → Option (List Char)
  | [], cs => some cs
  | letter :: letters, c :: cs => if c.toLower = letter then dropKeyword? letters cs else none
  | _ :: _, [] => none

theorem length_of_dropKeyword? {keyword cs rest : List Char}
    (h : dropKeyword? keyword cs = some rest) : rest.length ≤ cs.length := by
  fun_induction dropKeyword? keyword cs with
  | case1 => cases h; exact Nat.le_refl _
  | case2 _ _ _ ih => have := ih h; simp; omega
  | case3 => cases h
  | case4 => cases h

end Textile.Text
