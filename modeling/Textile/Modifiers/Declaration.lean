import Textile.Text.Reference
import Textile.Text.Trim
import Textile.Unicode.Lowercase

/-!
# Declarations that Textile has signs for

Padding and alignment are declared in a `style` attribute as `name: value;` and have signs of their
own in Textile. `Property.extract` takes every declaration of one property out of a style, from left
to right, and collects the signs; a declaration is recognised wherever its name appears. A
declaration whose value has no sign is taken out all the same.
-/

namespace Textile.Modifiers

open Textile.Unicode Textile.Text

/-! ## The parts of a declaration -/

/-- Drops a colon and the white space around it. -/
def dropColon? (cs : List Char) : Option (List Char) :=
  match trimStart cs with
  | ':' :: rest => some (trimStart rest)
  | _ => none

/-- Drops white space and then a semicolon, if there is one. -/
def dropSemicolon (cs : List Char) : List Char :=
  match trimStart cs with
  | ';' :: rest => rest
  | rest => rest

/-- Reads a count of one or two decimal digits in the unit `em`, as that many copies of a sign. The
digits of other scripts are read, but count nothing. -/
def readEms? (sign : Char) (cs : List Char) : Option (List Char × List Char) :=
  let digits := cs.takeWhile isDecimalDigit
  if digits.length = 1 ∨ digits.length = 2 then
    (dropKeyword? ['e', 'm'] (cs.dropWhile isDecimalDigit)).map fun rest =>
      (if digits.all Char.isDigit then List.replicate (numberOfDigits 10 digits) sign else [], rest)
  else
    none

/-- Reads a keyword, as the sign that it has whatever its case, or as no sign. -/
def readKeyword? (signs : List (String × String)) (cs : List Char) :
    Option (List Char × List Char) :=
  match cs.takeWhile isWordCharacter with
  | [] => none
  | keyword =>
    some (((signs.lookup (lowercaseAscii (String.ofList keyword))).getD "").toList,
      cs.dropWhile isWordCharacter)

/-- Reads a declaration of one name, with a semicolon after it if there is one, as the sign that its
value is read as. -/
def readDeclaration? (name : List Char) (readValue? : List Char → Option (List Char × List Char))
    (cs : List Char) : Option (List Char × List Char) :=
  match (dropKeyword? name cs).bind dropColon? with
  | some value => (readValue? value).map fun (sign, rest) => (sign, dropSemicolon rest)
  | none => none

/-! ## Properties -/

/-- The properties that Textile has signs for. -/
inductive Property
  /-- The width of the left or the right padding, a parenthesis for each em. -/
  | padding
  /-- The alignment of a text in its lines. -/
  | textAlign
  /-- The alignment of a cell in its row. -/
  | verticalAlign
  deriving Repr, DecidableEq

namespace Property

/-- The signs of the keywords that align a text. -/
def textAlignSigns : List (String × String) :=
  [("left", "<"), ("right", ">"), ("center", "="), ("justify", "<>")]

/-- The signs of the keywords that align a cell. -/
def verticalAlignSigns : List (String × String) :=
  [("top", "^"), ("bottom", "~")]

/-- Reads a declaration of the property from the start of a text, as its sign and what follows. -/
def read? : Property → List Char → Option (List Char × List Char)
  | padding, cs =>
    (readDeclaration? "padding-left".toList (readEms? '(') cs).or
      (readDeclaration? "padding-right".toList (readEms? ')') cs)
  | textAlign, cs => readDeclaration? "text-align".toList (readKeyword? textAlignSigns) cs
  | verticalAlign, cs =>
    readDeclaration? "vertical-align".toList (readKeyword? verticalAlignSigns) cs

end Property

/-! ## Reading makes a text shorter -/

theorem length_trimStart_le (cs : List Char) : (trimStart cs).length ≤ cs.length :=
  (List.dropWhile_sublist _).length_le

theorem length_of_dropColon? {cs rest : List Char} (h : dropColon? cs = some rest) :
    rest.length < cs.length := by
  have hle := length_trimStart_le cs
  unfold dropColon? at h
  split at h
  · rename_i after heq
    cases h
    rw [heq] at hle
    exact Nat.lt_of_le_of_lt (length_trimStart_le after) hle
  · cases h

theorem length_dropSemicolon_le (cs : List Char) : (dropSemicolon cs).length ≤ cs.length := by
  have hle := length_trimStart_le cs
  unfold dropSemicolon
  split
  · rename_i heq
    rw [heq, List.length_cons] at hle
    omega
  · exact hle

theorem length_of_readEms? {sign : Char} {cs found rest : List Char}
    (h : readEms? sign cs = some (found, rest)) : rest.length ≤ cs.length := by
  have hle : (cs.dropWhile isDecimalDigit).length ≤ cs.length :=
    (List.dropWhile_sublist _).length_le
  simp only [readEms?] at h
  split at h
  · obtain ⟨after, hdrop, heq⟩ := Option.map_eq_some_iff.1 h
    cases heq
    exact Nat.le_trans (length_of_dropKeyword? hdrop) hle
  · cases h

theorem length_of_readKeyword? {signs : List (String × String)} {cs found rest : List Char}
    (h : readKeyword? signs cs = some (found, rest)) : rest.length ≤ cs.length := by
  unfold readKeyword? at h
  split at h
  · cases h
  · cases h
    exact (List.dropWhile_sublist _).length_le

theorem length_of_readDeclaration? {name : List Char}
    {readValue? : List Char → Option (List Char × List Char)}
    (hvalue : ∀ {cs found rest}, readValue? cs = some (found, rest) → rest.length ≤ cs.length)
    {cs found rest : List Char} (h : readDeclaration? name readValue? cs = some (found, rest)) :
    rest.length < cs.length := by
  unfold readDeclaration? at h
  split at h
  · rename_i value heq
    obtain ⟨after, hname, hcolon⟩ := Option.bind_eq_some_iff.1 heq
    obtain ⟨⟨sign, tail⟩, hread, heq⟩ := Option.map_eq_some_iff.1 h
    cases heq
    have h1 := length_of_dropKeyword? hname
    have h2 := length_of_dropColon? hcolon
    have h3 := hvalue hread
    have h4 := length_dropSemicolon_le tail
    omega
  · cases h

theorem Property.length_of_read? {property : Property} {cs found rest : List Char}
    (h : property.read? cs = some (found, rest)) : rest.length < cs.length := by
  cases property with
  | padding =>
    rcases Option.or_eq_some_iff.1 h with h | ⟨_, h⟩ <;>
      exact length_of_readDeclaration? length_of_readEms? h
  | textAlign => exact length_of_readDeclaration? length_of_readKeyword? h
  | verticalAlign => exact length_of_readDeclaration? length_of_readKeyword? h

/-! ## Taking declarations out of a style -/

/-- The signs of all declarations of a property in a style, and the style without them. The white
space before a declaration goes with it. -/
def Property.extract (property : Property) (style : List Char) : List Char × List Char :=
  match _hrest : trimStart style with
  | [] => ([], style)
  | c :: cs =>
    match _hread : property.read? (c :: cs) with
    | some (sign, rest) =>
      let others := property.extract rest
      (sign ++ others.1, others.2)
    | none =>
      let others := property.extract cs
      (others.1, style.takeWhile isWhiteSpace ++ c :: others.2)
  termination_by style.length
  decreasing_by
    · have h1 := length_trimStart_le style
      have h2 := property.length_of_read? _hread
      rw [_hrest] at h1
      omega
    · have h1 := length_trimStart_le style
      rw [_hrest, List.length_cons] at h1
      omega

end Textile.Modifiers
