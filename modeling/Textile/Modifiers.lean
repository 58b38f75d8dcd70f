import Textile.Attributes
import Textile.Modifiers.Declaration
import Textile.Tag

/-!
# Modifiers

The modifiers of an element are written into or after its opening sign. They say how the element is
padded and aligned, give the rest of its style in braces, say how many columns and rows a cell
spans, and name the classes and the id of the element in parentheses:

    (>{color: red}\3/2(first second #top)

`Modifiers.ofAttributes` reads them off the attributes of an element, `Modifiers.render` writes
them.
-/

namespace Textile

open Textile.Text

/-- What the attributes of an element say about its looks. -/
structure Modifiers where
  /-- The signs for padding and alignment. -/
  signs : List Char
  /-- The declarations that have no sign. -/
  css : List Char
  /-- The number of columns that a cell spans. -/
  columns : Option Nat
  /-- The number of rows that a cell spans. -/
  rows : Option Nat
  /-- The classes and, after a number sign, the id. -/
  names : List (List Char)
  deriving Repr, DecidableEq

namespace Modifiers

/-- A style without the declarations that have signs, and their signs: those for padding, then those
for the alignment of text, then those for the alignment of cells. Each kind is sought in what the
one before it has left. -/
def align (style : List Char) : List Char × List Char :=
  let (padding, style) := Property.padding.extract style
  let (text, style) := Property.textAlign.extract style
  let (cell, style) := Property.verticalAlign.extract style
  (padding ++ text ++ cell, style)

/-- Reads a count below 2 ^ 32 from decimal digits, which a plus sign may precede. -/
def readCount? (cs : List Char) : Option Nat :=
  let digits := match cs with
    | '+' :: rest => rest
    | _ => cs
  if digits ≠ [] ∧ digits.all Char.isDigit ∧ numberOfDigits 10 digits < UInt32.size then
    some (numberOfDigits 10 digits)
  else
    none

/-- The modifiers of an element with the given attributes. -/
def ofAttributes (attributes : Attributes) (tag : Tag) : Modifiers :=
  let value (name : String) : List Char := (attributes.getD name).toList
  let style := trim (value "style")
  let aligned := if tag.takesAlignment then align style else ([], style)
  { signs := aligned.1
    css := trim aligned.2
    columns := readCount? (trim (value "colspan"))
    rows := readCount? (trim (value "rowspan"))
    names := words (value "class") ++ if isBlank (value "id") then [] else ['#' :: value "id"] }

/-- A count after its sign, or nothing. -/
def renderCount (sign : Char) : Option Nat → List Char
  | some count => sign :: (toString count).toList
  | none => []

/-- The modifiers as they are written. -/
def render (modifiers : Modifiers) : List Char :=
  modifiers.signs
    ++ (if modifiers.css.isEmpty then [] else '{' :: modifiers.css ++ ['}'])
    ++ renderCount '\\' modifiers.columns
    ++ renderCount '/' modifiers.rows
    ++ (if modifiers.names.isEmpty then []
        else '(' :: List.intercalate [' '] modifiers.names ++ [')'])

end Modifiers

/-- The modifiers of an element, as they are written. -/
def modifiers (attributes : Attributes) (tag : Tag) : List Char :=
  (Modifiers.ofAttributes attributes tag).render

end Textile
