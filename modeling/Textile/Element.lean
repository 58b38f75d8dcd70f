import Textile.Modifiers

/-!
# Elements

An open element, and what is written where it starts and where it ends. What is written at the start
of a list item hangs on the elements around it, which are given innermost first.
-/

namespace Textile

open Textile.Text

/-- An element that has started: its tag and the attributes it was given. -/
structure Element where
  tag : Tag
  attributes : Attributes
  deriving DecidableEq

/-- The sign of a list item: the marker of the list it stands in, once for every list around it.
Where the item does not stand in a list directly, the nearest list around it gives the marker, and
an item outside all lists is marked as one of an unordered list. -/
def itemSign (enclosing : List Element) : List Char :=
  let own := enclosing.head?.bind (·.tag.itemMarker?)
  let nearest := enclosing.findSome? (·.tag.itemMarker?)
  List.replicate (max 1 (enclosing.countP (·.tag.isList))) ((own.or nearest).getD '*')

/-- Writes modifiers in front of the first dot of a sign, or nowhere if the sign has none. -/
def modifyDot (modifiers : List Char) : List Char → List Char
  | [] => []
  | c :: cs => if c = '.' then modifiers ++ c :: cs else c :: modifyDot modifiers cs

/-- A text in parentheses, or nothing for a blank text. -/
def parenthetical (text : List Char) : List Char :=
  if isBlank text then [] else '(' :: text ++ [')']

namespace Element

/-- The value of an attribute, which is empty if it is not given. -/
def value (element : Element) (name : String) : List Char :=
  (element.attributes.getD name).toList

/-- What the start of an element writes: its sign and its modifiers. -/
def opening (element : Element) (enclosing : List Element) : List Char :=
  let sign := if element.tag = .li then itemSign enclosing else element.tag.openingSign.toList
  let modifiers := Textile.modifiers element.attributes element.tag
  match element.tag.category with
  | .block => modifyDot modifiers sign
  | .row => sign ++ modifiers ++ [' ']
  | .cell =>
    if element.tag = .td ∧ modifiers ≠ [] then sign ++ modifiers ++ ['.', ' ']
    else modifyDot modifiers sign
  | .inline | .unclassified => sign ++ modifiers

/-- What the end of an element writes: its sign, for images and links with what their attributes
say. -/
def closing (element : Element) : List Char :=
  let sign := element.tag.closingSign.toList
  match element.tag with
  | .img => element.value "src" ++ parenthetical (element.value "alt") ++ sign
  | .a => parenthetical (element.value "title") ++ sign ++ element.value "href"
  | _ => sign

end Element

end Textile
