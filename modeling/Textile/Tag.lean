import Textile.Unicode.Lowercase

/-!
# Elements of the source and their Textile signs

`Tag` lists the elements that have a meaning in Textile; every other element is `unknown` and leaves
no sign of its own. For each tag this module says which signs open and close it, how it is laid out
(`Category`), and which part it plays for lists.
-/

namespace Textile

open Textile.Unicode

/-- The elements that Textile can express. -/
inductive Tag
  | b | strong | i | em | cite | code | span | del | ins | sup | sub | a | img
  | h1 | h2 | h3 | h4 | h5 | h6 | p | br | pre | blockquote | div
  | ol | ul | li | dl | dt | dd | table | tr | th | td
  | unknown
  deriving Repr, DecidableEq

/-- How an element is laid out, and where its modifiers go. -/
inductive Category
  /-- A paragraph of its own, set off by blank lines; its modifiers stand before the dot of its
  sign. -/
  | block
  /-- A line of its own; its modifiers stand after its sign. -/
  | row
  /-- A cell of a table row. -/
  | cell
  /-- A phrase within a line; its modifiers stand after its sign. -/
  | inline
  /-- Anything else; its modifiers stand after its sign. -/
  | unclassified
  deriving Repr, DecidableEq

namespace Tag

/-- The tag of an element name in small letters. -/
def ofLowercaseName : String → Tag
  | "b" => b
  | "strong" => strong
  | "i" => i
  | "em" => em
  | "cite" => cite
  | "code" => code
  | "span" => span
  | "del" => del
  | "ins" => ins
  | "sup" => sup
  | "sub" => sub
  | "a" => a
  | "img" => img
  | "h1" => h1
  | "h2" => h2
  | "h3" => h3
  | "h4" => h4
  | "h5" => h5
  | "h6" => h6
  | "p" => p
  | "br" => br
  | "pre" => pre
  | "blockquote" => blockquote
  | "div" => div
  | "ol" => ol
  | "ul" => ul
  | "li" => li
  | "dl" => dl
  | "dt" => dt
  | "dd" => dd
  | "table" => table
  | "tr" => tr
  | "th" => th
  | "td" => td
  | _ => unknown

/-- The tag of an element name, whatever the case of its ASCII letters. -/
def ofName (name : String) : Tag :=
  ofLowercaseName (lowercaseAscii name)

/-- The name of a tag in messages. -/
def label : Tag → String
  | b => "B"
  | strong => "Strong"
  | i => "I"
  | em => "Em"
  | cite => "Cite"
  | code => "Code"
  | span => "Span"
  | del => "Del"
  | ins => "Ins"
  | sup => "Sup"
  | sub => "Sub"
  | a => "A"
  | img => "Img"
  | h1 => "H1"
  | h2 => "H2"
  | h3 => "H3"
  | h4 => "H4"
  | h5 => "H5"
  | h6 => "H6"
  | p => "P"
  | br => "Br"
  | pre => "Pre"
  | blockquote => "Blockquote"
  | div => "Div"
  | ol => "Ol"
  | ul => "Ul"
  | li => "Li"
  | dl => "Dl"
  | dt => "Dt"
  | dd => "Dd"
  | table => "Table"
  | tr => "Tr"
  | th => "Th"
  | td => "Td"
  | unknown => "Unknown"

/-- The layout of a tag. -/
def category : Tag → Category
  | h1 | h2 | h3 | h4 | h5 | h6 | p | pre | blockquote | div | code | ol | ul | dl | table => .block
  | tr | li => .row
  | th | td => .cell
  | b | i | strong | em | del | ins | sup | sub | cite | span | a | img => .inline
  | dt | dd | br | unknown => .unclassified

/-- The sign that opens an element, before any modifiers. -/
def openingSign : Tag → String
  | b => "**"
  | strong => "*"
  | i => "__"
  | em => "_"
  | cite => "??"
  | code => "@"
  | span => "%"
  | img => "!"
  | del => "[-"
  | ins => "[+"
  | sup => "[^"
  | sub => "[~"
  | a => "\""
  | h1 => "h1. "
  | h2 => "h2. "
  | h3 => "h3. "
  | h4 => "h4. "
  | h5 => "h5. "
  | h6 => "h6. "
  | p => "p. "
  | pre => "pre. "
  | blockquote => "bq. "
  | br => "\n"
  | dt => "\n- "
  | dd => " := "
  | table => "table. "
  | th => "|_."
  | td => "|"
  | div | ol | ul | li | dl | tr | unknown => ""

/-- The sign that closes an element. -/
def closingSign : Tag → String
  | b => "**"
  | strong => "*"
  | i => "__"
  | em => "_"
  | cite => "??"
  | code => "@"
  | span => "%"
  | img => "!"
  | del => "-]"
  | ins => "+]"
  | sup => "^]"
  | sub => "~]"
  | a => "\":"
  | dl => "\n"
  | tr => "|"
  | th | td => " "
  | h1 | h2 | h3 | h4 | h5 | h6 | p | br | pre | blockquote | div | ol | ul | li | dt | dd | table
  | unknown => ""

/-- The marker of the items of a list, for the two lists whose items have one. -/
def itemMarker? : Tag → Option Char
  | ol => some '#'
  | ul => some '*'
  | _ => none

/-- Whether a tag is a list whose items carry a marker. -/
def isList (tag : Tag) : Bool :=
  tag.itemMarker?.isSome

/-- Whether blocks inside an element of this tag run on in one line: any kind of list. -/
def keepsLine (tag : Tag) : Bool :=
  tag.isList || tag == dl

/-- Whether declarations of the `style` attribute become signs: Textile knows alignment and padding
for blocks, rows and cells only. -/
def takesAlignment (tag : Tag) : Bool :=
  match tag.category with
  | .block | .row | .cell => true
  | .inline | .unclassified => false

end Tag

/-- The name of a category in messages. -/
def Category.label : Category → String
  | block => "Block"
  | row => "Row"
  | cell => "Cell"
  | inline => "Inline"
  | unclassified => "Unclassified"

end Textile
