import Textile.Unicode.Lowercase

/-!
# Namespaces

Elements of an HTML document belong to HTML or to one of the two languages that may be embedded in
it, SVG and MathML. `Namespaces` keeps the namespaces that have been entered and not left. The rules
go by the names of the tags alone; names are in small letters.
-/

namespace Textile.Html

open Textile.Unicode

/-- The language that an element belongs to. -/
inductive Namespace
  | html
  | svg
  | mathml
  deriving Repr, DecidableEq

/-- A start tag as it is written. -/
structure StartTag where
  /-- The name. -/
  written : String
  /-- The attributes in the order of the source, with their names in small ASCII letters. The last
  value is missing if the tag ends right after the equals sign before it; an attribute without an
  equals sign has an empty value. -/
  attributes : List (String × Option String)
  /-- Whether the tag ends in a slash of its own. -/
  selfClosing : Bool
  deriving Repr, DecidableEq

/-- The name of a tag in small letters, as far as they are ASCII letters. -/
def StartTag.name (tag : StartTag) : String :=
  lowercaseAscii tag.written

namespace Namespace

/-- The HTML elements whose start tags end the foreign content they stand in. -/
def breakoutNames : List String :=
  ["b", "big", "blockquote", "body", "br", "center", "code", "dd", "div", "dl", "dt", "em", "embed",
    "h1", "h2", "h3", "h4", "h5", "h6", "head", "hr", "i", "img", "li", "listing", "menu", "meta",
    "nobr", "ol", "p", "pre", "ruby", "s", "small", "span", "strong", "strike", "sub", "sup",
    "table", "tt", "u", "ul", "var"]

/-- Whether a start tag in foreign content ends it. -/
def breaksOut (tag : StartTag) : Bool :=
  breakoutNames.contains tag.name ||
    (tag.name == "font" && tag.attributes.any fun (name, _) =>
      ["color", "size", "face"].contains name)

/-- The elements of a foreign namespace whose content may be HTML. -/
def integrationPoints : Namespace → List String
  | html => []
  | svg => ["desc", "title", "foreignobject"]
  | mathml => ["mi", "mo", "mn", "ms", "mtext", "annotation-xml"]

/-- The encodings that make the content of a MathML annotation HTML. -/
def htmlEncodings : List String := ["text/html", "application/xhtml+xml"]

/-- Whether the content of an element of a foreign namespace is HTML. -/
def containsHtml (space : Namespace) (tag : StartTag) : Bool :=
  !tag.selfClosing && space.integrationPoints.contains tag.name &&
    (tag.name != "annotation-xml" || tag.attributes.any fun (name, value) =>
      name == "encoding" && value.any fun encoding =>
        htmlEncodings.contains (lowercaseAscii encoding))

/-- The end tags that leave a foreign namespace. -/
def leavingNames : Namespace → List String
  | html => []
  | svg => ["svg", "p", "br"]
  | mathml => ["math", "p", "br"]

end Namespace

/-- The namespaces that have been entered and not left. -/
structure Namespaces where
  current : Namespace
  outer : List Namespace
  deriving Repr, DecidableEq

namespace Namespaces

/-- The namespaces at the start of a document. -/
def initial : Namespaces := ⟨.html, []⟩

/-- Enters a namespace. -/
def enter (spaces : Namespaces) (space : Namespace) : Namespaces :=
  ⟨space, spaces.current :: spaces.outer⟩

/-- Leaves the current namespace. The first one is never left. -/
def leave (spaces : Namespaces) : Namespaces :=
  match spaces.outer with
  | [] => spaces
  | space :: outer => ⟨space, outer⟩

/-- The namespaces after a start tag. -/
def afterStart (spaces : Namespaces) (tag : StartTag) : Namespaces :=
  if tag.name = "svg" then spaces.enter .svg
  else if tag.name = "math" then spaces.enter .mathml
  else if spaces.current = .html then spaces
  else if Namespace.breaksOut tag then spaces.leave
  else if spaces.current.containsHtml tag then spaces.enter .html
  else spaces

/-- The namespaces after an end tag. -/
def afterEnd (spaces : Namespaces) (name : String) : Namespaces :=
  let leaves :=
    if spaces.current = .html then
      spaces.outer.head?.any fun space => space.integrationPoints.contains name
    else
      spaces.current.leavingNames.contains name
  if leaves then spaces.leave else spaces

end Namespaces

end Textile.Html
