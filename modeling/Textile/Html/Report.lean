import Textile.Attributes
import Textile.Html.Token
import Textile.Text.Reference
import Textile.Unicode.Lowercase

/-!
# Reports

A reader of HTML reports three things as it goes along: an element starts, some text of the current
stretch stands here, and the element that was the `id`-th to start, counted from zero, ends. An
element ends with its end tag, or with an end tag of an element that encloses it, or at once if it
can have no content. An element for which none of this happens is never reported to end, and an end
may be reported of an element that has ended before.

`Report.ofTokens` pairs the tags of a document. Names are compared as far as ASCII letters go, and
reported in small letters.
-/

namespace Textile.Html

open Textile.Unicode Textile.Text

/-! ## Void elements -/

/-- The names of the void elements. -/
def voidNames : List String :=
  ["area", "base", "br", "col", "command", "embed", "hr", "img", "input", "keygen", "link", "meta",
    "param", "source", "track", "wbr"]

/-- Whether an element of this name is void, whatever the case of the name. -/
def isVoid (name : String) : Bool :=
  voidNames.contains (lowercase name)

/-! ## Reports -/

/-- What a reader of HTML reports. -/
inductive Report
  | start (name : String) (attributes : Attributes)
  /-- A part of a stretch of text, and whether it is the last one. -/
  | text (part : String) (last : Bool)
  | stop (id : Nat)
  deriving DecidableEq

/-- A start tag that waits for its end tag. -/
structure Unclosed where
  /-- The name in small letters, as far as they are ASCII letters. -/
  name : String
  /-- The number of the element, unless its end has been reported already. -/
  id? : Option Nat
  deriving Repr, DecidableEq

/-- How far the tags of a document have been paired. -/
structure Pairing where
  /-- The number of elements that have started. -/
  started : Nat
  /-- The start tags that wait for an end tag, the last one first. -/
  unclosed : List Unclosed
  deriving Repr, DecidableEq

/-- The HTML elements that can have no content, so that no end tag is expected. -/
def contentlessNames : List String :=
  ["area", "base", "basefont", "bgsound", "br", "col", "embed", "hr", "img", "input", "keygen",
    "link", "meta", "param", "source", "track", "wbr"]

/-- The elements of Edge Side Includes that can have no content. These names are case-sensitive. -/
def contentlessIncludes : List String := ["esi:comment", "esi:include"]

/-- Whether the element of a start tag can have content: in HTML that hangs on its name, in foreign
content on the tag. -/
def StartTag.hasContent (tag : StartTag) (space : Namespace) : Bool :=
  if space = .html then
    !contentlessNames.contains tag.name && !contentlessIncludes.contains tag.written
  else
    !tag.selfClosing

/-- A text without the byte order mark that it may start with. -/
def dropByteOrderMark (text : String) : String :=
  match text.toList with
  | '\uFEFF' :: cs => String.ofList cs
  | _ => text

/-- The attributes of an element: names in small letters, values with their references decoded. A
byte order mark at the start of a name or a value does not belong to it. -/
def StartTag.elementAttributes (tag : StartTag) : Attributes :=
  .ofList (tag.attributes.map fun (name, value) =>
    (lowercase (dropByteOrderMark name), decodeString (dropByteOrderMark (value.getD ""))))

namespace Pairing

/-- The pairing before the first tag. -/
def initial : Pairing := ⟨0, []⟩

/-- Starts an element. One that can have no content ends at once, and so does one with the name of a
void element, which may have an end tag nevertheless. -/
def start (pairing : Pairing) (tag : StartTag) (space : Namespace) : Pairing × List Report :=
  let id := pairing.started
  let hasContent := tag.hasContent space
  let endsAtOnce := isVoid tag.name || !hasContent
  let waiting : List Unclosed :=
    if hasContent then [⟨tag.name, if endsAtOnce then none else some id⟩] else []
  (⟨id + 1, waiting ++ pairing.unclosed⟩,
    .start (lowercase tag.name) tag.elementAttributes :: if endsAtOnce then [.stop id] else [])

/-- Pairs an end tag with the last start tag of its name that waits for one. What started after it
ends as well, the innermost element first. -/
def stop (pairing : Pairing) (name : String) : Pairing × List Report :=
  match pairing.unclosed.dropWhile (·.name ≠ name) with
  | [] => (pairing, [])
  | partner :: enclosing =>
    let inside := pairing.unclosed.takeWhile (·.name ≠ name)
    (⟨pairing.started, enclosing⟩, (inside ++ [partner]).filterMap fun tag => tag.id?.map .stop)

/-- Takes account of a token. -/
def step (pairing : Pairing) : Token → Pairing × List Report
  | .startTag tag space => pairing.start tag space
  | .endTag name => pairing.stop name
  | .text run => (pairing, [.text run true])

end Pairing

namespace Report

/-- The reports about tokens that follow those of a pairing. -/
def ofTokensAfter (pairing : Pairing) : List Token → List Report
  | [] => []
  | token :: tokens => (pairing.step token).2 ++ ofTokensAfter (pairing.step token).1 tokens

/-- The reports about the tokens of a document. -/
def ofTokens (tokens : List Token) : List Report :=
  ofTokensAfter .initial tokens

/-- The reports about an HTML source. -/
def ofSource (source : String) : List Report :=
  ofTokens (Token.ofSource source)

end Report

end Textile.Html
