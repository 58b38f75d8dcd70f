import Textile.Html.Markup

/-!
# Tokens

An HTML source as a sequence of tags and texts. Text is given as it stands in the source, with its
references, and each text token is a longest stretch of text that no markup interrupts; markup that
is no tag leaves no token, but it does divide the text around it.

How a stretch of source is read depends on the tags before it: some elements have raw text as their
content, and some markup is known in foreign content only. So the namespaces are followed on the
way, and every start tag is given the namespace of its element.
-/

namespace Textile.Html

/-- A tag or a text. -/
inductive Token
  | startTag (tag : StartTag) (space : Namespace)
  | endTag (name : String)
  | text (run : String)
  deriving Repr, DecidableEq

namespace Token

/-- The text token of a stretch of text, which is given newest character first. An empty stretch
has none. -/
def ofText (newestFirst : List Char) : List Token :=
  if newestFirst.isEmpty then [] else [text (String.ofList newestFirst.reverse)]

/-- How the content after a start tag is read, if it is raw text. That is found out in HTML only,
and not after a tag that ends right after an equals sign. -/
def rawText? (spaces : Namespaces) (tag : StartTag) : Option RawText :=
  if spaces.current = .html ∧ tag.attributes.all (·.2.isSome) then RawText.ofName? tag.name
  else none

/-- The tokens of a source that follows a stretch of text, given newest character first, within
namespaces. -/
def scan (spaces : Namespaces) (text : List Char) : List Char → List Token
  | [] => ofText text
  | c :: cs =>
    if c = '<' then
      match _h : Markup.read? (spaces.current ≠ .html) cs with
      | none => scan spaces (c :: text) cs
      | some (.skipped, rest) => ofText text ++ scan spaces [] rest
      | some (.characterData data, rest) =>
        ofText text ++ ofText data.reverse ++ scan spaces [] rest
      | some (.endTag name, rest) =>
        ofText text ++ endTag name :: scan (spaces.afterEnd name) [] rest
      | some (.startTag tag, rest) =>
        let inside := spaces.afterStart tag
        ofText text ++ startTag tag inside.current ::
          match rawText? spaces tag with
          | none => scan inside [] rest
          | some kind =>
            let content := kind.split tag.name rest
            scan inside content.1.reverse content.2
    else
      scan spaces (c :: text) cs
  termination_by cs => cs.length
  decreasing_by
    · simp
    · exact Nat.lt_succ_of_le (Markup.length_of_read? _h)
    · exact Nat.lt_succ_of_le (Markup.length_of_read? _h)
    · exact Nat.lt_succ_of_le (Markup.length_of_read? _h)
    · exact Nat.lt_succ_of_le (Markup.length_of_read? _h)
    · exact Nat.lt_succ_of_le
        (Nat.le_trans (kind.length_split_le tag.name rest) (Markup.length_of_read? _h))
    · simp

/-- The tokens of a source. -/
def ofSource (source : String) : List Token :=
  scan .initial [] source.toList

end Token

end Textile.Html
