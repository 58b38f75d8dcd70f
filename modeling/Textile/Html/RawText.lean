import Textile.Text.Trim

/-!
# Raw text

The content of some elements is text throughout, whatever it looks like. It ends at the end tag of
the element; for scripts only where no comment with a script of its own is open, and for plain text
never. `RawText.split` divides what follows the start tag into this text and the rest.
-/

namespace Textile.Html

open Textile.Text

/-- White space inside a tag. -/
def isTagSpace (c : Char) : Bool :=
  c == ' ' || c == '\n' || c == '\r' || c == '\t' || c == '\x0c'

/-- Whether a character ends the name of a tag. -/
def endsTagName (c : Char) : Bool :=
  isTagSpace c || c == '/' || c == '>'

/-- Whether a text starts with a name that goes no further. -/
def startsWithName (name cs : List Char) : Bool :=
  match dropKeyword? name cs with
  | some (c :: _) => endsTagName c
  | _ => false

/-- Whether a text that follows an opening angle bracket goes on as the end tag of an element. -/
def startsWithEndTag (name : List Char) : List Char → Bool
  | '/' :: cs => startsWithName name cs
  | _ => false

/-- The ways in which the content of an element can be text throughout. -/
inductive RawText
  /-- Text up to the end tag of the element. -/
  | upToEndTag
  /-- A script, in which end tags may be hidden in comments. -/
  | script
  /-- Text up to the end of the document. -/
  | endless
  deriving Repr, DecidableEq

/-- How the content of an HTML element is read, if it is text throughout. -/
def RawText.ofName? : String → Option RawText
  | "textarea" | "title" | "style" | "iframe" | "xmp" | "noembed" | "noframes" | "noscript" =>
    some .upToEndTag
  | "script" => some .script
  | "plaintext" => some .endless
  | _ => none

/-! ## Scripts -/

/-- Where in a script one is, together with the number of hyphens just before, up to two. -/
inductive ScriptState
  /-- Outside of comments. -/
  | code
  /-- Inside a comment. -/
  | comment (hyphens : Nat)
  /-- Inside a script that stands in a comment. -/
  | inner (hyphens : Nat)
  deriving Repr, DecidableEq

namespace ScriptState

/-- The name of the element. -/
def name : List Char := ['s', 'c', 'r', 'i', 'p', 't']

/-- The state after an opening angle bracket, or nothing where it starts the end tag. -/
def afterBracket? (cs : List Char) : ScriptState → Option ScriptState
  | code =>
    if startsWithEndTag name cs then none
    else if ['!', '-', '-'].isPrefixOf cs then some (comment 0)
    else some code
  | comment _ =>
    if startsWithEndTag name cs then none
    else if startsWithName name cs then some (inner 0)
    else some (comment 0)
  | inner _ => if startsWithEndTag name cs then some (comment 0) else some (inner 0)

/-- The state after another character. -/
def after (c : Char) : ScriptState → ScriptState
  | code => code
  | comment hyphens =>
    if c = '-' then comment (min 2 (hyphens + 1))
    else if c = '>' ∧ hyphens = 2 then code
    else comment 0
  | inner hyphens =>
    if c = '-' then inner (min 2 (hyphens + 1))
    else if c = '>' ∧ hyphens = 2 then code
    else inner 0

/-- The state after a character that is followed by `cs`, or nothing where it starts the end tag. -/
def next? (state : ScriptState) (c : Char) (cs : List Char) : Option ScriptState :=
  if c = '<' then state.afterBracket? cs else some (state.after c)

/-- The script up to its end tag, and the end tag with all that follows. -/
def split (state : ScriptState) : List Char → List Char × List Char
  | [] => ([], [])
  | c :: cs =>
    match state.next? c cs with
    | some state =>
      let (text, rest) := state.split cs
      (c :: text, rest)
    | none => ([], c :: cs)

theorem length_split_le (state : ScriptState) (cs : List Char) :
    (state.split cs).2.length ≤ cs.length := by
  induction cs generalizing state with
  | nil => simp [split]
  | cons c cs ih =>
    rw [split]
    split
    · exact Nat.le_succ_of_le (ih _)
    · exact Nat.le_refl _

end ScriptState

/-! ## All kinds -/

/-- The text up to the end tag of an element, and the end tag with all that follows. -/
def splitAtEndTag (name : List Char) : List Char → List Char × List Char
  | [] => ([], [])
  | c :: cs =>
    if c = '<' ∧ startsWithEndTag name cs then ([], c :: cs)
    else
      let (text, rest) := splitAtEndTag name cs
      (c :: text, rest)

theorem length_splitAtEndTag_le (name cs : List Char) :
    (splitAtEndTag name cs).2.length ≤ cs.length := by
  induction cs with
  | nil => simp [splitAtEndTag]
  | cons c cs ih =>
    rw [splitAtEndTag]
    split
    · exact Nat.le_refl _
    · exact Nat.le_succ_of_le ih

/-- The content of the element of this name, and its end tag with all that follows. -/
def RawText.split (kind : RawText) (name : String) (cs : List Char) : List Char × List Char :=
  match kind with
  | upToEndTag => splitAtEndTag name.toList cs
  | script => ScriptState.code.split cs
  | endless => (cs, [])

theorem RawText.length_split_le (kind : RawText) (name : String) (cs : List Char) :
    (kind.split name cs).2.length ≤ cs.length := by
  cases kind with
  | upToEndTag => exact length_splitAtEndTag_le _ _
  | script => exact ScriptState.length_split_le _ _
  | endless => exact Nat.zero_le _

end Textile.Html
