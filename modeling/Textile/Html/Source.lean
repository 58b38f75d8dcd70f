import Textile.Event
import Textile.Text.Trim

/-!
# Tidying the source

`tidy` takes the layout of an HTML source out before it is read: all line endings become newlines,
lines lose their indentation, and the white space after a tag becomes one space where it contains a
newline.
-/

namespace Textile.Html

open Textile.Unicode Textile.Text

/-- Turns every line ending, be it a carriage return, a newline or both in this order, into a
newline. -/
def unifyLineEndings : List Char → List Char
  | '\r' :: '\n' :: cs => '\n' :: unifyLineEndings cs
  | c :: cs => (if c = '\r' then '\n' else c) :: unifyLineEndings cs
  | [] => []

/-- Drops the spaces that follow a newline, where `atLineStart` says that only spaces, if anything,
stand between the last newline and the text. -/
def dropIndentation (atLineStart : Bool) : List Char → List Char
  | [] => []
  | c :: cs =>
    if atLineStart ∧ c = ' ' then dropIndentation true cs
    else c :: dropIndentation (c == '\n') cs

/-- What follows the last newline of the white space that a text starts with. -/
def afterLastNewline? : List Char → Option (List Char)
  | [] => none
  | c :: cs =>
    if isWhiteSpace c then
      (afterLastNewline? cs).or (if c = '\n' then some cs else none)
    else
      none

theorem length_of_afterLastNewline? {cs rest : List Char} (h : afterLastNewline? cs = some rest) :
    rest.length < cs.length := by
  induction cs with
  | nil => cases h
  | cons c cs ih =>
    rw [afterLastNewline?] at h
    split at h
    · rcases Option.or_eq_some_iff.1 h with h | ⟨-, h⟩
      · exact Nat.lt_succ_of_lt (ih h)
      · split at h
        · cases h; exact Nat.lt_succ_self _
        · cases h
    · cases h

/-- Puts a space in place of the white space after a closing angle bracket, as far as the last
newline in it. -/
def joinAfterTags : List Char → List Char
  | [] => []
  | c :: cs =>
    if c = '>' then
      match _h : afterLastNewline? cs with
      | some rest => '>' :: ' ' :: joinAfterTags rest
      | none => c :: joinAfterTags cs
    else
      c :: joinAfterTags cs
  termination_by cs => cs.length
  decreasing_by
    · have := length_of_afterLastNewline? _h
      simp; omega
    · simp
    · simp

/-- The source without its layout. -/
def tidyChars (source : List Char) : List Char :=
  joinAfterTags (dropIndentation false (unifyLineEndings source))

/-- The source without its layout. -/
def tidy (source : String) : String :=
  String.ofList (tidyChars source.toList)

end Textile.Html

namespace Textile

/-- The source as it is read. -/
def Options.source (options : Options) (html : String) : String :=
  if options.tidySource then Html.tidy html else html

end Textile
