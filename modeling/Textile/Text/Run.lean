import Textile.Text.Reference
import Textile.Text.Trim

/-!
# Runs of text

A run of source text becomes a stretch of one Textile line. Some numeric references have a plain
stand-in in Textile and are replaced by it first, so that they never become typographic characters;
all others are decoded. A newline inside a run is no line break and becomes a space. White space
is dropped where it would only pad a line: at the end of a run that ended in a newline, and at the
start of a run that begins a line.
-/

namespace Textile.Text

/-- A numeric reference, given by its decimal digits, and the plain text that stands in for it. -/
structure StandIn where
  digits : String
  text : String

/-- The references that are not decoded, in the order in which they are replaced. -/
def standIns : List StandIn := [
  ⟨"8220", "'"⟩, ⟨"8221", "'"⟩, ⟨"8212", "--"⟩, ⟨"8211", "-"⟩, ⟨"8230", "..."⟩, ⟨"215", " x "⟩,
  ⟨"8482", "(TM)"⟩, ⟨"174", "(R)"⟩, ⟨"169", "(C)"⟩, ⟨"8217", "'"⟩]

/-- The reference as it is written after its ampersand. -/
def StandIn.body (standIn : StandIn) : List Char :=
  '#' :: standIn.digits.toList ++ [';']

/-- Replaces, from left to right, every occurrence of `first :: others`. -/
def replaceAll (first : Char) (others new : List Char) : List Char → List Char
  | [] => []
  | c :: cs =>
    if c = first ∧ others.isPrefixOf cs then
      new ++ replaceAll first others new (cs.drop others.length)
    else
      c :: replaceAll first others new cs
  termination_by cs => cs.length
  decreasing_by
    · rw [List.length_drop, List.length_cons]; omega
    · exact Nat.lt_succ_self _

/-- Puts the text of a stand-in in place of its reference. -/
def StandIn.apply (cs : List Char) (standIn : StandIn) : List Char :=
  replaceAll '&' standIn.body standIn.text.toList cs

/-- A run with its stand-ins in place and all other references decoded. -/
def plain (run : List Char) : List Char :=
  decode (standIns.foldl StandIn.apply run)

/-- A run as it is written into the output, where `atLineStart` says that it begins a line. -/
def writtenRun (run : List Char) (atLineStart : Bool) : List Char :=
  let text := plain run
  let line := text.map fun c => if c = '\n' then ' ' else c
  let line := if text.getLast? = some '\n' then trimEnd line else line
  if atLineStart then trimStart line else line

end Textile.Text
