import Textile.Gap

/-!
# The output

The Textile written so far. It grows at its end, apart from one edit: `dropBareMarker` takes back a
last line that holds the marker of a list item and nothing else.

The characters are kept newest first, since only the end of the output is ever looked at;
`Output.toList` is the output in reading order.
-/

namespace Textile

/-- The Textile written so far. -/
structure Output where
  newestFirst : List Char
  deriving Repr, DecidableEq

namespace Output

/-- The output before anything is written. -/
def empty : Output := ⟨[]⟩

instance : Inhabited Output := ⟨empty⟩

/-- The characters in reading order. -/
def toList (output : Output) : List Char :=
  output.newestFirst.reverse

/-- The output as a string. -/
def toString (output : Output) : String :=
  String.ofList output.toList

/-- Writes one character. -/
def push (output : Output) (c : Char) : Output :=
  ⟨c :: output.newestFirst⟩

/-- Writes a text. -/
def append (output : Output) (text : List Char) : Output :=
  ⟨text.reverseAux output.newestFirst⟩

/-- Whether the next character starts a new line after a finished one. -/
def endsInNewline (output : Output) : Bool :=
  output.newestFirst.head? == some '\n'

@[simp] theorem toList_push (output : Output) (c : Char) :
    (output.push c).toList = output.toList ++ [c] := by
  simp [toList, push]

@[simp] theorem toList_append (output : Output) (text : List Char) :
    (output.append text).toList = output.toList ++ text := by
  simp [toList, append, List.reverseAux_eq]

/-- Writes white space as far as it is missing. Each of its characters is compared with the one that
stands in the output as far from the end as it stands in the white space itself, and is left out
where that one equals it or is a newline. -/
def pushMissing (output : Output) : List Char → Output
  | [] => output
  | c :: cs =>
    match output.newestFirst[cs.length]? with
    | some present =>
      pushMissing (if present = c ∨ present = '\n' then output else output.push c) cs
    | none => pushMissing (output.push c) cs

/-- Writes a gap as far as it is missing. -/
def separate (output : Output) (gap : Gap) : Output :=
  output.pushMissing gap.chars

/-- Whether `c` is the marker of list items of some kind. -/
def isItemMarker (c : Char) : Bool :=
  c == '*' || c == '#'

/-- Takes back the last line if it holds only item markers and one space: the item has nothing of
its own, and the item nested in it brings a marker for both. -/
def dropBareMarker (output : Output) : Output :=
  match output.newestFirst with
  | ' ' :: line =>
    match line.takeWhile isItemMarker, line.dropWhile isItemMarker with
    | [], _ => output
    | _ :: _, [] => empty
    | _ :: _, c :: before => if c = '\n' then ⟨c :: before⟩ else output
  | _ => output

end Output

end Textile
