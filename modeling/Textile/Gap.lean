import Textile.Tag

/-!
# Gaps

The white space that sets an element off from what stands before and after it.
-/

namespace Textile

/-- The white space around an element. -/
inductive Gap
  /-- An empty line: around blocks. -/
  | blankLine
  /-- The end of a line: around rows. -/
  | lineBreak
  /-- A space: around everything else. -/
  | space
  deriving Repr, DecidableEq

namespace Gap

/-- The characters of a full gap. -/
def chars : Gap → List Char
  | blankLine => ['\n', '\n']
  | lineBreak => ['\n']
  | space => [' ']

/-- The name of a gap in messages. -/
def label : Gap → String
  | blankLine => "BlankLine"
  | lineBreak => "LineBreak"
  | space => "Space"

/-- The gap around an element, where `inLine` says that some element around it keeps it in its
line. -/
def around (tag : Tag) (inLine : Bool) : Gap :=
  match tag.category with
  | .block => if inLine then space else blankLine
  | .row => lineBreak
  | .cell | .inline | .unclassified => space

end Gap

end Textile
