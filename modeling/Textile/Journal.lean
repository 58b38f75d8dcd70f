import Textile.Html.Nesting
import Textile.Html.Source
import Textile.Tag

/-!
# The journal

What there is to tell about a conversion besides its result: which elements start and end in the
output, which are left out, and how many the document leaves open.
-/

namespace Textile

open Textile.Html

/-- An entry of the journal. -/
inductive Note
  | started (name : String) (tag : Tag)
  | ended (name : String) (tag : Tag)
  | skipping (name : String)
  | leftOpen (count : Nat)
  deriving Repr, DecidableEq

/-- How much an entry matters. -/
inductive Level
  | debug
  | trace
  deriving Repr, DecidableEq

/-- The name of a level. -/
def Level.label : Level → String
  | debug => "DEBUG"
  | trace => "TRACE"

namespace Note

/-- The level of an entry. -/
def level : Note → Level
  | started _ _ | ended _ _ => .trace
  | skipping _ | leftOpen _ => .debug

/-- The text of an entry. -/
def message : Note → String
  | started name tag => "start " ++ name ++ " (" ++ tag.label ++ ")"
  | ended name tag => "end " ++ name ++ " (" ++ tag.label ++ ")"
  | skipping name => "skipping <" ++ name ++ "> and its content"
  | leftOpen count => "closing " ++ toString count ++ " element(s) left open at end of input"

/-- What there is to tell about an event. -/
def ofEvent? : Event → Option Note
  | .start name _ => some (started name (.ofName name))
  | .stop name => some (ended name (.ofName name))
  | .text _ | .verbatim _ => none

/-- What there is to tell about a report before its events. -/
def ofReport? (options : Options) : Report → Option Note
  | .start name _ => if options.ignores name then some (skipping name) else none
  | .text _ _ | .stop _ => none

/-- What there is to tell about the end of a document before its events. -/
def ofEnd? (nesting : Nesting) : Option Note :=
  if nesting.opened.isEmpty then none else some (leftOpen nesting.opened.length)

/-- The entries about the rest of a document. -/
def ofReports (options : Options) (nesting : Nesting) : List Report → List Note
  | [] => (ofEnd? nesting).toList ++ nesting.finish.2.filterMap ofEvent?
  | report :: reports =>
    let next := nesting.step options report
    (ofReport? options report).toList ++ next.2.filterMap ofEvent?
      ++ ofReports options next.1 reports

end Note

/-- The journal of the conversion of an HTML document. -/
def journal (options : Options) (html : String) : List Note :=
  Note.ofReports options .initial (Report.ofSource (options.source html))

end Textile
