import Textile.Element
import Textile.Event
import Textile.Html.Nesting
import Textile.Html.Source
import Textile.Output
import Textile.Text.Run

/-!
# Writing Textile

A `Writer` takes the events of a document and writes Textile as they come. It keeps the elements
that are open and the output so far.

Ends of elements have to match their starts. `Writer.breach?` says in which way an event fails to,
and `Writer.step` is the writer after the event in any case: an end that matches no start closes the
innermost element without writing anything.

Two functions are the whole way to Textile: `convertEvents` from events, and `convert` from HTML,
where the source is tidied, read, and written as Textile while it is read.
-/

namespace Textile

open Textile.Text

/-- A way for an end of an element not to match a start. -/
inductive Breach
  /-- No element is open. -/
  | nothingOpen
  /-- The element that is open innermost has another tag than the one that ends. -/
  | otherOpen (name : String) (innermost ended : Tag)
  deriving Repr, DecidableEq

/-- The message about a breach. -/
def Breach.message : Breach → String
  | nothingOpen => "end_element without a matching start_element"
  | otherOpen name innermost ended =>
    "assertion `left == right` failed: end_element(" ++ name
      ++ ") does not close the innermost element\n  left: " ++ innermost.label
      ++ "\n right: " ++ ended.label

/-- The elements that are open, innermost first, and the output so far. -/
structure Writer where
  elements : List Element
  output : Output
  deriving DecidableEq

namespace Writer

/-- The writer before any event. -/
def empty : Writer := ⟨[], .empty⟩

instance : Inhabited Writer := ⟨empty⟩

/-- The number of open elements. -/
def depth (writer : Writer) : Nat :=
  writer.elements.length

/-- The gap around an element that starts now or has ended just now. Blocks inside lists stay in
their line. -/
def gap (writer : Writer) (tag : Tag) : Gap :=
  .around tag (writer.elements.any (·.tag.keepsLine))

/-- The writer without a bare list item marker at the end of its output. -/
def dropBareMarker (writer : Writer) : Writer :=
  { writer with output := writer.output.dropBareMarker }

/-- Starts an element. -/
def start (writer : Writer) (name : String) (attributes : Attributes) : Writer :=
  let element : Element := ⟨.ofName name, attributes⟩
  let before := if element.tag = .li then writer.dropBareMarker else writer
  { elements := element :: writer.elements
    output :=
      (before.output.separate (writer.gap element.tag)).append (element.opening writer.elements) }

/-- Ends the innermost element. -/
def stop (writer : Writer) (name : String) : Writer :=
  match writer.elements with
  | [] => writer
  | element :: enclosing =>
    let outer : Writer := ⟨enclosing, writer.output⟩
    if element.tag = .ofName name then
      { outer with
        output := (writer.output.append element.closing).separate (outer.gap element.tag) }
    else
      outer

/-- Writes a run of text. -/
def text (writer : Writer) (run : String) : Writer :=
  let written := writtenRun run.toList writer.output.endsInNewline
  { writer with output := writer.output.append written }

/-- Writes a text as it is. -/
def verbatim (writer : Writer) (text : String) : Writer :=
  { writer with output := writer.output.append text.toList }

/-- The writer after an event. -/
def step (writer : Writer) : Event → Writer
  | .start name attributes => writer.start name attributes
  | .stop name => writer.stop name
  | .text run => writer.text run
  | .verbatim text => writer.verbatim text

/-- In which way an event does not match the open elements. -/
def breach? (writer : Writer) : Event → Option Breach
  | .stop name =>
    match writer.elements with
    | [] => some .nothingOpen
    | element :: _ =>
      if element.tag = .ofName name then none
      else some (.otherOpen name element.tag (.ofName name))
  | .start _ _ | .text _ | .verbatim _ => none

instance : Sink Writer where
  receive := step

/-- The writer after events, up to the first one that does not match the open elements. -/
def run (writer : Writer) : List Event → Except Breach Writer
  | [] => .ok writer
  | event :: events =>
    match writer.breach? event with
    | some breach => .error breach
    | none => (writer.step event).run events

/-- The result of a conversion: what is written, trimmed if the options say so. -/
def result (writer : Writer) (options : Options) : String :=
  if options.trimResult then trimString writer.output.toString else writer.output.toString

end Writer

/-- The Textile of a document that is given by its events. -/
def convertEvents (options : Options) (events : List Event) : Except Breach String :=
  (Writer.empty.run events).map (·.result options)

/-- The Textile of an HTML document. -/
def convert (options : Options) (html : String) : String :=
  (Html.deliver options (options.source html) Writer.empty).result options

end Textile
