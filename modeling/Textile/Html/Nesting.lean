import Textile.Event
import Textile.Html.Report

/-!
# Nesting

Reports about an HTML source need not be well nested: an element may end before the elements in it,
twice, or never. `Nesting` keeps the open elements and turns reports into events that are well
nested. Ends of elements that are not open are passed over, an element that ends takes those in it
along, and what is open at the end of the document is ended then.

Text is held back until its stretch is over, so that it becomes one event however it was divided.
Nothing that stands in an ignored element becomes an event.
-/

namespace Textile.Html

/-- An element that has started and not ended. -/
structure Opened where
  /-- The number of the element among all that have started. -/
  id : Nat
  name : String
  /-- Whether its start has become an event. -/
  forwarded : Bool
  deriving Repr, DecidableEq

/-- The event of the end of an element, if there was one of its start. -/
def Opened.stop? (element : Opened) : Option Event :=
  if element.forwarded then some (.stop element.name) else none

/-- The open elements of a document and the text that is held back. -/
structure Nesting where
  /-- The open elements, innermost first. -/
  opened : List Opened
  /-- The number of the element that starts next. -/
  nextId : Nat
  /-- The text held back. -/
  pending : String
  deriving Repr, DecidableEq

namespace Nesting

/-- The nesting at the start of a document. -/
def initial : Nesting := ⟨[], 0, ""⟩

instance : Inhabited Nesting := ⟨initial⟩

/-- Whether an open element is kept from becoming events, and all that stands in it. -/
def suppressed (nesting : Nesting) : Bool :=
  nesting.opened.any (!·.forwarded)

/-- Lets go of the text held back. -/
def flush (nesting : Nesting) : Nesting × List Event :=
  if nesting.pending.isEmpty then (nesting, [])
  else ({ nesting with pending := "" }, [.text nesting.pending])

/-- Starts an element. -/
def start (nesting : Nesting) (options : Options) (name : String) (attributes : Attributes) :
    Nesting × List Event :=
  let (nesting, events) := nesting.flush
  let forwarded := !options.ignores name && !nesting.suppressed
  ({ nesting with
      opened := ⟨nesting.nextId, name, forwarded⟩ :: nesting.opened
      nextId := nesting.nextId + 1 },
    events ++ if forwarded then [.start name attributes] else [])

/-- Ends an element, if it is open, and the elements in it. -/
def stop (nesting : Nesting) (id : Nat) : Nesting × List Event :=
  let (nesting, events) := nesting.flush
  match nesting.opened.dropWhile (·.id ≠ id) with
  | [] => (nesting, events)
  | element :: enclosing =>
    let inside := nesting.opened.takeWhile (·.id ≠ id)
    ({ nesting with opened := enclosing },
      events ++ (inside ++ [element]).filterMap Opened.stop?)

/-- Takes a part of a stretch of text. -/
def text (nesting : Nesting) (part : String) (last : Bool) : Nesting × List Event :=
  let nesting :=
    if nesting.suppressed then nesting else { nesting with pending := nesting.pending ++ part }
  if last then nesting.flush else (nesting, [])

/-- Takes a report: the nesting after it, and the events that it brings about. -/
def step (options : Options) (nesting : Nesting) : Report → Nesting × List Event
  | .start name attributes => nesting.start options name attributes
  | .text part last => nesting.text part last
  | .stop id => nesting.stop id

/-- Ends a document: lets go of the text held back and ends all open elements. -/
def finish (nesting : Nesting) : Nesting × List Event :=
  let (nesting, events) := nesting.flush
  ({ nesting with opened := [] }, events ++ nesting.opened.filterMap Opened.stop?)

end Nesting

/-! ## Streaming -/

/-- A sink that is given the events of a document while it is read. -/
structure Stream (σ : Type) where
  nesting : Nesting
  sink : σ

namespace Stream

variable {σ : Type} [Sink σ]

/-- Passes the events of a step to the sink. -/
def advance (stream : Stream σ) (next : Nesting × List Event) : Stream σ :=
  ⟨next.1, Sink.receiveAll stream.sink next.2⟩

/-- Takes a report. -/
def step (options : Options) (stream : Stream σ) (report : Report) : Stream σ :=
  stream.advance (stream.nesting.step options report)

/-- Ends the document. -/
def finish (stream : Stream σ) : Stream σ :=
  stream.advance stream.nesting.finish

end Stream

/-- Gives the events of an HTML source to a sink while the source is read, leaving out what the
options ignore. -/
def deliver {σ : Type} [Sink σ] (options : Options) (source : String) (sink : σ) : σ :=
  ((Report.ofSource source).foldl (Stream.step options) ⟨.initial, sink⟩).finish.sink

/-- The events of an HTML source. -/
def events (options : Options) (source : String) : List Event :=
  (deliver options source Recording.empty).events.toList

end Textile.Html
