import Textile.Attributes
import Textile.Unicode.Lowercase

/-!
# Events and options

A document as a sequence of events: elements start and end, and text stands between them. What
takes events is a `Sink`. `Options` say how a document becomes events, and what becomes of those.
-/

namespace Textile

open Textile.Unicode

/-! ## Events -/

/-- One step through a document. -/
inductive Event
  /-- An element starts. -/
  | start (name : String) (attributes : Attributes)
  /-- The innermost element ends. -/
  | stop (name : String)
  /-- Text as it stands in the source, with its references. -/
  | text (run : String)
  /-- Text that is passed on as it is. -/
  | verbatim (text : String)
  deriving DecidableEq

/-- What takes the events of a document one by one. -/
class Sink (σ : Type) where
  /-- The state after one more event. -/
  receive : σ → Event → σ

/-- Passes events to a sink in order. -/
def Sink.receiveAll {σ : Type} [Sink σ] (sink : σ) (events : List Event) : σ :=
  events.foldl Sink.receive sink

/-- A record of the events of a document. -/
structure Recording where
  events : Array Event

namespace Recording

/-- The record of no events. -/
def empty : Recording := ⟨#[]⟩

instance : Sink Recording where
  receive recording event := ⟨recording.events.push event⟩

end Recording

/-! ## Options -/

/-- How a document is converted. -/
structure Options where
  /-- Whether the indentation of the source is taken out before it is read. -/
  tidySource : Bool := true
  /-- Whether the result loses the white space at its ends. -/
  trimResult : Bool := true
  /-- The names of the elements that are left out with all they contain. -/
  ignored : List String := []
  deriving Repr, DecidableEq

namespace Options

instance : Inhabited Options := ⟨{}⟩

/-- Whether elements of this name are left out, whatever the case of the ASCII letters of the name
and of the names listed. -/
def ignores (options : Options) (name : String) : Bool :=
  options.ignored.any (equalIgnoringAsciiCase · name)

/-- The options that leave out one more element, listed by the small form of its name. -/
def ignoring (options : Options) (name : String) : Options :=
  { options with ignored := options.ignored ++ [lowercase name] }

end Options

end Textile
