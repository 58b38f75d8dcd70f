import Textile.Proofs.LookBack
import Textile.Proofs.Matching

/-!
# Unknown elements around a document

An element that Textile cannot express leaves no sign of its own, so it may stand
around a document without changing its Textile. The runs with and without it do
differ: an element more is open, and the output begins with the space in front of
it.

* **Outputs** (`Output.Alike`): the first element of the document brings a gap of
  its own. A space is the one that is there already, and a newline comes after it
  and hides it from all that looks back.
* **Open elements** (`opening_concat`, `gap_concat`): the outermost element is no
  list and keeps nothing in its line, so no sign and no gap hangs on it.
* **Two runs** (`Writer.Wraps.step`): with the two together, each event keeps the
  runs alike.
* **Documents** (`convertEvents_wrapped`): trimming takes the white space at both ends
  away, and with it all that the elements around the document have written.
-/

namespace Textile

open Textile.Text

/-! ## Outputs with a space in front -/

namespace Output

/-- The output begins with a newline. -/
def BeginsInNewline (output : Output) : Prop :=
  ∃ later, output.newestFirst = later ++ ['\n']

namespace BeginsInNewline

variable {output : Output}

theorem mem_newestFirst (h : output.BeginsInNewline) : '\n' ∈ output.newestFirst := by
  obtain ⟨later, heq⟩ := h
  simp [heq]

theorem append (h : output.BeginsInNewline) (text : List Char) :
    (output.append text).BeginsInNewline := by
  obtain ⟨later, heq⟩ := h
  exact ⟨text.reverse ++ later, by rw [newestFirst_append, heq, List.append_assoc]⟩

theorem completed (h : output.BeginsInNewline) : output.completed.BeginsInNewline := by
  obtain ⟨later, heq⟩ := h
  rw [Output.completed, heq, List.dropWhile_append]
  split
  · exact ⟨[], rfl⟩
  · exact ⟨_, rfl⟩

/-- The newline is the end of a line, so it is not part of a bare marker. -/
theorem dropBareMarker (h : output.BeginsInNewline) :
    output.dropBareMarker.BeginsInNewline := by
  rw [dropBareMarker_eq]
  split
  · exact h.completed
  · exact h

theorem separate (h : output.BeginsInNewline) (gap : Gap) :
    (output.separate gap).BeginsInNewline := by
  obtain ⟨white, hwhite, _⟩ := output.separate_eq_append gap
  rw [hwhite]
  exact h.append white

/-- A space in front of the newline is no part of an empty line. -/
theorem separate_under (h : output.BeginsInNewline) (gap : Gap) :
    (output.under [' ']).separate gap = (output.separate gap).under [' '] := by
  have hhead := head?_under h.mem_newestFirst [' ']
  cases gap with
  | space =>
      rw [separate_space, separate_space, hhead]
      split <;> rfl
  | lineBreak =>
      rw [separate_lineBreak, separate_lineBreak, hhead]
      split <;> rfl
  | blankLine =>
      obtain ⟨later, heq⟩ := h
      have htake : (output.under [' ']).newestFirst.take 2 = ['\n', '\n'] ↔
          output.newestFirst.take 2 = ['\n', '\n'] := by
        rw [under, heq]
        rcases later with _ | ⟨c, _ | ⟨d, later⟩⟩
        · decide
        · rfl
        · rfl
      rw [separate_blankLine, separate_blankLine, if_congr htake rfl rfl]
      split <;> rfl

end BeginsInNewline

/-- An output and another one that may have a space more, in front of the newline it
begins with. -/
inductive Alike : Output → Output → Prop
  | same (output : Output) : Alike output output
  | spaced {output : Output} : output.BeginsInNewline → Alike output (output.under [' '])

namespace Alike

variable {inner outer : Output}

theorem append (h : inner.Alike outer) (text : List Char) :
    (inner.append text).Alike (outer.append text) := by
  cases h with
  | same => exact .same _
  | spaced hbegins =>
      rw [append_under]
      exact .spaced (hbegins.append text)

theorem separate (h : inner.Alike outer) (gap : Gap) :
    (inner.separate gap).Alike (outer.separate gap) := by
  cases h with
  | same => exact .same _
  | spaced hbegins =>
      rw [hbegins.separate_under]
      exact .spaced (hbegins.separate gap)

theorem dropBareMarker (h : inner.Alike outer) :
    inner.dropBareMarker.Alike outer.dropBareMarker := by
  cases h with
  | same => exact .same _
  | spaced hbegins =>
      rw [dropBareMarker_under hbegins.mem_newestFirst]
      exact .spaced hbegins.dropBareMarker

theorem endsInNewline_eq (h : inner.Alike outer) : outer.endsInNewline = inner.endsInNewline := by
  cases h with
  | same => rfl
  | spaced hbegins => rw [endsInNewline, head?_under hbegins.mem_newestFirst, endsInNewline]

/-- The space does not outlive trimming. -/
theorem trim_toList_eq (h : inner.Alike outer) : trim outer.toList = trim inner.toList := by
  cases h with
  | same => rfl
  | spaced _ =>
      have hspace : (inner.under [' ']).toList = [' '] ++ inner.toList := by
        simp [toList, under]
      rw [hspace, trim_append_left (by decide)]

end Alike
end Output

/-! ## An unknown element around all others -/

variable {wrapper : Element} (hwrapper : wrapper.tag = .unknown)

include hwrapper

theorem knownElements_concat (enclosing : List Element) :
    knownElements (enclosing ++ [wrapper]) = knownElements enclosing := by
  have hnone : knownElements [wrapper] = [] := List.filter_cons_of_neg (by simpa using hwrapper)
  rw [knownElements, List.filter_append, ← knownElements, ← knownElements, hnone, List.append_nil]

theorem opening_concat (element : Element) (enclosing : List Element) :
    element.opening (enclosing ++ [wrapper]) = element.opening enclosing := by
  rw [← opening_knownElements, knownElements_concat hwrapper, opening_knownElements]

theorem gap_concat (enclosing : List Element) (inner outer : Output) (tag : Tag) :
    Writer.gap ⟨enclosing ++ [wrapper], outer⟩ tag = Writer.gap ⟨enclosing, inner⟩ tag := by
  rw [← gap_knownElements (enclosing ++ [wrapper]) outer inner, knownElements_concat hwrapper,
    gap_knownElements enclosing inner]

omit hwrapper

namespace Writer

/-- A writer, and one that differs only by an element around all others. -/
structure Wraps (wrapper : Element) (inner outer : Writer) : Prop where
  elements : outer.elements = inner.elements ++ [wrapper]
  output : inner.output.Alike outer.output

namespace Wraps

variable {inner outer : Writer}

theorem breach?_eq_none (h : Wraps wrapper inner outer) {event : Event}
    (hevent : inner.breach? event = none) : outer.breach? event = none := by
  obtain ⟨elements, output⟩ := inner
  obtain ⟨opened, written⟩ := outer
  obtain ⟨rfl, -⟩ := h
  cases event with
  | start name attributes => rfl
  | text run => rfl
  | verbatim text => rfl
  | stop name =>
      cases elements with
      | nil => cases hevent
      | cons element enclosing => exact hevent

include hwrapper

theorem start (h : Wraps wrapper inner outer) (name : String) (attributes : Attributes) :
    Wraps wrapper (inner.start name attributes) (outer.start name attributes) := by
  obtain ⟨elements, output⟩ := inner
  obtain ⟨opened, written⟩ := outer
  obtain ⟨rfl, halike⟩ := h
  have hkept : (kept ⟨elements, output⟩ (.start name attributes)).Alike
      (kept ⟨elements ++ [wrapper], written⟩ (.start name attributes)) := by
    rw [kept_start, kept_start]
    split
    · exact halike.dropBareMarker
    · exact halike
  rw [start_eq, start_eq, opening_concat hwrapper, gap_concat hwrapper elements output]
  exact ⟨rfl, (hkept.separate _).append _⟩

theorem stop (h : Wraps wrapper inner outer) {name : String}
    (hevent : inner.breach? (.stop name) = none) :
    Wraps wrapper (inner.stop name) (outer.stop name) := by
  obtain ⟨elements, output⟩ := inner
  obtain ⟨opened, written⟩ := outer
  obtain ⟨rfl, halike⟩ := h
  cases elements with
  | nil => cases hevent
  | cons element enclosing =>
      have htag := tag_eq_of_breach?_eq_none hevent
      rw [List.cons_append, stop_of_eq htag, stop_of_eq htag, gap_concat hwrapper enclosing output]
      exact ⟨rfl, (halike.append _).separate _⟩

theorem step (h : Wraps wrapper inner outer) {event : Event}
    (hevent : inner.breach? event = none) :
    Wraps wrapper (inner.step event) (outer.step event) := by
  cases event with
  | start name attributes => exact h.start hwrapper name attributes
  | stop name => exact h.stop hwrapper hevent
  | text run =>
      refine ⟨h.elements, ?_⟩
      show (inner.output.append (writtenRun _ _)).Alike (outer.output.append (writtenRun _ _))
      rw [h.output.endsInNewline_eq]
      exact h.output.append _
  | verbatim text => exact ⟨h.elements, h.output.append _⟩

/-- A run that goes through goes through with one more element around it. -/
theorem run (h : Wraps wrapper inner outer) {events : List Event} {next : Writer}
    (hrun : inner.run events = .ok next) :
    ∃ after, outer.run events = .ok after ∧ Wraps wrapper next after := by
  induction events generalizing inner outer with
  | nil => cases hrun; exact ⟨outer, rfl, h⟩
  | cons event events ih =>
      rw [Writer.run] at hrun
      cases hevent : inner.breach? event with
      | some breach => rw [hevent] at hrun; cases hrun
      | none =>
          rw [hevent] at hrun
          rw [Writer.run, h.breach?_eq_none hevent]
          exact ih (h.step hwrapper hevent) hrun

/-- The first element in an unknown one brings the gap in front of it: no space where
there is one already, and a newline in any other case. -/
theorem first (name : String) (attributes : Attributes) :
    Wraps wrapper (Writer.empty.start name attributes)
      (Writer.start ⟨[wrapper], .ofList [' ']⟩ name attributes) := by
  have hkept (elements : List Element) {output : Output}
      (h : output.dropBareMarker = output) :
      kept ⟨elements, output⟩ (.start name attributes) = output := by
    rw [kept_start]
    split
    · exact h
    · rfl
  have halike (gap : Gap) :
      (Output.empty.separate gap).Alike ((Output.ofList [' ']).separate gap) := by
    cases gap with
    | space => exact .same (.ofList [' '])
    | lineBreak => exact @Output.Alike.spaced (.ofList ['\n']) ⟨[], rfl⟩
    | blankLine => exact @Output.Alike.spaced (.ofList ['\n']) ⟨[], rfl⟩
  have hgap : gap ⟨[wrapper], .ofList [' ']⟩ (.ofName name) = gap empty (.ofName name) :=
    gap_concat hwrapper [] .empty (.ofList [' ']) (.ofName name)
  have hopening : Element.opening ⟨.ofName name, attributes⟩ [wrapper] =
      Element.opening ⟨.ofName name, attributes⟩ [] :=
    opening_concat hwrapper ⟨.ofName name, attributes⟩ []
  have hempty : kept empty (.start name attributes) = .empty := hkept [] rfl
  rw [start_eq, start_eq, hgap, hempty, hkept [wrapper] rfl]
  dsimp only
  rw [hopening]
  exact ⟨rfl, (halike _).append _⟩

end Wraps

end Writer

/-! ## Documents -/

/-- A trimmed result hangs on what is left of the output. -/
theorem Writer.result_eq_of_trim_eq {options : Options} (htrim : options.trimResult = true)
    {writer other : Writer} (h : trim writer.output.toList = trim other.output.toList) :
    writer.result options = other.result options := by
  simp only [Writer.result, htrim, if_true, trimString, Output.toString, String.toList_ofList, h]

/-- An element that Textile cannot express and that has no modifiers. -/
structure Wrapper where
  name : String
  attributes : Attributes
  unknown : Tag.ofName name = .unknown
  plain : ∀ key ∈ Modifiers.attributeNames, attributes.get? key = none

namespace Wrapper

/-- The events of a document in an element. -/
def wrap (wrapper : Wrapper) (events : List Event) : List Event :=
  .start wrapper.name wrapper.attributes :: (events ++ [.stop wrapper.name])

/-- The element when it is open. -/
def element (wrapper : Wrapper) : Element :=
  ⟨.ofName wrapper.name, wrapper.attributes⟩

theorem matched_wrap (wrapper : Wrapper) {events : List Event} (h : Matched events) :
    Matched (wrapper.wrap events) :=
  .element wrapper.attributes rfl h .nil

theorem matched_foldr_wrap {events : List Event} (h : Matched events) (wrappers : List Wrapper) :
    Matched (wrappers.foldr wrap events) := by
  induction wrappers with
  | nil => exact h
  | cons wrapper wrappers ih => exact wrapper.matched_wrap ih

/-- An element without modifiers writes nothing at its start but the gap. -/
theorem start_eq (wrapper : Wrapper) :
    Writer.empty.start wrapper.name wrapper.attributes = ⟨[wrapper.element], .ofList [' ']⟩ := by
  have hmodifiers : modifiers wrapper.attributes .unknown = [] :=
    modifiers_of_unset wrapper.plain .unknown
  have hopening : Element.opening ⟨.unknown, wrapper.attributes⟩ [] = [] := by
    rw [opening_unknown, hmodifiers]
  have hgap : Writer.gap .empty .unknown = .space := rfl
  have hspace : Writer.empty.output.separate .space = .ofList [' '] := rfl
  rw [Writer.start_eq, Writer.kept_start, element, wrapper.unknown, if_neg (by decide), hgap,
    hspace]
  exact congrArg (fun sign => (⟨_, (Output.ofList [' ']).append sign⟩ : Writer)) hopening

/-- Within the element, a document that is empty or begins with an element writes the
same up to white space at its ends. -/
theorem run_within (wrapper : Wrapper) {events : List Event} (h : Matched events)
    (hfirst : events = [] ∨ ∃ name attributes rest, events = .start name attributes :: rest) :
    ∃ inner outer, Writer.empty.run events = .ok ⟨[], inner⟩ ∧
      Writer.run ⟨[wrapper.element], .ofList [' ']⟩ events = .ok ⟨[wrapper.element], outer⟩ ∧
      trim outer.toList = trim inner.toList := by
  obtain ⟨inner, hinner⟩ := h.run .empty
  rcases hfirst with rfl | ⟨name, attributes, rest, rfl⟩
  · exact ⟨.empty, .ofList [' '], rfl, rfl, by decide⟩
  · -- From the first start on, the two runs stay alike.
    have hunknown : wrapper.element.tag = .unknown := wrapper.unknown
    obtain ⟨after, hafter, hwraps⟩ :=
      (Writer.Wraps.first hunknown name attributes).run hunknown hinner
    obtain ⟨elements, outer⟩ := after
    obtain ⟨rfl, halike⟩ := hwraps
    exact ⟨inner, outer, hinner, hafter, halike.trim_toList_eq⟩

/-- The end of the element writes at most white space, which trimming takes away. -/
theorem convertEvents_wrap (wrapper : Wrapper) {options : Options}
    (htrim : options.trimResult = true) {events : List Event} (h : Matched events)
    (hfirst : events = [] ∨ ∃ name attributes rest, events = .start name attributes :: rest) :
    ∃ textile, convertEvents options events = .ok textile ∧
      convertEvents options (wrapper.wrap events) = .ok textile := by
  obtain ⟨inner, outer, hinner, houter, hsame⟩ := wrapper.run_within h hfirst
  have hwrap : Writer.empty.run (wrapper.wrap events) =
      .ok (Writer.stop ⟨[wrapper.element], outer⟩ wrapper.name) := by
    show (Writer.empty.start wrapper.name wrapper.attributes).run _ = _
    rw [wrapper.start_eq, Writer.run_append_of_ok houter]
    exact Writer.run_stop rfl [] outer []
  have hclosing : wrapper.element.closing = [] := closing_unknown wrapper.unknown
  refine ⟨(⟨[], inner⟩ : Writer).result options, by rw [convertEvents, hinner]; rfl, ?_⟩
  rw [convertEvents, hwrap, Writer.stop_of_eq rfl, hclosing, Output.append_nil]
  refine congrArg Except.ok (Writer.result_eq_of_trim_eq htrim ?_)
  rw [Output.trim_toList_separate, hsame]

end Wrapper

/-- A document that is empty or begins with an element is converted to the same Textile
in any number of elements that Textile cannot express, each in the next. -/
theorem convertEvents_wrapped {options : Options} (htrim : options.trimResult = true)
    {events : List Event} (h : Matched events)
    (hfirst : events = [] ∨ ∃ name attributes rest, events = .start name attributes :: rest)
    (wrappers : List Wrapper) :
    ∃ textile, convertEvents options events = .ok textile ∧
      convertEvents options (wrappers.foldr Wrapper.wrap events) = .ok textile := by
  induction wrappers with
  | nil =>
      obtain ⟨output, hrun⟩ := h.run .empty
      have hsame : convertEvents options events = .ok (Writer.result ⟨[], output⟩ options) := by
        rw [convertEvents, hrun]
        rfl
      exact ⟨_, hsame, hsame⟩
  | cons wrapper wrappers ih =>
      obtain ⟨textile, hplain, hwrapped⟩ := ih
      have hwithin : wrappers.foldr Wrapper.wrap events = [] ∨
          ∃ name attributes rest,
            wrappers.foldr Wrapper.wrap events = .start name attributes :: rest := by
        cases wrappers with
        | nil => exact hfirst
        | cons inner wrappers => exact .inr ⟨inner.name, inner.attributes, _, rfl⟩
      obtain ⟨same, hinner, houter⟩ :=
        wrapper.convertEvents_wrap htrim (Wrapper.matched_foldr_wrap h wrappers) hwithin
      rw [hwrapped] at hinner
      cases hinner
      exact ⟨textile, hplain, houter⟩

/-- A list item, which looks back at the start of its line, in two elements. -/
theorem convertEvents_wrapped_item :
    let item : List Event := [.start "li" .empty, .verbatim "one", .stop "li"]
    let article : Wrapper := ⟨"article", .ofList [("role", "main")], by decide, by decide⟩
    let plain : Wrapper := ⟨"x-wrapper", .empty, by decide, by decide⟩
    Matched item ∧ convertEvents {} item = .ok "* one" ∧
      convertEvents {} (article.wrap (plain.wrap item)) = .ok "* one" := by
  intro item article plain
  have hmatched : Matched item := by
    have hcontent : Matched [.verbatim "one"] := .verbatim "one" .nil
    exact .element .empty rfl hcontent .nil
  have hitem : convertEvents {} item = .ok "* one" := by
    have hli : Tag.ofName "li" = .li := rfl
    simp only [item, convertEvents, Writer.run, Writer.breach?, Writer.step, Writer.start, hli,
      Element.opening_empty]
    rfl
  obtain ⟨textile, hplain, hwrapped⟩ :=
    convertEvents_wrapped (show ({} : Options).trimResult = true from rfl) hmatched
      (.inr ⟨"li", .empty, _, rfl⟩) [article, plain]
  rw [hitem] at hplain
  cases hplain
  exact ⟨hmatched, hitem, hwrapped⟩

end Textile
