import Textile.Proofs.Output
import Textile.Writer

/-!
# Runs of a writer

* **Runs** (`run_append`, `receiveAll_of_run`): runs compose, and a run that
  meets no breach is the passing of its events one by one. A run that meets one
  stops there: `accepted` counts the events before it.
* **Output** (`kept_eq`, `step_output`): whatever an event is, it leaves the output
  as it is, or without a bare marker where a list item starts, and writes at its end.
* **Starts** (`step_start_item`, `step_start_of_ne`): an item begins a line, and only an
  item takes anything back.
-/

namespace Textile

/-- The event starts a list item. -/
def Event.StartsItem : Event → Prop
  | .start name _ => Tag.ofName name = .li
  | .stop _ | .text _ | .verbatim _ => False

/-- Passing events on in two parts is passing them on at once. -/
theorem Sink.receiveAll_append {σ : Type} [Sink σ] (sink : σ) (before after : List Event) :
    receiveAll sink (before ++ after) = receiveAll (receiveAll sink before) after :=
  List.foldl_append

namespace Writer

/-! ## Runs -/

theorem receiveAll_cons (writer : Writer) (event : Event) (events : List Event) :
    Sink.receiveAll writer (event :: events) =
      Sink.receiveAll (writer.step event) events := rfl

theorem run_append (writer : Writer) (before after : List Event) :
    writer.run (before ++ after) = (writer.run before).bind (·.run after) := by
  induction before generalizing writer with
  | nil => rfl
  | cons event before ih =>
      simp only [List.cons_append, run]
      cases writer.breach? event with
      | some breach => rfl
      | none => exact ih (writer.step event)

/-- A run goes on where a run without a breach has led. -/
theorem run_append_of_ok {writer next : Writer} {before : List Event}
    (h : writer.run before = .ok next) (after : List Event) :
    writer.run (before ++ after) = next.run after := by
  rw [run_append, h]
  rfl

/-- A run without a breach is the passing of its events one by one. -/
theorem receiveAll_of_run {writer next : Writer} {events : List Event}
    (h : writer.run events = .ok next) : Sink.receiveAll writer events = next := by
  induction events generalizing writer with
  | nil => exact Except.ok.inj h
  | cons event events ih =>
      rw [run] at h
      cases hbreach : writer.breach? event with
      | some breach => rw [hbreach] at h; cases h
      | none => rw [hbreach] at h; exact ih h

/-- The number of events before the first one that does not match the open
elements. -/
def accepted (writer : Writer) : List Event → Nat
  | [] => 0
  | event :: events =>
      match writer.breach? event with
      | some _ => 0
      | none => (writer.step event).accepted events + 1

/-- A run that meets a breach goes well up to the event it breaks off at. -/
theorem run_eq_error {writer : Writer} {events : List Event} {breach : Breach}
    (h : writer.run events = .error breach) :
    ∃ before event after next, events = before ++ event :: after ∧
      before.length = writer.accepted events ∧ writer.run before = .ok next ∧
      next.breach? event = some breach := by
  induction events generalizing writer with
  | nil => cases h
  | cons event events ih =>
      rw [run] at h
      -- The run breaks off at its first event, or at one after it.
      cases hbreach : writer.breach? event with
      | some found =>
          rw [hbreach] at h
          cases h
          exact ⟨[], event, events, writer, rfl, by simp [accepted, hbreach], rfl, hbreach⟩
      | none =>
          rw [hbreach] at h
          obtain ⟨before, next, after, last, rfl, hlength, hrun, hlast⟩ := ih h
          refine ⟨event :: before, next, after, last, rfl, ?_, ?_, hlast⟩
          · simp [accepted, hbreach, hlength]
          · rw [run, hbreach]
            exact hrun

/-! ## What an event does to the output -/

/-- What an event leaves of the output before it writes. -/
def kept (writer : Writer) : Event → Output
  | .start name _ =>
      if Tag.ofName name = .li then writer.output.dropBareMarker else writer.output
  | .stop _ | .text _ | .verbatim _ => writer.output

/-- An end that matches closes the innermost element, writes what the end of it
writes and separates it from what comes. -/
theorem stop_of_eq {element : Element} {name : String} (h : element.tag = .ofName name)
    (enclosing : List Element) (output : Output) :
    stop ⟨element :: enclosing, output⟩ name =
      ⟨enclosing, (output.append element.closing).separate
        (gap ⟨enclosing, output⟩ element.tag)⟩ :=
  if_pos h

/-- An end that does not match only closes the innermost element. -/
theorem stop_of_ne {element : Element} {name : String} (h : element.tag ≠ .ofName name)
    (enclosing : List Element) (output : Output) :
    stop ⟨element :: enclosing, output⟩ name = ⟨enclosing, output⟩ :=
  if_neg h

/-- A run passes an end that matches. -/
theorem run_stop {element : Element} {name : String} (h : element.tag = .ofName name)
    (enclosing : List Element) (output : Output) (events : List Event) :
    run ⟨element :: enclosing, output⟩ (.stop name :: events) =
      run (step ⟨element :: enclosing, output⟩ (.stop name)) events := by
  rw [run]
  simp [breach?, h]

theorem kept_start (writer : Writer) (name : String) (attributes : Attributes) :
    writer.kept (.start name attributes) =
      if Tag.ofName name = .li then writer.output.dropBareMarker else writer.output := rfl

/-- What an event leaves of the output is all of it, or, where a list item starts, all
but a last line that is a bare marker. -/
theorem kept_eq (writer : Writer) (event : Event) :
    writer.kept event = writer.output ∨
      event.StartsItem ∧ Output.isBareMarker writer.output.lastLine = true ∧
        writer.kept event = writer.output.completed := by
  cases event with
  | start name attributes =>
      rw [kept_start]
      split
      · next hitem =>
          rw [Output.dropBareMarker_eq]
          split
          · next hbare => exact .inr ⟨hitem, hbare, rfl⟩
          · exact .inl rfl
      · exact .inl rfl
  | stop name => exact .inl rfl
  | text run => exact .inl rfl
  | verbatim text => exact .inl rfl

/-- A start writes the gap before the element and what the start of it writes. -/
theorem start_eq (writer : Writer) (name : String) (attributes : Attributes) :
    writer.start name attributes =
      ⟨⟨.ofName name, attributes⟩ :: writer.elements,
        ((writer.kept (.start name attributes)).separate (writer.gap (.ofName name))).append
          (Element.opening ⟨.ofName name, attributes⟩ writer.elements)⟩ := by
  unfold start kept
  by_cases hli : Tag.ofName name = .li
  · simp [hli, dropBareMarker]
  · simp [hli]

/-- The start of an item takes a bare marker back and ends the line before it. -/
theorem step_start_item (writer : Writer) {name : String} (hname : Tag.ofName name = .li)
    (attributes : Attributes) :
    writer.step (.start name attributes) =
      ⟨⟨.li, attributes⟩ :: writer.elements,
        (writer.output.dropBareMarker.separate .lineBreak).append
          (Element.opening ⟨.li, attributes⟩ writer.elements)⟩ := by
  have hgap : writer.gap .li = .lineBreak := rfl
  rw [step, start_eq, kept_start, hname, if_pos rfl, hgap]

/-- The start of any other element takes nothing back. -/
theorem step_start_of_ne (writer : Writer) {name : String} {tag : Tag}
    (hname : Tag.ofName name = tag) (hli : tag ≠ .li) (attributes : Attributes) :
    writer.step (.start name attributes) =
      ⟨⟨tag, attributes⟩ :: writer.elements,
        (writer.output.separate (writer.gap tag)).append
          (Element.opening ⟨tag, attributes⟩ writer.elements)⟩ := by
  rw [step, start_eq, kept_start, hname, if_neg hli]

/-- An event only ever writes at the end of what it leaves of the output. -/
theorem step_output (writer : Writer) (event : Event) :
    ∃ text, (writer.step event).output = (writer.kept event).append text := by
  cases event with
  | start name attributes =>
      obtain ⟨white, hwhite, _⟩ :=
        (writer.kept (.start name attributes)).separate_eq_append (writer.gap (.ofName name))
      refine ⟨white ++ Element.opening ⟨.ofName name, attributes⟩ writer.elements, ?_⟩
      rw [step, start_eq, hwhite, Output.append_append]
  | stop name =>
      obtain ⟨elements, output⟩ := writer
      show ∃ text, (stop _ name).output = output.append text
      cases elements with
      | nil => exact ⟨[], rfl⟩
      | cons element enclosing =>
          by_cases htag : element.tag = .ofName name
          · obtain ⟨white, hwhite, _⟩ := (output.append element.closing).separate_eq_append
              (gap ⟨enclosing, output⟩ element.tag)
            refine ⟨element.closing ++ white, ?_⟩
            rw [stop_of_eq htag, hwhite, Output.append_append]
          · rw [stop_of_ne htag]
            exact ⟨[], rfl⟩
  | text run => exact ⟨_, rfl⟩
  | verbatim text => exact ⟨_, rfl⟩

end Writer

end Textile
