import Textile.Proofs.Writer

/-!
# Well-nested events

`openAfter?` follows the names of the open elements through a sequence of
events; it gives up at the first end that does not name the element that is
open innermost, so a sequence is *well nested* where it does not give up.

* **Prefixes** (`openAfter?_of_isPrefix`, `openAfter?_stop`): what begins a
  well-nested sequence is well nested, and every end in it names the element
  that is open innermost at that point.
* **No breach** (`Writer.run_of_openAfter?`): a writer whose open elements have
  the tags of the names followed never meets a breach in a well-nested sequence.
-/

namespace Textile

/-! ## Open elements -/

/-- The names of the elements that are open after an event, innermost first, or
nothing after an end that does not name the innermost one. -/
def openAfterEvent? (opened : List String) : Event → Option (List String)
  | .start name _ => some (name :: opened)
  | .stop name =>
      match opened with
      | [] => none
      | innermost :: enclosing => if name = innermost then some enclosing else none
  | .text _ | .verbatim _ => some opened

/-- The names of the elements that are open after events, innermost first, or
nothing if some end among them does not name the innermost one. -/
def openAfter? (opened : List String) (events : List Event) : Option (List String) :=
  events.foldlM openAfterEvent? opened

@[simp] theorem openAfter?_nil (opened : List String) :
    openAfter? opened [] = some opened := rfl

@[simp] theorem openAfter?_cons (opened : List String) (event : Event)
    (events : List Event) :
    openAfter? opened (event :: events) =
      (openAfterEvent? opened event).bind (openAfter? · events) := rfl

/-- An end goes through exactly where it names the element that is open
innermost. -/
theorem openAfterEvent?_stop {opened left : List String} {name : String} :
    openAfterEvent? opened (.stop name) = some left ↔ opened = name :: left := by
  cases opened with
  | nil => simp [openAfterEvent?]
  | cons innermost enclosing =>
      simp only [openAfterEvent?, Option.ite_none_right_eq_some, Option.some.injEq,
        List.cons.injEq, eq_comm (a := name)]

theorem openAfter?_append (opened : List String) (before after : List Event) :
    openAfter? opened (before ++ after) =
      (openAfter? opened before).bind (openAfter? · after) :=
  List.foldlM_append

theorem openAfter?_concat (opened : List String) (before : List Event) (event : Event) :
    openAfter? opened (before ++ [event]) =
      (openAfter? opened before).bind (openAfterEvent? · event) := by
  simp [openAfter?_append]

/-- Whatever begins a well-nested sequence is well nested. -/
theorem openAfter?_of_isPrefix {opened left : List String} {before events : List Event}
    (hbegins : before <+: events) (h : openAfter? opened events = some left) :
    ∃ between, openAfter? opened before = some between := by
  obtain ⟨after, rfl⟩ := hbegins
  rw [openAfter?_append] at h
  obtain ⟨between, hbetween, _⟩ := Option.bind_eq_some_iff.mp h
  exact ⟨between, hbetween⟩

/-- Every end in a well-nested sequence names the element that is open
innermost when it comes. -/
theorem openAfter?_stop {opened left : List String} {before after : List Event}
    {name : String}
    (h : openAfter? opened (before ++ .stop name :: after) = some left) :
    ∃ enclosing, openAfter? opened before = some (name :: enclosing) := by
  rw [openAfter?_append] at h
  obtain ⟨between, hbetween, hstop⟩ := Option.bind_eq_some_iff.mp h
  rw [openAfter?_cons] at hstop
  obtain ⟨enclosing, henclosing, _⟩ := Option.bind_eq_some_iff.mp hstop
  rw [openAfterEvent?_stop] at henclosing
  exact ⟨enclosing, henclosing ▸ hbetween⟩

namespace Writer

/-! ## No breach in well-nested events -/

/-- A writer and the names of its open elements agree. -/
def Opens (writer : Writer) (opened : List String) : Prop :=
  writer.elements.map (·.tag) = opened.map .ofName

theorem empty_opens : empty.Opens [] := rfl

theorem breach?_of_opens {writer : Writer} {opened left : List String} {event : Event}
    (hopens : writer.Opens opened) (h : openAfterEvent? opened event = some left) :
    writer.breach? event = none := by
  cases event with
  | start name attributes => rfl
  | text run => rfl
  | verbatim text => rfl
  | stop name =>
      obtain ⟨elements, output⟩ := writer
      rw [openAfterEvent?_stop] at h
      subst h
      cases elements with
      | nil => cases hopens
      | cons element enclosing =>
          have htag : element.tag = .ofName name := (List.cons.inj hopens).1
          simp [breach?, htag]

theorem step_opens {writer : Writer} {opened left : List String} {event : Event}
    (hopens : writer.Opens opened) (h : openAfterEvent? opened event = some left) :
    (writer.step event).Opens left := by
  obtain ⟨elements, output⟩ := writer
  cases event with
  | start name attributes =>
      cases h
      exact congrArg (Tag.ofName name :: ·) hopens
  | text run => cases h; exact hopens
  | verbatim text => cases h; exact hopens
  | stop name =>
      rw [openAfterEvent?_stop] at h
      subst h
      cases elements with
      | nil => cases hopens
      | cons element enclosing =>
          obtain ⟨htag, henclosing⟩ := List.cons.inj hopens
          rw [step, stop_of_eq htag]
          exact henclosing

/-- A writer that agrees with the names followed meets no breach in a
well-nested sequence, and agrees with them after it. -/
theorem run_of_openAfter? {writer : Writer} {opened left : List String}
    {events : List Event} (hopens : writer.Opens opened)
    (h : openAfter? opened events = some left) :
    writer.run events = .ok (Sink.receiveAll writer events) ∧
      (Sink.receiveAll writer events).Opens left := by
  induction events generalizing writer opened with
  | nil => cases h; exact ⟨rfl, hopens⟩
  | cons event events ih =>
      rw [openAfter?_cons] at h
      obtain ⟨between, hevent, hrest⟩ := Option.bind_eq_some_iff.mp h
      rw [run, breach?_of_opens hopens hevent]
      exact ih (step_opens hopens hevent) hrest

end Writer

end Textile
