import Textile.Proofs.Writer

/-!
# Starts and their ends

Which elements are open after some events can be read off the events: they are the
starts that have no end among them. `Matched` says of events that each start has its
end and each end its start, and `LeavesOpen` picks the starts that are left over.

* **Matched events** (`Matched.run`): they go through in any state and restore the open
  elements.
* **Runs** (`leavesOpen_iff_run`): a new writer goes through events exactly if they
  leave elements open, and these are its open elements.
* **Breaches** (`run_eq_error_iff`): a run breaks off at the first end that meets no
  start that is left over, or one of another tag (`Stray`).
* **Gaps** (`gap_stop`): an element is set off by the same gap where it starts and
  where it ends, whatever it contains.
-/

namespace Textile

/-! ## Matched events -/

/-- Every start has its end and every end its start, which has the same tag. -/
inductive Matched : List Event → Prop
  | nil : Matched []
  | text (run : String) {events : List Event} : Matched events → Matched (.text run :: events)
  | verbatim (text : String) {events : List Event} :
      Matched events → Matched (.verbatim text :: events)
  | element {name ending : String} (attributes : Attributes) {content events : List Event} :
      Tag.ofName name = Tag.ofName ending → Matched content → Matched events →
      Matched (.start name attributes :: (content ++ .stop ending :: events))

theorem Matched.append {before after : List Event} (h : Matched before)
    (hafter : Matched after) : Matched (before ++ after) := by
  induction h with
  | nil => exact hafter
  | text run _ ih => exact .text run ih
  | verbatim text _ ih => exact .verbatim text ih
  | element attributes htag hcontent _ _ ih =>
      rw [List.cons_append, List.append_assoc]
      exact .element attributes htag hcontent ih

/-- Matched events go through in any state, and leave the open elements as they are. -/
theorem Matched.run {events : List Event} (h : Matched events) (writer : Writer) :
    ∃ output, writer.run events = .ok ⟨writer.elements, output⟩ := by
  induction h generalizing writer with
  | nil => exact ⟨writer.output, rfl⟩
  | text run _ ih => exact ih (writer.text run)
  | verbatim text _ ih => exact ih (writer.verbatim text)
  | element attributes htag _ _ ihcontent ihevents =>
      rename_i name ending content events _ _
      obtain ⟨inner, hinner⟩ := ihcontent (writer.start name attributes)
      have hsame : (Element.mk (.ofName name) attributes).tag = .ofName ending := htag
      have hend := Writer.run_stop hsame writer.elements inner events
      rw [Writer.step, Writer.stop_of_eq hsame] at hend
      obtain ⟨output, hrest⟩ := ihevents ⟨writer.elements, _⟩
      refine ⟨output, ?_⟩
      show (writer.start name attributes).run (content ++ .stop ending :: events) = _
      rw [Writer.run_append_of_ok hinner]
      exact hend.trans hrest

/-! ## Starts that are left over -/

/-- The starts that have no end among the events, innermost first: no end stands
unmatched between them. -/
inductive LeavesOpen : List Event → List Element → Prop
  | none {events : List Event} : Matched events → LeavesOpen events []
  | start {before content : List Event} {enclosing : List Element} (name : String)
      (attributes : Attributes) : LeavesOpen before enclosing → Matched content →
      LeavesOpen (before ++ .start name attributes :: content)
        (⟨.ofName name, attributes⟩ :: enclosing)

theorem LeavesOpen.append {events more : List Event} {opened : List Element}
    (h : LeavesOpen events opened) (hmore : Matched more) : LeavesOpen (events ++ more) opened := by
  cases h with
  | none hevents => exact .none (hevents.append hmore)
  | start name attributes hbefore hcontent =>
      rw [List.append_assoc]
      exact .start name attributes hbefore (hcontent.append hmore)

/-- An end of the innermost start that is left over matches it. -/
theorem LeavesOpen.stop {events : List Event} {element : Element} {enclosing : List Element}
    (h : LeavesOpen events (element :: enclosing)) {name : String}
    (htag : element.tag = .ofName name) : LeavesOpen (events ++ [.stop name]) enclosing := by
  cases h with
  | start opening attributes hbefore hcontent =>
      rw [List.append_assoc]
      exact hbefore.append (.element attributes htag hcontent .nil)

theorem LeavesOpen.run {events : List Event} {opened : List Element}
    (h : LeavesOpen events opened) : ∃ output, Writer.empty.run events = .ok ⟨opened, output⟩ := by
  induction h with
  | none hevents => exact hevents.run .empty
  | start name attributes _ hcontent ih =>
      obtain ⟨output, hbefore⟩ := ih
      rw [Writer.run_append_of_ok hbefore]
      exact hcontent.run _

namespace Writer

/-! ## Runs -/

/-- A run without a breach goes through its first part without one. -/
theorem run_append_eq_ok {writer next : Writer} {before after : List Event}
    (h : writer.run (before ++ after) = .ok next) :
    ∃ between, writer.run before = .ok between ∧ between.run after = .ok next := by
  rw [run_append] at h
  cases hbefore : writer.run before with
  | error breach => rw [hbefore] at h; cases h
  | ok between => rw [hbefore] at h; exact ⟨between, rfl, h⟩

/-- A run without a breach ends with the step of its last event. -/
theorem run_concat {writer next : Writer} {before : List Event} {event : Event} :
    writer.run (before ++ [event]) = .ok next ↔
      ∃ between, writer.run before = .ok between ∧ between.breach? event = none ∧
        between.step event = next := by
  have hlast (between : Writer) : between.run [event] = .ok next ↔
      between.breach? event = none ∧ between.step event = next := by
    rw [run]
    cases between.breach? event <;> simp [run]
  constructor
  · intro h
    obtain ⟨between, hbefore, hevent⟩ := run_append_eq_ok h
    exact ⟨between, hbefore, (hlast between).mp hevent⟩
  · rintro ⟨between, hbefore, hevent⟩
    rw [run_append_of_ok hbefore]
    exact (hlast between).mpr hevent

/-- An end that matches no start: none is left over, or the innermost one has another
tag. -/
inductive Stray : List Element → String → Breach → Prop
  | nothingOpen (name : String) : Stray [] name .nothingOpen
  | otherOpen {element : Element} {name : String} (enclosing : List Element) :
      element.tag ≠ .ofName name →
      Stray (element :: enclosing) name (.otherOpen name element.tag (.ofName name))

theorem breach?_eq_some_iff {writer : Writer} {event : Event} {breach : Breach} :
    writer.breach? event = some breach ↔
      ∃ name, event = .stop name ∧ Stray writer.elements name breach := by
  obtain ⟨elements, output⟩ := writer
  constructor
  · intro h
    cases event with
    | start name attributes => cases h
    | text run => cases h
    | verbatim text => cases h
    | stop name =>
        refine ⟨name, rfl, ?_⟩
        cases elements with
        | nil => cases h; exact .nothingOpen name
        | cons element enclosing =>
            obtain ⟨htag, heq⟩ := Option.ite_none_left_eq_some.mp h
            cases heq
            exact .otherOpen enclosing htag
  · rintro ⟨name, rfl, hstray⟩
    cases hstray with
    | nothingOpen => rfl
    | otherOpen enclosing htag => exact if_neg htag

theorem Stray.breach?_eq {opened : List Element} {name : String} {breach : Breach}
    (h : Stray opened name breach) (output : Output) :
    breach? ⟨opened, output⟩ (.stop name) = some breach :=
  breach?_eq_some_iff.mpr ⟨name, rfl, h⟩

/-- An end that is no breach has the tag of the innermost element. -/
theorem tag_eq_of_breach?_eq_none {element : Element} {enclosing : List Element}
    {output : Output} {name : String}
    (h : breach? ⟨element :: enclosing, output⟩ (.stop name) = none) :
    element.tag = .ofName name := by
  by_contra hne
  exact Option.some_ne_none _ ((if_neg hne).symm.trans h)

/-- Where an end is no breach, some element is open, and the innermost one has its tag. -/
theorem exists_innermost_of_breach?_eq_none {writer : Writer} {name : String}
    (h : writer.breach? (.stop name) = none) :
    ∃ element enclosing, writer.elements = element :: enclosing ∧
      element.tag = .ofName name := by
  obtain ⟨elements, output⟩ := writer
  cases elements with
  | nil => cases h
  | cons element enclosing => exact ⟨element, enclosing, rfl, tag_eq_of_breach?_eq_none h⟩

/-- A run without a breach leaves exactly the starts open that have no end. -/
theorem leavesOpen_of_run {events : List Event} {writer : Writer}
    (h : empty.run events = .ok writer) : LeavesOpen events writer.elements := by
  induction events using List.reverseRecOn generalizing writer with
  | nil => cases h; exact .none .nil
  | append_singleton before event ih =>
      obtain ⟨between, hbefore, hbreach, rfl⟩ := run_concat.mp h
      have hopen := ih hbefore
      obtain ⟨elements, output⟩ := between
      cases event with
      | start name attributes => exact .start name attributes hopen .nil
      | text run => exact hopen.append (.text run .nil)
      | verbatim text => exact hopen.append (.verbatim text .nil)
      | stop name =>
          cases elements with
          | nil => cases hbreach
          | cons element enclosing =>
              have htag := tag_eq_of_breach?_eq_none hbreach
              rw [step, stop_of_eq htag]
              exact hopen.stop htag

theorem leavesOpen_iff_run {events : List Event} {opened : List Element} :
    LeavesOpen events opened ↔ ∃ output, empty.run events = .ok ⟨opened, output⟩ :=
  ⟨LeavesOpen.run, fun ⟨_, h⟩ => leavesOpen_of_run h⟩

/-- A run breaks off at the first end that is stray. -/
theorem run_eq_error_iff {events : List Event} {breach : Breach} :
    empty.run events = .error breach ↔
      ∃ before name after opened, events = before ++ .stop name :: after ∧
        LeavesOpen before opened ∧ Stray opened name breach := by
  constructor
  · intro h
    obtain ⟨before, event, after, next, heq, -, hbefore, hbreach⟩ := run_eq_error h
    obtain ⟨name, rfl, hstray⟩ := breach?_eq_some_iff.mp hbreach
    exact ⟨before, name, after, next.elements, heq, leavesOpen_of_run hbefore, hstray⟩
  · rintro ⟨before, name, after, opened, rfl, hopen, hstray⟩
    obtain ⟨output, hbefore⟩ := hopen.run
    rw [run_append_of_ok hbefore, run, hstray.breach?_eq output]

theorem accepted_append_of_ok {writer next : Writer} {before : List Event}
    (h : writer.run before = .ok next) (after : List Event) :
    writer.accepted (before ++ after) = before.length + next.accepted after := by
  induction before generalizing writer with
  | nil => cases h; exact (Nat.zero_add _).symm
  | cons event before ih =>
      rw [run] at h
      cases hbreach : writer.breach? event with
      | some breach => rw [hbreach] at h; cases h
      | none =>
          rw [hbreach] at h
          rw [List.cons_append, accepted, hbreach, List.length_cons]
          simp only [ih h]
          omega

/-- A stray end writes nothing. -/
theorem output_stop_of_stray {opened : List Element} {name : String} {breach : Breach}
    (h : Stray opened name breach) (output : Output) :
    (stop ⟨opened, output⟩ name).output = output := by
  cases h with
  | nothingOpen => rfl
  | otherOpen enclosing htag => rw [stop_of_ne htag]

/-! ## Gaps -/

/-- An end that is not stray has its start among the events before it. Both are set off
by the gap that is looked up among the elements around: at the start these are the open
elements before it is opened, and at the end those that are left when it is closed. -/
theorem gap_stop {front : List Event} {name : String} {inner : Writer}
    (hfront : empty.run front = .ok inner) (hbreach : inner.breach? (.stop name) = none) :
    ∃ before opening attributes content,
      front = before ++ .start opening attributes :: content ∧ Matched content ∧
      Tag.ofName opening = Tag.ofName name ∧
      ∃ outer, empty.run before = .ok outer ∧
        let element : Element := ⟨.ofName opening, attributes⟩
        let gap := outer.gap element.tag
        outer.step (.start opening attributes) =
          ⟨element :: outer.elements,
            ((outer.kept (.start opening attributes)).separate gap).append
              (element.opening outer.elements)⟩ ∧
        inner.step (.stop name) =
          ⟨outer.elements, (inner.output.append element.closing).separate gap⟩ := by
  obtain ⟨elements, output⟩ := inner
  have hopen := leavesOpen_of_run hfront
  cases hopen with
  | none => cases hbreach
  | start opening attributes hbefore hcontent =>
      rename_i before content enclosing
      have htag := tag_eq_of_breach?_eq_none hbreach
      obtain ⟨written, houter⟩ := hbefore.run
      refine ⟨before, opening, attributes, content, rfl, hcontent, htag, _, houter, ?_, ?_⟩
      · exact start_eq _ opening attributes
      · exact stop_of_eq htag enclosing output

/-- Every run of a new writer. It breaks off exactly at the first end that meets no start
without an end, or one of another tag, and writes nothing there. Otherwise the elements
left open are exactly the starts without an end, and every end is set off by the same gap
as its start. Matched events go through in any state and leave the open elements as they
are. -/
theorem run_unmatched (events : List Event) :
    (∀ breach, empty.run events = .error breach ↔
      ∃ before name after opened, events = before ++ .stop name :: after ∧
        LeavesOpen before opened ∧ Stray opened name breach) ∧
    (∀ before name after opened breach, events = before ++ .stop name :: after →
      LeavesOpen before opened → Stray opened name breach →
      empty.accepted events = before.length ∧
      ∃ output, empty.run before = .ok ⟨opened, output⟩ ∧
        (step ⟨opened, output⟩ (.stop name)).output = output) ∧
    (∀ opened, (∃ output, empty.run events = .ok ⟨opened, output⟩) ↔
      LeavesOpen events opened) ∧
    (∀ writer front name after, empty.run events = .ok writer →
      events = front ++ .stop name :: after →
      ∃ before opening attributes content,
        front = before ++ .start opening attributes :: content ∧ Matched content ∧
        Tag.ofName opening = Tag.ofName name ∧
        ∃ outer inner, empty.run before = .ok outer ∧ empty.run front = .ok inner ∧
          let element : Element := ⟨.ofName opening, attributes⟩
          let gap := outer.gap element.tag
          outer.step (.start opening attributes) =
            ⟨element :: outer.elements,
              ((outer.kept (.start opening attributes)).separate gap).append
                (element.opening outer.elements)⟩ ∧
          inner.step (.stop name) =
            ⟨outer.elements, (inner.output.append element.closing).separate gap⟩) ∧
    (Matched events → ∀ writer : Writer,
      ∃ output, writer.run events = .ok ⟨writer.elements, output⟩) := by
  refine ⟨fun breach => run_eq_error_iff, ?_, fun opened => leavesOpen_iff_run.symm, ?_,
    fun h => h.run⟩
  · rintro before name after opened breach rfl hopen hstray
    obtain ⟨output, hbefore⟩ := hopen.run
    refine ⟨?_, output, hbefore, output_stop_of_stray hstray output⟩
    rw [accepted_append_of_ok hbefore, accepted, hstray.breach?_eq output]
    rfl
  · rintro writer front name after hrun rfl
    rw [List.append_cons] at hrun
    obtain ⟨next, hnext, -⟩ := run_append_eq_ok hrun
    obtain ⟨between, hfront, hbreach, -⟩ := run_concat.mp hnext
    obtain ⟨before, opening, attributes, content, heq, hcontent, htag, outer, houter, hgaps⟩ :=
      gap_stop hfront hbreach
    exact ⟨before, opening, attributes, content, heq, hcontent, htag, outer, between, houter,
      hfront, hgaps⟩

end Writer
end Textile
