import Textile.Proofs.Element
import Textile.Proofs.Writer

/-!
# Bounded look-back

A writer looks back at its output, and edits it in one place, but never far: an
output with a newline after its first character hides everything before it.

* **Operations** (`separate_under`, `dropBareMarker_under`): a gap is compared
  with the last two characters, and a bare marker is looked for in the last
  line. Neither reaches what stands in front of an anchored output.
* **Two runs** (`run_under`): a text put in front of such an output stays there
  untouched, and the run goes on as it does without the text. The output stays
  anchored (`step_anchored`), since a bare marker is taken back up to a newline
  and the newline stays.
* **Completed lines** (`completed_isPrefix_receiveAll`): the output up to its
  last newline is never edited again, by any events in any state.

`lookBack_bounded` states both of whole runs.
-/

namespace Textile

namespace Output

/-! ## Outputs with a text in front -/

/-- The output that holds a text. -/
def ofList (text : List Char) : Output := ⟨text.reverse⟩

theorem ofList_toList (output : Output) : ofList output.toList = output := by
  simp [toList, ofList]

/-- The output with a text in front of it. -/
def under (output : Output) (text : List Char) : Output :=
  ⟨output.newestFirst ++ text.reverse⟩

theorem append_under (output : Output) (text written : List Char) :
    (output.under text).append written = (output.append written).under text := by
  simp [append, under, List.reverseAux_eq]

theorem ofList_append (text rest : List Char) :
    ofList (text ++ rest) = (ofList rest).under text := by
  simp [ofList, under]

/-! ## Outputs with a newline -/

section Newline

variable {output : Output} (h : '\n' ∈ output.newestFirst) (text : List Char)

include h

theorem head?_under : (output.under text).newestFirst.head? = output.newestFirst.head? :=
  List.head?_append_of_ne_nil _ (List.ne_nil_of_mem h)

/-- The output is a last line after a newline. -/
theorem exists_lastLine :
    ∃ line before, output.newestFirst = line ++ '\n' :: before ∧
      ∀ c ∈ line, decide (c ≠ '\n') = true := by
  obtain ⟨line, before, heq, hnone⟩ := List.eq_append_cons_of_mem h
  refine ⟨line, before, heq, fun c hc => decide_eq_true ?_⟩
  rintro rfl
  exact hnone hc

theorem lastLine_under : (output.under text).lastLine = output.lastLine := by
  obtain ⟨line, before, heq, hline⟩ := exists_lastLine h
  rw [lastLine, lastLine, under, heq, List.append_assoc,
    List.takeWhile_append_of_pos hline, List.takeWhile_append_of_pos hline]
  rfl

theorem completed_under : (output.under text).completed = output.completed.under text := by
  obtain ⟨line, before, heq, hline⟩ := exists_lastLine h
  rw [Output.completed, Output.completed, under, under, heq, List.append_assoc,
    List.dropWhile_append_of_pos hline, List.dropWhile_append_of_pos hline]
  rfl

/-- What is taken back is the same under any text. -/
theorem dropBareMarker_under :
    (output.under text).dropBareMarker = output.dropBareMarker.under text := by
  rw [dropBareMarker_eq, dropBareMarker_eq, lastLine_under h, completed_under h]
  split <;> rfl

end Newline

/-! ## Outputs with a newline after their first character -/

/-- The output holds a newline somewhere after its first character. -/
def Anchored (output : Output) : Prop :=
  '\n' ∈ output.toList.tail

theorem anchored_ofList {text : List Char} : (ofList text).Anchored ↔ '\n' ∈ text.tail := by
  simp [Anchored, ofList, toList]

theorem anchored_iff {output : Output} :
    output.Anchored ↔ '\n' ∈ output.newestFirst.dropLast := by
  simp [Anchored, toList, List.tail_reverse]

/-- Leaving out what follows the last newline does not lose a newline that stands
before the last of the characters. -/
theorem mem_dropLast_dropWhile {chars : List Char} (h : '\n' ∈ chars.dropLast) :
    '\n' ∈ (chars.dropWhile (· ≠ '\n')).dropLast := by
  induction chars with
  | nil => exact h
  | cons c chars ih =>
      -- Characters are left out one by one up to the first newline, newest first.
      by_cases hc : c = '\n'
      · rw [List.dropWhile_cons_of_neg (by simpa using hc)]
        exact h
      · rw [List.dropWhile_cons_of_pos (by simpa using hc)]
        cases chars with
        | nil => cases h
        | cons d chars =>
            rw [List.dropLast_cons_cons] at h
            exact ih ((List.mem_cons.mp h).resolve_left (Ne.symm hc))

namespace Anchored

variable {output : Output}

theorem mem_newestFirst (h : output.Anchored) : '\n' ∈ output.newestFirst :=
  List.dropLast_subset _ (anchored_iff.mp h)

/-- The gap that looks back furthest, at the last two characters, finds both. -/
theorem two_le_length (h : output.Anchored) : 2 ≤ output.newestFirst.length := by
  have hpos := List.length_pos_of_mem (anchored_iff.mp h)
  rw [List.length_dropLast] at hpos
  omega

/-- Whatever is written at the end, the newline stays. -/
theorem append (h : output.Anchored) (text : List Char) : (output.append text).Anchored := by
  rw [Anchored, toList_append, List.tail_append]
  split
  · next hempty =>
      rw [List.isEmpty_iff] at hempty
      rw [Anchored, hempty] at h
      cases h
  · exact List.mem_append_left _ h

/-- What is taken back is taken back up to a newline, and the newline stays. -/
theorem completed (h : output.Anchored) : output.completed.Anchored :=
  anchored_iff.mpr (mem_dropLast_dropWhile (anchored_iff.mp h))

theorem separate (h : output.Anchored) (gap : Gap) : (output.separate gap).Anchored := by
  obtain ⟨white, hwhite, _⟩ := output.separate_eq_append gap
  rw [hwhite]
  exact h.append white

/-- The white space that is missing is the same under any text. -/
theorem separate_under (h : output.Anchored) (text : List Char) (gap : Gap) :
    (output.under text).separate gap = (output.separate gap).under text := by
  cases gap with
  | space =>
      rw [separate_space, separate_space, head?_under h.mem_newestFirst]
      split <;> rfl
  | lineBreak =>
      rw [separate_lineBreak, separate_lineBreak, head?_under h.mem_newestFirst]
      split <;> rfl
  | blankLine =>
      have htake : (output.under text).newestFirst.take 2 = output.newestFirst.take 2 :=
        List.take_append_of_le_length h.two_le_length
      rw [separate_blankLine, separate_blankLine, htake]
      split <;> rfl

end Anchored

end Output

namespace Writer

/-! ## Two runs -/

/-- The writer with a text in front of its output. -/
def under (writer : Writer) (text : List Char) : Writer :=
  { writer with output := writer.output.under text }

theorem breach?_under (writer : Writer) (text : List Char) (event : Event) :
    (writer.under text).breach? event = writer.breach? event := by
  cases event <;> rfl

theorem kept_anchored {writer : Writer} (h : writer.output.Anchored) (event : Event) :
    (writer.kept event).Anchored := by
  rcases writer.kept_eq event with hall | ⟨_, _, hcompleted⟩
  · rwa [hall]
  · rw [hcompleted]
    exact h.completed

/-- No event loses the newline. -/
theorem step_anchored {writer : Writer} (h : writer.output.Anchored) (event : Event) :
    (writer.step event).output.Anchored := by
  obtain ⟨text, htext⟩ := writer.step_output event
  rw [htext]
  exact (kept_anchored h event).append text

theorem start_under {writer : Writer} (h : writer.output.Anchored) (text : List Char)
    (name : String) (attributes : Attributes) :
    (writer.under text).start name attributes = (writer.start name attributes).under text := by
  have hkept : (writer.under text).kept (.start name attributes) =
      (writer.kept (.start name attributes)).under text := by
    rw [kept_start, kept_start]
    split
    · exact Output.dropBareMarker_under h.mem_newestFirst text
    · rfl
  rw [start_eq, start_eq, hkept, (kept_anchored h _).separate_under text]
  exact congrArg (Writer.mk _) (Output.append_under _ _ _)

theorem stop_under {writer : Writer} (h : writer.output.Anchored) (text : List Char)
    (name : String) :
    (writer.under text).stop name = (writer.stop name).under text := by
  obtain ⟨elements, output⟩ := writer
  cases elements with
  | nil => rfl
  | cons element enclosing =>
      show stop ⟨element :: enclosing, output.under text⟩ name = _
      by_cases htag : element.tag = .ofName name
      · rw [stop_of_eq htag, stop_of_eq htag, Output.append_under,
          (h.append element.closing).separate_under]
        rfl
      · rw [stop_of_ne htag, stop_of_ne htag]
        rfl

theorem text_under {writer : Writer} (h : writer.output.Anchored) (text : List Char)
    (run : String) :
    (writer.under text).text run = (writer.text run).under text := by
  have hends : (writer.under text).output.endsInNewline = writer.output.endsInNewline := by
    show ((writer.output.under text).newestFirst.head? == _) = _
    rw [Output.head?_under h.mem_newestFirst]
    rfl
  unfold Writer.text
  rw [hends]
  exact congrArg (Writer.mk writer.elements) (Output.append_under _ _ _)

/-- An event goes on under a text as it does without it. -/
theorem step_under {writer : Writer} (h : writer.output.Anchored) (text : List Char)
    (event : Event) :
    (writer.under text).step event = (writer.step event).under text := by
  cases event with
  | start name attributes => exact start_under h text name attributes
  | stop name => exact stop_under h text name
  | text run => exact text_under h text run
  | verbatim written =>
      exact congrArg (Writer.mk writer.elements) (Output.append_under _ _ _)

/-- A run goes on under a text as it does without it, and breaks off where it
does without it. -/
theorem run_under {writer : Writer} (h : writer.output.Anchored) (text : List Char)
    (events : List Event) :
    (writer.under text).run events = (writer.run events).map (·.under text) ∧
      (writer.under text).accepted events = writer.accepted events := by
  -- The newline that keeps the runs together is there after every event.
  induction events generalizing writer with
  | nil => exact ⟨rfl, rfl⟩
  | cons event events ih =>
      rw [run, run, accepted, accepted, breach?_under, step_under h]
      cases writer.breach? event with
      | some breach => exact ⟨rfl, rfl⟩
      | none =>
          obtain ⟨hrun, haccepted⟩ := ih (step_anchored h event)
          exact ⟨hrun, congrArg (· + 1) haccepted⟩

/-! ## Completed lines -/

/-- The completed lines are the same before an event writes: a bare marker is no
completed line. -/
theorem completed_kept (writer : Writer) (event : Event) :
    (writer.kept event).completed = writer.output.completed := by
  rcases writer.kept_eq event with hall | ⟨_, _, hcompleted⟩
  · rw [hall]
  · rw [hcompleted]
    exact writer.output.completed_completed

/-- No event edits a completed line. -/
theorem completed_step (writer : Writer) (event : Event) :
    writer.output.completed.newestFirst <:+
      (writer.step event).output.completed.newestFirst := by
  obtain ⟨text, htext⟩ := writer.step_output event
  rw [htext, ← completed_kept writer event]
  exact Output.completed_append _ text

/-- Completed lines stay, whatever comes. -/
theorem completed_isPrefix_receiveAll (writer : Writer) (events : List Event) :
    writer.output.completed.toList <+: (Sink.receiveAll writer events).output.toList := by
  -- Newest first, what comes before in reading order comes after.
  have hall : writer.output.completed.newestFirst <:+
      (Sink.receiveAll writer events).output.completed.newestFirst := by
    induction events generalizing writer with
    | nil => exact List.suffix_refl _
    | cons event events ih => exact (completed_step writer event).trans (ih (writer.step event))
  exact List.reverse_prefix.mpr (hall.trans (List.dropWhile_suffix _))

/-- Bounded look-back. A text in front of an output that holds a newline after its
first character changes nothing about any run from there: the run breaks off at
the same event for the same reason, or ends with the same elements open and with
the text in front of the same output. And whatever the state, no run edits the
lines that are completed in it. -/
theorem lookBack_bounded (elements : List Element) (text : List Char) {buffer : List Char}
    (hbuffer : '\n' ∈ buffer.tail) (events : List Event) :
    accepted ⟨elements, .ofList (text ++ buffer)⟩ events =
        accepted ⟨elements, .ofList buffer⟩ events ∧
      run ⟨elements, .ofList (text ++ buffer)⟩ events =
        (run ⟨elements, .ofList buffer⟩ events).map
          (fun writer => ⟨writer.elements, .ofList (text ++ writer.output.toList)⟩) ∧
      ∀ (writer : Writer) (more : List Event),
        writer.output.completed.toList <+: (Sink.receiveAll writer more).output.toList := by
  have hanchored : (Writer.mk elements (.ofList buffer)).output.Anchored :=
    Output.anchored_ofList.mpr hbuffer
  obtain ⟨hrun, haccepted⟩ := run_under hanchored text events
  refine ⟨?_, ?_, ?_⟩
  · rw [Output.ofList_append]
    exact haccepted
  · rw [Output.ofList_append]
    refine hrun.trans (congrArg (Except.map · _) (funext fun writer => ?_))
    rw [Output.ofList_append, Output.ofList_toList]
    rfl
  · exact completed_isPrefix_receiveAll

/-- A bare marker is taken back where an item starts. The line before it is left,
and so is the text in front, which looks like a bare marker too. -/
theorem lookBack_bounded_bareMarker :
    '\n' ∈ ['a', '\n', '*', ' '].tail ∧
      run ⟨[⟨.ol, .empty⟩], .ofList (['*', ' '] ++ ['a', '\n', '*', ' '])⟩
          [.start "li" .empty] =
        .ok ⟨[⟨.li, .empty⟩, ⟨.ol, .empty⟩],
          .ofList (['*', ' '] ++ ['a', '\n', '#', ' '])⟩ := by
  have hstart : run ⟨[⟨.ol, .empty⟩], .ofList ['a', '\n', '*', ' ']⟩ [.start "li" .empty] =
      .ok ⟨[⟨.li, .empty⟩, ⟨.ol, .empty⟩], .ofList ['a', '\n', '#', ' ']⟩ := by
    have htag : Tag.ofName "li" = .li := rfl
    simp only [run, breach?, step, start, htag, Element.opening_empty]
    rfl
  refine ⟨by decide, ?_⟩
  rw [(lookBack_bounded _ ['*', ' '] (by decide) _).2.1, hstart]
  rfl

end Writer

end Textile
