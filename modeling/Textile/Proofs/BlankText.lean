import Textile.Proofs.Block
import Textile.Proofs.Junction

/-!
# Blank text

White space between the elements of a document is text as well. Where it stands at the
start of a line, it is written as nothing.

* **What is written of it** (`writtenRun_of_isBlank`): nothing where a line begins, and
  nothing within a line if it ends in a newline. Otherwise all of it is written, with spaces
  for its newlines.
* **Blank lines** (`separate_blankLine_of_endsInNewline`): where a line is ended already, the
  gap around a block brings the newlines there up to two.

`Writer.blank_between_blocks` puts these together for what may stand between two blocks, two
items or two rows.
-/

namespace Textile

open Textile.Text

/-! ## What is written of blank text -/

namespace Text

theorem isBlank_inOneLine (cs : List Char) : isBlank (inOneLine cs) = isBlank cs := by
  rw [isBlank, inOneLine, List.all_map, isWhiteSpace_newlineToSpace, isBlank]

/-- Blank text has no references. -/
theorem plain_of_isBlank {run : List Char} (h : isBlank run = true) : plain run = run :=
  plain_of_not_mem (not_mem_of_isBlank (by decide) h)

theorem writtenRun_of_isBlank {run : List Char} (h : isBlank run = true) (atLineStart : Bool) :
    writtenRun run atLineStart =
      if atLineStart = true ∨ run.getLast? = some '\n' then [] else inOneLine run := by
  have hline : isBlank (inOneLine run) = true := by rwa [isBlank_inOneLine]
  have hstart : trimStart (inOneLine run) = [] := isBlank_iff_trimStart_eq_nil.mp hline
  have hend : trimEnd (inOneLine run) = [] := trimEnd_append hline []
  have hwritten : writtenRun run atLineStart =
      let line := if run.getLast? = some '\n' then trimEnd (inOneLine run) else inOneLine run
      if atLineStart then trimStart line else line := by
    rw [writtenRun, plain_of_isBlank h]
    rfl
  rw [hwritten, hend]
  cases atLineStart with
  | true =>
      by_cases hlast : run.getLast? = some '\n'
      · simp [hlast, trimStart]
      · simp [hlast, hstart]
  | false => simp

end Text

/-! ## Blank lines -/

namespace Output

/-- The number of newlines that the output ends in. -/
def endNewlines (output : Output) : Nat :=
  (output.newestFirst.takeWhile (· = '\n')).length

/-- After the end of a line, a blank line is made by bringing the newlines up to two. -/
theorem separate_blankLine_of_endsInNewline {output : Output}
    (h : output.endsInNewline = true) :
    output.separate .blankLine =
      output.append (List.replicate (2 - output.endNewlines) '\n') := by
  obtain ⟨older, holder⟩ := newestFirst_of_endsInNewline h
  obtain rfl : output = ⟨'\n' :: older⟩ := congrArg Output.mk holder
  cases older with
  | nil => rfl
  | cons d older =>
      rw [separate_blankLine]
      by_cases hd : d = '\n'
      · have hlength : 2 - endNewlines ⟨'\n' :: d :: older⟩ = 0 := by simp [endNewlines, hd]
        rw [hlength, if_pos (by simp [hd])]
        rfl
      · have hlength : 2 - endNewlines ⟨'\n' :: d :: older⟩ = 1 := by simp [endNewlines, hd]
        rw [hlength, if_neg (by simp [hd])]
        rfl

end Output

/-! ## Between blocks -/

namespace Writer

/-- Where a line begins, blank text changes nothing. -/
theorem run_blank (writer : Writer) (hends : writer.output.endsInNewline = true)
    {runs : List String} (hruns : ∀ run ∈ runs, isBlank run.toList = true)
    (events : List Event) : writer.run (runs.map Event.text ++ events) = writer.run events := by
  induction runs with
  | nil => rfl
  | cons run runs ih =>
      obtain ⟨hrun, hrest⟩ := List.forall_mem_cons.mp hruns
      have hwritten : writtenRun run.toList writer.output.endsInNewline = [] := by
        rw [writtenRun_of_isBlank hrun, if_pos (.inl hends)]
      have hsame : writer.text run = writer := by
        rw [text, hwritten, Output.append_nil]
      show (writer.text run).run (runs.map Event.text ++ events) = _
      rw [hsame, ih hrest]

/-- Outside all lists, the gap around a block is a blank line. -/
theorem blockGap_outside {enclosing : List Element}
    (houtside : ∀ around ∈ enclosing, around.tag.keepsLine = false) :
    blockGap enclosing = .blankLine :=
  if_neg (by simpa using houtside)

/-- The gaps that end a line are those after a block outside all lists, and after an item or a
row. -/
theorem gap_ne_space {element : Element} {enclosing : List Element}
    (h : (element.tag.category = .block ∧ ∀ around ∈ enclosing, around.tag.keepsLine = false) ∨
      element.tag = .li ∨ element.tag = .tr) (output : Output) :
    gap ⟨enclosing, output⟩ element.tag ≠ .space := by
  rcases h with ⟨hblock, houtside⟩ | hli | htr
  · rw [gap_of_block hblock, blockGap_outside houtside]
    decide
  · rw [hli]
    exact fun h => by cases h
  · rw [htr]
    exact fun h => by cases h

/-- Blank text between blocks is ignored. After the end of a block outside all lists, and
after the end of any item or row, any number of blank texts leave the writer as it is. If a
block then starts outside all lists, what it writes comes after the output that ended there
with as many newlines as bring those at its end up to two. -/
theorem blank_between_blocks {element : Element} {name : String}
    (htag : element.tag = .ofName name) {enclosing : List Element}
    (hends : (element.tag.category = .block ∧
        ∀ around ∈ enclosing, around.tag.keepsLine = false) ∨
      element.tag = .li ∨ element.tag = .tr)
    (output : Output) {runs : List String}
    (hruns : ∀ run ∈ runs, isBlank run.toList = true) :
    ∃ closed : Output,
      run ⟨element :: enclosing, output⟩ [.stop name] = .ok ⟨enclosing, closed⟩ ∧
      run ⟨element :: enclosing, output⟩ (.stop name :: runs.map Event.text) =
        .ok ⟨enclosing, closed⟩ ∧
      ∀ next attributes, (Tag.ofName next).category = .block →
        (∀ around ∈ enclosing, around.tag.keepsLine = false) →
        run ⟨element :: enclosing, output⟩
            (.stop name :: (runs.map Event.text ++ [.start next attributes])) =
          .ok ⟨⟨.ofName next, attributes⟩ :: enclosing,
            (closed.append (List.replicate (2 - closed.endNewlines) '\n')).append
              (Element.opening ⟨.ofName next, attributes⟩ enclosing)⟩ := by
  let outer : Writer := ⟨enclosing, output⟩
  let closed := (output.append element.closing).separate (outer.gap element.tag)
  have hline : closed.endsInNewline = true := by
    rw [Output.endsInNewline_separate, decide_eq_true (gap_ne_space hends output),
      Bool.true_or]
  have hstop (events : List Event) :
      run ⟨element :: enclosing, output⟩ (.stop name :: events) =
        run ⟨enclosing, closed⟩ events := by
    rw [run_stop htag, step, stop_of_eq htag]
  refine ⟨closed, hstop [], ?_, fun next attributes hblock houtside => ?_⟩
  · have hblank := run_blank ⟨enclosing, closed⟩ hline hruns []
    rw [List.append_nil] at hblank
    rw [hstop, hblank]
    rfl
  · have hstart := step_start_of_block rfl hblock attributes enclosing closed
    rw [blockGap_outside houtside, Output.separate_blankLine_of_endsInNewline hline] at hstart
    rw [hstop, run_blank ⟨enclosing, closed⟩ hline hruns, ← hstart]
    rfl

/-- A paragraph, and a heading some blank lines further on. -/
theorem blank_between_blocks_heading :
    (Element.mk .p .empty).tag = .ofName "p" ∧ Tag.p.category = .block ∧
      (∀ run ∈ ["\n  \n", " \t"], isBlank run.toList = true) ∧
      run ⟨[⟨.p, .empty⟩], Output.empty.append "p. x".toList⟩
          [.stop "p", .text "\n  \n", .text " \t", .start "h2" .empty] =
        .ok ⟨[⟨.h2, .empty⟩], Output.empty.append "p. x\n\nh2. ".toList⟩ := by
  have htag : (Element.mk .p .empty).tag = .ofName "p" := rfl
  have hheading : Tag.ofName "h2" = .h2 := rfl
  have houtside : ∀ around ∈ ([] : List Element), around.tag.keepsLine = false :=
    List.forall_mem_nil _
  have hruns : ∀ run ∈ ["\n  \n", " \t"], isBlank run.toList = true := by decide
  obtain ⟨closed, hclosed, -, hnext⟩ :=
    blank_between_blocks htag (.inl ⟨rfl, houtside⟩) (Output.empty.append "p. x".toList) hruns
  -- The end of the paragraph leaves one newline.
  obtain rfl : closed = Output.empty.append "p. x\n".toList :=
    (Writer.mk.inj (Except.ok.inj hclosed)).2.symm
  refine ⟨htag, rfl, hruns, (hnext "h2" .empty rfl houtside).trans ?_⟩
  rw [hheading, Element.opening_empty]
  rfl

end Writer

end Textile
