import Textile.Proofs.Output

/-!
# Gaps

A gap is written character by character, and each character is compared with the output as
the ones before it have left it. What comes of that hangs on the end of the output alone.

* **What is missing** (`Gap.missing`): at most one character, be the gap of one or two.
* **Written gaps** (`Output.toList_separate`): what the output lacks of a gap is written, and
  nothing else. So a gap that is complete is left as it is
  (`Output.separate_of_missing_eq_nil`).

`Output.separate_completes` says after how many times each gap is complete.
-/

namespace Textile

/-! ## What is missing -/

namespace Gap

/-- What a text lacks of the gap that is to follow it. -/
def missing (gap : Gap) (text : List Char) : List Char :=
  match gap with
  | blankLine => if ['\n', '\n'] <:+ text then [] else ['\n']
  | lineBreak => if ['\n'] <:+ text then [] else ['\n']
  | space => if [' '] <:+ text ∨ ['\n'] <:+ text then [] else [' ']

theorem length_missing_le (gap : Gap) (text : List Char) : (gap.missing text).length ≤ 1 := by
  cases gap with
  | blankLine => rw [missing]; split <;> simp
  | lineBreak => rw [missing]; split <;> simp
  | space => rw [missing]; split <;> simp

/-- Once it has been asked for, nothing is missing of a gap of one character. -/
theorem missing_append_missing {gap : Gap} (h : gap ≠ .blankLine) (text : List Char) :
    gap.missing (text ++ gap.missing text) = [] := by
  cases gap with
  | blankLine => exact absurd rfl h
  | lineBreak =>
      by_cases hends : ['\n'] <:+ text
      · simp [missing, hends]
      · simp [missing, hends]
  | space =>
      by_cases hends : [' '] <:+ text ∨ ['\n'] <:+ text
      · simp [missing, hends]
      · simp [missing, hends]

theorem newline_suffix_lineBreak (text : List Char) :
    ['\n'] <:+ text ++ lineBreak.missing text := by
  by_cases hends : ['\n'] <:+ text
  · rwa [missing, if_pos hends, List.append_nil]
  · rw [missing, if_neg hends]
    exact List.suffix_append text ['\n']

/-- Once a blank line has been asked for, the line before it is ended. -/
theorem newline_suffix_blankLine (text : List Char) :
    ['\n'] <:+ text ++ blankLine.missing text := by
  by_cases hends : ['\n', '\n'] <:+ text
  · rw [missing, if_pos hends, List.append_nil]
    exact (List.suffix_cons '\n' ['\n']).trans hends
  · rw [missing, if_neg hends]
    exact List.suffix_append text ['\n']

/-- Where the line before it is ended, a blank line is complete once it has been asked for. -/
theorem newlines_suffix_blankLine {text : List Char} (h : ['\n'] <:+ text) :
    ['\n', '\n'] <:+ text ++ blankLine.missing text := by
  by_cases hends : ['\n', '\n'] <:+ text
  · rwa [missing, if_pos hends, List.append_nil]
  · obtain ⟨before, rfl⟩ := h
    rw [missing, if_neg hends, List.append_assoc]
    exact List.suffix_append before ['\n', '\n']

end Gap

/-! ## Written gaps -/

namespace Output

/-- The end of the output comes first in it, newest first. -/
theorem suffix_toList_iff {output : Output} {text : List Char} :
    text <:+ output.toList ↔ output.newestFirst.take text.length = text.reverse := by
  rw [toList, ← List.reverse_prefix, List.reverse_reverse, List.prefix_iff_eq_take,
    List.length_reverse, eq_comm]

theorem head?_eq_some_iff {output : Output} {c : Char} :
    output.newestFirst.head? = some c ↔ [c] <:+ output.toList := by
  rw [suffix_toList_iff, List.length_singleton, List.reverse_singleton]
  cases output.newestFirst with
  | nil => simp
  | cons d rest => simp

theorem take_two_eq_iff {output : Output} :
    output.newestFirst.take 2 = ['\n', '\n'] ↔ ['\n', '\n'] <:+ output.toList := by
  rw [suffix_toList_iff]
  rfl

/-- The walk along the characters of a gap comes to this: what the output lacks of the gap
is written. -/
theorem toList_separate (output : Output) (gap : Gap) :
    (output.separate gap).toList = output.toList ++ gap.missing output.toList := by
  cases gap with
  | blankLine =>
      simp only [separate_blankLine, take_two_eq_iff, Gap.missing]
      split
      · rw [List.append_nil]
      · rw [toList_push]
  | lineBreak =>
      simp only [separate_lineBreak, head?_eq_some_iff, Gap.missing]
      split
      · rw [List.append_nil]
      · rw [toList_push]
  | space =>
      simp only [separate_space, head?_eq_some_iff, Gap.missing]
      split
      · rw [List.append_nil]
      · rw [toList_push]

/-- What is missing of a gap is written like a text. -/
theorem separate_eq_missing (output : Output) (gap : Gap) :
    output.separate gap = output.append (gap.missing output.toList) := by
  have hsame := output.toList_separate gap
  rw [← toList_append] at hsame
  exact congrArg Output.mk (List.reverse_injective hsame)

/-- A gap that is complete is left as it is. -/
theorem separate_of_missing_eq_nil {output : Output} {gap : Gap}
    (h : gap.missing output.toList = []) : output.separate gap = output := by
  rw [separate_eq_missing, h, append_nil]

theorem separate_separate {gap : Gap} (h : gap ≠ .blankLine) (output : Output) :
    (output.separate gap).separate gap = output.separate gap := by
  apply separate_of_missing_eq_nil
  rw [toList_separate]
  exact Gap.missing_append_missing h output.toList

/-- A space is missing from a line that is not ended and does not end in a space. -/
theorem missing_space (output : Output) :
    Gap.space.missing output.toList =
      if output.endsInNewline = true ∨ output.lastLine.head? = some ' ' then [] else [' '] := by
  simp only [Gap.missing, ← head?_eq_some_iff]
  obtain ⟨newestFirst⟩ := output
  cases newestFirst with
  | nil => rfl
  | cons c rest =>
      by_cases hc : c = '\n'
      · simp [endsInNewline, lastLine, hc]
      · simp [endsInNewline, lastLine, hc]

/-- Every gap is completed by one character at a time, or by none, whatever the output ends
in: a blank line by a newline, unless two are there; a line break by a newline, unless one is
there; a space by a space, unless a space or a newline is there. A line break and a space are
complete after one time, and a blank line is after two. -/
theorem separate_completes (output : Output) :
    (∀ gap : Gap, (output.separate gap).toList = output.toList ++ gap.missing output.toList ∧
      (gap.missing output.toList).length ≤ 1) ∧
      (output.separate .lineBreak).separate .lineBreak = output.separate .lineBreak ∧
      (output.separate .space).separate .space = output.separate .space ∧
      ['\n', '\n'] <:+ ((output.separate .blankLine).separate .blankLine).toList ∧
      ((output.separate .blankLine).separate .blankLine).separate .blankLine =
        (output.separate .blankLine).separate .blankLine := by
  have hone : ['\n'] <:+ (output.separate .blankLine).toList := by
    rw [toList_separate]
    exact Gap.newline_suffix_blankLine output.toList
  have htwo : ['\n', '\n'] <:+ ((output.separate .blankLine).separate .blankLine).toList := by
    rw [toList_separate]
    exact Gap.newlines_suffix_blankLine hone
  refine ⟨fun gap => ⟨output.toList_separate gap, gap.length_missing_le output.toList⟩,
    ?_, ?_, htwo, ?_⟩
  · exact separate_separate (by decide) output
  · exact separate_separate (by decide) output
  · exact separate_of_missing_eq_nil (if_pos htwo)

end Output

end Textile
