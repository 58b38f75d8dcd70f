import Textile.Output
import Textile.Proofs.Text.Trim

/-!
# The end of the output

What is written into the output hangs on its end alone. This file says how.

* **Gaps** (`separate_space`, `separate_lineBreak`, `separate_blankLine`): each
  gap writes one character or none. A blank line is written as one newline,
  unless the output ends in two already; the other newline is the one that the
  line before ends in.
* **Lines** (`lastLine`, `completed`): the output is divided after its last
  newline. Writing never takes a completed line back (`completed_append`).
* **Bare markers** (`dropBareMarker_eq`): the one edit of the output takes the
  last line back if it is a bare marker, and does nothing otherwise.
-/

namespace Textile.Output

open Textile.Text

/-! ## Writing -/

theorem append_nil (output : Output) : output.append [] = output := rfl

theorem append_singleton (output : Output) (c : Char) :
    output.append [c] = output.push c := rfl

theorem append_append (output : Output) (before after : List Char) :
    (output.append before).append after = output.append (before ++ after) := by
  simp [append, List.reverseAux_eq]

theorem newestFirst_append (output : Output) (text : List Char) :
    (output.append text).newestFirst = text.reverse ++ output.newestFirst := by
  simp [append, List.reverseAux_eq]

/-! ## Gaps -/

/-- A space is written after anything but white space that does its work. -/
theorem separate_space (output : Output) :
    output.separate .space =
      if output.newestFirst.head? = some ' ' ∨ output.newestFirst.head? = some '\n' then
        output
      else output.push ' ' := by
  obtain ⟨newestFirst⟩ := output
  cases newestFirst with
  | nil => rfl
  | cons c rest => simp [separate, Gap.chars, pushMissing]

/-- A line is ended once. -/
theorem separate_lineBreak (output : Output) :
    output.separate .lineBreak =
      if output.newestFirst.head? = some '\n' then output else output.push '\n' := by
  obtain ⟨newestFirst⟩ := output
  cases newestFirst with
  | nil => rfl
  | cons c rest => simp [separate, Gap.chars, pushMissing]

/-- Of a blank line at most one newline is written: the first of its two is
compared with the last character but one, and the second with whatever is last
then. -/
theorem separate_blankLine (output : Output) :
    output.separate .blankLine =
      if output.newestFirst.take 2 = ['\n', '\n'] then output else output.push '\n' := by
  obtain ⟨newestFirst⟩ := output
  match newestFirst with
  | [] => rfl
  | [c] => simp [separate, Gap.chars, pushMissing, push]
  | c :: d :: rest =>
      by_cases hd : d = '\n' <;> by_cases hc : c = '\n' <;>
        simp [separate, Gap.chars, pushMissing, push, hd, hc]

/-- A gap writes one character of white space, or nothing. -/
theorem separate_eq_append (output : Output) (gap : Gap) :
    ∃ white, output.separate gap = output.append white ∧
      (white = [] ∨ white = [' '] ∨ white = ['\n']) := by
  cases gap with
  | blankLine =>
      rw [separate_blankLine]
      split
      · exact ⟨[], rfl, .inl rfl⟩
      · exact ⟨['\n'], rfl, .inr (.inr rfl)⟩
  | lineBreak =>
      rw [separate_lineBreak]
      split
      · exact ⟨[], rfl, .inl rfl⟩
      · exact ⟨['\n'], rfl, .inr (.inr rfl)⟩
  | space =>
      rw [separate_space]
      split
      · exact ⟨[], rfl, .inl rfl⟩
      · exact ⟨[' '], rfl, .inr (.inl rfl)⟩

/-- A gap that is no space ends a line. -/
theorem endsInNewline_separate (output : Output) (gap : Gap) :
    (output.separate gap).endsInNewline = (decide (gap ≠ .space) || output.endsInNewline) := by
  cases gap with
  | blankLine =>
      rw [separate_blankLine]
      split
      · next htake =>
          obtain ⟨newestFirst⟩ := output
          cases newestFirst with
          | nil => cases htake
          | cons c rest =>
              obtain ⟨rfl, -⟩ := List.cons.inj htake
              rfl
      · rfl
  | lineBreak =>
      rw [separate_lineBreak]
      split
      · next hhead => simp [endsInNewline, hhead]
      · rfl
  | space =>
      rw [separate_space]
      split
      · rfl
      · next hhead =>
          rw [not_or] at hhead
          simp [endsInNewline, push, hhead.2]

theorem newestFirst_of_endsInNewline {output : Output} (h : output.endsInNewline = true) :
    ∃ older, output.newestFirst = '\n' :: older := by
  have hhead : output.newestFirst.head? = some '\n' := by simpa [endsInNewline] using h
  exact List.head?_eq_some_iff.mp hhead

/-- A line that is ended needs no line break. -/
theorem separate_lineBreak_of_endsInNewline {output : Output}
    (h : output.endsInNewline = true) : output.separate .lineBreak = output := by
  obtain ⟨older, holder⟩ := newestFirst_of_endsInNewline h
  rw [separate_lineBreak, holder]
  exact if_pos rfl

/-- No gap outlives trimming. -/
theorem trim_toList_separate (output : Output) (gap : Gap) :
    trim (output.separate gap).toList = trim output.toList := by
  obtain ⟨white, hwhite, hblank⟩ := output.separate_eq_append gap
  rw [hwhite, toList_append]
  apply trim_append_right
  rcases hblank with rfl | rfl | rfl <;> decide

/-! ## Lines -/

/-- The characters after the last newline, newest first. -/
def lastLine (output : Output) : List Char :=
  output.newestFirst.takeWhile (· ≠ '\n')

/-- The output up to its last newline, the newline included. -/
def completed (output : Output) : Output :=
  ⟨output.newestFirst.dropWhile (· ≠ '\n')⟩

theorem completed_completed (output : Output) :
    output.completed.completed = output.completed :=
  congrArg Output.mk (List.dropWhile_idempotent _ output.newestFirst)

/-- After the completed lines, no line has begun. -/
theorem lastLine_completed (output : Output) : output.completed.lastLine = [] := by
  rw [lastLine, completed]
  cases hrest : output.newestFirst.dropWhile (· ≠ '\n') with
  | nil => rfl
  | cons c rest =>
      have hc := List.head?_dropWhile_not (· ≠ '\n') output.newestFirst
      rw [hrest] at hc
      exact List.takeWhile_cons_of_neg (by simpa using hc)

theorem lastLine_separate_lineBreak (output : Output) :
    (output.separate .lineBreak).lastLine = [] := by
  rw [separate_lineBreak]
  split
  · next hhead =>
      obtain ⟨rest, hrest⟩ := List.head?_eq_some_iff.mp hhead
      rw [lastLine, hrest]
      rfl
  · rfl

/-- What is written after the completed lines leaves them as they are. -/
theorem completed_append (output : Output) (text : List Char) :
    output.completed.newestFirst <:+ (output.append text).completed.newestFirst := by
  rw [completed, completed, newestFirst_append]
  generalize text.reverse = newer
  induction newer with
  | nil => exact List.suffix_refl _
  | cons c newer ih =>
      by_cases hc : c = '\n'
      · rw [List.cons_append, List.dropWhile_cons_of_neg (by simpa using hc)]
        exact (List.dropWhile_suffix _).trans
          ((List.suffix_append newer _).trans (List.suffix_cons c _))
      · rw [List.cons_append, List.dropWhile_cons_of_pos (by simpa using hc)]
        exact ih

/-! ## Bare markers -/

/-- Whether a line, newest character first, holds only item markers and one space
after them. -/
def isBareMarker : List Char → Bool
  | ' ' :: markers => !markers.isEmpty && markers.all isItemMarker
  | _ => false

/-- No newline is an item marker, so a run of markers stays within its line. -/
theorem ne_newline_of_isItemMarker {c : Char} (h : isItemMarker c = true) : c ≠ '\n' := by
  rintro rfl
  exact absurd h (by decide)

/-- A line is a run of markers, and what follows it starts with none. -/
theorem exists_markers (line : List Char) :
    ∃ markers rest, line = markers ++ rest ∧ (∀ c ∈ markers, isItemMarker c = true) ∧
      ∀ c, rest.head? = some c → isItemMarker c = false := by
  refine ⟨line.takeWhile isItemMarker, line.dropWhile isItemMarker,
    List.takeWhile_append_dropWhile.symm, fun c hc => List.mem_takeWhile_imp hc, ?_⟩
  intro c hc
  have hnot := List.head?_dropWhile_not isItemMarker line
  rw [hc] at hnot
  simpa using hnot

/-- Markers and what follows them, newest first: either the line ends there, or
it holds something that is no marker. -/
theorem dropBareMarker_of_markers {markers rest : List Char}
    (hmarkers : ∀ c ∈ markers, isItemMarker c = true)
    (hrest : ∀ c, rest.head? = some c → isItemMarker c = false) :
    dropBareMarker ⟨' ' :: (markers ++ rest)⟩ =
      if markers ≠ [] ∧ (rest = [] ∨ rest.head? = some '\n') then ⟨rest⟩
      else ⟨' ' :: (markers ++ rest)⟩ := by
  have hnone : rest.takeWhile isItemMarker = [] := by
    cases rest with
    | nil => rfl
    | cons c rest => exact List.takeWhile_cons_of_neg (by simp [hrest c rfl])
  have hall : rest.dropWhile isItemMarker = rest := by
    cases rest with
    | nil => rfl
    | cons c rest => exact List.dropWhile_cons_of_neg (by simp [hrest c rfl])
  simp only [dropBareMarker, List.takeWhile_append_of_pos hmarkers,
    List.dropWhile_append_of_pos hmarkers, hnone, hall, List.append_nil]
  cases markers with
  | nil => simp
  | cons marker markers =>
      cases rest with
      | nil => simp [empty]
      | cons c rest => by_cases hc : c = '\n' <;> simp [hc]

/-- The last line is taken back exactly if it is a bare marker. -/
theorem dropBareMarker_eq (output : Output) :
    output.dropBareMarker =
      if isBareMarker output.lastLine then output.completed else output := by
  obtain ⟨newestFirst⟩ := output
  cases newestFirst with
  | nil => rfl
  | cons c line =>
      by_cases hspace : c = ' '
      · -- Markers do not leave their line, so the test for its start is one for the line.
        subst hspace
        obtain ⟨markers, rest, rfl, hmarkers, hrest⟩ := exists_markers line
        have hinline : ∀ c ∈ markers, decide (c ≠ '\n') = true := fun c hc =>
          decide_eq_true (ne_newline_of_isItemMarker (hmarkers c hc))
        have hall : markers.all isItemMarker = true := List.all_eq_true.mpr hmarkers
        rw [dropBareMarker_of_markers hmarkers hrest, lastLine, completed,
          List.takeWhile_cons_of_pos (by decide), List.dropWhile_cons_of_pos (by decide),
          List.takeWhile_append_of_pos hinline, List.dropWhile_append_of_pos hinline]
        cases rest with
        | nil => simp [isBareMarker, hall]
        | cons d rest =>
            by_cases hd : d = '\n'
            · simp [isBareMarker, hall, hd]
            · simp [isBareMarker, hall, hd, hrest d rfl]
      · have hbare : isBareMarker (lastLine ⟨c :: line⟩) = false := by
          by_cases hc : c = '\n'
          · simp [lastLine, isBareMarker, hc]
          · simp [lastLine, isBareMarker, hc, hspace]
        rw [hbare]
        simp [dropBareMarker, hspace]

end Textile.Output
