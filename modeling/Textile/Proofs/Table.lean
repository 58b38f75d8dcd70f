import Textile.Proofs.Outline

/-!
# Tables

A table is written with its sign in the first line and one line for every row.

Every cell and every row begins where white space stands already, so the gap before
it is there, and it leaves white space for what comes after it:

* **Cells** (`Cell.run_events`): from an output that ends in a space to one that ends
  in a space. The modifiers of a cell stand in its sign (`Cell.opening_eq`).
* **Rows** (`Row.run_events`): a row ends the line before it, and its own.

`convertEvents_table` puts the rows together.
-/

namespace Textile

open Textile.Text Textile.Unicode

/-! ## Cells, rows and tables -/

/-- A kind of cell. -/
inductive CellKind
  | data
  | header
  deriving Repr, DecidableEq

namespace CellKind

/-- The tag of a cell. -/
def tag : CellKind → Tag
  | data => .td
  | header => .th

/-- The name of the element of a cell. -/
def name : CellKind → String
  | data => "td"
  | header => "th"

/-- What a cell begins with, where it shows some modifiers. They end in a dot, which a header has
in any case, and for which a data cell has a space as well. -/
def sign (kind : CellKind) (shown : List Char) : List Char :=
  match kind with
  | data => if shown = [] then ['|'] else '|' :: (shown ++ ['.', ' '])
  | header => '|' :: '_' :: (shown ++ ['.'])

end CellKind

/-- A cell of a table: any attributes, and a text in one line without references, which may be
empty. -/
structure Cell where
  kind : CellKind
  attributes : Attributes
  text : List Char
  unescaped : '&' ∉ text
  oneLine : '\n' ∉ text

namespace Cell

/-- The events of a cell. -/
def events (cell : Cell) : List Event :=
  [.start cell.kind.name cell.attributes, .text (String.ofList cell.text), .stop cell.kind.name]

/-- The sign of a cell with its modifiers. -/
def sign (cell : Cell) : List Char :=
  cell.kind.sign (modifiers cell.attributes cell.kind.tag)

/-- A cell in the line of its row. -/
def textile (cell : Cell) : List Char :=
  cell.sign ++ cell.text ++ [' ']

end Cell

/-- A row of a table: its cells, of which there may be none. -/
structure Row where
  cells : List Cell

namespace Row

/-- The events of a row. -/
def events (row : Row) : List Event :=
  .start "tr" .empty :: (row.cells.flatMap Cell.events ++ [.stop "tr"])

/-- The line of a row. -/
def line (row : Row) : List Char :=
  ' ' :: (row.cells.flatMap Cell.textile ++ ['|'])

end Row

/-- A table with at least one row. -/
structure Table where
  rows : List Row
  rows_ne_nil : rows ≠ []

namespace Table

/-- The events of a table. -/
def events (table : Table) : List Event :=
  .start "table" .empty :: (table.rows.flatMap Row.events ++ [.stop "table"])

/-- The sign of a table. -/
def sign : List Char :=
  "table. ".toList

/-- A table in Textile: its sign, and a line for every row. -/
def textile (table : Table) : List Char :=
  sign ++ table.rows.flatMap fun row => '\n' :: row.line

end Table

/-! ## Writing a cell -/

open Output

theorem Output.separate_space_of_head? {output : Output}
    (h : output.newestFirst.head? = some ' ') : output.separate .space = output := by
  rw [separate_space, if_pos (.inl h)]

namespace CellKind

theorem ofName_name (kind : CellKind) : Tag.ofName kind.name = kind.tag := by
  cases kind <;> rfl

/-- A cell is no list item, stays in its line, and ends in a space. -/
theorem tag_spec (kind : CellKind) :
    kind.tag ≠ .li ∧ (∀ writer : Writer, writer.gap kind.tag = .space) ∧
      ∀ attributes, Element.closing ⟨kind.tag, attributes⟩ = [' '] := by
  have hsign : kind.tag.closingSign.toList = [' '] := by cases kind <;> rfl
  refine ⟨?_, ?_, fun attributes => ?_⟩
  · cases kind <;> decide
  · cases kind <;> exact fun _ => rfl
  · rw [← hsign]
    cases kind <;> rfl

/-- The start of a cell writes its sign. -/
theorem opening_eq (kind : CellKind) (attributes : Attributes) (enclosing : List Element) :
    Element.opening ⟨kind.tag, attributes⟩ enclosing =
      kind.sign (modifiers attributes kind.tag) := by
  cases kind with
  | data =>
      have hsign : Tag.td.openingSign.toList = ['|'] := rfl
      by_cases hshown : modifiers attributes .td = []
      · simp [Element.opening, tag, sign, Tag.category, hsign, hshown]
      · simp [Element.opening, tag, sign, Tag.category, hsign, hshown]
  | header =>
      have hsign : Tag.th.openingSign.toList = ['|', '_', '.'] := rfl
      simp [Element.opening, tag, sign, Tag.category, hsign, modifyDot]

/-- No sign of a cell ends in a newline. -/
theorem sign_ends (kind : CellKind) (shown : List Char) :
    ∃ before c, kind.sign shown = before ++ [c] ∧ c ≠ '\n' := by
  cases kind with
  | data =>
      by_cases hshown : shown = []
      · exact ⟨[], '|', if_pos hshown, by decide⟩
      · refine ⟨'|' :: (shown ++ ['.']), ' ', ?_, by decide⟩
        rw [sign, if_neg hshown, List.cons_append, List.append_assoc]
        rfl
  | header => exact ⟨'|' :: '_' :: shown, '.', rfl, by decide⟩

end CellKind

namespace Cell

/-- A cell as an open element. -/
def element (cell : Cell) : Element := ⟨cell.kind.tag, cell.attributes⟩

theorem head?_append_textile (cell : Cell) (output : Output) :
    (output.append cell.textile).newestFirst.head? = some ' ' := by
  simp [newestFirst_append, textile]

/-- A cell is written after a space, and a space comes after it. -/
theorem run_events (cell : Cell) (elements : List Element) {output : Output}
    (h : output.newestFirst.head? = some ' ') (events : List Event) :
    Writer.run ⟨elements, output⟩ (cell.events ++ events) =
      Writer.run ⟨elements, output.append cell.textile⟩ events := by
  obtain ⟨hli, hgap, hclosing⟩ := cell.kind.tag_spec
  have hstart : Writer.step ⟨elements, output⟩ (.start cell.kind.name cell.attributes) =
      ⟨cell.element :: elements, output.append cell.sign⟩ := by
    rw [Writer.step_start_of_ne _ cell.kind.ofName_name hli, hgap, separate_space_of_head? h,
      cell.kind.opening_eq]
    rfl
  have htext : Writer.step ⟨cell.element :: elements, output.append cell.sign⟩
      (.text (String.ofList cell.text)) =
        ⟨cell.element :: elements, output.append (cell.sign ++ cell.text)⟩ := by
    have hplain : plain (String.ofList cell.text).toList = cell.text := by
      rw [String.toList_ofList, plain_of_not_mem cell.unescaped]
    -- Where a line begins, the text would lose its white space in front.
    have hends : (output.append cell.sign).endsInNewline = false := by
      obtain ⟨before, c, hsign, hc⟩ := cell.kind.sign_ends (modifiers cell.attributes cell.kind.tag)
      simp [endsInNewline, newestFirst_append, sign, hsign, hc]
    rw [Writer.step_text hplain cell.oneLine hends, append_append]
  have hstop : Writer.step ⟨cell.element :: elements, output.append (cell.sign ++ cell.text)⟩
      (.stop cell.kind.name) = ⟨elements, output.append cell.textile⟩ := by
    have hspace := separate_space_of_head? (cell.head?_append_textile output)
    rw [Writer.step, Writer.stop_of_eq cell.kind.ofName_name.symm, element, hclosing, hgap,
      append_append]
    exact congrArg (Writer.mk elements) hspace
  show Writer.run (Writer.step (Writer.step _ _) _) (.stop cell.kind.name :: events) = _
  rw [hstart, htext, Writer.run_stop cell.kind.ofName_name.symm, hstop]

theorem run_flatMap_events (cells : List Cell) (elements : List Element) {output : Output}
    (h : output.newestFirst.head? = some ' ') (events : List Event) :
    Writer.run ⟨elements, output⟩ (cells.flatMap Cell.events ++ events) =
      Writer.run ⟨elements, output.append (cells.flatMap textile)⟩ events := by
  induction cells generalizing output with
  | nil => rfl
  | cons cell cells ih =>
      rw [List.flatMap_cons, List.append_assoc, cell.run_events elements h,
        ih (cell.head?_append_textile output), append_append, List.flatMap_cons]

end Cell

/-! ## Writing a row -/

namespace Row

/-- A row without attributes, as an open element. -/
def element : Element := ⟨.tr, .empty⟩

/-- A row ends the line before it, and its own. -/
theorem run_events (row : Row) (elements : List Element) (output : Output)
    (events : List Event) :
    Writer.run ⟨elements, output⟩ (row.events ++ events) =
      Writer.run ⟨elements, output.ended.append (row.line ++ ['\n'])⟩ events := by
  have hstart : Writer.step ⟨elements, output⟩ (.start "tr" .empty) =
      ⟨element :: elements, output.ended.append [' ']⟩ := by
    have hname : Tag.ofName "tr" = .tr := rfl
    have hgap : Writer.gap ⟨elements, output⟩ .tr = .lineBreak := rfl
    have hrow : Tag.tr.category = .row := rfl
    rw [Writer.step_start_of_ne _ hname (by decide), hgap, Element.opening_empty, if_pos hrow,
      Element.sign, if_neg (by decide)]
    rfl
  have htag : element.tag = .ofName "tr" := rfl
  have hstop (before : Output) : Writer.step ⟨element :: elements, before⟩ (.stop "tr") =
      ⟨elements, before.append ['|', '\n']⟩ := by
    have hclosing : element.closing = ['|'] := rfl
    have hvisible : isWhiteSpace '|' = false := by decide
    have hlast : (before.append ['|']).newestFirst.head? = some '|' := rfl
    obtain ⟨-, hended⟩ := separate_of_visible hlast hvisible
    rw [Writer.step, Writer.stop_of_eq htag, hclosing]
    exact congrArg (Writer.mk elements) hended
  have hspace : (output.ended.append [' ']).newestFirst.head? = some ' ' := rfl
  show Writer.run (Writer.step _ _) ((row.cells.flatMap Cell.events ++ [.stop "tr"]) ++ events) = _
  rw [hstart, List.append_assoc, Cell.run_flatMap_events _ _ hspace, List.singleton_append,
    Writer.run_stop htag, hstop, append_append, append_append, line]
  simp

/-- Rows add their lines to a line that is ended where they begin. -/
theorem run_flatMap_events (rows : List Row) (elements : List Element) {output before : Output}
    (h : output.ended = before.append ['\n']) :
    ∃ after : Output,
      Writer.run ⟨elements, output⟩ (rows.flatMap Row.events) = .ok ⟨elements, after⟩ ∧
        after.ended = (before.append (rows.flatMap fun row => '\n' :: row.line)).append ['\n'] := by
  induction rows generalizing output before with
  | nil => exact ⟨output, rfl, h⟩
  | cons row rows ih =>
      -- A row ends its line itself, so the next one adds no newline of its own.
      have hnext : (output.ended.append (row.line ++ ['\n'])).ended =
          (before.append ('\n' :: row.line)).append ['\n'] := by
        rw [ended_of_head? (by simp [newestFirst_append]), h, append_append, append_append,
          List.singleton_append, List.cons_append]
      obtain ⟨after, hrun, hended⟩ := ih hnext
      refine ⟨after, ?_, ?_⟩
      · rw [List.flatMap_cons, row.run_events, hrun]
      · rw [hended, append_append before, List.flatMap_cons]

end Row

/-! ## Writing a table -/

namespace Table

/-- A table ends in the bar that ends its last row. -/
theorem getLast?_textile (table : Table) : table.textile.getLast? = some '|' := by
  obtain ⟨rows, hrows⟩ := table
  obtain ⟨init, last, rfl⟩ := (List.eq_nil_or_concat' rows).resolve_left hrows
  have hline : ('\n' :: last.line).getLast? = some '|' := by
    rw [Row.line, ← List.cons_append, ← List.cons_append, List.getLast?_concat]
  rw [textile, List.flatMap_append, List.flatMap_singleton, List.getLast?_append,
    List.getLast?_append, hline, Option.some_or, Option.some_or]

/-- A table begins with a visible character and ends in one. -/
theorem trim_textile (table : Table) : trim table.textile = table.textile := by
  have hsign : sign.head? = some 't' := rfl
  have hhead : table.textile.head? = some 't' := by
    rw [textile, List.head?_append, hsign, Option.some_or]
  have hletter : isWhiteSpace 't' = false := by decide
  have hbar : isWhiteSpace '|' = false := by decide
  refine trim_of_ends (fun c hc => ?_) (fun c hc => ?_)
  · rw [hhead] at hc
    exact Option.some.inj hc ▸ hletter
  · rw [getLast?_textile] at hc
    exact Option.some.inj hc ▸ hbar

/-- The output once a table is begun. -/
def begun : Output := Output.empty.append ('\n' :: sign)

theorem ended_begun : begun.ended = begun.append ['\n'] := by
  have hspace : begun.newestFirst.head? = some ' ' := by decide
  rw [ended, separate_lineBreak, hspace, if_neg (by decide), append_singleton]

/-- A table by itself begins with the first newline of a blank line, and its last line is ended
but for white space. -/
theorem run_events (table : Table) :
    ∃ output, Writer.empty.run table.events = .ok ⟨[], output⟩ ∧
      trim output.toList = trim table.textile := by
  have hname : Tag.ofName "table" = .table := rfl
  have hblock : Tag.table.category = .block := rfl
  have hstart : Writer.step ⟨[], .empty⟩ (.start "table" .empty) =
      ⟨[⟨.table, .empty⟩], begun⟩ :=
    (Writer.step_start_block hname hblock [] .empty).trans rfl
  obtain ⟨after, hrun, hended⟩ :=
    Row.run_flatMap_events table.rows [⟨.table, .empty⟩] ended_begun
  have hstop : Writer.run ⟨[⟨.table, .empty⟩], after⟩ [.stop "table"] =
      .ok ⟨[], after.separate .blankLine⟩ := by
    have htag : (⟨.table, .empty⟩ : Element).tag = .ofName "table" := rfl
    have hclosing : Element.closing ⟨.table, .empty⟩ = [] := rfl
    rw [Writer.run_stop htag, Writer.step_stop_block hname hblock hclosing]
    rfl
  refine ⟨after.separate .blankLine, ?_, ?_⟩
  · show Writer.run (Writer.step ⟨[], .empty⟩ _) (_ ++ [_]) = _
    rw [hstart, Writer.run_append_of_ok hrun, hstop]
  · -- The gap after the table is not that after a row, but trimming takes either.
    have hnewline : isBlank ['\n'] = true := by decide
    have hbegun : begun.toList = ['\n'] ++ sign := rfl
    have htext : after.ended.toList = ['\n'] ++ table.textile ++ ['\n'] := by
      simp only [hended, Output.toList_append, hbegun, textile, List.append_assoc]
    rw [trim_toList_separate, ← trim_toList_separate after .lineBreak, ← ended, htext,
      trim_append_right hnewline, trim_append_left hnewline]

end Table

/-- A table is written as its sign and a line for every row, in order. The line of a row holds its
cells, in order: each after a bar and with its modifiers in front of its text, and the line ends in
a bar. Nothing else stands between rows and cells, whatever their texts are. -/
theorem convertEvents_table (table : Table) :
    convertEvents {} table.events = .ok (String.ofList table.textile) := by
  obtain ⟨output, hrun, houtput⟩ := table.run_events
  rw [convertEvents, hrun]
  show Except.ok (trimString (String.ofList _)) = _
  rw [trimString, String.toList_ofList, houtput, table.trim_textile]

/-- A table with cells of both kinds, with modifiers and without, with blank texts, and with a row
that has no cells. -/
theorem convertEvents_table_kinds :
    convertEvents {} [.start "table" .empty, .start "tr" .empty,
        .start "th" (.ofList [("class", "x")]), .text "a", .stop "th",
        .start "th" .empty, .text " ", .stop "th", .stop "tr", .start "tr" .empty,
        .start "td" (.ofList [("style", "text-align: right"), ("colspan", "2")]), .text "* b",
        .stop "td", .start "td" .empty, .text "", .stop "td", .stop "tr",
        .start "tr" .empty, .stop "tr", .stop "table"] =
      .ok "table. \n |_(x).a |_.  |\n |>\\2. * b | |\n |" := by
  have hwritten := convertEvents_table ⟨[
    ⟨[⟨.header, .ofList [("class", "x")], "a".toList, by decide, by decide⟩,
      ⟨.header, .empty, " ".toList, by decide, by decide⟩]⟩,
    ⟨[⟨.data, .ofList [("style", "text-align: right"), ("colspan", "2")], "* b".toList, by decide,
        by decide⟩,
      ⟨.data, .empty, [], by decide, by decide⟩]⟩,
    ⟨[]⟩], by decide⟩
  exact hwritten.trans (by decide +kernel)

end Textile
