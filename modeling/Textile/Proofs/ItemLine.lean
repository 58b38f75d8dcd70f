import Textile.Proofs.Matching
import Textile.Proofs.Newlines

/-!
# The line of an item

Blocks, tables and phrases in a list item are all written into the line of the item: inside a
list no gap is wider than a space, but for those around items and rows.

* **Growth** (`Writer.exists_written`): where no item starts, nothing is taken back, and the
  output only grows.
* **Content in a list** (`Matched.run_inLine`): matched events that bring no newline of their
  own write none, however deep they are nested. The list around them is open all along.

`Writer.item_one_line` follows an item from its marker to its end.
-/

namespace Textile

open Textile.Text

/-! ## Growth -/

namespace Writer

theorem exists_written_step (writer : Writer) {event : Event} (h : ¬event.StartsItem) :
    ∃ text, (writer.step event).output = writer.output.append text := by
  obtain ⟨text, htext⟩ := writer.step_output event
  rcases writer.kept_eq event with hall | ⟨hitem, _, _⟩
  · exact ⟨text, by rw [htext, hall]⟩
  · exact absurd hitem h

/-- Where no item starts, the output only grows. -/
theorem exists_written (writer : Writer) {events : List Event}
    (h : ∀ event ∈ events, ¬event.StartsItem) :
    ∃ text, (Sink.receiveAll writer events).output = writer.output.append text := by
  induction events generalizing writer with
  | nil => exact ⟨[], rfl⟩
  | cons event events ih =>
      obtain ⟨hevent, hrest⟩ := List.forall_mem_cons.mp h
      obtain ⟨first, hfirst⟩ := writer.exists_written_step hevent
      obtain ⟨more, hmore⟩ := ih (writer.step event) hrest
      exact ⟨first ++ more, by rw [receiveAll_cons, hmore, hfirst, Output.append_append]⟩

end Writer

theorem Output.append_left_inj {output : Output} {text other : List Char}
    (h : output.append text = output.append other) : text = other := by
  have htoList := congrArg Output.toList h
  rw [toList_append, toList_append] at htoList
  exact List.append_cancel_left htoList

theorem Output.endsInNewline_append_of_line {line : List Char} (hne : line ≠ [])
    (hline : '\n' ∉ line) (output : Output) :
    (output.append line).endsInNewline = false := by
  have hhead : (output.append line).newestFirst.head? = line.getLast? := by
    rw [newestFirst_append, List.head?_append_of_ne_nil _ (by simpa using hne),
      List.head?_reverse]
  rw [endsInNewline, hhead, beq_eq_false_iff_ne]
  exact fun hlast => hline (List.mem_of_getLast? hlast)

/-- A line that is not ended yet is ended by one newline. -/
theorem Output.separate_lineBreak_of_line {line : List Char} (hne : line ≠ [])
    (hline : '\n' ∉ line) (output : Output) :
    (output.append line).separate .lineBreak = output.append (line ++ ['\n']) := by
  have hends := output.endsInNewline_append_of_line hne hline
  rw [endsInNewline, beq_eq_false_iff_ne] at hends
  rw [separate_lineBreak, if_neg hends, ← append_singleton, append_append]

/-! ## Content in a list -/

/-- An event that stays in its line in any list: it starts no item and no row, and brings no
newline of its own. -/
def Event.StaysInLine : Event → Prop
  | .start name attributes =>
      Tag.ofName name ∉ .li :: .tr :: Tag.breaking ∧
        ∀ entry ∈ attributes.entries, '\n' ∉ entry.2.toList
  | .stop _ | .text _ => True
  | .verbatim _ => False

theorem Event.StaysInLine.not_startsItem {event : Event} (h : event.StaysInLine) :
    ¬event.StartsItem := by
  cases event with
  | start name attributes => exact fun hli => h.1 (hli ▸ List.mem_cons_self)
  | stop name => exact id
  | text run => exact id
  | verbatim text => exact id

/-- Some list is open, which keeps blocks in their line. -/
def InList (elements : List Element) : Prop :=
  ∃ list ∈ elements, list.tag.keepsLine = true

theorem InList.cons {elements : List Element} (h : InList elements) (element : Element) :
    InList (element :: elements) := by
  obtain ⟨list, hin, hlist⟩ := h
  exact ⟨list, List.mem_cons_of_mem _ hin, hlist⟩

theorem Tag.category_ne_row {tag : Tag} (h : tag ∉ .li :: .tr :: breaking) :
    tag.category ≠ .row := by
  revert h
  cases tag <;> decide

/-- In a list no gap is wider than a space, but for those around items and rows. -/
theorem InList.gap_eq_space {elements : List Element} (h : InList elements) {tag : Tag}
    (hrow : tag.category ≠ .row) (output : Output) :
    Writer.gap ⟨elements, output⟩ tag = .space := by
  have hline : elements.any (·.tag.keepsLine) = true := List.any_eq_true.mpr h
  rw [Writer.gap, hline, Gap.around]
  cases hcategory : tag.category with
  | row => exact absurd hcategory hrow
  | block => rfl
  | cell => rfl
  | inline => rfl
  | unclassified => rfl

theorem Output.exists_separate_space (output : Output) :
    ∃ white, '\n' ∉ white ∧ output.separate .space = output.append white := by
  rw [separate_space]
  split
  · exact ⟨[], List.not_mem_nil, rfl⟩
  · exact ⟨[' '], by decide, rfl⟩

/-- An element in one line, other than an item or a row. -/
structure Element.Inline (element : Element) : Prop where
  oneLine : element.OneLine
  notRow : element.tag.category ≠ .row

theorem Event.StaysInLine.inline {name : String} {attributes : Attributes}
    (h : (Event.start name attributes).StaysInLine) :
    Element.Inline ⟨.ofName name, attributes⟩ := by
  refine ⟨Element.oneLine_of_entries (fun hin => h.1 ?_) h.2, Tag.category_ne_row h.1⟩
  exact List.mem_cons_of_mem _ (List.mem_cons_of_mem _ hin)

namespace Element.Inline

variable {elements : List Element}

theorem start {name : String} {attributes : Attributes}
    (h : Inline ⟨.ofName name, attributes⟩) (hlist : InList elements) (output : Output) :
    ∃ line, '\n' ∉ line ∧ Writer.step ⟨elements, output⟩ (.start name attributes) =
      ⟨⟨.ofName name, attributes⟩ :: elements, output.append line⟩ := by
  have hli : Tag.ofName name ≠ .li := by
    intro hli
    exact h.notRow (congrArg Tag.category hli)
  obtain ⟨white, hwhite, hspace⟩ := output.exists_separate_space
  refine ⟨white ++ Element.opening ⟨.ofName name, attributes⟩ elements, ?_, ?_⟩
  · simp [hwhite, h.oneLine.opening elements]
  · rw [Writer.step_start_of_ne _ rfl hli, hlist.gap_eq_space h.notRow output, hspace,
      Output.append_append]

theorem stop {element : Element} (h : element.Inline) {name : String}
    (htag : element.tag = .ofName name) (hlist : InList elements) (output : Output) :
    ∃ line, '\n' ∉ line ∧ Writer.step ⟨element :: elements, output⟩ (.stop name) =
      ⟨elements, output.append line⟩ := by
  obtain ⟨white, hwhite, hspace⟩ := (output.append element.closing).exists_separate_space
  refine ⟨element.closing ++ white, ?_, ?_⟩
  · simp [hwhite, h.oneLine.closing]
  · rw [Writer.step, Writer.stop_of_eq htag, hlist.gap_eq_space h.notRow output, hspace,
      Output.append_append]

end Element.Inline

/-- Matched events in a list that bring no newline of their own are written in one line. -/
theorem Matched.run_inLine {events : List Event} (h : Matched events)
    (hevents : ∀ event ∈ events, event.StaysInLine) {elements : List Element}
    (hlist : InList elements) (output : Output) :
    ∃ line, '\n' ∉ line ∧
      Writer.run ⟨elements, output⟩ events = .ok ⟨elements, output.append line⟩ := by
  induction h generalizing elements output with
  | nil => exact ⟨[], List.not_mem_nil, rfl⟩
  | text run _ ih =>
      obtain ⟨-, hrest⟩ := List.forall_mem_cons.mp hevents
      have hwritten := newline_not_mem_writtenRun run.toList output.endsInNewline
      obtain ⟨line, hline, hrun⟩ := ih hrest hlist (output.append (writtenRun _ _))
      refine ⟨writtenRun run.toList output.endsInNewline ++ line, ?_, ?_⟩
      · simp [hwritten, hline]
      · rw [← Output.append_append]
        exact hrun
  | verbatim text _ _ => exact absurd (hevents _ List.mem_cons_self) id
  | element attributes htag _ _ ihcontent ihevents =>
      rename_i name ending content events _ _
      obtain ⟨hstart, hrest⟩ := List.forall_mem_cons.mp hevents
      obtain ⟨hcontent, hafter⟩ := List.forall_mem_append.mp hrest
      obtain ⟨-, hafter⟩ := List.forall_mem_cons.mp hafter
      have helement := hstart.inline
      -- Its start, its content with itself open, its end, and what comes after it.
      obtain ⟨opening, hopening, hstarted⟩ := helement.start hlist output
      obtain ⟨inner, hinner, hfilled⟩ := ihcontent hcontent
        (hlist.cons ⟨.ofName name, attributes⟩) (output.append opening)
      obtain ⟨closing, hclosing, hstopped⟩ := helement.stop htag hlist
        ((output.append opening).append inner)
      obtain ⟨line, hline, hrun⟩ := ihevents hafter hlist
        (((output.append opening).append inner).append closing)
      refine ⟨opening ++ inner ++ closing ++ line, ?_, ?_⟩
      · simp [hopening, hinner, hclosing, hline]
      · show Writer.run (Writer.step _ _) _ = _
        rw [hstarted, Writer.run_append_of_ok hfilled, Writer.run_stop htag, hstopped, hrun]
        simp only [Output.append_append, List.append_assoc]

/-! ## An item -/

namespace Writer

/-- An item stays on one line. In a list, from the marker of an item to its end, one line is
written and ended, whatever matched content the item has: no item, row or definition list, no
line break, no text as it is, and no newline in an attribute. While the content is written,
the output in front of the marker stays as it is, and the line only grows. -/
theorem item_one_line {writer : Writer} (hlist : ∃ list ∈ writer.elements, list.tag.isList = true)
    {name ending : String} (hname : Tag.ofName name = .li) (hending : Tag.ofName ending = .li)
    {attributes : Attributes} (hattributes : ∀ entry ∈ attributes.entries, '\n' ∉ entry.2.toList)
    {content : List Event} (hmatched : Matched content)
    (hcontent : ∀ event ∈ content, event.StaysInLine) :
    let before := writer.output.dropBareMarker.separate .lineBreak
    let sign := Element.opening ⟨.li, attributes⟩ writer.elements
    ∃ line, '\n' ∉ line ∧ sign <+: line ∧
      writer.run (.start name attributes :: (content ++ [.stop ending])) =
        .ok ⟨writer.elements, before.append (line ++ ['\n'])⟩ ∧
      ∀ part, part <+: content → ∃ next written,
        writer.run (.start name attributes :: part) = .ok next ∧
          next.output = before.append (sign ++ written) ∧ sign ++ written <+: line := by
  intro before sign
  have hbreaking : Tag.li ∉ Tag.breaking := by decide
  have hitem : Element.OneLine ⟨.li, attributes⟩ :=
    Element.oneLine_of_entries hbreaking hattributes
  have hinList : InList (⟨.li, attributes⟩ :: writer.elements) := by
    obtain ⟨list, hin, hmarked⟩ := hlist
    exact ⟨list, List.mem_cons_of_mem _ hin, by rw [Tag.keepsLine, hmarked, Bool.true_or]⟩
  have hstart (events : List Event) : writer.run (.start name attributes :: events) =
      run ⟨⟨.li, attributes⟩ :: writer.elements, before.append sign⟩ events := by
    rw [← writer.step_start_item hname attributes]
    rfl
  obtain ⟨inner, hinner, hrun⟩ := hmatched.run_inLine hcontent hinList (before.append sign)
  have hline : '\n' ∉ sign ++ inner := by
    simp [sign, hitem.opening writer.elements, hinner]
  refine ⟨sign ++ inner, hline, List.prefix_append _ _, ?_, fun part hpart => ?_⟩
  · -- The sign of the item is there, so the line is not empty, and it is ended at the end.
    have hne : sign ++ inner ≠ [] := by
      simp [sign, Element.opening, Tag.category]
    have htag : (Element.mk .li attributes).tag = .ofName ending := hending.symm
    have hclosing : Element.closing ⟨.li, attributes⟩ = [] := rfl
    have hgap : gap ⟨writer.elements, before.append (sign ++ inner)⟩ .li = .lineBreak := rfl
    rw [hstart, run_append_of_ok hrun, run_stop htag, step, stop_of_eq htag, hclosing,
      Output.append_nil, Output.append_append]
    show run ⟨_, (before.append (sign ++ inner)).separate .lineBreak⟩ [] = _
    rw [Output.separate_lineBreak_of_line hne hline]
    rfl
  · obtain ⟨rest, rfl⟩ := hpart
    obtain ⟨next, hnext, hafter⟩ := run_append_eq_ok hrun
    have hnone : ∀ event ∈ part ++ rest, ¬event.StartsItem := fun event hin =>
      (hcontent event hin).not_startsItem
    obtain ⟨hpart, hrest⟩ := List.forall_mem_append.mp hnone
    obtain ⟨written, hwritten⟩ := exists_written
      ⟨⟨.li, attributes⟩ :: writer.elements, before.append sign⟩ hpart
    obtain ⟨more, hmore⟩ := next.exists_written hrest
    rw [receiveAll_of_run hnext] at hwritten
    rw [receiveAll_of_run hafter] at hmore
    -- The rest of the content writes the rest of the line.
    have hinner : inner = written ++ more :=
      Output.append_left_inj (hmore.trans (by rw [hwritten, Output.append_append]))
    refine ⟨next, written, ?_, ?_, ?_⟩
    · rw [hstart, hnext]
    · rw [hwritten, Output.append_append]
    · rw [hinner, ← List.append_assoc]
      exact List.prefix_append _ _

/-- A paragraph of two lines and an image, in an item of an ordered list. -/
theorem item_one_line_blocks :
    let content : List Event := [.start "p" .empty, .text "a\nb", .stop "p",
      .start "img" (.ofList [("src", "i.png")]), .stop "img"]
    let events : List Event := .start "li" .empty :: (content ++ [.stop "li"])
    Matched content ∧ (∀ event ∈ content, event.StaysInLine) ∧
      (∃ line, '\n' ∉ line ∧ run ⟨[⟨.ol, .empty⟩], .empty⟩ events =
        .ok ⟨[⟨.ol, .empty⟩], (Output.empty.append ['\n']).append (line ++ ['\n'])⟩) ∧
      run ⟨[⟨.ol, .empty⟩], .empty⟩ events =
        .ok ⟨[⟨.ol, .empty⟩], Output.empty.append "\n# p. a b !i.png! \n".toList⟩ := by
  intro content events
  have hmatched : Matched content :=
    .element .empty rfl (.text "a\nb" .nil)
      (.element (.ofList [("src", "i.png")]) rfl .nil .nil)
  have hnone : ∀ entry ∈ Attributes.empty.entries, '\n' ∉ entry.2.toList :=
    List.forall_mem_nil _
  have hcontent : ∀ event ∈ content, event.StaysInLine := by
    have hp : (Event.start "p" .empty).StaysInLine := ⟨by decide, hnone⟩
    have himg : (Event.start "img" (.ofList [("src", "i.png")])).StaysInLine :=
      ⟨by decide, by decide⟩
    simpa [content] using ⟨hp, trivial, trivial, himg, trivial⟩
  have hlist : ∃ list ∈ [Element.mk .ol .empty], list.tag.isList = true :=
    ⟨_, List.mem_singleton_self _, rfl⟩
  obtain ⟨line, hline, -, hrun, -⟩ :=
    @item_one_line ⟨[⟨.ol, .empty⟩], .empty⟩ hlist "li" "li" rfl rfl .empty hnone content
      hmatched hcontent
  refine ⟨hmatched, hcontent, ⟨line, hline, hrun⟩, ?_⟩
  decide +kernel

end Writer

end Textile
