import Textile.Proofs.BlankText
import Textile.Proofs.ItemLine
import Textile.Proofs.Origin

/-!
# Items with nothing of their own

The marker of an item that holds nothing but a list gives way to the marker of the item
nested in it. It is known by the look of its line, a run of markers and one space, so all
hangs on what the events between the two items add to that line.

* **Padding** (`IsPadding`): white space within the line of an item. The start of a list adds
  none if there is none yet, and blank text adds some, unless it is empty or ends in a newline
  (`Writer.step_leadIn`). The run follows from the step (`Writer.run_leadIn`).
* **The line of the outer item** (`Output.dropBareMarker_padded`): it is taken back if it has
  no padding, and stays otherwise.

`Writer.bare_item_replaced` says what the output is in either case, and
`Writer.bare_item_kept` shows how indentation keeps the line of the outer item.
-/

namespace Textile

open Textile.Text Textile.Output

/-! ## Padding -/

/-- White space within a line. -/
structure IsPadding (white : List Char) : Prop where
  blank : isBlank white = true
  oneLine : '\n' ∉ white

namespace IsPadding

theorem nil : IsPadding [] := ⟨rfl, List.not_mem_nil⟩

theorem space : IsPadding [' '] := ⟨by decide, by decide⟩

theorem append {white more : List Char} (h : IsPadding white) (hmore : IsPadding more) :
    IsPadding (white ++ more) where
  blank := by
    rw [isBlank, List.all_append, Bool.and_eq_true]
    exact ⟨h.blank, hmore.blank⟩
  oneLine := by simp [h.oneLine, hmore.oneLine]

end IsPadding

/-- Within a line, blank text is padding, and none if it is empty or ends in a newline. -/
theorem isPadding_writtenRun {run : List Char} (h : isBlank run = true) :
    IsPadding (writtenRun run false) ∧
      (writtenRun run false = [] ↔ run = [] ∨ run.getLast? = some '\n') := by
  refine ⟨⟨?_, newline_not_mem_writtenRun run false⟩, ?_⟩
  · rw [writtenRun_of_isBlank h]
    split
    · rfl
    · rwa [isBlank_inOneLine]
  · rw [writtenRun_of_isBlank h]
    by_cases hlast : run.getLast? = some '\n'
    · simp [hlast]
    · simp [hlast, inOneLine]

namespace Output

/-- After a space, a gap of a space is padding, and none if there is no other padding. -/
theorem separate_space_padded (output : Output) (white : List Char) :
    ∃ more, IsPadding more ∧ (white = [] → more = []) ∧
      (output.append (' ' :: white)).separate .space =
        output.append (' ' :: (white ++ more)) := by
  rw [separate_space]
  split
  · exact ⟨[], .nil, fun _ => rfl, by rw [List.append_nil]⟩
  · next hhead =>
      refine ⟨[' '], .space, ?_, ?_⟩
      · rintro rfl
        exact absurd (.inl rfl) hhead
      · rw [← append_singleton, append_append, List.cons_append]

/-- The line of an item is taken back exactly if it has no padding. -/
theorem dropBareMarker_padded {before : Output} (hbefore : before.endsInNewline = true)
    {sign white : List Char} (hne : sign ≠ []) (hsign : ∀ c ∈ sign, isItemMarker c = true)
    (hwhite : IsPadding white) :
    (before.append (sign ++ ' ' :: white)).dropBareMarker =
      if white = [] then before else before.append (sign ++ ' ' :: white) := by
  have hinline : '\n' ∉ sign ++ ' ' :: white := by
    have hmarkers : '\n' ∉ sign := fun hin => ne_newline_of_isItemMarker (hsign _ hin) rfl
    simp [hmarkers, hwhite.oneLine]
  have hlast : (before.append (sign ++ ' ' :: white)).lastLine =
      white.reverse ++ ' ' :: sign.reverse := by
    rw [lastLine_append_of_not_mem hinline, lastLine_of_endsInNewline hbefore]
    simp
  rw [dropBareMarker_eq, hlast, completed_append_of_not_mem hinline,
    completed_of_endsInNewline hbefore]
  by_cases hnone : white = []
  · have hbare : isBareMarker (' ' :: sign.reverse) = true := by
      simpa [isBareMarker, hne] using hsign
    rw [hnone, List.reverse_nil, List.nil_append, if_pos hbare, if_pos rfl]
  · -- The space after the sign is not the last character of the line.
    have hspoilt : Writer.Spoilt (white.reverse ++ ' ' :: sign.reverse) :=
      ⟨white.reverse, ' ', sign.reverse, rfl, by decide, fun h => absurd h (by simpa using hnone)⟩
    rw [if_neg hspoilt.not_isBareMarker, if_neg hnone]

end Output

/-! ## Between the items -/

namespace Event

/-- An event between an item and the first one nested in it: blank text, or the start of a
list without attributes. -/
def LeadsIn : Event → Prop
  | .start name attributes => (Tag.ofName name).isList = true ∧ attributes = .empty
  | .text run => isBlank run.toList = true
  | .stop _ | .verbatim _ => False

/-- An event that adds no padding: of the blank texts, the empty one and those that end in a
newline. -/
def Vanishes : Event → Prop
  | .text run => run.toList = [] ∨ run.toList.getLast? = some '\n'
  | .start _ _ | .stop _ | .verbatim _ => True

/-- The elements that are open after an event that ends none. -/
def opens (elements : List Element) : Event → List Element
  | .start name attributes => ⟨.ofName name, attributes⟩ :: elements
  | .stop _ | .text _ | .verbatim _ => elements

end Event

theorem InList.opens {elements : List Element} (h : InList elements) (event : Event) :
    InList (event.opens elements) := by
  cases event with
  | start name attributes => exact h.cons _
  | stop name => exact h
  | text run => exact h
  | verbatim text => exact h

/-- A list is a block that writes nothing at its start. -/
theorem Element.opening_list {tag : Tag} (h : tag.isList = true) :
    tag.category = .block ∧
      ∀ enclosing, Element.opening ⟨tag, .empty⟩ enclosing = [] := by
  have htag : tag = .ul ∨ tag = .ol := by
    cases tag <;> simp [Tag.isList, Tag.itemMarker?] at h ⊢
  rcases htag with rfl | rfl
  · exact ⟨rfl, fun enclosing => Element.opening_empty .ul enclosing⟩
  · exact ⟨rfl, fun enclosing => Element.opening_empty .ol enclosing⟩

namespace Writer

/-- An event between the items adds padding to the line of the outer one, or nothing. -/
theorem step_leadIn {event : Event} (h : event.LeadsIn) {elements : List Element}
    (hlist : InList elements) (output : Output) {white : List Char} (hwhite : IsPadding white) :
    breach? ⟨elements, output.append (' ' :: white)⟩ event = none ∧
      ∃ more, IsPadding more ∧ (white ++ more = [] ↔ white = [] ∧ event.Vanishes) ∧
        step ⟨elements, output.append (' ' :: white)⟩ event =
          ⟨event.opens elements, output.append (' ' :: (white ++ more))⟩ := by
  cases event with
  | stop name => exact absurd h id
  | verbatim text => exact absurd h id
  | start name attributes =>
      obtain ⟨htag, rfl⟩ := h
      obtain ⟨hblock, hopening⟩ := Element.opening_list htag
      have hgap : blockGap elements = .space := if_pos (List.any_eq_true.mpr hlist)
      obtain ⟨more, hpadding, hnone, hspace⟩ := output.separate_space_padded white
      refine ⟨rfl, more, hpadding, ?_, ?_⟩
      · rw [List.append_eq_nil_iff]
        exact ⟨fun h => ⟨h.1, trivial⟩, fun h => ⟨h.1, hnone h.1⟩⟩
      · rw [step_start_of_block rfl hblock, hgap, hspace, hopening, Output.append_nil]
        rfl
  | text run =>
      have hline : '\n' ∉ ' ' :: white := by simp [hwhite.oneLine]
      have hends := output.endsInNewline_append_of_line (List.cons_ne_nil _ _) hline
      obtain ⟨hpadding, hnone⟩ := isPadding_writtenRun h
      refine ⟨rfl, _, hpadding, ?_, ?_⟩
      · rw [List.append_eq_nil_iff, hnone]
        rfl
      · rw [step, text, hends, append_append]
        rfl

/-- Between the items, the line of the outer one gets padding, and none exactly if all events
there add none. -/
theorem run_leadIn {between : List Event} (h : ∀ event ∈ between, event.LeadsIn)
    {elements : List Element} (hlist : InList elements) (output : Output) {white : List Char}
    (hwhite : IsPadding white) :
    ∃ padding, IsPadding padding ∧
      (padding = [] ↔ white = [] ∧ ∀ event ∈ between, event.Vanishes) ∧
      run ⟨elements, output.append (' ' :: white)⟩ between =
        .ok ⟨between.foldl Event.opens elements, output.append (' ' :: padding)⟩ := by
  induction between generalizing elements white with
  | nil => exact ⟨white, hwhite, by simp, rfl⟩
  | cons event between ih =>
      obtain ⟨hevent, hrest⟩ := List.forall_mem_cons.mp h
      obtain ⟨hbreach, more, hmore, hnone, hstep⟩ := step_leadIn hevent hlist output hwhite
      obtain ⟨padding, hpadding, hiff, hrun⟩ :=
        ih hrest (hlist.opens event) (hwhite.append hmore)
      refine ⟨padding, hpadding, ?_, ?_⟩
      · rw [hiff, hnone, List.forall_mem_cons, and_assoc]
      · rw [run, hbreach]
        simp only [hstep, hrun, List.foldl_cons]

/-! ## The two items -/

/-- An item with nothing of its own. In a list, let an item start, and after it nothing but
blank texts and lists, all without attributes, and then an item nested in these. If the blank
texts are empty or end in a newline, there is no line for the outer item: the output is the one
before it, less a bare marker at its end and with its last line ended, and the marker and the
space of the nested item. Otherwise the line of the outer item stays in between: its own
marker, its space, and more white space. -/
theorem bare_item_replaced {writer : Writer} (hlist : InList writer.elements)
    {outer inner : String} (houter : Tag.ofName outer = .li) (hinner : Tag.ofName inner = .li)
    {between : List Event} (hbetween : ∀ event ∈ between, event.LeadsIn) :
    let before := writer.output.dropBareMarker.separate .lineBreak
    let nested := between.foldl Event.opens (⟨.li, .empty⟩ :: writer.elements)
    ∃ padding, IsPadding padding ∧
      (padding = [] ↔ ∀ event ∈ between, event.Vanishes) ∧
      writer.run (.start outer .empty :: (between ++ [.start inner .empty])) =
        .ok ⟨⟨.li, .empty⟩ :: nested,
          before.append
            ((if padding = [] then []
              else itemSign writer.elements ++ ' ' :: (padding ++ ['\n'])) ++
              (itemSign nested ++ [' ']))⟩ := by
  intro before nested
  have hends : before.endsInNewline = true := by
    rw [endsInNewline_separate]
    rfl
  have hmarkers : ∀ c ∈ itemSign writer.elements, isItemMarker c = true :=
    fun c hc => isItemMarker_of_mem_itemSign hc
  have hne : itemSign writer.elements ≠ [] := by simp [itemSign_eq]
  obtain ⟨padding, hpadding, hiff, hrun⟩ := run_leadIn hbetween
    (hlist.cons ⟨.li, .empty⟩) (before.append (itemSign writer.elements)) .nil
  rw [append_append, append_append] at hrun
  refine ⟨padding, hpadding, hiff.trans (by simp), ?_⟩
  show (writer.step (.start outer .empty)).run _ = _
  rw [step_item writer houter, run_append_of_ok hrun]
  show Except.ok (step _ (.start inner .empty)) = _
  rw [step_item _ hinner, dropBareMarker_padded hends hne hmarkers hpadding]
  by_cases hnone : padding = []
  · -- The line is taken back, and the one before it is ended.
    rw [if_pos hnone, if_pos hnone, separate_lineBreak_of_endsInNewline hends, List.nil_append]
  · have hline : '\n' ∉ itemSign writer.elements ++ ' ' :: padding := by
      simp [newline_not_mem_itemSign, hpadding.oneLine]
    have hfull : itemSign writer.elements ++ ' ' :: padding ≠ [] := by simp
    rw [if_neg hnone, if_neg hnone, separate_lineBreak_of_line hfull hline, append_append]
    simp only [List.append_assoc, List.cons_append]
    rfl

/-- Two lists, one in the other, with blank texts that end in newlines. -/
theorem bare_item_replaced_deep :
    let between : List Event :=
      [.text " \n", .start "ol" .empty, .text "", .start "UL" .empty, .text "\n\n"]
    InList [⟨.ul, .empty⟩] ∧ (∀ event ∈ between, event.LeadsIn) ∧
      (∀ event ∈ between, event.Vanishes) ∧
      run ⟨[⟨.ul, .empty⟩], Output.empty.append "\n* ".toList⟩
          (.start "li" .empty :: (between ++ [.start "li" .empty])) =
        .ok ⟨[⟨.li, .empty⟩, ⟨.ul, .empty⟩, ⟨.ol, .empty⟩, ⟨.li, .empty⟩, ⟨.ul, .empty⟩],
          Output.empty.append "\n*** ".toList⟩ := by
  intro between
  have hlist : InList [⟨.ul, .empty⟩] := ⟨_, List.mem_singleton_self _, rfl⟩
  have hbetween : ∀ event ∈ between, event.LeadsIn := by
    have hfirst : isBlank " \n".toList = true := by decide
    have hlast : isBlank "\n\n".toList = true := by decide
    have hol : (Tag.ofName "ol").isList = true := by decide
    have hul : (Tag.ofName "UL").isList = true := by decide
    simp only [between, List.forall_mem_cons]
    exact ⟨hfirst, ⟨hol, rfl⟩, rfl, ⟨hul, rfl⟩, hlast, List.forall_mem_nil _⟩
  have hvanishes : ∀ event ∈ between, event.Vanishes := by
    have hfirst : (Event.text " \n").Vanishes := .inr rfl
    have hlast : (Event.text "\n\n").Vanishes := .inr rfl
    simp only [between, List.forall_mem_cons]
    exact ⟨hfirst, trivial, .inl rfl, trivial, hlast, List.forall_mem_nil _⟩
  obtain ⟨padding, -, hiff, hrun⟩ :=
    @bare_item_replaced ⟨[⟨.ul, .empty⟩], Output.empty.append "\n* ".toList⟩ hlist "li" "li" rfl
      rfl between hbetween
  refine ⟨hlist, hbetween, hvanishes, ?_⟩
  rw [hrun, if_pos (hiff.mpr hvanishes)]
  rfl

/-- Indentation keeps the line of the outer item. Without it the output is a newline and the
marker of the nested item. -/
theorem bare_item_kept :
    isBlank "\n    ".toList = true ∧
      empty.run [.start "ul" .empty, .start "li" .empty, .start "ul" .empty, .start "li" .empty] =
        .ok ⟨[⟨.li, .empty⟩, ⟨.ul, .empty⟩, ⟨.li, .empty⟩, ⟨.ul, .empty⟩],
          Output.empty.append "\n** ".toList⟩ ∧
      empty.run [.start "ul" .empty, .start "li" .empty, .text "\n    ", .start "ul" .empty,
          .start "li" .empty] =
        .ok ⟨[⟨.li, .empty⟩, ⟨.ul, .empty⟩, ⟨.li, .empty⟩, ⟨.ul, .empty⟩],
          Output.empty.append "\n*      \n** ".toList⟩ ∧
      Output.empty.append "\n*      \n** ".toList ≠ Output.empty.append "\n** ".toList := by
  decide +kernel

end Writer

end Textile
