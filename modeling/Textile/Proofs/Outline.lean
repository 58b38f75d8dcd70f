import Textile.Proofs.Block
import Textile.Proofs.Text.Trim

/-!
# Outlines

Lists nested in the items of lists, to any depth, are written as one line for
every item.

An item is written once its line has begun, and what is nested in it must not
take that line back or run on in it. Both hang on the end of the output alone:
it is *ready* for what comes in a list if a gap of a space adds nothing to it
and no bare marker ends it. Every list and every item finds it ready and leaves
it ready, and adds its lines to those that are there (`AddsLines`); the proof is
by induction on the outline, one case for each of its parts.
-/

namespace Textile

open Textile.Text Textile.Unicode

/-! ## Lists and items -/

/-- A kind of list whose items carry a marker. -/
inductive ListKind
  | unordered
  | ordered
  deriving Repr, DecidableEq

namespace ListKind

/-- The tag of a list. -/
def tag : ListKind → Tag
  | unordered => .ul
  | ordered => .ol

/-- The name of the element of a list. -/
def name : ListKind → String
  | unordered => "ul"
  | ordered => "ol"

/-- The marker of the items of a list. -/
def marker : ListKind → Char
  | unordered => '*'
  | ordered => '#'

/-- A list without attributes, as an open element. -/
def element (kind : ListKind) : Element := ⟨kind.tag, .empty⟩

theorem ofName_name (kind : ListKind) : Tag.ofName kind.name = kind.tag := by
  cases kind <;> rfl

theorem itemMarker?_tag (kind : ListKind) : kind.tag.itemMarker? = some kind.marker := by
  cases kind <;> rfl

/-- A list is a block that writes nothing itself. -/
theorem tag_spec (kind : ListKind) : kind.tag.category = .block ∧
    kind.tag.openingSign = "" ∧ kind.element.closing = [] := by
  cases kind <;> decide

end ListKind

/-- The text of an item: one line without references that ends in a visible
character. -/
structure ItemText where
  chars : List Char
  ends : ∃ before c, chars = before ++ [c] ∧ isWhiteSpace c = false
  plain : '&' ∉ chars
  oneLine : '\n' ∉ chars

mutual

/-- A list with its items. -/
inductive Outline
  | list (kind : ListKind) (items : List OutlineItem)

/-- An item: its text and the lists nested in it. -/
inductive OutlineItem
  | item (text : ItemText) (nested : List Outline)

end

namespace Outline

mutual

/-- The events of a list. -/
def events : Outline → List Event
  | .list kind items => .start kind.name .empty :: (itemsEvents items ++ [.stop kind.name])

/-- The events of the items of a list. -/
def itemsEvents : List OutlineItem → List Event
  | [] => []
  | item :: items => itemEvents item ++ itemsEvents items

/-- The events of an item. -/
def itemEvents : OutlineItem → List Event
  | .item text nested =>
    .start "li" .empty :: .text (String.ofList text.chars) ::
      (nestedEvents nested ++ [.stop "li"])

/-- The events of the lists nested in an item. -/
def nestedEvents : List Outline → List Event
  | [] => []
  | outline :: outlines => events outline ++ nestedEvents outlines

end

/-- The line of an item of a list at a depth: the marker once for every list around
the item, the text, and a space where the item has lists nested in it. -/
def line (kind : ListKind) (depth : Nat) (text : ItemText) (nested : List Outline) :
    List Char :=
  List.replicate depth kind.marker ++ ' ' :: (text.chars ++
    if nested.isEmpty then [] else [' '])

mutual

/-- The lines of a list at a depth. -/
def lines (depth : Nat) : Outline → List (List Char)
  | .list kind items => itemsLines kind depth items

/-- The lines of the items of a list at a depth. -/
def itemsLines (kind : ListKind) (depth : Nat) : List OutlineItem → List (List Char)
  | [] => []
  | item :: items => itemLines kind depth item ++ itemsLines kind depth items

/-- The lines of an item: its own, and those of the lists nested in it. -/
def itemLines (kind : ListKind) (depth : Nat) : OutlineItem → List (List Char)
  | .item text nested => line kind depth text nested :: nestedLines (depth + 1) nested

/-- The lines of the lists nested in an item. -/
def nestedLines (depth : Nat) : List Outline → List (List Char)
  | [] => []
  | outline :: outlines => lines depth outline ++ nestedLines depth outlines

end

end Outline

/-! ## Outputs that are ready for more of a list -/

namespace Output

/-- The output is as a list or an item expects it: no space is missing at its end,
and no bare marker stands there. -/
structure Ready (output : Output) : Prop where
  spaced : output.separate .space = output
  kept : output.dropBareMarker = output

/-- The output with its last line ended. -/
def ended (output : Output) : Output := output.separate .lineBreak

/-- An output whose last line is ended is ready. -/
theorem ready_of_head? {output : Output} (h : output.newestFirst.head? = some '\n') :
    output.Ready := by
  refine ⟨?_, ?_⟩
  · rw [separate_space, if_pos (.inr h)]
  · obtain ⟨before, hbefore⟩ := List.head?_eq_some_iff.mp h
    have hline : output.lastLine = [] := by
      rw [lastLine, hbefore, List.takeWhile_cons_of_neg (by decide)]
    rw [dropBareMarker_eq, hline]
    rfl

theorem head?_ended (output : Output) : output.ended.newestFirst.head? = some '\n' := by
  rw [ended, separate_lineBreak]
  split
  · assumption
  · rfl

theorem ended_of_head? {output : Output} (h : output.newestFirst.head? = some '\n') :
    output.ended = output := by
  rw [ended, separate_lineBreak, if_pos h]

/-- After a visible character every gap is missing. -/
theorem separate_of_visible {output : Output} {c : Char}
    (h : output.newestFirst.head? = some c) (hvisible : isWhiteSpace c = false) :
    output.separate .space = output.append [' '] ∧ output.ended = output.append ['\n'] := by
  have hspace : c ≠ ' ' := by
    rintro rfl
    exact absurd hvisible (by decide)
  have hnewline : c ≠ '\n' := by
    rintro rfl
    exact absurd hvisible (by decide)
  refine ⟨?_, ?_⟩
  · rw [separate_space, h, if_neg (by simp [hspace, hnewline]), append_singleton]
  · rw [ended, separate_lineBreak, h, if_neg (by simp [hnewline]), append_singleton]

theorem ended_append_space (output : Output) (text : List Char) :
    (output.append (text ++ [' '])).ended = output.append (text ++ [' ', '\n']) := by
  have hhead : (output.append (text ++ [' '])).newestFirst.head? = some ' ' := by
    simp [newestFirst_append]
  rw [ended, separate_lineBreak, hhead, if_neg (by decide), ← append_singleton,
    append_append, List.append_assoc]
  rfl

/-- A line that holds more than markers is no bare marker, and a space ends it. -/
theorem ready_append_space {text : List Char} (h : '\n' ∉ text) (output : Output)
    (before : List Char) :
    (output.append (before ++ ' ' :: (text ++ [' ']))).Ready := by
  refine ⟨?_, ?_⟩
  · rw [separate_space, if_pos (.inl (by simp [newestFirst_append]))]
  · -- Whatever the text is, the space in front of it is within the last line.
    have hline : ∃ rest,
        (output.append (before ++ ' ' :: (text ++ [' ']))).lastLine =
          ' ' :: (text.reverse ++ ' ' :: rest) := by
      have hnewest : (output.append (before ++ ' ' :: (text ++ [' ']))).newestFirst =
          (' ' :: (text.reverse ++ [' '])) ++ (before.reverse ++ output.newestFirst) := by
        simp [newestFirst_append]
      have hinline : ∀ c ∈ ' ' :: (text.reverse ++ [' ']), decide (c ≠ '\n') = true := by
        intro c hc
        apply decide_eq_true
        rintro rfl
        simp [h] at hc
      refine ⟨(before.reverse ++ output.newestFirst).takeWhile (· ≠ '\n'), ?_⟩
      rw [lastLine, hnewest, List.takeWhile_append_of_pos hinline]
      simp
    obtain ⟨rest, hrest⟩ := hline
    have hbare : isBareMarker (' ' :: (text.reverse ++ ' ' :: rest)) = false := by
      simp [isBareMarker, isItemMarker]
    rw [dropBareMarker_eq, hrest, hbare]
    rfl

end Output

/-! ## Events of lists and items -/

open Output

/-- The number of lists around what comes next. -/
def depth (elements : List Element) : Nat :=
  elements.countP (·.tag.isList)

namespace ListKind

theorem depth_cons (kind : ListKind) (enclosing : List Element) :
    depth (kind.element :: enclosing) = depth enclosing + 1 := by
  have hlist : kind.element.tag.isList = true := by cases kind <;> rfl
  exact List.countP_cons_of_pos hlist

/-- The sign of an item directly in a list. -/
theorem itemSign_cons (kind : ListKind) (enclosing : List Element) :
    itemSign (kind.element :: enclosing) =
      List.replicate (depth enclosing + 1) kind.marker := by
  have hdepth := kind.depth_cons enclosing
  unfold depth at hdepth
  have hmax : max 1 (depth enclosing + 1) = depth enclosing + 1 :=
    max_eq_right (Nat.le_add_left 1 _)
  have hown : kind.element.tag.itemMarker? = some kind.marker := kind.itemMarker?_tag
  rw [itemSign, hdepth]
  show List.replicate (max 1 (depth enclosing + 1)) _ = _
  rw [hmax, List.head?_cons, Option.bind_some, hown]
  rfl

/-- The start of a list writes the gap before it. -/
theorem step_start (kind : ListKind) (enclosing : List Element) (output : Output) :
    Writer.step ⟨enclosing, output⟩ (.start kind.name .empty) =
      ⟨kind.element :: enclosing, output.separate (Writer.blockGap enclosing)⟩ := by
  obtain ⟨hcategory, hsign, _⟩ := kind.tag_spec
  rw [Writer.step_start_block kind.ofName_name hcategory, hsign]
  rfl

/-- The end of a list writes the gap after it. -/
theorem run_stop (kind : ListKind) (enclosing : List Element) (output : Output) :
    Writer.run ⟨kind.element :: enclosing, output⟩ [.stop kind.name] =
      .ok ⟨enclosing, output.separate (Writer.blockGap enclosing)⟩ := by
  obtain ⟨hcategory, _, hclosing⟩ := kind.tag_spec
  have htag : kind.element.tag = .ofName kind.name := kind.ofName_name.symm
  rw [Writer.run_stop htag, element,
    Writer.step_stop_block kind.ofName_name hcategory hclosing]
  rfl

end ListKind

/-- An item without attributes, as an open element. -/
def itemElement : Element := ⟨.li, .empty⟩

/-- The start of an item ends the line before it and writes the sign of the item. -/
theorem step_item_start (kind : ListKind) (enclosing : List Element) {output : Output}
    (h : output.Ready) :
    Writer.step ⟨kind.element :: enclosing, output⟩ (.start "li" .empty) =
      ⟨itemElement :: kind.element :: enclosing,
        output.ended.append (List.replicate (depth enclosing + 1) kind.marker ++ [' '])⟩ := by
  rw [Writer.step_item _ rfl, h.kept, kind.itemSign_cons]
  rfl

/-- The text of an item is written as it is. -/
theorem step_item_text (text : ItemText) (elements : List Element) (output : Output)
    (sign : List Char) :
    Writer.step ⟨elements, output.append (sign ++ [' '])⟩
        (.text (String.ofList text.chars)) =
      ⟨elements, output.append (sign ++ ' ' :: text.chars)⟩ := by
  have hends : (output.append (sign ++ [' '])).endsInNewline = false := by
    simp [Output.endsInNewline, newestFirst_append]
  have hplain : plain (String.ofList text.chars).toList = text.chars := by
    rw [String.toList_ofList, plain_of_not_mem text.plain]
  rw [Writer.step_text hplain text.oneLine hends, append_append, List.append_assoc,
    List.singleton_append]

/-- The output once an item is begun: the line before it is ended, and its own line
holds its sign and its text. -/
def begun (kind : ListKind) (enclosing : List Element) (text : ItemText) (output : Output) :
    Output :=
  output.ended.append
    (List.replicate (depth enclosing + 1) kind.marker ++ ' ' :: text.chars)

theorem run_item (kind : ListKind) (enclosing : List Element) (text : ItemText)
    {output : Output} (h : output.Ready) (events : List Event) :
    Writer.run ⟨kind.element :: enclosing, output⟩
        (.start "li" .empty :: .text (String.ofList text.chars) :: events) =
      Writer.run ⟨itemElement :: kind.element :: enclosing,
        begun kind enclosing text output⟩ events := by
  show Writer.run (Writer.step (Writer.step _ _) _) _ = _
  rw [step_item_start kind enclosing h, step_item_text, begun]

/-- The text of an item leaves a visible character at the end of the output, after
which every gap is missing. -/
theorem separate_begun (kind : ListKind) (enclosing : List Element) (text : ItemText)
    (output : Output) :
    (begun kind enclosing text output).separate .space =
        (begun kind enclosing text output).append [' '] ∧
      (begun kind enclosing text output).ended =
        (begun kind enclosing text output).append ['\n'] := by
  obtain ⟨before, c, hchars, hvisible⟩ := text.ends
  exact separate_of_visible (c := c) (by simp [begun, newestFirst_append, hchars]) hvisible

/-- A space after the text of an item makes the output ready for the lists in it: the
space after its sign shows that the line is no bare marker, whatever the text. -/
theorem ready_begun (kind : ListKind) (enclosing : List Element) (text : ItemText)
    (output : Output) : ((begun kind enclosing text output).append [' ']).Ready := by
  have hready := ready_append_space text.oneLine output.ended
    (List.replicate (depth enclosing + 1) kind.marker)
  rw [begun, append_append, List.append_assoc]
  exact hready

/-- The end of an item ends its line. -/
theorem run_item_stop (enclosing : List Element) (output : Output) :
    Writer.run ⟨itemElement :: enclosing, output⟩ [.stop "li"] =
      .ok ⟨enclosing, output.ended⟩ := by
  have htag : itemElement.tag = .ofName "li" := rfl
  rw [Writer.run_stop htag]
  rfl

theorem blockGap_item (kind : ListKind) (enclosing : List Element) :
    Writer.blockGap (itemElement :: kind.element :: enclosing) = .space := by
  cases kind <;> rfl

/-- The first list in an item brings the space after the text of the item. -/
theorem run_nestedEvents (kind : ListKind) (enclosing : List Element) (text : ItemText)
    (output : Output) (outline : Outline) (outlines : List Outline) :
    Writer.run ⟨itemElement :: kind.element :: enclosing, begun kind enclosing text output⟩
        (Outline.nestedEvents (outline :: outlines)) =
      Writer.run ⟨itemElement :: kind.element :: enclosing,
        (begun kind enclosing text output).append [' ']⟩
        (Outline.nestedEvents (outline :: outlines)) := by
  obtain ⟨hspaced, _⟩ := separate_begun kind enclosing text output
  have hready := ready_begun kind enclosing text output
  cases outline with
  | list nestedKind items =>
      rw [Outline.nestedEvents, Outline.events]
      show Writer.run (Writer.step _ _) _ = Writer.run (Writer.step _ _) _
      rw [nestedKind.step_start, nestedKind.step_start, blockGap_item, hspaced, hready.spaced]

/-! ## Lines -/

/-- Among some open elements, events add lines to whatever output is ready for
them, and leave it ready for more. -/
def AddsLines (elements : List Element) (events : List Event) (lines : List (List Char)) :
    Prop :=
  ∀ output : Output, output.Ready → ∃ after : Output, after.Ready ∧
    Writer.run ⟨elements, output⟩ events = .ok ⟨elements, after⟩ ∧
      after.ended = output.ended.append (lines.flatMap (· ++ ['\n']))

namespace AddsLines

variable {elements enclosing : List Element}

theorem nil (elements : List Element) : AddsLines elements [] [] :=
  fun output hready => ⟨output, hready, rfl, rfl⟩

/-- Lines are added one after the other. -/
theorem append {before after : List Event} {linesBefore linesAfter : List (List Char)}
    (hbefore : AddsLines elements before linesBefore)
    (hafter : AddsLines elements after linesAfter) :
    AddsLines elements (before ++ after) (linesBefore ++ linesAfter) := by
  intro output hready
  obtain ⟨between, hbetween, hrun, hlines⟩ := hbefore output hready
  obtain ⟨last, hlast, hrun', hlines'⟩ := hafter between hbetween
  refine ⟨last, hlast, ?_, ?_⟩
  · rw [Writer.run_append_of_ok hrun, hrun']
  · rw [hlines', hlines, append_append, List.flatMap_append]

/-- A list that stands in a list adds the lines of its items. -/
theorem list (kind : ListKind) (hinline : Writer.blockGap enclosing = .space)
    {events : List Event} {lines : List (List Char)}
    (hitems : AddsLines (kind.element :: enclosing) events lines) :
    AddsLines enclosing (.start kind.name .empty :: (events ++ [.stop kind.name])) lines := by
  intro output hready
  obtain ⟨after, hafter, hrun, hlines⟩ := hitems output hready
  refine ⟨after, hafter, ?_, hlines⟩
  show Writer.run (Writer.step _ _) _ = _
  rw [kind.step_start, hinline, hready.spaced, Writer.run_append_of_ok hrun, kind.run_stop,
    hinline, hafter.spaced]

/-- An item without lists in it adds its line. -/
theorem item_nil (kind : ListKind) (text : ItemText) :
    AddsLines (kind.element :: enclosing) (Outline.itemEvents (.item text []))
      [Outline.line kind (depth enclosing + 1) text []] := by
  intro output hready
  obtain ⟨_, hended⟩ := separate_begun kind enclosing text output
  refine ⟨(begun kind enclosing text output).ended, ready_of_head? (head?_ended _), ?_, ?_⟩
  · rw [Outline.itemEvents, run_item kind enclosing text hready]
    exact run_item_stop _ _
  · rw [ended_of_head? (head?_ended _), hended, begun, append_append]
    simp [Outline.line]

/-- An item with lists in it adds its line, with a space at its end, and theirs. -/
theorem item_cons (kind : ListKind) (text : ItemText) (outline : Outline)
    (outlines : List Outline) {lines : List (List Char)}
    (hnested : AddsLines (itemElement :: kind.element :: enclosing)
      (Outline.nestedEvents (outline :: outlines)) lines) :
    AddsLines (kind.element :: enclosing)
      (Outline.itemEvents (.item text (outline :: outlines)))
      (Outline.line kind (depth enclosing + 1) text (outline :: outlines) :: lines) := by
  intro output hready
  obtain ⟨after, _, hrun, hlines⟩ := hnested _ (ready_begun kind enclosing text output)
  -- The lists expect the space after the text, which the first of them writes itself.
  have hnestedRun : Writer.run ⟨itemElement :: kind.element :: enclosing,
      begun kind enclosing text output⟩ (Outline.nestedEvents (outline :: outlines)) =
        .ok ⟨itemElement :: kind.element :: enclosing, after⟩ := by
    rw [← hrun]
    exact run_nestedEvents kind enclosing text output outline outlines
  refine ⟨after.ended, ready_of_head? (head?_ended _), ?_, ?_⟩
  · rw [Outline.itemEvents, run_item kind enclosing text hready,
      Writer.run_append_of_ok hnestedRun]
    exact run_item_stop _ _
  · rw [ended_of_head? (head?_ended _), hlines, begun, append_append, ended_append_space,
      append_append]
    simp [Outline.line]

end AddsLines

namespace Outline

mutual

/-- A list in an item adds the lines of the outline it is. -/
theorem addsLines {enclosing : List Element} (hinline : Writer.blockGap enclosing = .space) :
    ∀ outline : Outline,
      AddsLines enclosing (events outline) (lines (depth enclosing + 1) outline)
  | .list kind items => by
      rw [events, lines]
      exact AddsLines.list kind hinline (items_addsLines kind enclosing items)

/-- Every item adds its lines where those of the items before it end. -/
theorem items_addsLines (kind : ListKind) (enclosing : List Element) :
    ∀ items : List OutlineItem,
      AddsLines (kind.element :: enclosing) (itemsEvents items)
        (itemsLines kind (depth enclosing + 1) items)
  | [] => by
      rw [itemsEvents, itemsLines]
      exact AddsLines.nil _
  | item :: items => by
      rw [itemsEvents, itemsLines]
      exact (item_addsLines kind enclosing item).append
        (items_addsLines kind enclosing items)

theorem item_addsLines (kind : ListKind) (enclosing : List Element) :
    ∀ item : OutlineItem,
      AddsLines (kind.element :: enclosing) (itemEvents item)
        (itemLines kind (depth enclosing + 1) item)
  | .item text [] => by
      rw [itemLines, nestedLines]
      exact AddsLines.item_nil kind text
  | .item text (outline :: outlines) => by
      -- The item adds an element that is open, and no list.
      have hnested := nested_addsLines (blockGap_item kind enclosing) (outline :: outlines)
      have hdepth : depth (itemElement :: kind.element :: enclosing) =
          depth enclosing + 1 := kind.depth_cons enclosing
      rw [hdepth] at hnested
      rw [itemLines]
      exact AddsLines.item_cons kind text outline outlines hnested

theorem nested_addsLines {enclosing : List Element}
    (hinline : Writer.blockGap enclosing = .space) :
    ∀ outlines : List Outline,
      AddsLines enclosing (nestedEvents outlines) (nestedLines (depth enclosing + 1) outlines)
  | [] => by
      rw [nestedEvents, nestedLines]
      exact AddsLines.nil _
  | outline :: outlines => by
      rw [nestedEvents, nestedLines]
      exact (addsLines hinline outline).append (nested_addsLines hinline outlines)

end

/-- The first line of an outline begins with a marker. -/
theorem visible_of_mem_head? (outline : Outline) {c : Char}
    (h : (List.intercalate ['\n'] (outline.lines 1)).head? = some c) :
    isWhiteSpace c = false := by
  have hmarker (kind : ListKind) : isWhiteSpace kind.marker = false := by
    cases kind <;> decide
  match outline with
  | .list kind [] =>
      simp [lines, itemsLines] at h
  | .list kind (.item text nested :: items) =>
      rw [lines, itemsLines, itemLines, line, List.replicate_one, List.singleton_append,
        List.cons_append, head?_intercalate] at h
      cases h
      exact hmarker kind

/-- An outline by itself begins with the first newline of a blank line, and each of
its lines is ended but for white space. -/
theorem run_events (outline : Outline) :
    ∃ output, Writer.empty.run outline.events = .ok ⟨[], output⟩ ∧
      trim output.toList = trim ('\n' :: (outline.lines 1).flatMap (· ++ ['\n'])) := by
  obtain ⟨kind, items⟩ := outline
  have hready : Output.Ready ⟨['\n']⟩ := ready_of_head? rfl
  obtain ⟨after, _, hrun, hlines⟩ := items_addsLines kind [] items _ hready
  refine ⟨after.separate .blankLine, ?_, ?_⟩
  · rw [events]
    show Writer.run (Writer.step ⟨[], .empty⟩ _) _ = _
    rw [kind.step_start]
    exact (Writer.run_append_of_ok hrun _).trans (kind.run_stop [] after)
  · -- The gap after the list is not that after an item, but trimming takes either.
    have hended : after.ended.toList =
        '\n' :: (lines 1 (.list kind items)).flatMap (· ++ ['\n']) := by
      rw [hlines, toList_append]
      rfl
    rw [trim_toList_separate, ← trim_toList_separate after .lineBreak, ← ended, hended]

end Outline

/-- An outline is written with one line for every item, in order: the marker of its
list once for every list around it, its text, and a space where lists are nested in
it. -/
theorem convertEvents_outline (outline : Outline) :
    convertEvents {} outline.events =
      .ok (String.ofList (trimEnd (List.intercalate ['\n'] (outline.lines 1)))) := by
  obtain ⟨output, hrun, houtput⟩ := outline.run_events
  have hnewline : isBlank ['\n'] = true := by decide
  have htrim : trim ('\n' :: (outline.lines 1).flatMap (· ++ ['\n'])) =
      trimEnd (List.intercalate ['\n'] (outline.lines 1)) :=
    (trim_append_left hnewline _).trans
      (trim_flatMap_between rfl hnewline fun _ => outline.visible_of_mem_head?)
  rw [convertEvents, hrun]
  show Except.ok (trimString (String.ofList _)) = _
  rw [trimString, String.toList_ofList, houtput, htrim]

/-- Lists of both kinds in one another, one of them empty, and texts that look like markers. -/
theorem convertEvents_outline_mixed :
    convertEvents {} [.start "ul" .empty, .start "li" .empty, .text "one", .start "ol" .empty,
        .start "li" .empty, .text "*", .stop "li", .start "li" .empty, .text "# two",
        .start "ul" .empty, .stop "ul", .stop "li", .stop "ol", .start "ul" .empty,
        .start "li" .empty, .text "three", .stop "li", .stop "ul", .stop "li",
        .start "li" .empty, .text "**", .stop "li", .stop "ul"] =
      .ok "* one \n## *\n## # two \n** three\n* **" := by
  have hwritten := convertEvents_outline (.list .unordered [
    .item ⟨"one".toList, ⟨"on".toList, 'e', rfl, by decide⟩, by decide, by decide⟩ [
      .list .ordered [
        .item ⟨"*".toList, ⟨[], '*', rfl, by decide⟩, by decide, by decide⟩ [],
        .item ⟨"# two".toList, ⟨"# tw".toList, 'o', rfl, by decide⟩, by decide, by decide⟩ [
          .list .unordered []]],
      .list .unordered [
        .item ⟨"three".toList, ⟨"thre".toList, 'e', rfl, by decide⟩, by decide, by decide⟩ []]],
    .item ⟨"**".toList, ⟨"*".toList, '*', rfl, by decide⟩, by decide, by decide⟩ []])
  exact hwritten.trans (by decide +kernel)

end Textile
