import Textile.Proofs.Gap
import Textile.Proofs.LastLine

/-!
# The start of an item

An item begins a line of its own, wherever it starts, and writes its marker, its modifiers and
a space into it.

* **The last line** (`Divided`): every text has one and what stands before it, and no other
  (`divided_toList`, `Divided.unique`).
* **What is left of the output** (`toList_dropBareMarker`): all of it, or all but a last line
  that is a bare marker.
* **The marker** (`itemSign_eq_itemMarker`): it is told by the lists around the item alone, be the
  item in one of them directly or not.

`Writer.item_begins_line` puts the three together.
-/

namespace Textile

open Textile.Text Textile.Output

/-! ## The last line -/

/-- A text divided after its last newline, or at its start if it has none. -/
structure Divided (text before line : List Char) : Prop where
  parts : text = before ++ line
  inLine : '\n' ∉ line
  ended : before = [] ∨ ['\n'] <:+ before

/-- A line that holds item markers and one space after them, and nothing else. -/
def BareMarker (line : List Char) : Prop :=
  ∃ markers, markers ≠ [] ∧ (∀ c ∈ markers, c = '*' ∨ c = '#') ∧ line = markers ++ [' ']

namespace Divided

variable {text before line : List Char}

theorem lineEnd_eq (h : Divided text before line) : lineEnd text = line.reverse := by
  have hbefore : lineEnd before = [] := by
    rcases h.ended with rfl | ⟨older, rfl⟩
    · rfl
    · exact lineEnd_append_of_mem (List.mem_singleton_self '\n') older
  rw [h.parts, lineEnd_append_of_not_mem h.inLine, hbefore, List.append_nil]

/-- A text has one last line. -/
theorem unique (h : Divided text before line) {before' line' : List Char}
    (h' : Divided text before' line') : before = before' ∧ line = line' := by
  have hline : line = line' := List.reverse_injective (h.lineEnd_eq.symm.trans h'.lineEnd_eq)
  have hparts := h.parts.symm.trans h'.parts
  rw [hline] at hparts
  exact ⟨List.append_cancel_right hparts, hline⟩

end Divided

/-- The output is divided into its completed lines and its last line. -/
theorem divided_toList (output : Output) :
    Divided output.toList output.completed.toList output.lastLine.reverse where
  parts := by
    rw [toList, toList, completed, lastLine, ← List.reverse_append,
      List.takeWhile_append_dropWhile]
  inLine hin := by
    have hne := List.mem_takeWhile_imp (List.mem_reverse.mp hin)
    exact absurd hne (by decide)
  ended := by
    rw [completed, toList]
    cases hrest : output.newestFirst.dropWhile (· ≠ '\n') with
    | nil => exact .inl rfl
    | cons c rest =>
        right
        have hc := List.head?_dropWhile_not (· ≠ '\n') output.newestFirst
        rw [hrest] at hc
        have hnewline : c = '\n' := by simpa using hc
        exact ⟨rest.reverse, by simp [hnewline]⟩

/-! ## What is left of the output -/

theorem isItemMarker_iff {c : Char} : isItemMarker c = true ↔ c = '*' ∨ c = '#' := by
  simp [isItemMarker]

theorem isBareMarker_iff {line : List Char} :
    isBareMarker line = true ↔ BareMarker line.reverse := by
  constructor
  · intro h
    unfold isBareMarker at h
    split at h
    · next markers =>
        rw [Bool.and_eq_true, List.all_eq_true] at h
        refine ⟨markers.reverse, by simpa using h.1, fun c hc => ?_, List.reverse_cons⟩
        exact isItemMarker_iff.mp (h.2 c (List.mem_reverse.mp hc))
    · cases h
  · rintro ⟨markers, hne, hmarkers, hline⟩
    have hall : ∀ c ∈ markers, isItemMarker c = true := fun c hc =>
      isItemMarker_iff.mpr (hmarkers c hc)
    have hnewest : line = ' ' :: markers.reverse := by
      rw [← line.reverse_reverse, hline, List.reverse_append, List.reverse_singleton,
        List.singleton_append]
    rw [hnewest, isBareMarker]
    simpa [hne] using hall

/-- A last line that is a bare marker is taken back, and nothing else is. -/
theorem toList_dropBareMarker {output : Output} {before line : List Char}
    (h : Divided output.toList before line) :
    BareMarker line ∧ output.dropBareMarker.toList = before ∨
      ¬BareMarker line ∧ output.dropBareMarker.toList = before ++ line := by
  obtain ⟨hbefore, hline⟩ := (divided_toList output).unique h
  rw [dropBareMarker_eq]
  by_cases hbare : isBareMarker output.lastLine = true
  · left
    rw [if_pos hbare, ← hline]
    exact ⟨isBareMarker_iff.mp hbare, hbefore⟩
  · right
    rw [if_neg hbare, ← hline]
    refine ⟨fun hmarker => hbare (isBareMarker_iff.mpr hmarker), ?_⟩
    rw [hline]
    exact h.parts

/-! ## The marker -/

/-- The lists that are open, innermost first. -/
def openLists (elements : List Element) : List Element :=
  elements.filter fun element => element.tag = .ul ∨ element.tag = .ol

/-- The glyph of the items that start now: that of the innermost list. -/
def itemGlyph (elements : List Element) : Char :=
  match openLists elements with
  | [] => '*'
  | list :: _ => if list.tag = .ol then '#' else '*'

/-- The marker of the items that start now: the glyph of the innermost list for every list
that is open, and once outside lists. -/
def itemMarker (elements : List Element) : List Char :=
  List.replicate (max 1 (openLists elements).length) (itemGlyph elements)

theorem Tag.isList_iff {tag : Tag} : tag.isList = true ↔ tag = .ul ∨ tag = .ol := by
  cases tag <;> decide

theorem openLists_eq (elements : List Element) :
    openLists elements = elements.filter (·.tag.isList) := by
  apply List.filter_congr
  intro element _
  rw [Bool.eq_iff_iff, Tag.isList_iff, decide_eq_true_eq]

theorem length_openLists (elements : List Element) :
    (openLists elements).length = elements.countP (·.tag.isList) := by
  rw [openLists_eq, List.countP_eq_length_filter]

theorem itemGlyph_eq (elements : List Element) :
    itemGlyph elements = (elements.findSome? (·.tag.itemMarker?)).getD '*' := by
  induction elements with
  | nil => rfl
  | cons element elements ih =>
      rw [itemGlyph, openLists_eq] at ih ⊢
      rw [List.filter_cons, List.findSome?_cons]
      by_cases hlist : element.tag.isList = true
      · rw [if_pos hlist]
        rcases Tag.isList_iff.mp hlist with htag | htag
        · simp only [htag]
          rfl
        · simp only [htag]
          rfl
      · have hmarker : element.tag.itemMarker? = none := by
          simpa [Tag.isList] using hlist
        rw [if_neg hlist, hmarker]
        exact ih

/-- The sign of an item is the marker, be the item in a list directly or not. -/
theorem itemSign_eq_itemMarker (elements : List Element) :
    itemSign elements = itemMarker elements := by
  rw [itemSign_eq, itemMarker, length_openLists, itemGlyph_eq]

/-! ## The line of an item that starts -/

namespace Writer

/-- An item begins a line. What stands before it is the old output without a last line that is
a bare marker, ended by a newline if it does not end in one, and the line holds the marker of
the item, its modifiers and one space. -/
theorem item_begins_line (writer : Writer) {name : String} (hname : Tag.ofName name = .li)
    {attributes : Attributes} (hmodifiers : '\n' ∉ modifiers attributes .li) :
    ∃ before line kept, Divided writer.output.toList before line ∧
      (BareMarker line ∧ kept = before ∨ ¬BareMarker line ∧ kept = before ++ line) ∧
      Divided (writer.start name attributes).output.toList
        (kept ++ if ['\n'] <:+ kept then [] else ['\n'])
        (itemMarker writer.elements ++ modifiers attributes .li ++ [' ']) := by
  have hdivided := divided_toList writer.output
  refine ⟨_, _, writer.output.dropBareMarker.toList, hdivided,
    toList_dropBareMarker hdivided, ?_⟩
  have hmarker : '\n' ∉ itemMarker writer.elements := by
    rw [← itemSign_eq_itemMarker]
    exact newline_not_mem_itemSign writer.elements
  have hstart : (writer.start name attributes).output =
      (writer.output.dropBareMarker.separate .lineBreak).append
        (itemMarker writer.elements ++ modifiers attributes .li ++ [' ']) := by
    rw [← itemSign_eq_itemMarker]
    exact congrArg Writer.output (writer.step_start_item hname attributes)
  refine ⟨?_, by simp [hmarker, hmodifiers], .inr ?_⟩
  · rw [hstart, toList_append, toList_separate]
    rfl
  · exact Gap.newline_suffix_lineBreak writer.output.dropBareMarker.toList

/-- An item right in an item, in an unknown element of a list in a list: the marker is that of
the inner list, once for either, and a bare marker gives way to it. -/
theorem item_begins_line_nested :
    Tag.ofName "LI" = .li ∧ '\n' ∉ modifiers (.ofList [("class", "a")]) .li ∧
      (start ⟨[⟨.li, .empty⟩, ⟨.unknown, .empty⟩, ⟨.ol, .empty⟩, ⟨.dl, .empty⟩, ⟨.ul, .empty⟩],
          ⟨[' ', '#', '\n', 'x']⟩⟩ "LI" (.ofList [("class", "a")])).output.toList =
        ['x', '\n'] ++ ['#', '#'] ++ ['(', 'a', ')'] ++ [' '] := by
  have hname : Tag.ofName "LI" = .li := rfl
  have hmodifiers : modifiers (.ofList [("class", "a")]) .li = ['(', 'a', ')'] := by
    decide +kernel
  have hline : '\n' ∉ modifiers (.ofList [("class", "a")]) .li := by
    rw [hmodifiers]
    decide
  refine ⟨hname, hline, ?_⟩
  obtain ⟨before, line, kept, hdivided, hkept, hafter⟩ := item_begins_line
    ⟨[⟨.li, .empty⟩, ⟨.unknown, .empty⟩, ⟨.ol, .empty⟩, ⟨.dl, .empty⟩, ⟨.ul, .empty⟩],
      ⟨[' ', '#', '\n', 'x']⟩⟩ hname hline
  have hparts : Divided ['x', '\n', '#', ' '] ['x', '\n'] ['#', ' '] :=
    ⟨rfl, by decide, .inr ⟨['x'], rfl⟩⟩
  obtain ⟨rfl, rfl⟩ := hdivided.unique hparts
  have hbare : BareMarker ['#', ' '] := ⟨['#'], List.cons_ne_nil _ _, by simp, rfl⟩
  rcases hkept with ⟨_, rfl⟩ | ⟨hnot, _⟩
  · rw [hafter.parts, hmodifiers]
    rfl
  · exact absurd hbare hnot

end Writer

end Textile
