import Textile.Proofs.Newlines

/-!
# The last lines of what is written

A list item takes the last line of the output back if it is a bare marker. What an
element writes is none in almost all cases: its last line has no item marker, or it
has a character that no bare marker has.

* **Texts** (`Output.Steady`): the last line of a text decides. Texts that are steady
  stay so one after the other (`Output.Steady.append`).
* **Modifiers** (`barred_modifiers`): where there are any, the line is no bare marker.
* **Elements** (`Element.steady_opening`, `Element.steady_closing`): only the signs of
  `b` and `strong`, the markers of list items and the targets of links are different.
-/

namespace Textile

open Textile.Output

/-! ## Texts that make no bare marker -/

namespace Output

/-- A character that no bare marker has. -/
def isSolid (c : Char) : Bool :=
  !isItemMarker c && c != ' '

/-- Whether a text holds no item marker. -/
def isUnmarked (text : List Char) : Bool :=
  text.all (!isItemMarker ·)

/-- The characters of a text after its last newline, newest first. -/
def lineEnd (text : List Char) : List Char :=
  text.reverse.takeWhile (· ≠ '\n')

variable {text : List Char}

theorem mem_of_mem_lineEnd {c : Char} (h : c ∈ lineEnd text) : c ∈ text :=
  List.mem_reverse.mp ((List.takeWhile_subset _) h)

theorem inline_of_not_mem (h : '\n' ∉ text) :
    ∀ c ∈ text.reverse, decide (c ≠ '\n') = true := by
  intro c hc
  apply decide_eq_true
  rintro rfl
  exact h (List.mem_reverse.mp hc)

theorem lineEnd_append_of_not_mem (h : '\n' ∉ text) (before : List Char) :
    lineEnd (before ++ text) = text.reverse ++ lineEnd before := by
  rw [lineEnd, List.reverse_append, List.takeWhile_append_of_pos (inline_of_not_mem h)]
  rfl

theorem lineEnd_append_of_mem (h : '\n' ∈ text) (before : List Char) :
    lineEnd (before ++ text) = lineEnd text := by
  obtain ⟨line, older, heq, hnone⟩ := List.eq_append_cons_of_mem (List.mem_reverse.mpr h)
  have hline : ∀ c ∈ line, decide (c ≠ '\n') = true := fun c hc =>
    decide_eq_true fun hnewline => hnone (hnewline ▸ hc)
  rw [lineEnd, lineEnd, List.reverse_append, heq, List.append_assoc,
    List.takeWhile_append_of_pos hline, List.takeWhile_append_of_pos hline]
  rfl

theorem lastLine_eq_lineEnd (output : Output) : output.lastLine = lineEnd output.toList := by
  rw [lastLine, lineEnd, toList, List.reverse_reverse]

theorem lastLine_append_of_mem (h : '\n' ∈ text) (output : Output) :
    (output.append text).lastLine = lineEnd text := by
  rw [lastLine_eq_lineEnd, toList_append, lineEnd_append_of_mem h]

theorem lastLine_append_of_not_mem (h : '\n' ∉ text) (output : Output) :
    (output.append text).lastLine = text.reverse ++ output.lastLine := by
  rw [lastLine_eq_lineEnd, toList_append, lineEnd_append_of_not_mem h, lastLine_eq_lineEnd]

/-- A text in a new line is the end of it. -/
theorem lastLine_append_of_lastLine_eq_nil {output : Output} (h : output.lastLine = []) :
    (output.append text).lastLine = lineEnd text := by
  by_cases hline : '\n' ∈ text
  · exact lastLine_append_of_mem hline output
  · have hend := lineEnd_append_of_not_mem hline []
    rw [lastLine_append_of_not_mem hline, h]
    exact hend.symm

theorem lastLine_of_endsInNewline {output : Output} (h : output.endsInNewline = true) :
    output.lastLine = [] := by
  obtain ⟨older, holder⟩ := newestFirst_of_endsInNewline h
  rw [lastLine, holder]
  rfl

theorem completed_append_of_not_mem (h : '\n' ∉ text) (output : Output) :
    (output.append text).completed = output.completed := by
  rw [completed, newestFirst_append, List.dropWhile_append_of_pos (inline_of_not_mem h)]
  rfl

theorem completed_of_endsInNewline {output : Output} (h : output.endsInNewline = true) :
    output.completed = output := by
  obtain ⟨older, holder⟩ := newestFirst_of_endsInNewline h
  rw [completed, holder, List.dropWhile_cons_of_neg (by decide), ← holder]

/-- The last line of the text holds a character that no bare marker has. -/
def Barred (text : List Char) : Prop :=
  ∃ c ∈ lineEnd text, isSolid c = true

/-- The last line of the text holds no item marker, or is barred. -/
def Steady (text : List Char) : Prop :=
  (∀ c ∈ lineEnd text, isItemMarker c = false) ∨ Barred text

theorem Barred.append_left (h : Barred text) (before : List Char) : Barred (before ++ text) := by
  obtain ⟨c, hc, hsolid⟩ := h
  refine ⟨c, ?_, hsolid⟩
  by_cases hline : '\n' ∈ text
  · rwa [lineEnd_append_of_mem hline]
  · rw [lineEnd_append_of_not_mem hline]
    exact List.mem_append_left _ (List.mem_reverse.mpr (mem_of_mem_lineEnd hc))

theorem Barred.append_right (h : Barred text) {more : List Char} (hmore : '\n' ∉ more) :
    Barred (text ++ more) := by
  obtain ⟨c, hc, hsolid⟩ := h
  rw [Barred, lineEnd_append_of_not_mem hmore]
  exact ⟨c, List.mem_append_right _ hc, hsolid⟩

theorem barred_singleton {c : Char} (hsolid : isSolid c = true) (hline : c ≠ '\n') :
    Barred [c] := by
  have hend : lineEnd [c] = [c] := List.takeWhile_cons_of_pos (by simpa using hline)
  exact ⟨c, by rw [hend]; exact List.mem_singleton_self c, hsolid⟩

theorem isUnmarked_iff : isUnmarked text = true ↔ ∀ c ∈ text, isItemMarker c = false := by
  simp [isUnmarked]

theorem steady_of_isUnmarked (h : isUnmarked text = true) : Steady text :=
  .inl fun c hc => isUnmarked_iff.mp h c (mem_of_mem_lineEnd hc)

theorem steady_nil : Steady [] := steady_of_isUnmarked rfl

theorem Steady.append {before : List Char} (hbefore : Steady before) (h : Steady text) :
    Steady (before ++ text) := by
  by_cases hline : '\n' ∈ text
  · rwa [Steady, Barred, lineEnd_append_of_mem hline]
  · rcases h with hnone | hbarred
    · rcases hbefore with hnone' | hbarred
      · have hend : lineEnd text = text.reverse := by
          simpa [lineEnd] using lineEnd_append_of_not_mem hline []
        left
        rw [lineEnd_append_of_not_mem hline, ← hend]
        exact List.forall_mem_append.mpr ⟨hnone, hnone'⟩
      · exact .inr (hbarred.append_right hline)
    · exact .inr (hbarred.append_left before)

end Output

/-! ## What elements write -/

theorem isSolid_of_mem_closingChars {c : Char} (h : c ∈ Modifiers.closingChars) :
    isSolid c = true ∧ c ≠ '\n' := by
  have hall : Modifiers.closingChars.all (fun c => isSolid c && c != '\n') = true := by decide
  simpa using List.all_eq_true.mp hall c h

theorem isSolid_of_isDigit {c : Char} (h : c.isDigit = true) : isSolid c = true ∧ c ≠ '\n' := by
  have hne (d : Char) (hd : d.isDigit = false) : c ≠ d := by
    rintro rfl
    rw [h] at hd
    cases hd
  simp [isSolid, isItemMarker, hne '*' rfl, hne '#' rfl, hne ' ' rfl, hne '\n' rfl]

/-- Modifiers keep their line from being a bare marker, wherever they stand. -/
theorem barred_modifiers {attributes : Attributes} {tag : Tag}
    (h : modifiers attributes tag ≠ []) : Barred (modifiers attributes tag) := by
  have hlast := List.getLast?_eq_some_getLast h
  have hsolid : isSolid ((modifiers attributes tag).getLast h) = true ∧
      (modifiers attributes tag).getLast h ≠ '\n' := by
    rcases modifiers_closes attributes tag _ hlast with hclosing | hdigit
    · exact isSolid_of_mem_closingChars hclosing
    · exact isSolid_of_isDigit hdigit
  rw [← List.dropLast_append_getLast h]
  exact (barred_singleton hsolid.1 hsolid.2).append_left _

theorem steady_modifiers (attributes : Attributes) (tag : Tag) :
    Steady (modifiers attributes tag) := by
  by_cases h : modifiers attributes tag = []
  · rw [h]
    exact steady_nil
  · exact .inr (barred_modifiers h)

theorem steady_modifyDot {shown sign : List Char} (hshown : Steady shown)
    (hsign : isUnmarked sign = true) : Steady (modifyDot shown sign) := by
  induction sign with
  | nil => exact steady_nil
  | cons c sign ih =>
      rw [modifyDot]
      split
      · exact hshown.append (steady_of_isUnmarked hsign)
      · rw [isUnmarked, List.all_cons, Bool.and_eq_true] at hsign
        have hfirst : Steady [c] := steady_of_isUnmarked (by simpa [isUnmarked] using hsign.1)
        exact hfirst.append (ih hsign.2)

/-- The tags whose signs hold item markers. -/
def Tag.starred : List Tag := [.b, .strong]

theorem Tag.isUnmarked_openingSign {tag : Tag} (h : tag ∉ starred) :
    isUnmarked tag.openingSign.toList = true := by
  revert h
  cases tag <;> decide

theorem Tag.isUnmarked_closingSign {tag : Tag} (h : tag ∉ starred) :
    isUnmarked tag.closingSign.toList = true := by
  revert h
  cases tag <;> decide

/-- A gap writes no marker. -/
theorem steady_white {white : List Char}
    (h : white = [] ∨ white = [' '] ∨ white = ['\n']) : Steady white := by
  apply steady_of_isUnmarked
  rcases h with rfl | rfl | rfl <;> decide

namespace Element

/-- Where the sign has no marker, what the start of an element writes is steady: modifiers
may hold markers, but not at their end. -/
theorem steady_opening {element : Element} (hli : element.tag ≠ .li)
    (hstarred : element.tag ∉ Tag.starred) (enclosing : List Element) :
    Steady (element.opening enclosing) := by
  have hsign := Tag.isUnmarked_openingSign hstarred
  have hmodifiers := steady_modifiers element.attributes element.tag
  have hbefore := (steady_of_isUnmarked hsign).append hmodifiers
  have hdot := steady_modifyDot hmodifiers hsign
  have hend : Steady ['.', ' '] := steady_of_isUnmarked (by decide)
  simp only [opening, if_neg hli]
  cases element.tag.category with
  | block => exact hdot
  | row => exact hbefore.append (steady_white (.inr (.inl rfl)))
  | cell =>
      dsimp only
      split
      · exact hbefore.append hend
      · exact hdot
  | inline => exact hbefore
  | unclassified => exact hbefore

/-- The start of a list item that has modifiers is no bare marker. -/
theorem barred_opening_li {attributes : Attributes} (h : modifiers attributes .li ≠ [])
    (enclosing : List Element) : Barred (opening ⟨.li, attributes⟩ enclosing) :=
  ((barred_modifiers h).append_left (itemSign enclosing)).append_right (by decide)

theorem opening_li {attributes : Attributes} (h : modifiers attributes .li = [])
    (enclosing : List Element) :
    opening ⟨.li, attributes⟩ enclosing = itemSign enclosing ++ [' '] := by
  show itemSign enclosing ++ modifiers attributes .li ++ [' '] = _
  rw [h, List.append_nil]

/-- What the end of an element writes is steady, except where a link writes its target. -/
theorem steady_closing {element : Element} (hlink : element.tag ≠ .a)
    (hstarred : element.tag ∉ Tag.starred) : Steady element.closing := by
  simp only [closing]
  split
  · next himage =>
      -- An image ends in its sign, whatever its source is.
      rw [himage]
      exact .inr ((barred_singleton (by decide) (by decide)).append_left _)
  · next hlink' => exact absurd hlink' hlink
  · exact steady_of_isUnmarked (Tag.isUnmarked_closingSign hstarred)

end Element

end Textile
