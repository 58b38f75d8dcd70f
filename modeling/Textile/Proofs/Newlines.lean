import Textile.Proofs.Attributes
import Textile.Proofs.Element
import Textile.Proofs.Writer

/-!
# Newlines

Most of the newlines of an output come from gaps: text is written in one line
whatever it holds, and so is an element, unless it is one of three kinds or an
attribute brings a newline along. And gaps never make more than one empty line.

* **Elements and text in one line** (`Element.OneLine.opening`,
  `Element.OneLine.closing`, `newline_not_mem_writtenRun`): what they write holds
  no newline.
* **Outputs without a gape** (`Output.Tight`): three newlines in a row come about
  only where a newline is written after two others. A gap writes none there
  (`Output.Tight.separate`), and taking a bare marker back writes nothing at all
  (`Output.Tight.dropBareMarker`).
* **Runs** (`Writer.Flowing.step`): so no event of a document in which all
  newlines come from gaps makes three newlines in a row.
-/

namespace Textile

open Textile.Text

/-! ## Signs -/

/-- The tags whose signs hold a newline. -/
def Tag.breaking : List Tag := [.br, .dt, .dl]

theorem Tag.newline_not_mem_openingSign {tag : Tag} (h : tag ∉ breaking) :
    '\n' ∉ tag.openingSign.toList := by
  revert h
  cases tag <;> decide

theorem Tag.newline_not_mem_closingSign {tag : Tag} (h : tag ∉ breaking) :
    '\n' ∉ tag.closingSign.toList := by
  revert h
  cases tag <;> decide

theorem Tag.isItemMarker_of_itemMarker? {tag : Tag} {c : Char} (h : tag.itemMarker? = some c) :
    Output.isItemMarker c = true := by
  cases tag <;> cases h <;> rfl

/-- The sign of an item is made of item markers, wherever the item stands. -/
theorem isItemMarker_of_mem_itemSign {enclosing : List Element} {c : Char}
    (h : c ∈ itemSign enclosing) : Output.isItemMarker c = true := by
  rw [List.eq_of_mem_replicate h]
  cases hmarker : (enclosing.head?.bind (·.tag.itemMarker?)).or
      (enclosing.findSome? (·.tag.itemMarker?)) with
  | none => rfl
  | some marker =>
      rcases Option.or_eq_some_iff.mp hmarker with hown | ⟨_, hnearest⟩
      · obtain ⟨list, _, hlist⟩ := Option.bind_eq_some_iff.mp hown
        exact Tag.isItemMarker_of_itemMarker? hlist
      · obtain ⟨list, _, hlist⟩ := List.exists_of_findSome?_eq_some hnearest
        exact Tag.isItemMarker_of_itemMarker? hlist

theorem newline_not_mem_itemSign (enclosing : List Element) : '\n' ∉ itemSign enclosing :=
  fun h => Output.ne_newline_of_isItemMarker (isItemMarker_of_mem_itemSign h) rfl

theorem mem_modifyDot {shown sign : List Char} {c : Char} (h : c ∈ modifyDot shown sign) :
    c ∈ shown ∨ c ∈ sign := by
  induction sign with
  | nil => cases h
  | cons d sign ih =>
      rw [modifyDot] at h
      split at h
      · exact List.mem_append.mp h
      · rcases List.mem_cons.mp h with rfl | h
        · exact .inr List.mem_cons_self
        · exact (ih h).imp_right (List.mem_cons_of_mem _)

/-! ## Elements in one line -/

/-- An element that writes no newline of its own. -/
structure Element.OneLine (element : Element) : Prop where
  tag : element.tag ∉ Tag.breaking
  value : ∀ name, '\n' ∉ element.value name

theorem Element.oneLine_of_entries {element : Element} (htag : element.tag ∉ Tag.breaking)
    (hentries : ∀ entry ∈ element.attributes.entries, '\n' ∉ entry.2.toList) :
    element.OneLine := by
  refine ⟨htag, fun name => ?_⟩
  rw [Element.value, Attributes.getD]
  cases hget : element.attributes.get? name with
  | none => exact List.not_mem_nil
  | some value => exact hentries (name, value) (Attributes.mem_entries_of_get? hget)

namespace Element.OneLine

variable {element : Element}

theorem newline_not_mem_modifiers (h : element.OneLine) :
    '\n' ∉ modifiers element.attributes element.tag := by
  intro hin
  rcases mem_modifiers hin with hframe | hdigit | ⟨name, hvalue⟩
  · exact absurd hframe (by decide)
  · exact absurd hdigit (by decide)
  · exact h.value name hvalue

theorem opening (h : element.OneLine) (enclosing : List Element) :
    '\n' ∉ element.opening enclosing := by
  have hmodifiers := h.newline_not_mem_modifiers
  have hsign : '\n' ∉
      if element.tag = .li then itemSign enclosing else element.tag.openingSign.toList := by
    split
    · exact newline_not_mem_itemSign enclosing
    · exact Tag.newline_not_mem_openingSign h.tag
  have hdot : '\n' ∉ modifyDot (modifiers element.attributes element.tag)
      (if element.tag = .li then itemSign enclosing else element.tag.openingSign.toList) :=
    fun hin => (mem_modifyDot hin).elim hmodifiers hsign
  simp only [Element.opening]
  cases element.tag.category with
  | block => exact hdot
  | row => simp [hsign, hmodifiers]
  | cell =>
      dsimp only
      split
      · simp [hsign, hmodifiers]
      · exact hdot
  | inline => simp [hsign, hmodifiers]
  | unclassified => simp [hsign, hmodifiers]

theorem newline_not_mem_parenthetical {text : List Char} (h : '\n' ∉ text) :
    '\n' ∉ parenthetical text := by
  unfold parenthetical
  split
  · exact List.not_mem_nil
  · simp [h]

theorem closing (h : element.OneLine) : '\n' ∉ element.closing := by
  have hsign := Tag.newline_not_mem_closingSign h.tag
  have halt := newline_not_mem_parenthetical (h.value "alt")
  have htitle := newline_not_mem_parenthetical (h.value "title")
  have hsource := h.value "src"
  have htarget := h.value "href"
  simp only [Element.closing]
  split
  · simp [hsource, halt, hsign]
  · simp [htitle, hsign, htarget]
  · exact hsign

end Element.OneLine

/-- A run of text is written with spaces for its newlines, or with less of them at its ends. -/
theorem writtenRun_subset (run : List Char) (atLineStart : Bool) :
    writtenRun run atLineStart ⊆ (plain run).map fun c => if c = '\n' then ' ' else c := by
  have hends (line : List Char) : trimEnd line ⊆ line := by
    intro c hc
    rw [trimEnd, List.mem_reverse] at hc
    exact List.mem_reverse.mp ((trimStart_suffix _).subset hc)
  simp only [writtenRun]
  split <;> split
  · exact fun c hc => hends _ ((trimStart_suffix _).subset hc)
  · exact (trimStart_suffix _).subset
  · exact hends _
  · exact fun c hc => hc

/-- A run of text is written in one line, whatever it holds and wherever it stands. -/
theorem newline_not_mem_writtenRun (run : List Char) (atLineStart : Bool) :
    '\n' ∉ writtenRun run atLineStart := by
  intro hin
  obtain ⟨c, _, hc⟩ := List.mem_map.mp (writtenRun_subset run atLineStart hin)
  split at hc
  · exact absurd hc (by decide)
  · next hne => exact hne hc

/-! ## Outputs without a gape -/

namespace Output

/-- No three newlines stand next to each other. -/
def Tight (output : Output) : Prop :=
  ¬['\n', '\n', '\n'] <:+: output.newestFirst

theorem tight_iff {output : Output} :
    output.Tight ↔ ¬['\n', '\n', '\n'] <:+: output.toList := by
  rw [Tight, ← List.reverse_infix]
  rfl

namespace Tight

variable {output : Output}

/-- One more character does no harm unless it is a newline after two others. -/
theorem push (h : output.Tight) {c : Char}
    (hc : c = '\n' → output.newestFirst.take 2 ≠ ['\n', '\n']) : (output.push c).Tight := by
  intro hin
  rcases List.infix_cons_iff.mp hin with hprefix | hin
  · obtain ⟨rfl, hrest⟩ := List.cons_prefix_cons.mp hprefix
    exact hc rfl (List.prefix_iff_eq_take.mp hrest).symm
  · exact h hin

theorem append (h : output.Tight) {text : List Char} (htext : '\n' ∉ text) :
    (output.append text).Tight := by
  induction text generalizing output with
  | nil => exact h
  | cons c text ih =>
      rw [List.mem_cons, not_or] at htext
      exact ih (h.push fun hc => absurd hc.symm htext.1) htext.2

theorem separate (h : output.Tight) (gap : Gap) : (output.separate gap).Tight := by
  cases gap with
  | blankLine =>
      rw [separate_blankLine]
      split
      · exact h
      · next htwo => exact h.push fun _ => htwo
  | lineBreak =>
      rw [separate_lineBreak]
      split
      · exact h
      · next hone =>
          refine h.push fun _ htwo => hone ?_
          have hhead := congrArg List.head? htwo
          rwa [List.head?_take] at hhead
  | space =>
      rw [separate_space]
      split
      · exact h
      · exact h.push fun hc => absurd hc (by decide)

/-- Taking the last line back leaves what was there before it. -/
theorem dropBareMarker (h : output.Tight) : output.dropBareMarker.Tight := by
  rw [dropBareMarker_eq]
  split
  · exact fun hin => h (hin.trans (List.dropWhile_suffix _).isInfix)
  · exact h

end Tight
end Output

/-! ## Runs -/

/-- An event that brings no newline of its own. -/
def Event.OneLine : Event → Prop
  | .start name attributes =>
      Tag.ofName name ∉ Tag.breaking ∧ ∀ entry ∈ attributes.entries, '\n' ∉ entry.2.toList
  | .stop _ | .text _ => True
  | .verbatim _ => False

namespace Writer

/-- What holds of a writer while all newlines come from gaps. -/
structure Flowing (writer : Writer) : Prop where
  elements : ∀ element ∈ writer.elements, element.OneLine
  output : writer.output.Tight

theorem empty_flowing : empty.Flowing where
  elements := fun _ h => absurd h List.not_mem_nil
  output := by
    rw [Output.Tight]
    decide

namespace Flowing

variable {writer : Writer}

theorem start (h : writer.Flowing) {name : String} {attributes : Attributes}
    (hevent : (Event.start name attributes).OneLine) : (writer.start name attributes).Flowing := by
  have helement : Element.OneLine ⟨.ofName name, attributes⟩ :=
    Element.oneLine_of_entries hevent.1 hevent.2
  rw [start_eq]
  refine ⟨fun element hin => ?_, ?_⟩
  · rcases List.mem_cons.mp hin with rfl | hin
    · exact helement
    · exact h.elements element hin
  · have hkept : (writer.kept (.start name attributes)).Tight := by
      rw [kept_start]
      split
      · exact h.output.dropBareMarker
      · exact h.output
    exact (hkept.separate _).append (helement.opening writer.elements)

theorem stop (h : writer.Flowing) (name : String) : (writer.stop name).Flowing := by
  obtain ⟨elements, output⟩ := writer
  obtain ⟨helements, houtput⟩ := h
  cases elements with
  | nil => exact ⟨helements, houtput⟩
  | cons element enclosing =>
      obtain ⟨helement, henclosing⟩ := List.forall_mem_cons.mp helements
      by_cases htag : element.tag = .ofName name
      · rw [stop_of_eq htag]
        exact ⟨henclosing, (houtput.append helement.closing).separate _⟩
      · rw [stop_of_ne htag]
        exact ⟨henclosing, houtput⟩

theorem step (h : writer.Flowing) {event : Event} (hevent : event.OneLine) :
    (writer.step event).Flowing := by
  cases event with
  | start name attributes => exact h.start hevent
  | stop name => exact h.stop name
  | text run => exact ⟨h.elements, h.output.append (newline_not_mem_writtenRun _ _)⟩
  | verbatim text => exact absurd hevent id

theorem receiveAll (h : writer.Flowing) {events : List Event}
    (hevents : ∀ event ∈ events, event.OneLine) : (Sink.receiveAll writer events).Flowing := by
  induction events generalizing writer with
  | nil => exact h
  | cons event events ih =>
      obtain ⟨hevent, hrest⟩ := List.forall_mem_cons.mp hevents
      exact ih (h.step hevent) hrest

end Flowing

/-- At most one empty line at a time. Where no event brings a newline of its own, the
output never holds three newlines in a row: not after any of the events, whether they
match or not, and however many elements they leave open. -/
theorem newlines_at_most_two {events : List Event} (h : ∀ event ∈ events, event.OneLine)
    {before : List Event} (hbefore : before <+: events) :
    ¬['\n', '\n', '\n'] <:+: (Sink.receiveAll Writer.empty before).output.toList := by
  have hflowing : (Sink.receiveAll Writer.empty before).Flowing :=
    empty_flowing.receiveAll fun event hin => h event (hbefore.subset hin)
  exact Output.tight_iff.mp hflowing.output

/-- Blocks in blocks have one empty line in front of them, which shows again once the
marker after it is taken back. -/
theorem newlines_at_most_two_nested :
    let events : List Event := [.start "div" .empty, .start "div" .empty, .start "ul" .empty,
      .start "li" .empty, .start "ul" .empty, .start "li" .empty]
    (∀ event ∈ events, event.OneLine) ∧
      (Sink.receiveAll Writer.empty events).output.toList = ['\n', '\n', '*', '*', ' '] ∧
      ¬['\n', '\n', '\n'] <:+: (Sink.receiveAll Writer.empty events).output.toList := by
  intro events
  have hevents : ∀ event ∈ events, event.OneLine := by
    have hstart {name : String} (hname : Tag.ofName name ∉ Tag.breaking) :
        (Event.start name .empty).OneLine := ⟨hname, fun _ hin => absurd hin List.not_mem_nil⟩
    have hdiv : (Event.start "div" .empty).OneLine := hstart (by decide)
    have hul : (Event.start "ul" .empty).OneLine := hstart (by decide)
    have hli : (Event.start "li" .empty).OneLine := hstart (by decide)
    simpa [events] using ⟨hdiv, hul, hli, hul, hli⟩
  have houtput : (Sink.receiveAll Writer.empty events).output.toList =
      ['\n', '\n', '*', '*', ' '] := by
    have hdiv : Tag.ofName "div" = .div := rfl
    have hul : Tag.ofName "ul" = .ul := rfl
    have hli : Tag.ofName "li" = .li := rfl
    simp only [events, receiveAll_cons, step, start, hdiv, hul, hli, Element.opening_empty]
    rfl
  exact ⟨hevents, houtput, newlines_at_most_two hevents (List.prefix_refl _)⟩

end Writer

end Textile
