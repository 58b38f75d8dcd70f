import Textile.Proofs.Gap
import Textile.Proofs.Origin

/-!
# Lines that are definite

A list item takes the last line of the output back if it is a bare marker, and one space
decides whether a line of markers is one. Unknown elements write such spaces. In most
lines they make no difference: those are *definite* (`Definite`).

* **Documents** (`ItemsMeetDefinite`): the line that each list item finds is definite. It
  is if nothing but the start of an item writes what looks like a bare marker
  (`itemsMeetDefinite_of_steady`), and in most documents that have other stars too, as
  these rarely stand alone in their line.
* **Two lines** (`SameLine`): the last line of an output, and that of another one in which
  spaces of unknown elements are missing. If the first line is definite, both are bare
  markers or neither is (`SameLine.isBareMarker_eq`).
* **Two outputs** (`SameLine.write`, `SameLine.separate`, `SameLine.unknown_space`): the
  lines stay related whatever is written into both outputs, whatever gap is asked for in
  both, and where an unknown element asks for a space in the first alone.
-/

namespace Textile

open Textile.Text Textile.Output

namespace Event

/-- Whether the event is the start or the end of an unknown element. -/
def isUnknown : Event → Bool
  | .start name _ | .stop name => Tag.ofName name = .unknown
  | .text _ | .verbatim _ => false

/-- What the event writes is steady, apart from gaps and from the markers of items; and so is what
the end of the element writes that it starts. -/
def IsSteady : Event → Prop
  | .start name attributes =>
    (Tag.ofName name ≠ .li →
      ∀ enclosing, Steady (Element.opening ⟨.ofName name, attributes⟩ enclosing)) ∧
    Steady (Element.closing ⟨.ofName name, attributes⟩)
  | .stop _ => True
  | .text run => ∀ atLineStart, Steady (writtenRun run.toList atLineStart)
  | .verbatim written => Steady written.toList

/-- The start of an element is steady, and so is its end, unless its signs hold item markers or it
is a link to a target of several lines. -/
theorem isSteady_start {name : String} {attributes : Attributes}
    (hstarred : Tag.ofName name ∉ Tag.starred)
    (hlink : Tag.ofName name = .a → '\n' ∉ (attributes.getD "href").toList) :
    (Event.start name attributes).IsSteady := by
  refine ⟨fun hli enclosing => Element.steady_opening hli hstarred enclosing, ?_⟩
  by_cases hlink' : Tag.ofName name = .a
  · have hsign (before : List Char) : Barred (before ++ Tag.a.closingSign.toList) := by
      have hcolon : Tag.a.closingSign.toList = ['"'] ++ [':'] := rfl
      rw [hcolon]
      exact ((barred_singleton (by decide) (by decide)).append_left _).append_left _
    rw [hlink']
    exact .inr ((hsign _).append_right (hlink hlink'))
  · exact Element.steady_closing hlink' hstarred

/-- A text without item markers is steady. -/
theorem isSteady_text {run : String} (h : isUnmarked (plain run.toList) = true) :
    (Event.text run).IsSteady := by
  intro atLineStart
  apply steady_of_isUnmarked
  rw [isUnmarked_iff] at h ⊢
  intro c hc
  obtain ⟨d, hd, rfl⟩ := List.mem_map.mp (writtenRun_subset _ atLineStart hc)
  split
  · decide
  · exact h d hd

instance : DecidablePred StartsItem
  | .start name _ => inferInstanceAs (Decidable (Tag.ofName name = .li))
  | .stop _ | .text _ | .verbatim _ => inferInstanceAs (Decidable False)

end Event

namespace Writer

/-! ## Lines with their origins -/

/-- The first character of the line, which is newest first, is from the start of an item. -/
def BegunByItem (events : List Event) (line : List (Char × Nat)) : Prop :=
  ∃ mark ∈ line.getLast?, ∃ source ∈ events[mark.2]?, source.StartsItem

/-- No character of the line is from an unknown element. -/
def FreeOfUnknown (events : List Event) (line : List (Char × Nat)) : Prop :=
  ∀ mark ∈ line, ∀ source ∈ events[mark.2]?, source.isUnknown = false

/-- Whether the line is a bare marker does not hang on spaces of unknown elements: it has no item
marker, or a character that no bare marker has, or an item has begun it, or unknown elements have
written nothing into it. -/
def Definite (events : List Event) (line : List (Char × Nat)) : Prop :=
  (∀ mark ∈ line, isItemMarker mark.1 = false) ∨ (∃ mark ∈ line, isSolid mark.1 = true) ∨
    BegunByItem events line ∨ FreeOfUnknown events line

/-- The line that each list item of a document finds is definite. -/
def ItemsMeetDefinite (events : List Event) : Prop :=
  ∀ number, ∀ h : number < events.length, events[number].StartsItem →
    Definite events (lastLineOrigins (origins (events.take number)))

section Decidable

variable (events : List Event) (line : List (Char × Nat))

instance : Decidable (BegunByItem events line) :=
  inferInstanceAs (Decidable (∃ mark ∈ line.getLast?, ∃ source ∈ events[mark.2]?, _))

instance : Decidable (FreeOfUnknown events line) :=
  inferInstanceAs (Decidable (∀ mark ∈ line, ∀ source ∈ events[mark.2]?, _))

instance : Decidable (Definite events line) :=
  inferInstanceAs (Decidable (_ ∨ _))

instance : Decidable (ItemsMeetDefinite events) :=
  inferInstanceAs (Decidable (∀ number, ∀ _ : number < events.length, _))

end Decidable

variable {events : List Event} {line : List (Char × Nat)} {number : Nat} {event : Event}

theorem ItemsMeetDefinite.meets (h : ItemsMeetDefinite events) {before more : List Event}
    (hevents : events = before ++ event :: more) (hitem : event.StartsItem) :
    Definite events (lastLineOrigins (origins before)) := by
  subst hevents
  have hget : (before ++ event :: more).get ⟨before.length, by simp⟩ = event := by simp
  have hdefinite := h before.length (by simp) (hget.symm ▸ hitem)
  rwa [List.take_left] at hdefinite

/-- An event that starts no item does not begin a line as one. -/
theorem BegunByItem.of_append {newest : List Char}
    (h : BegunByItem events (newest.map (·, number) ++ line))
    (hevent : events[number]? = some event) (hitem : ¬event.StartsItem) :
    BegunByItem events line := by
  obtain ⟨mark, hmark, source, hsource, hstarts⟩ := h
  cases line with
  | nil =>
      rw [List.append_nil, List.getLast?_map, Option.mem_def, Option.map_eq_some_iff] at hmark
      obtain ⟨c, -, rfl⟩ := hmark
      rw [Option.mem_def, hevent] at hsource
      cases hsource
      exact absurd hstarts hitem
  | cons oldest line =>
      rw [List.getLast?_append_of_ne_nil _ (List.cons_ne_nil _ _)] at hmark
      exact ⟨mark, hmark, source, hsource, hstarts⟩

theorem FreeOfUnknown.of_append {newest : List (Char × Nat)}
    (h : FreeOfUnknown events (newest ++ line)) : FreeOfUnknown events line :=
  fun mark hmark => h mark (List.mem_append_right _ hmark)

theorem BegunByItem.append (h : BegunByItem events line) (newest : List (Char × Nat)) :
    BegunByItem events (newest ++ line) := by
  obtain ⟨mark, hmark, hsource⟩ := h
  have hne : line ≠ [] := by
    rintro rfl
    cases hmark
  exact ⟨mark, (List.getLast?_append_of_ne_nil _ hne).symm ▸ hmark, hsource⟩

/-- What an item writes at its start ends in a space. -/
theorem head?_lineEnd_opening (attributes : Attributes) (enclosing : List Element) :
    (lineEnd (Element.opening ⟨.li, attributes⟩ enclosing)).head? = some ' ' := by
  have hopening : Element.opening ⟨.li, attributes⟩ enclosing =
      itemSign enclosing ++ modifiers attributes .li ++ [' '] := rfl
  rw [hopening, lineEnd_append_of_not_mem (by decide)]
  rfl

/-- An item begins the line that it writes. -/
theorem begunByItem_item {before : List Event} {name : String} {attributes : Attributes}
    (hevent : events[before.length]? = some (.start name attributes))
    (hli : Tag.ofName name = .li) :
    BegunByItem events (lastLineOrigins (origins (before ++ [.start name attributes]))) := by
  have hne : lineEnd (Element.opening ⟨.li, attributes⟩ (after before).elements) ≠ [] := by
    intro hnil
    have hhead := head?_lineEnd_opening attributes (after before).elements
    rw [hnil] at hhead
    cases hhead
  rw [lastLineOrigins_item before hli]
  refine ⟨((lineEnd _).getLast hne, before.length), ?_, .start name attributes, hevent, hli⟩
  rw [List.getLast?_map, List.getLast?_eq_some_getLast hne]
  rfl

/-- A line without item markers is no bare marker. -/
theorem not_isBareMarker_of_unmarked {chars : List Char}
    (h : ∀ c ∈ chars, isItemMarker c = false) : ¬isBareMarker chars = true := by
  unfold isBareMarker
  split
  · next markers =>
      cases markers with
      | nil => exact Bool.false_ne_true
      | cons marker markers => simp [h marker (by simp)]
  · exact Bool.false_ne_true

/-! ## Steady events -/

/-- The ends of all open elements stay steady. -/
theorem steady_closing_step {writer : Writer}
    (h : ∀ element ∈ writer.elements, Steady element.closing) (hevent : event.IsSteady) :
    ∀ element ∈ (writer.step event).elements, Steady element.closing := by
  obtain ⟨elements, output⟩ := writer
  cases event with
  | start name attributes => exact List.forall_mem_cons.mpr ⟨hevent.2, h⟩
  | stop name =>
      show ∀ element ∈ (stop _ name).elements, _
      cases elements with
      | nil => exact h
      | cons element enclosing =>
          have hrest := (List.forall_mem_cons.mp h).2
          by_cases htag : element.tag = .ofName name
          · rwa [stop_of_eq htag]
          · rwa [stop_of_ne htag]
  | text run => exact h
  | verbatim text => exact h

/-- A steady event that starts no item writes a steady text. -/
theorem writesSteady_of_isSteady {writer : Writer}
    (h : ∀ element ∈ writer.elements, Steady element.closing) (hevent : event.IsSteady)
    (hitem : ¬event.StartsItem) : writer.WritesSteady event := by
  cases event with
  | start name attributes => exact hevent.1 hitem writer.elements
  | stop name => exact fun element hhead _ => h element (List.mem_of_mem_head? hhead)
  | text run => exact hevent _
  | verbatim text => exact hevent

/-- Where all events are steady, the output is, unless an item has begun its last line. -/
theorem steady_or_begunByItem (hsteady : ∀ event ∈ events, event.IsSteady) {before : List Event}
    (hbefore : before <+: events) :
    (∀ element ∈ (after before).elements, Steady element.closing) ∧
      (Steady (after before).output.toList ∨
        BegunByItem events (lastLineOrigins (origins before))) := by
  induction before using List.reverseRecOn with
  | nil => exact ⟨fun _ hnone => absurd hnone List.not_mem_nil, .inl steady_nil⟩
  | append_singleton before event ih =>
      obtain ⟨more, rfl⟩ := hbefore
      obtain ⟨hclosing, hline⟩ := ih ⟨event :: more, by simp⟩
      have hevent : event.IsSteady := hsteady event (by simp)
      refine ⟨after_concat before event ▸ steady_closing_step hclosing hevent, ?_⟩
      by_cases hitem : event.StartsItem
      · cases event with
        | start name attributes => exact .inr (begunByItem_item (by simp) hitem)
        | stop name => exact absurd hitem id
        | text run => exact absurd hitem id
        | verbatim text => exact absurd hitem id
      · obtain ⟨text, htext, hwritten⟩ :=
          steady_step (writesSteady_of_isSteady hclosing hevent hitem)
        rw [(after before).kept_of_not_item hitem] at htext
        rw [origins_concat_of_not_item hitem htext, after_concat, htext, toList_append]
        by_cases hnewline : '\n' ∈ text
        · left
          rwa [Steady, Barred, lineEnd_append_of_mem hnewline]
        · rcases hline with houtput | hbegun
          · exact .inl (houtput.append hwritten)
          · rw [lastLineOrigins_of_not_mem hnewline]
            exact .inr (hbegun.append _)

/-- Where all events are steady, every item finds a definite line. -/
theorem itemsMeetDefinite_of_steady (hsteady : ∀ event ∈ events, event.IsSteady) :
    ItemsMeetDefinite events := by
  intro number _ _
  obtain ⟨-, hline⟩ := steady_or_begunByItem hsteady (List.take_prefix number events)
  rcases hline with houtput | hbegun
  · have hchars : (lastLineOrigins (origins (events.take number))).map Prod.fst =
        lineEnd (after (events.take number)).output.toList := by
      rw [map_fst_lastLineOrigins, map_fst_origins, ← lastLine_eq_lineEnd]
      rfl
    rw [Steady, Barred, ← hchars] at houtput
    rcases houtput with hnone | ⟨c, hc, hsolid⟩
    · exact .inl (List.forall_mem_map.mp hnone)
    · obtain ⟨mark, hmark, rfl⟩ := List.mem_map.mp hc
      exact .inr (.inl ⟨mark, hmark, hsolid⟩)
  · exact .inr (.inr (.inl hbegun))

/-! ## Two lines -/

/-- The last line of an output, with its origins, and the last line of another output in which
spaces of unknown elements are missing, both newest first. A line that an item has begun is either
what the item has written, up to its space, or spoilt in both. -/
structure SameLine (events : List Event) (line : List (Char × Nat)) (spare : List Char) :
    Prop where
  filter_eq : (line.map Prod.fst).filter (· ≠ ' ') = spare.filter (· ≠ ' ')
  begun : BegunByItem events line →
    (line.map Prod.fst = spare ∧ spare.head? = some ' ') ∨
      (Spoilt (line.map Prod.fst) ∧ Spoilt spare)
  own : FreeOfUnknown events line → line.map Prod.fst = spare

namespace SameLine

variable {spare : List Char}

theorem nil : SameLine events [] [] := by
  refine ⟨rfl, fun hbegun => ?_, fun _ => rfl⟩
  obtain ⟨mark, hmark, -⟩ := hbegun
  cases hmark

/-- Both lines go on with the same text, which does not begin an item. -/
theorem append (h : SameLine events line spare) (hevent : events[number]? = some event)
    (hitem : ¬event.StartsItem) (newest : List Char) :
    SameLine events (newest.map (·, number) ++ line) (newest ++ spare) := by
  have hchars : (newest.map (·, number) ++ line).map Prod.fst =
      newest ++ line.map Prod.fst := by
    rw [List.map_append, map_fst_numbered]
  refine ⟨?_, fun hbegun => ?_, fun hown => ?_⟩
  · rw [hchars, List.filter_append, List.filter_append, h.filter_eq]
  · rw [hchars]
    rcases h.begun (hbegun.of_append hevent hitem) with ⟨hsame, hspace⟩ | ⟨hfull, hspare⟩
    · rw [hsame]
      cases newest with
      | nil => exact .inl ⟨rfl, hspace⟩
      | cons c newest =>
          -- The space of the item is no longer at the end of the line.
          obtain ⟨older, rfl⟩ := List.head?_eq_some_iff.mp hspace
          have hne : c :: newest ≠ [] := List.cons_ne_nil c newest
          have hspoilt : Spoilt (c :: newest ++ ' ' :: older) :=
            ⟨c :: newest, ' ', older, rfl, by decide, fun hnil => absurd hnil hne⟩
          exact .inr ⟨hspoilt, hspoilt⟩
    · exact .inr ⟨hfull.append newest, hspare.append newest⟩
  · rw [hchars, h.own hown.of_append]

/-- Both lines are what an item has written, up to its space. -/
theorem item {newest : List Char} (hspace : newest.head? = some ' ') :
    SameLine events (newest.map (·, number)) newest := by
  have hchars : (newest.map (·, number)).map Prod.fst = newest := map_fst_numbered newest number
  refine ⟨by rw [hchars], fun _ => .inl ⟨hchars, hspace⟩, fun _ => hchars⟩

/-- A space comes into the first line alone: it is missing there, and either it is from an unknown
element or it is not missing in the second line, so that the lines are different already. -/
theorem space (h : SameLine events line spare) (hevent : events[number]? = some event)
    (hitem : ¬event.StartsItem) (hmissing : (line.map Prod.fst).head? ≠ some ' ')
    (hwhy : event.isUnknown = true ∨ line.map Prod.fst ≠ spare) :
    SameLine events ((' ', number) :: line) spare := by
  refine ⟨?_, fun hbegun => ?_, fun hown => ?_⟩
  · rw [List.map_cons, List.filter_cons_of_neg (by simp), h.filter_eq]
  · have hbegun' : BegunByItem events ([' '].map (·, number) ++ line) := hbegun
    rcases h.begun (hbegun'.of_append hevent hitem) with ⟨hsame, hspace⟩ | ⟨hfull, hspare⟩
    · exact absurd (hsame ▸ hspace) hmissing
    · exact .inr ⟨hfull.append [' '], hspare⟩
  · rcases hwhy with hunknown | hne
    · have hnot := hown _ List.mem_cons_self event hevent
      rw [hunknown] at hnot
      cases hnot
    · have hown' : FreeOfUnknown events ([(' ', number)] ++ line) := hown
      exact absurd (h.own hown'.of_append) hne

/-- A space comes into the second line alone, since the first one ends in one. -/
theorem spare_space (h : SameLine events line spare) (hmissing : spare.head? ≠ some ' ')
    (hne : line.map Prod.fst ≠ spare) : SameLine events line (' ' :: spare) := by
  refine ⟨?_, fun hbegun => ?_, fun hown => absurd (h.own hown) hne⟩
  · rw [List.filter_cons_of_neg (by decide), h.filter_eq]
  · rcases h.begun hbegun with ⟨-, hspace⟩ | ⟨hfull, hspare⟩
    · exact absurd hspace hmissing
    · exact .inr ⟨hfull, hspare.append [' ']⟩

/-- The lines differ in spaces only. -/
theorem mem_iff (h : SameLine events line spare) {c : Char} (hc : c ≠ ' ') :
    c ∈ line.map Prod.fst ↔ c ∈ spare := by
  have hfilter := congrArg (c ∈ ·) h.filter_eq
  simpa [List.mem_filter, hc] using hfilter

/-- Where the first line is definite, an item takes back both lines or none. -/
theorem isBareMarker_eq (h : SameLine events line spare) (hdefinite : Definite events line) :
    isBareMarker (line.map Prod.fst) = isBareMarker spare := by
  have hneither (hfull : ¬isBareMarker (line.map Prod.fst) = true)
      (hspare : ¬isBareMarker spare = true) :
      isBareMarker (line.map Prod.fst) = isBareMarker spare := by
    rw [Bool.not_eq_true] at hfull hspare
    rw [hfull, hspare]
  rcases hdefinite with hnone | ⟨mark, hmark, hsolid⟩ | hbegun | hown
  · have hunmarked : ∀ c ∈ line.map Prod.fst, isItemMarker c = false :=
      List.forall_mem_map.mpr hnone
    refine hneither (not_isBareMarker_of_unmarked hunmarked) (not_isBareMarker_of_unmarked ?_)
    intro c hc
    by_cases hspace : c = ' '
    · rw [hspace]
      decide
    · exact hunmarked c ((h.mem_iff hspace).mpr hc)
  · have hspace : mark.1 ≠ ' ' := by
      intro hspace
      rw [hspace] at hsolid
      cases hsolid
    have hc : mark.1 ∈ line.map Prod.fst := List.mem_map_of_mem hmark
    exact hneither (spoilt_of_isSolid hc hsolid).not_isBareMarker
      (spoilt_of_isSolid ((h.mem_iff hspace).mp hc) hsolid).not_isBareMarker
  · rcases h.begun hbegun with ⟨hsame, -⟩ | ⟨hfull, hspare⟩
    · rw [hsame]
    · exact hneither hfull.not_isBareMarker hspare.not_isBareMarker
  · rw [h.own hown]

end SameLine

/-! ## Two outputs -/

/-- The output of characters that are given with their origins. -/
def outputOf (marks : List (Char × Nat)) : Output :=
  ⟨marks.map Prod.fst⟩

/-- The characters after a text that the event with the number writes. -/
def marked (number : Nat) (text : List Char) (marks : List (Char × Nat)) : List (Char × Nat) :=
  text.reverse.map (·, number) ++ marks

/-- The characters after a gap that the event with the number asks for. -/
def spaced (number : Nat) (gap : Gap) (marks : List (Char × Nat)) : List (Char × Nat) :=
  marked number (gap.missing (outputOf marks).toList) marks

variable {before : List Event} {marks : List (Char × Nat)} {spare : Output}

theorem outputOf_origins (before : List Event) :
    outputOf (origins before) = (after before).output :=
  congrArg Output.mk (map_fst_origins before)

theorem lastLine_outputOf (marks : List (Char × Nat)) :
    (outputOf marks).lastLine = (lastLineOrigins marks).map Prod.fst :=
  (map_fst_lastLineOrigins marks).symm

theorem outputOf_marked (number : Nat) (text : List Char) (marks : List (Char × Nat)) :
    outputOf (marked number text marks) = (outputOf marks).append text := by
  rw [outputOf, marked, List.map_append, map_fst_numbered]
  exact congrArg Output.mk (newestFirst_append _ text).symm

theorem outputOf_spaced (number : Nat) (gap : Gap) (marks : List (Char × Nat)) :
    outputOf (spaced number gap marks) = (outputOf marks).separate gap := by
  rw [spaced, outputOf_marked, separate_eq_missing]

theorem marked_append (number : Nat) (text more : List Char) (marks : List (Char × Nat)) :
    marked number (text ++ more) marks = marked number more (marked number text marks) := by
  rw [marked, marked, marked, List.reverse_append, List.map_append, List.append_assoc]

/-- A start writes a gap and then what the start of the element writes. -/
theorem origins_start (before : List Event) {name : String} (attributes : Attributes)
    (hli : Tag.ofName name ≠ .li) :
    origins (before ++ [.start name attributes]) =
      marked before.length (Element.opening ⟨.ofName name, attributes⟩ (after before).elements)
        (spaced before.length ((after before).gap (.ofName name)) (origins before)) := by
  have hitem : ¬(Event.start name attributes).StartsItem := hli
  rw [spaced, ← marked_append, outputOf_origins]
  apply origins_concat_of_not_item hitem
  rw [step_start_of_ne _ rfl hli, ← append_append, ← separate_eq_missing]

/-- An end that matches leaves the elements around the one that it ends. -/
theorem elements_stop {element : Element} {enclosing : List Element} {name : String}
    (h : (after before).elements = element :: enclosing) (htag : element.tag = .ofName name) :
    (after (before ++ [.stop name])).elements = enclosing := by
  rw [after_concat]
  generalize after before = writer at h ⊢
  obtain ⟨elements, output⟩ := writer
  subst h
  rw [step, stop_of_eq htag]

/-- An end that matches writes what the end of the element writes and then a gap. -/
theorem origins_stop {element : Element} {enclosing : List Element} {name : String}
    (h : (after before).elements = element :: enclosing) (htag : element.tag = .ofName name) :
    origins (before ++ [.stop name]) =
      spaced before.length (gap ⟨enclosing, (after before).output⟩ element.tag)
        (marked before.length element.closing (origins before)) := by
  rw [spaced, outputOf_marked, outputOf_origins, ← marked_append]
  apply origins_concat_of_not_item id
  generalize after before = writer at h ⊢
  obtain ⟨elements, output⟩ := writer
  subst h
  rw [step, stop_of_eq htag, ← append_append, ← separate_eq_missing]

namespace SameLine

/-- A text comes into both outputs. -/
theorem write (h : SameLine events (lastLineOrigins marks) spare.lastLine)
    (hevent : events[number]? = some event) (hitem : ¬event.StartsItem) (text : List Char) :
    SameLine events (lastLineOrigins (marked number text marks)) (spare.append text).lastLine := by
  by_cases hline : '\n' ∈ text
  · rw [marked, lastLineOrigins_of_mem hline, lastLine_append_of_mem hline]
    have hnew := (nil : SameLine events [] []).append hevent hitem (lineEnd text)
    rwa [List.append_nil, List.append_nil] at hnew
  · rw [marked, lastLineOrigins_of_not_mem hline, lastLine_append_of_not_mem hline]
    exact h.append hevent hitem text.reverse

/-- An unknown element asks for a space in the first output alone. -/
theorem unknown_space (h : SameLine events (lastLineOrigins marks) spare.lastLine)
    (hevent : events[number]? = some event) (hitem : ¬event.StartsItem)
    (hunknown : event.isUnknown = true) :
    SameLine events (lastLineOrigins (spaced number .space marks)) spare.lastLine := by
  rw [spaced, missing_space, lastLine_outputOf]
  split
  · exact h
  · next hmissing =>
      rw [marked, lastLineOrigins_of_not_mem (by decide)]
      exact h.space hevent hitem (fun hspace => hmissing (.inr hspace)) (.inl hunknown)

/-- A space is asked for in both outputs. It may be missing in one of them alone, but not if the
lines are equal. -/
theorem both_space (h : SameLine events (lastLineOrigins marks) spare.lastLine)
    (hends : (outputOf marks).endsInNewline = spare.endsInNewline)
    (hevent : events[number]? = some event) (hitem : ¬event.StartsItem) :
    SameLine events (lastLineOrigins (spaced number .space marks))
      (spare.separate .space).lastLine := by
  rw [spaced, separate_eq_missing, missing_space, missing_space, lastLine_outputOf, hends]
  have hone (marks : List (Char × Nat)) :
      lastLineOrigins (marked number [' '] marks) = (' ', number) :: lastLineOrigins marks :=
    lastLineOrigins_of_not_mem (by decide) number marks
  have hone' (output : Output) : (output.append [' ']).lastLine = ' ' :: output.lastLine :=
    lastLine_append_of_not_mem (by decide) output
  cases spare.endsInNewline with
  | true => exact h
  | false =>
      simp only [Bool.false_eq_true, false_or]
      by_cases hfull : ((lastLineOrigins marks).map Prod.fst).head? = some ' '
      · by_cases hspare : spare.lastLine.head? = some ' '
        · rw [if_pos hfull, if_pos hspare]
          exact h
        · rw [if_pos hfull, if_neg hspare, hone']
          exact h.spare_space hspare fun hsame => hspare (hsame ▸ hfull)
      · by_cases hspare : spare.lastLine.head? = some ' '
        · rw [if_neg hfull, if_pos hspare, hone]
          exact h.space hevent hitem hfull (.inr fun hsame => hfull (hsame ▸ hspare))
        · rw [if_neg hfull, if_neg hspare, hone, hone']
          exact h.append hevent hitem [' ']

/-- A gap is asked for in both outputs. -/
theorem separate (h : SameLine events (lastLineOrigins marks) spare.lastLine)
    (hends : (outputOf marks).endsInNewline = spare.endsInNewline)
    (hevent : events[number]? = some event) (hitem : ¬event.StartsItem) (gap : Gap) :
    SameLine events (lastLineOrigins (spaced number gap marks))
      (spare.separate gap).lastLine := by
  by_cases hgap : gap = .space
  · subst hgap
    exact h.both_space hends hevent hitem
  · -- Any other gap ends both lines.
    have hended (output : Output) : (output.separate gap).lastLine = [] := by
      apply lastLine_of_endsInNewline
      rw [endsInNewline_separate, decide_eq_true hgap, Bool.true_or]
    have hfull : lastLineOrigins (spaced number gap marks) = [] := by
      rw [← List.map_eq_nil_iff, ← lastLine_outputOf, outputOf_spaced, hended]
    rw [hfull, hended]
    exact nil

end SameLine
end Writer

end Textile
