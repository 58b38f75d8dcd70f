import Textile.Proofs.LastLine
import Textile.Proofs.Text.Escape

/-!
# Where the characters of the output come from

A list item takes the last line of the output back if it is a bare marker: the item
around it has nothing of its own. The line is known by its look alone, so this file
follows each character from the event that writes it to the one that takes it back.

* **Origins** (`origins`): the characters of the output with the number of the event
  that each of them is from. Without the numbers they are the output
  (`map_fst_origins`).
* **Lines** (`Accounted`): a line is what one list item writes at its start, or it holds
  a character that keeps it from being a bare marker, or all its markers come from
  events that bring markers of their own: texts, phrases in stars and links.
* **Events** (`accounted_step`): whatever event comes next, the last line after it is
  accounted for.
* **Taking back** (`takenBack_origin`): so a line that is taken back is what one list
  item has written, or no list item has written any marker in it.
-/

namespace Textile

open Textile.Text Textile.Output

/-! ## Events -/

namespace Event

/-- The event can write item markers that are no list item's: a text, the sign of a
phrase in stars, or the end of a link, which writes where it leads. -/
def BringsMarkers : Event → Prop
  | .text _ | .verbatim _ => True
  | .start name _ => Tag.ofName name ∈ Tag.starred
  | .stop name => Tag.ofName name ∈ .a :: Tag.starred

end Event

namespace Writer

/-- An event that starts no item leaves all of the output. -/
theorem kept_of_not_item (writer : Writer) {event : Event} (hitem : ¬event.StartsItem) :
    writer.kept event = writer.output := by
  rcases writer.kept_eq event with hall | ⟨hstarts, -⟩
  · exact hall
  · exact absurd hstarts hitem

theorem kept_suffix (writer : Writer) (event : Event) :
    (writer.kept event).newestFirst <:+ writer.output.newestFirst := by
  rcases writer.kept_eq event with hall | ⟨_, _, hcompleted⟩
  · rw [hall]
  · rw [hcompleted]
    exact List.dropWhile_suffix _

/-- What the event writes besides a gap is steady. -/
def WritesSteady (writer : Writer) : Event → Prop
  | .start name attributes => Steady (Element.opening ⟨.ofName name, attributes⟩ writer.elements)
  | .stop name =>
    ∀ element ∈ writer.elements.head?, element.tag = .ofName name → Steady element.closing
  | .text run => Steady (writtenRun run.toList writer.output.endsInNewline)
  | .verbatim text => Steady text.toList

/-- A gap more makes no bare marker. -/
theorem steady_step {writer : Writer} {event : Event} (h : writer.WritesSteady event) :
    ∃ text, (writer.step event).output = (writer.kept event).append text ∧ Steady text := by
  cases event with
  | start name attributes =>
      obtain ⟨white, hwhite, hblank⟩ :=
        (writer.kept (.start name attributes)).separate_eq_append (writer.gap (.ofName name))
      refine ⟨white ++ _, ?_, (steady_white hblank).append h⟩
      rw [step, start_eq, hwhite, append_append]
  | stop name =>
      obtain ⟨elements, output⟩ := writer
      show ∃ text, (stop _ name).output = output.append text ∧ Steady text
      cases elements with
      | nil => exact ⟨[], rfl, steady_nil⟩
      | cons element enclosing =>
          by_cases htag : element.tag = .ofName name
          · obtain ⟨white, hwhite, hblank⟩ := (output.append element.closing).separate_eq_append
              (gap ⟨enclosing, output⟩ element.tag)
            have hclosing : Steady element.closing := h element rfl htag
            refine ⟨element.closing ++ white, ?_, hclosing.append (steady_white hblank)⟩
            rw [stop_of_eq htag, hwhite, append_append]
          · rw [stop_of_ne htag]
            exact ⟨[], rfl, steady_nil⟩
  | text run => exact ⟨_, rfl, h⟩
  | verbatim text => exact ⟨_, rfl, h⟩

/-- An event that brings no markers and starts no item writes none into the last line,
unless the line is barred. -/
theorem steady_written {writer : Writer} {event : Event} (hbrings : ¬event.BringsMarkers)
    (hitem : ¬event.StartsItem) :
    ∃ text, (writer.step event).output = (writer.kept event).append text ∧ Steady text := by
  apply steady_step
  cases event with
  | start name attributes =>
      have hli : (Element.mk (.ofName name) attributes).tag ≠ .li := hitem
      exact Element.steady_opening hli hbrings writer.elements
  | stop name =>
      intro element _ htag
      have hbrings : element.tag ∉ .a :: Tag.starred := htag ▸ hbrings
      rw [List.mem_cons, not_or] at hbrings
      exact Element.steady_closing hbrings.1 hbrings.2
  | text run => exact absurd trivial hbrings
  | verbatim text => exact absurd trivial hbrings

/-! ## Origins -/

/-- How many characters of the output an event takes back. -/
def takes (writer : Writer) (event : Event) : Nat :=
  writer.output.newestFirst.length - (writer.kept event).newestFirst.length

/-- The characters of the output after one more event, newest first: what the event
leaves of those from before, and its own with its number. -/
def originsAfter (writer : Writer) (origins : List (Char × Nat)) (number : Nat) (event : Event) :
    List (Char × Nat) :=
  let next := (writer.step event).output.newestFirst
  (next.take (next.length - (writer.kept event).newestFirst.length)).map (·, number) ++
    origins.drop (writer.takes event)

/-- The characters of the output after more events, of which the first has the given
number. -/
def originsFrom (writer : Writer) (origins : List (Char × Nat)) (number : Nat) :
    List Event → List (Char × Nat)
  | [] => origins
  | event :: events =>
      originsFrom (writer.step event) (writer.originsAfter origins number event) (number + 1) events

/-- The characters of the output after events, newest first, each with the number of the
event that wrote it. -/
def origins (events : List Event) : List (Char × Nat) :=
  empty.originsFrom [] 0 events

/-- The writer after events. -/
abbrev after (events : List Event) : Writer :=
  Sink.receiveAll empty events

/-- The characters of the output that an event takes back. -/
def takenBack (before : List Event) (event : Event) : List (Char × Nat) :=
  (origins before).take ((after before).takes event)

theorem originsFrom_append (writer : Writer) (origins : List (Char × Nat)) (number : Nat)
    (before more : List Event) :
    writer.originsFrom origins number (before ++ more) =
      (Sink.receiveAll writer before).originsFrom (writer.originsFrom origins number before)
        (number + before.length) more := by
  induction before generalizing writer origins number with
  | nil => rfl
  | cons event before ih =>
      rw [List.cons_append, originsFrom, originsFrom, ih, receiveAll_cons, List.length_cons,
        Nat.add_right_comm, Nat.add_assoc]

theorem origins_concat (before : List Event) (event : Event) :
    origins (before ++ [event]) =
      (after before).originsAfter (origins before) before.length event := by
  rw [origins, originsFrom_append, Nat.zero_add]
  rfl

theorem after_concat (before : List Event) (event : Event) :
    after (before ++ [event]) = (after before).step event :=
  Sink.receiveAll_append empty before [event]

/-- An event puts what it writes in front of what it leaves. -/
theorem originsAfter_eq {writer : Writer} {event : Event} {text : List Char}
    (h : (writer.step event).output = (writer.kept event).append text)
    (origins : List (Char × Nat)) (number : Nat) :
    writer.originsAfter origins number event =
      text.reverse.map (·, number) ++ origins.drop (writer.takes event) := by
  have hlength : (text.reverse ++ (writer.kept event).newestFirst).length -
      (writer.kept event).newestFirst.length = text.reverse.length := by
    rw [List.length_append, Nat.add_sub_cancel]
  rw [originsAfter, h, newestFirst_append, hlength, List.take_left]

/-- An event that starts no item leaves all characters where they are. -/
theorem origins_concat_of_not_item {before : List Event} {event : Event} {text : List Char}
    (hitem : ¬event.StartsItem)
    (h : ((after before).step event).output = (after before).output.append text) :
    origins (before ++ [event]) = text.reverse.map (·, before.length) ++ origins before := by
  have hkept := (after before).kept_of_not_item hitem
  rw [origins_concat, originsAfter_eq (hkept.symm ▸ h), takes, hkept, Nat.sub_self, List.drop_zero]

theorem drop_takes (writer : Writer) (event : Event) :
    writer.output.newestFirst.drop (writer.takes event) = (writer.kept event).newestFirst :=
  (List.suffix_iff_eq_drop.mp (writer.kept_suffix event)).symm

theorem map_fst_numbered (text : List Char) (number : Nat) :
    (text.map (·, number)).map Prod.fst = text := by
  rw [List.map_map]
  exact List.map_id text

/-- Without the numbers, the origins are the output. -/
theorem map_fst_origins (events : List Event) :
    (origins events).map Prod.fst = (after events).output.newestFirst := by
  induction events using List.reverseRecOn with
  | nil => rfl
  | append_singleton before event ih =>
      obtain ⟨text, htext⟩ := (after before).step_output event
      rw [origins_concat, originsAfter_eq htext, after_concat, htext, newestFirst_append,
        List.map_append, map_fst_numbered, List.map_drop, ih, drop_takes]

/-- Without the numbers, what an event does not take back is what it leaves. -/
theorem map_fst_drop_takes (before : List Event) (event : Event) :
    ((origins before).drop ((after before).takes event)).map Prod.fst =
      ((after before).kept event).newestFirst := by
  rw [List.map_drop, map_fst_origins, drop_takes]

/-! ## The last line -/

/-- The part of the origins that belongs to the last line. -/
def lastLineOrigins (origins : List (Char × Nat)) : List (Char × Nat) :=
  origins.takeWhile (·.1 ≠ '\n')

theorem map_fst_lastLineOrigins (origins : List (Char × Nat)) :
    (lastLineOrigins origins).map Prod.fst = (origins.map Prod.fst).takeWhile (· ≠ '\n') := by
  rw [List.takeWhile_map]
  rfl

/-- What a list item without modifiers writes after the gap, newest character first: its
sign and a space. -/
def itemLine (events : List Event) (number : Nat) : List (Char × Nat) :=
  (itemSign (after (events.take number)).elements ++ [' ']).reverse.map (·, number)

/-- A line, newest character first, that is no bare marker and never becomes one: it
holds a character that is no marker and not a space at its end. -/
def Spoilt (line : List Char) : Prop :=
  ∃ newer c older, line = newer ++ c :: older ∧ isItemMarker c = false ∧ (newer = [] → c ≠ ' ')

/-- Where the characters of a line come from. -/
inductive Accounted (events : List Event) (line : List (Char × Nat)) : Prop
  /-- All of them from the start of one list item. -/
  | item {number : Nat} {start : Event} : events[number]? = some start → start.StartsItem →
      line = itemLine events number → Accounted events line
  /-- It does not matter, since the line is no bare marker and never becomes one. -/
  | spoilt : Spoilt (line.map Prod.fst) → Accounted events line
  /-- The markers among them from events that bring markers. -/
  | brought : (∀ mark ∈ line, isItemMarker mark.1 = true →
      ∃ source, events[mark.2]? = some source ∧ source.BringsMarkers) → Accounted events line

theorem exists_markers_of_isBareMarker {line : List Char} (h : isBareMarker line = true) :
    ∃ markers, line = ' ' :: markers ∧ ∀ c ∈ markers, isItemMarker c = true := by
  unfold isBareMarker at h
  split at h
  · next markers =>
      rw [Bool.and_eq_true, List.all_eq_true] at h
      exact ⟨markers, rfl, h.2⟩
  · cases h

theorem Spoilt.not_isBareMarker {line : List Char} (h : Spoilt line) :
    ¬isBareMarker line = true := by
  obtain ⟨newer, c, older, rfl, hc, hspace⟩ := h
  intro hbare
  obtain ⟨markers, hline, hmarkers⟩ := exists_markers_of_isBareMarker hbare
  cases newer with
  | nil => exact hspace rfl (List.cons.inj hline).1
  | cons d newer =>
      obtain ⟨_, rfl⟩ := List.cons.inj hline
      rw [hmarkers c (by simp)] at hc
      cases hc

theorem Spoilt.append {line : List Char} (h : Spoilt line) (newest : List Char) :
    Spoilt (newest ++ line) := by
  obtain ⟨newer, c, older, rfl, hc, hspace⟩ := h
  refine ⟨newest ++ newer, c, older, (List.append_assoc ..).symm, hc, fun hnil => ?_⟩
  exact hspace (List.append_eq_nil_iff.mp hnil).2

theorem spoilt_of_isSolid {line : List Char} {c : Char} (hc : c ∈ line)
    (hsolid : isSolid c = true) : Spoilt line := by
  obtain ⟨newer, older, rfl⟩ := List.append_of_mem hc
  rw [isSolid, Bool.and_eq_true, Bool.not_eq_true', bne_iff_ne] at hsolid
  exact ⟨newer, c, older, rfl, hsolid.1, fun _ => hsolid.2⟩

namespace Accounted

variable {before : List Event} {line : List (Char × Nat)}

theorem concat (h : Accounted before line) (event : Event) :
    Accounted (before ++ [event]) line := by
  have hevent {number : Nat} {earlier : Event} (hearlier : before[number]? = some earlier) :
      (before ++ [event])[number]? = some earlier := by
    rwa [List.getElem?_append_left (List.getElem?_eq_some_iff.mp hearlier).1]
  cases h with
  | @item number start hstart hitem hline =>
      have hlt : number < before.length := (List.getElem?_eq_some_iff.mp hstart).1
      refine .item (hevent hstart) hitem ?_
      rw [hline, itemLine, itemLine, List.take_append_of_le_length hlt.le]
  | spoilt hspoilt => exact .spoilt hspoilt
  | brought hmarks =>
      refine .brought fun mark hmark hmarker => ?_
      obtain ⟨source, hsource, hbrings⟩ := hmarks mark hmark hmarker
      exact ⟨source, hevent hsource, hbrings⟩

/-- The line goes on with what an event writes: the markers are its own to bring, or
they make no bare marker. -/
theorem append (h : Accounted before line) {event : Event} {newest : List Char}
    (hnewest : event.BringsMarkers ∨ (∀ c ∈ newest, isItemMarker c = false) ∨
      ∃ c ∈ newest, isSolid c = true) :
    Accounted (before ++ [event]) (newest.map (·, before.length) ++ line) := by
  have hchars : (newest.map (·, before.length) ++ line).map Prod.fst =
      newest ++ line.map Prod.fst := by
    rw [List.map_append, map_fst_numbered]
  -- Markers that the event writes are its own to bring, unless the line is barred.
  have hown : (∃ c ∈ newest, isSolid c = true) ∨ ∀ mark ∈ newest.map (·, before.length),
      isItemMarker mark.1 = true →
        ∃ source, (before ++ [event])[mark.2]? = some source ∧ source.BringsMarkers := by
    rcases hnewest with hbrings | hnone | hsolid
    · refine .inr fun mark hmark _ => ?_
      obtain ⟨c, _, rfl⟩ := List.mem_map.mp hmark
      exact ⟨event, List.getElem?_concat_length, hbrings⟩
    · refine .inr fun mark hmark hmarker => ?_
      obtain ⟨c, hc, rfl⟩ := List.mem_map.mp hmark
      rw [hnone c hc] at hmarker
      cases hmarker
    · exact .inl hsolid
  rcases hown with ⟨c, hc, hsolid⟩ | hown
  · exact .spoilt (hchars ▸ spoilt_of_isSolid (List.mem_append_left _ hc) hsolid)
  · by_cases hnil : newest = []
    · subst hnil
      exact h.concat event
    · cases h.concat event with
      | item _ _ hline =>
          -- The space of the item is no longer at the end of the line.
          refine .spoilt ?_
          rw [hchars, hline, itemLine, List.reverse_append]
          exact ⟨newest, ' ', _, rfl, by decide, fun h => absurd h hnil⟩
      | spoilt hspoilt => exact .spoilt (hchars ▸ hspoilt.append newest)
      | brought hmarks => exact .brought (List.forall_mem_append.mpr ⟨hown, hmarks⟩)

theorem nil (events : List Event) : Accounted events [] :=
  .brought fun _ hmark => absurd hmark List.not_mem_nil

end Accounted

/-- A text with a newline ends the last line and begins another one. -/
theorem lastLineOrigins_of_mem {text : List Char} (h : '\n' ∈ text) (number : Nat)
    (older : List (Char × Nat)) :
    lastLineOrigins (text.reverse.map (·, number) ++ older) =
      (lineEnd text).map (·, number) := by
  have hend : lastLineOrigins (text.reverse.map (·, number)) = (lineEnd text).map (·, number) := by
    rw [lastLineOrigins, List.takeWhile_map]
    rfl
  rw [← hend, lastLineOrigins, List.takeWhile_append]
  split
  · next hall =>
      have hwhole := (List.takeWhile_prefix _).eq_of_length hall
      have hmark : ('\n', number) ∈ text.reverse.map (·, number) :=
        List.mem_map_of_mem (List.mem_reverse.mpr h)
      rw [← hwhole] at hmark
      exact absurd (List.mem_takeWhile_imp hmark) (by simp)
  · rfl

/-- A text without a newline goes on with the last line. -/
theorem lastLineOrigins_of_not_mem {text : List Char} (h : '\n' ∉ text) (number : Nat)
    (older : List (Char × Nat)) :
    lastLineOrigins (text.reverse.map (·, number) ++ older) =
      text.reverse.map (·, number) ++ lastLineOrigins older :=
  List.takeWhile_append_of_pos (List.forall_mem_map.mpr (inline_of_not_mem h))

/-- The last line after a text that is written: the end of the text, and what stands in
front of it if the text has no newline. -/
theorem lastLineOrigins_append (text : List Char) (number : Nat) (older : List (Char × Nat)) :
    ∃ line, lastLineOrigins (text.reverse.map (·, number) ++ older) =
        (lineEnd text).map (·, number) ++ line ∧ (line = [] ∨ line = lastLineOrigins older) := by
  by_cases h : '\n' ∈ text
  · exact ⟨[], by rw [lastLineOrigins_of_mem h, List.append_nil], .inl rfl⟩
  · have hend : lineEnd text = text.reverse := by
      simpa [lineEnd] using lineEnd_append_of_not_mem h []
    exact ⟨lastLineOrigins older, by rw [lastLineOrigins_of_not_mem h, hend], .inr rfl⟩

variable {before : List Event}

/-- Whatever an event leaves, the last line of it is accounted for. -/
theorem accounted_left (h : Accounted before (lastLineOrigins (origins before))) (event : Event) :
    Accounted before
      (lastLineOrigins ((origins before).drop ((after before).takes event))) := by
  rcases (after before).kept_eq event with hall | ⟨_, _, hcompleted⟩
  · rwa [takes, hall, Nat.sub_self, List.drop_zero]
  · have hnone := map_fst_lastLineOrigins ((origins before).drop ((after before).takes event))
    rw [map_fst_drop_takes, hcompleted] at hnone
    rw [List.map_eq_nil_iff.mp (hnone.trans (lastLine_completed _))]
    exact .nil before

theorem accounted_text (h : Accounted before (lastLineOrigins (origins before))) {event : Event}
    {text : List Char}
    (htext : ((after before).step event).output = ((after before).kept event).append text)
    (hsteady : event.BringsMarkers ∨ Steady text) :
    Accounted (before ++ [event]) (lastLineOrigins (origins (before ++ [event]))) := by
  rw [origins_concat, originsAfter_eq htext]
  obtain ⟨line, hline, hrest⟩ := lastLineOrigins_append text before.length _
  rw [hline]
  have hbefore : Accounted before line := by
    rcases hrest with rfl | rfl
    · exact .nil before
    · exact accounted_left h event
  exact hbefore.append hsteady

/-- A list item begins a line: the last line after its start is what it has written there. -/
theorem lastLineOrigins_item (before : List Event) {name : String} {attributes : Attributes}
    (hli : Tag.ofName name = .li) :
    lastLineOrigins (origins (before ++ [.start name attributes])) =
      (lineEnd (Element.opening ⟨.li, attributes⟩ (after before).elements)).map
        (·, before.length) := by
  obtain ⟨white, hwhite, _⟩ :=
    ((after before).kept (.start name attributes)).separate_eq_append .lineBreak
  have htext : ((after before).step (.start name attributes)).output =
      ((after before).kept (.start name attributes)).append
        (white ++ Element.opening ⟨.li, attributes⟩ (after before).elements) := by
    rw [step, start_eq, hli]
    show (((after before).kept _).separate .lineBreak).append _ = _
    rw [hwhite, append_append]
  rw [origins_concat, originsAfter_eq htext, List.reverse_append, List.map_append,
    List.append_assoc]
  by_cases hline : '\n' ∈ Element.opening ⟨.li, attributes⟩ (after before).elements
  · exact lastLineOrigins_of_mem hline before.length _
  · -- The gap in front of the item ends the line before it.
    have hended : lastLineOrigins (white.reverse.map (·, before.length) ++
        (origins before).drop ((after before).takes (.start name attributes))) = [] := by
      apply List.map_eq_nil_iff.mp
      rw [map_fst_lastLineOrigins, List.map_append, map_fst_numbered, map_fst_drop_takes,
        ← newestFirst_append, ← hwhite]
      exact lastLine_separate_lineBreak _
    have hend := lineEnd_append_of_not_mem hline []
    rw [lastLineOrigins_of_not_mem hline, hended, List.append_nil]
    exact congrArg (List.map _) (hend.trans (List.append_nil _)).symm

/-- The line that a list item begins is its marker and a space, or barred by its modifiers. -/
theorem accounted_item {name : String} {attributes : Attributes} (hli : Tag.ofName name = .li) :
    Accounted (before ++ [.start name attributes])
      (lastLineOrigins (origins (before ++ [.start name attributes]))) := by
  rw [lastLineOrigins_item before hli]
  by_cases hmodifiers : modifiers attributes .li = []
  · refine .item List.getElem?_concat_length hli ?_
    have hnewline : '\n' ∉ itemSign (after before).elements ++ [' '] := by
      simp [newline_not_mem_itemSign]
    have hend := lineEnd_append_of_not_mem hnewline []
    rw [Element.opening_li hmodifiers, itemLine, List.take_left]
    exact congrArg (List.map _) (hend.trans (List.append_nil _))
  · obtain ⟨c, hc, hsolid⟩ := Element.barred_opening_li hmodifiers (after before).elements
    refine .spoilt (spoilt_of_isSolid ?_ hsolid)
    rwa [map_fst_numbered]

/-- However an event goes on, the last line after it is accounted for. -/
theorem accounted_step (h : Accounted before (lastLineOrigins (origins before))) (event : Event) :
    Accounted (before ++ [event]) (lastLineOrigins (origins (before ++ [event]))) := by
  by_cases hbrings : event.BringsMarkers
  · obtain ⟨text, htext⟩ := (after before).step_output event
    exact accounted_text h htext (.inl hbrings)
  · by_cases hitem : event.StartsItem
    · cases event with
      | start name attributes => exact accounted_item hitem
      | stop name => exact absurd hitem id
      | text run => exact absurd hitem id
      | verbatim text => exact absurd hitem id
    · obtain ⟨text, htext, hsteady⟩ := steady_written hbrings hitem
      exact accounted_text h htext (.inr hsteady)

theorem accounted_lastLine (events : List Event) :
    Accounted events (lastLineOrigins (origins events)) := by
  induction events using List.reverseRecOn with
  | nil => exact .nil []
  | append_singleton before event ih => exact accounted_step ih event

/-- A bare marker that is taken back is the last line with all its origins. -/
theorem takenBack_eq_lastLine {event : Event}
    (h : (after before).kept event = (after before).output.completed) :
    takenBack before event = lastLineOrigins (origins before) := by
  have hall : (origins before).length = (after before).output.newestFirst.length := by
    rw [← map_fst_origins, List.length_map]
  have hcompleted : ((origins before).dropWhile (·.1 ≠ '\n')).length =
      (after before).output.completed.newestFirst.length := by
    rw [completed, ← map_fst_origins, List.dropWhile_map, List.length_map]
    rfl
  have hline : (lastLineOrigins (origins before)).length = (after before).takes event := by
    have hparts : (lastLineOrigins (origins before)).length +
        ((origins before).dropWhile (·.1 ≠ '\n')).length = (origins before).length := by
      rw [lastLineOrigins, ← List.length_append, List.takeWhile_append_dropWhile]
    rw [takes, h, ← hall, ← hcompleted, ← hparts]
    exact (Nat.add_sub_cancel ..).symm
  rw [takenBack, ← hline]
  exact List.prefix_iff_eq_take.mp (List.takeWhile_prefix _) |>.symm

/-- Only a list item takes anything back, and only the whole of a last line that is a
bare marker. Either one earlier list item has written the line at its start, as its marker
and a space, or no list item has written any marker in it: each comes from a text, a
phrase in stars or the end of a link. -/
theorem takenBack_origin (before : List Event) (event : Event) :
    takenBack before event = [] ∨
      event.StartsItem ∧ takenBack before event = lastLineOrigins (origins before) ∧
        isBareMarker ((takenBack before event).map Prod.fst) = true ∧
        ((∃ number item, before[number]? = some item ∧ item.StartsItem ∧
            takenBack before event = itemLine before number) ∨
          ∀ mark ∈ takenBack before event, isItemMarker mark.1 = true →
            ∃ source, before[mark.2]? = some source ∧ source.BringsMarkers) := by
  rcases (after before).kept_eq event with hall | ⟨hitem, hbare, hcompleted⟩
  · left
    rw [takenBack, takes, hall, Nat.sub_self, List.take_zero]
  · right
    have htaken := takenBack_eq_lastLine hcompleted
    have hlook : isBareMarker ((lastLineOrigins (origins before)).map Prod.fst) = true := by
      rw [map_fst_lastLineOrigins, map_fst_origins]
      exact hbare
    rw [htaken]
    refine ⟨hitem, rfl, hlook, ?_⟩
    cases accounted_lastLine before with
    | item hstart hitem hline => exact .inl ⟨_, _, hstart, hitem, hline⟩
    | spoilt hspoilt => exact absurd hlook hspoilt.not_isBareMarker
    | brought hmarks => exact .inr hmarks

/-- A text that looks like the marker of an item is taken back like one. -/
theorem takenBack_text :
    takenBack [.text "* "] (.start "li" .empty) = [(' ', 0), ('*', 0)] ∧
      ¬∀ (before : List Event) (event : Event), ∀ mark ∈ takenBack before event,
        ∃ item, before[mark.2]? = some item ∧ item.StartsItem := by
  have hplain : plain "* ".toList = ['*', ' '] := plain_of_not_mem (by decide)
  have hwritten : writtenRun "* ".toList false = ['*', ' '] := by
    rw [writtenRun_eq_plain (by rw [hplain]; decide), hplain]
  have htext : (empty.step (.text "* ")).output = (empty.kept (.text "* ")).append ['*', ' '] :=
    congrArg (Output.append .empty) hwritten
  have horigins : origins [.text "* "] = [(' ', 0), ('*', 0)] :=
    originsAfter_eq htext [] 0
  have htaken : takenBack [.text "* "] (.start "li" .empty) = [(' ', 0), ('*', 0)] := by
    have hbefore : (after [.text "* "]).output = ⟨[' ', '*']⟩ := htext
    have hleft : (after [.text "* "]).kept (.start "li" .empty) = ⟨[]⟩ := by
      rw [kept_start, hbefore]
      rfl
    rw [takenBack, horigins, takes, hleft, hbefore]
    rfl
  refine ⟨htaken, fun hfromItem => ?_⟩
  obtain ⟨item, hitem, hstarts⟩ :=
    hfromItem [.text "* "] (.start "li" .empty) (' ', 0) (htaken ▸ List.mem_cons_self)
  cases hitem
  exact hstarts

end Writer

end Textile
