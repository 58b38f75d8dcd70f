import Textile.Proofs.DefiniteLine
import Textile.Proofs.Matching

/-!
# Unknown elements anywhere

An element that Textile cannot express has no signs. Its events still write: a space,
where the output does not end in white space, and the modifiers that its attributes make.
Here the events of a document are compared with the same events without unknown elements
(`Event.known`), where the modifiers stay behind as a text.

* **Visible characters** (`Output.Agree`): they are the same in both outputs, apart from
  the markers of items. A space more or less decides whether a last line is a bare marker,
  and only such a line is taken back.
* **Markers** (`Writer.Follows`): they are the same too if every item finds a definite
  line (`Writer.ItemsMeetDefinite`).
* **Runs** (`Writer.Erases.run`): the runs with and without unknown elements write outputs
  that are so related. No sign and no gap hangs on an unknown element around it.
-/

namespace Textile

open Textile.Text Textile.Unicode Textile.Output

/-! ## Visible characters -/

/-- Whether a character is visible. -/
def isVisible (c : Char) : Bool :=
  !isWhiteSpace c

/-- Whether a character is visible and no item marker. -/
def isPlain (c : Char) : Bool :=
  isVisible c && !isItemMarker c

namespace Output

theorem endsInNewline_append_congr {full spare : Output}
    (h : full.endsInNewline = spare.endsInNewline) (text : List Char) :
    (full.append text).endsInNewline = (spare.append text).endsInNewline := by
  rw [endsInNewline, endsInNewline, newestFirst_append, newestFirst_append, List.head?_append,
    List.head?_append]
  cases text.reverse.head? with
  | none => exact h
  | some c => rfl

/-- The output is its completed lines and its last line. -/
theorem toList_eq_completed (output : Output) :
    output.toList = output.completed.toList ++ output.lastLine.reverse := by
  rw [toList, toList, ← List.reverse_append]
  exact congrArg List.reverse List.takeWhile_append_dropWhile.symm

/-- Two outputs have the same characters of one kind, and both end in a newline or neither. -/
structure Agree (shown : Char → Bool) (full spare : Output) : Prop where
  filter_eq : full.toList.filter shown = spare.toList.filter shown
  endsInNewline_eq : full.endsInNewline = spare.endsInNewline

namespace Agree

variable {shown : Char → Bool} {full spare : Output}

theorem append (h : Agree shown full spare) (text : List Char) :
    Agree shown (full.append text) (spare.append text) := by
  refine ⟨?_, endsInNewline_append_congr h.endsInNewline_eq text⟩
  rw [toList_append, toList_append, List.filter_append, List.filter_append, h.filter_eq]

section
variable (hspace : shown ' ' = false) (hnewline : shown '\n' = false)
include hspace hnewline

theorem filter_separate (output : Output) (gap : Gap) :
    (output.separate gap).toList.filter shown = output.toList.filter shown := by
  obtain ⟨white, heq, hblank⟩ := output.separate_eq_append gap
  have hnone : white.filter shown = [] := by
    rcases hblank with rfl | rfl | rfl
    · rfl
    · simp [hspace]
    · simp [hnewline]
  rw [heq, toList_append, List.filter_append, hnone, List.append_nil]

theorem separate (h : Agree shown full spare) (gap : Gap) :
    Agree shown (full.separate gap) (spare.separate gap) := by
  refine ⟨?_, ?_⟩
  · rw [filter_separate hspace hnewline, filter_separate hspace hnewline, h.filter_eq]
  · rw [endsInNewline_separate, endsInNewline_separate, h.endsInNewline_eq]

/-- A space more shows nowhere, and ends no line. -/
theorem space (h : Agree shown full spare) : Agree shown (full.separate .space) spare := by
  refine ⟨?_, ?_⟩
  · rw [filter_separate hspace hnewline, h.filter_eq]
  · rw [endsInNewline_separate, h.endsInNewline_eq]
    rfl

/-- An item begins a line, whatever was taken back before it. -/
theorem item (hdrop : full.dropBareMarker.toList.filter shown =
      spare.dropBareMarker.toList.filter shown) (text : List Char) :
    Agree shown ((full.dropBareMarker.separate .lineBreak).append text)
      ((spare.dropBareMarker.separate .lineBreak).append text) := by
  apply append
  refine ⟨?_, ?_⟩
  · rw [filter_separate hspace hnewline, filter_separate hspace hnewline, hdrop]
  · rw [endsInNewline_separate, endsInNewline_separate]
    rfl

end

/-- What is taken back is markers and a space. -/
theorem filter_dropBareMarker (output : Output) :
    output.dropBareMarker.toList.filter isPlain = output.toList.filter isPlain := by
  rw [dropBareMarker_eq]
  split
  · next hbare =>
      obtain ⟨markers, hline, hmarkers⟩ := Writer.exists_markers_of_isBareMarker hbare
      have hnone : output.lastLine.reverse.filter isPlain = [] := by
        rw [List.filter_eq_nil_iff]
        intro c hc
        rw [hline, List.mem_reverse] at hc
        rcases List.mem_cons.mp hc with rfl | hc
        · decide
        · simp [isPlain, hmarkers c hc]
      rw [output.toList_eq_completed, List.filter_append, hnone, List.append_nil]
  · rfl

end Agree
end Output

/-! ## Outputs without the spaces of unknown elements -/

namespace Writer

variable {events before : List Event} {marks : List (Char × Nat)} {number : Nat} {event : Event}
  {spare : Output}

/-- The visible characters of the lines are the same. -/
theorem SameLine.filter_isVisible {line : List (Char × Nat)} {spare : List Char}
    (h : SameLine events line spare) :
    (line.map Prod.fst).filter isVisible = spare.filter isVisible := by
  have hspaces (chars : List Char) :
      chars.filter isVisible = (chars.filter (· ≠ ' ')).filter isVisible := by
    rw [List.filter_filter]
    apply List.filter_congr
    intro c _
    by_cases hc : c = ' '
    · subst hc
      rfl
    · simp [hc]
  rw [hspaces, h.filter_eq, ← hspaces]

/-- An output, given with its origins, and another one in which spaces of unknown elements are
missing: the same visible characters but for item markers, and for all of them if no item finds a
line that is not definite. -/
structure Follows (events : List Event) (marks : List (Char × Nat)) (spare : Output) : Prop where
  plain : Agree isPlain (outputOf marks) spare
  visible : ItemsMeetDefinite events → Agree isVisible (outputOf marks) spare ∧
    SameLine events (lastLineOrigins marks) spare.lastLine

namespace Follows

theorem empty : Follows events [] .empty :=
  ⟨⟨rfl, rfl⟩, fun _ => ⟨⟨rfl, rfl⟩, .nil⟩⟩

section
variable (h : Follows events marks spare) (hevent : events[number]? = some event)
  (hitem : ¬event.StartsItem)
include h hevent hitem

theorem append (text : List Char) :
    Follows events (marked number text marks) (spare.append text) := by
  refine ⟨?_, fun hdefinite => ?_⟩
  · rw [outputOf_marked]
    exact h.plain.append text
  · obtain ⟨hagree, hline⟩ := h.visible hdefinite
    rw [outputOf_marked]
    exact ⟨hagree.append text, hline.write hevent hitem text⟩

theorem separate (gap : Gap) : Follows events (spaced number gap marks) (spare.separate gap) := by
  refine ⟨?_, fun hdefinite => ?_⟩
  · rw [outputOf_spaced]
    exact h.plain.separate rfl rfl gap
  · obtain ⟨hagree, hline⟩ := h.visible hdefinite
    rw [outputOf_spaced]
    exact ⟨hagree.separate rfl rfl gap, hline.separate hagree.endsInNewline_eq hevent hitem gap⟩

theorem space (hunknown : event.isUnknown = true) :
    Follows events (spaced number .space marks) spare := by
  refine ⟨?_, fun hdefinite => ?_⟩
  · rw [outputOf_spaced]
    exact h.plain.space rfl rfl
  · obtain ⟨hagree, hline⟩ := h.visible hdefinite
    rw [outputOf_spaced]
    exact ⟨hagree.space rfl rfl, hline.unknown_space hevent hitem hunknown⟩

end

/-- An item takes back the same from both outputs if it finds a definite line. -/
theorem filter_dropBareMarker {full : Output} (hagree : Agree isVisible full spare)
    {line : List (Char × Nat)} (hline : SameLine events line spare.lastLine)
    (hfull : full.lastLine = line.map Prod.fst) (hdefinite : Definite events line) :
    full.dropBareMarker.toList.filter isVisible =
      spare.dropBareMarker.toList.filter isVisible := by
  rw [dropBareMarker_eq, dropBareMarker_eq, hfull, hline.isBareMarker_eq hdefinite]
  split
  · have hsame := hagree.filter_eq
    rw [full.toList_eq_completed, spare.toList_eq_completed, List.filter_append,
      List.filter_append, List.filter_reverse, List.filter_reverse, hfull,
      hline.filter_isVisible] at hsame
    exact List.append_cancel_right hsame
  · exact hagree.filter_eq

theorem item (h : Follows events (origins before) spare) {name : String} {attributes : Attributes}
    {more : List Event} (hevents : events = before ++ .start name attributes :: more)
    (hli : Tag.ofName name = .li) :
    Follows events (origins (before ++ [.start name attributes]))
      ((spare.dropBareMarker.separate .lineBreak).append
        (Element.opening ⟨.li, attributes⟩ (after before).elements)) := by
  have hfull : outputOf (origins (before ++ [.start name attributes])) =
      ((outputOf (origins before)).dropBareMarker.separate .lineBreak).append
        (Element.opening ⟨.li, attributes⟩ (after before).elements) := by
    rw [outputOf_origins, outputOf_origins, after_concat, step_start_item _ hli]
  refine ⟨?_, fun hdefinite => ?_⟩
  · rw [hfull]
    apply Agree.item rfl rfl
    rw [Agree.filter_dropBareMarker, Agree.filter_dropBareMarker, h.plain.filter_eq]
  · obtain ⟨hagree, hline⟩ := h.visible hdefinite
    have hmeets := hdefinite.meets hevents hli
    rw [hfull]
    refine ⟨Agree.item rfl rfl (filter_dropBareMarker hagree hline (lastLine_outputOf _) hmeets) _,
      ?_⟩
    rw [lastLineOrigins_item before hli,
      lastLine_append_of_lastLine_eq_nil (lastLine_separate_lineBreak _)]
    exact .item (head?_lineEnd_opening attributes _)

end Follows
end Writer

/-! ## Events -/

namespace Event

/-- The event of the document without unknown elements. What is left of such an element is
its modifiers, where it has any. -/
def known : Event → List Event
  | .start name attributes =>
    if Tag.ofName name = .unknown then
      let shown := modifiers attributes .unknown
      if shown = [] then [] else [.verbatim (String.ofList shown)]
    else [.start name attributes]
  | .stop name => if Tag.ofName name = .unknown then [] else [.stop name]
  | .text run => [.text run]
  | .verbatim written => [.verbatim written]

/-- Without modifiers, nothing is left of unknown elements. -/
theorem flatMap_known {events : List Event}
    (h : ∀ name attributes, .start name attributes ∈ events → Tag.ofName name = .unknown →
      modifiers attributes .unknown = []) :
    events.flatMap known = events.filter (!·.isUnknown) := by
  induction events with
  | nil => rfl
  | cons event events ih =>
      have hrest := ih fun name attributes hin => h name attributes (List.mem_cons_of_mem _ hin)
      have hone : event.known = if event.isUnknown then [] else [event] := by
        cases event with
        | start name attributes =>
            have hnone := h name attributes List.mem_cons_self
            simp only [known, isUnknown, decide_eq_true_eq]
            split
            · next hunknown => rw [if_pos (hnone hunknown)]
            · rfl
        | stop name => simp only [known, isUnknown, decide_eq_true_eq]
        | text run => rfl
        | verbatim written => rfl
      rw [List.flatMap_cons, hrest, hone, List.filter_cons]
      cases event.isUnknown <;> rfl

end Event

/-! ## Runs -/

namespace Writer

/-- The writer after events, and the one after them without unknown elements. -/
structure Erases (events before : List Event) (spare : Writer) : Prop where
  elements : spare.elements = knownElements (after before).elements
  output : Follows events (origins before) spare.output

namespace Erases

variable {events before more : List Event} {spare : Writer}

theorem start_unknown (h : Erases events before spare) {name : String} {attributes : Attributes}
    (hevent : events[before.length]? = some (.start name attributes))
    (hunknown : Tag.ofName name = .unknown) :
    ∃ next, spare.run (Event.start name attributes).known = .ok next ∧
      Erases events (before ++ [.start name attributes]) next := by
  have hli : Tag.ofName name ≠ .li := by
    rw [hunknown]
    decide
  have hunknown' : (Event.start name attributes).isUnknown = true := decide_eq_true hunknown
  have helements : spare.elements =
      knownElements (after (before ++ [.start name attributes])).elements := by
    rw [after_concat, step, start_eq, h.elements, hunknown]
    rfl
  have hspaced := h.output.space hevent hli hunknown'
  have horigins := origins_start before attributes hli
  have hgap : (after before).gap .unknown = .space := rfl
  rw [hunknown, opening_unknown, hgap] at horigins
  rw [Event.known, if_pos hunknown]
  generalize modifiers attributes .unknown = shown at horigins ⊢
  by_cases hnone : shown = []
  · subst hnone
    exact ⟨spare, rfl, helements, horigins ▸ hspaced⟩
  · rw [if_neg hnone]
    refine ⟨spare.verbatim (String.ofList shown), rfl, helements, ?_⟩
    show Follows events _ (spare.output.append (String.ofList shown).toList)
    rw [horigins, String.toList_ofList]
    exact hspaced.append hevent hli shown

theorem start_known (h : Erases events before spare) {name : String} {attributes : Attributes}
    (hevents : events = before ++ .start name attributes :: more)
    (hknown : Tag.ofName name ≠ .unknown) :
    Erases events (before ++ [.start name attributes]) (spare.start name attributes) := by
  obtain ⟨opened, written⟩ := spare
  obtain ⟨rfl, houtput⟩ := h
  refine ⟨?_, ?_⟩
  · rw [after_concat, step, start_eq, start_eq]
    exact (List.filter_cons_of_pos (by simpa using hknown)).symm
  · by_cases hli : Tag.ofName name = .li
    · have hstep := step_start_item ⟨knownElements (after before).elements, written⟩ hli attributes
      rw [step] at hstep
      rw [hstep, opening_knownElements]
      exact houtput.item hevents hli
    · have hstep := step_start_of_ne ⟨knownElements (after before).elements, written⟩
        (rfl : Tag.ofName name = _) hli attributes
      rw [step] at hstep
      rw [hstep, opening_knownElements, gap_knownElements _ (after before).output,
        origins_start before attributes hli]
      have hevent : events[before.length]? = some (.start name attributes) := by
        rw [hevents]
        simp
      exact (houtput.separate hevent hli _).append hevent hli _

section Stop

variable {element : Element} {enclosing : List Element} {name : String}
  (h : Erases events before spare) (hevent : events[before.length]? = some (.stop name))
  (helements : (after before).elements = element :: enclosing)
  (htag : element.tag = .ofName name)
include h hevent helements htag

theorem stop_unknown (hunknown : element.tag = .unknown) :
    Erases events (before ++ [.stop name]) spare := by
  have hsame : knownElements (element :: enclosing) = knownElements enclosing :=
    List.filter_cons_of_neg (by simpa using hunknown)
  have hunknown' : (Event.stop name).isUnknown = true := decide_eq_true (htag ▸ hunknown)
  have hgap : gap ⟨enclosing, (after before).output⟩ .unknown = .space := rfl
  -- The end writes nothing but the gap.
  have hclosed := h.output.append hevent id element.closing
  have horigins := origins_stop helements htag
  rw [hunknown, hgap, closing_unknown hunknown] at horigins
  rw [closing_unknown hunknown] at hclosed
  refine ⟨?_, ?_⟩
  · rw [elements_stop helements htag, ← hsame, ← helements]
    exact h.elements
  · rw [horigins]
    exact hclosed.space hevent id hunknown'

theorem stop_known (hknown : element.tag ≠ .unknown) :
    ∃ next, spare.run [.stop name] = .ok next ∧ Erases events (before ++ [.stop name]) next := by
  have hsame : knownElements (element :: enclosing) = element :: knownElements enclosing :=
    List.filter_cons_of_pos (by simpa using hknown)
  obtain ⟨opened, written⟩ := spare
  obtain ⟨hopened, houtput⟩ := h
  obtain rfl : opened = element :: knownElements enclosing := by
    rw [← hsame, ← helements]
    exact hopened
  rw [run_stop htag, Writer.step, stop_of_eq htag,
    gap_knownElements enclosing (after before).output]
  refine ⟨_, rfl, ?_, ?_⟩
  · rw [elements_stop helements htag]
  · rw [origins_stop helements htag]
    exact (houtput.append hevent id element.closing).separate hevent id _

theorem stop : ∃ next, spare.run (Event.stop name).known = .ok next ∧
    Erases events (before ++ [.stop name]) next := by
  rw [Event.known]
  by_cases hunknown : element.tag = .unknown
  · rw [if_pos (htag ▸ hunknown)]
    exact ⟨spare, rfl, h.stop_unknown hevent helements htag hunknown⟩
  · rw [if_neg (htag ▸ hunknown)]
    exact h.stop_known hevent helements htag hunknown

end Stop

/-- Whatever event comes next, the outputs stay related. -/
theorem step (h : Erases events before spare) {event : Event}
    (hevents : events = before ++ event :: more)
    (hbreach : (after before).breach? event = none) :
    ∃ next, spare.run event.known = .ok next ∧ Erases events (before ++ [event]) next := by
  have hevent : events[before.length]? = some event := by
    rw [hevents]
    simp
  cases event with
  | start name attributes =>
      by_cases hunknown : Tag.ofName name = .unknown
      · exact h.start_unknown hevent hunknown
      · rw [Event.known, if_neg hunknown]
        exact ⟨spare.start name attributes, rfl, h.start_known hevents hunknown⟩
  | stop name =>
      obtain ⟨element, enclosing, helements, htag⟩ := exists_innermost_of_breach?_eq_none hbreach
      exact h.stop hevent helements htag
  | text run =>
      refine ⟨spare.text run, rfl, ?_, ?_⟩
      · rw [after_concat]
        exact h.elements
      · have hends := h.output.plain.endsInNewline_eq
        rw [outputOf_origins] at hends
        have horigins : origins (before ++ [.text run]) = marked before.length
            (writtenRun run.toList (after before).output.endsInNewline) (origins before) :=
          origins_concat_of_not_item id rfl
        rw [horigins, hends]
        exact h.output.append hevent id _
  | verbatim text =>
      refine ⟨spare.verbatim text, rfl, ?_, ?_⟩
      · rw [after_concat]
        exact h.elements
      · rw [origins_concat_of_not_item id rfl]
        exact h.output.append hevent id _

/-- A run that goes through goes through without unknown elements. -/
theorem run (hbefore : before <+: events) (hrun : empty.run before = .ok (after before)) :
    ∃ next, empty.run (before.flatMap Event.known) = .ok next ∧ Erases events before next := by
  induction before using List.reverseRecOn with
  | nil => exact ⟨.empty, rfl, rfl, .empty⟩
  | append_singleton before event ih =>
      obtain ⟨more, hmore⟩ := hbefore
      have hevents : events = before ++ event :: more := by rw [← hmore, List.append_assoc]; rfl
      obtain ⟨between, hbetween, hbreach, -⟩ := run_concat.mp hrun
      obtain rfl : after before = between := receiveAll_of_run hbetween
      obtain ⟨spare, hspare, herases⟩ := ih ⟨event :: more, hevents.symm⟩ hbetween
      obtain ⟨next, hnext, herases⟩ := herases.step hevents hbreach
      refine ⟨next, ?_, herases⟩
      rw [List.flatMap_append, List.flatMap_singleton, run_append_of_ok hspare, hnext]

end Erases
end Writer

/-! ## Documents -/

theorem Writer.filter_result {shown : Char → Bool}
    (hwhite : ∀ c, isWhiteSpace c = true → shown c = false) (writer : Writer) (options : Options) :
    (writer.result options).toList.filter shown = writer.output.toList.filter shown := by
  have htext : writer.output.toString.toList = writer.output.toList := String.toList_ofList
  rw [result]
  split
  · rw [trimString, String.toList_ofList, htext, filter_trim hwhite]
  · rw [htext]

/-- Unknown elements are dropped and what they contain is kept. Without their events, and with their
modifiers left in place, matched events are converted to the same visible characters apart from item
markers; and to the same visible characters altogether, unless an item finds a line of nothing but
markers and spaces that no item has begun and that holds a space of an unknown element. Unknown
elements without modifiers leave nothing behind. -/
theorem convertEvents_known (options : Options) {events : List Event} (h : Matched events) :
    ∃ text spare, convertEvents options events = .ok text ∧
      convertEvents options (events.flatMap Event.known) = .ok spare ∧
      text.toList.filter isPlain = spare.toList.filter isPlain ∧
      (Writer.ItemsMeetDefinite events →
        text.toList.filter isVisible = spare.toList.filter isVisible) ∧
      ((∀ name attributes, .start name attributes ∈ events → Tag.ofName name = .unknown →
          modifiers attributes .unknown = []) →
        events.flatMap Event.known = events.filter (!·.isUnknown)) := by
  obtain ⟨output, hrun⟩ := h.run .empty
  have hafter : Writer.after events = ⟨[], output⟩ := Writer.receiveAll_of_run hrun
  obtain ⟨spare, hspare, -, hfollows⟩ :=
    Writer.Erases.run (List.prefix_refl events) (hrun.trans (congrArg _ hafter.symm))
  have hplain : ∀ c, isWhiteSpace c = true → isPlain c = false := fun c hc => by
    simp [isPlain, isVisible, hc]
  have hvisible : ∀ c, isWhiteSpace c = true → isVisible c = false := fun c hc => by
    simp [isVisible, hc]
  have hwritten : Writer.outputOf (Writer.origins events) = output := by
    rw [Writer.outputOf_origins, hafter]
  have htext : convertEvents options events = .ok (Writer.result ⟨[], output⟩ options) := by
    rw [convertEvents, hrun]
    rfl
  have hleft : convertEvents options (events.flatMap Event.known) =
      .ok (spare.result options) := by
    rw [convertEvents, hspare]
    rfl
  refine ⟨_, _, htext, hleft, ?_, fun hdefinite => ?_, Event.flatMap_known⟩
  · rw [Writer.filter_result hplain, Writer.filter_result hplain, ← hwritten]
    exact hfollows.plain.filter_eq
  · rw [Writer.filter_result hvisible, Writer.filter_result hvisible, ← hwritten]
    exact (hfollows.visible hdefinite).1.filter_eq

/-- Unknown elements without modifiers, around an item and in a phrase in stars that a list in this
item follows. -/
theorem convertEvents_known_list :
    let list : List Event := [.start "ul" .empty, .start "section" (.ofList [("lang", "en")]),
      .start "li" .empty, .start "strong" .empty, .start "font" .empty, .text "one",
      .stop "font", .stop "strong", .start "ol" .empty, .start "li" .empty, .text "two",
      .stop "li", .stop "ol", .stop "li", .stop "section", .stop "ul"]
    Matched list ∧ ∃ text spare, convertEvents {} list = .ok text ∧
      convertEvents {} (list.filter (!·.isUnknown)) = .ok spare ∧
      text.toList.filter isVisible = spare.toList.filter isVisible := by
  intro list
  have hmatched : Matched list := by
    have hfont := Matched.element .empty (show Tag.ofName "font" = Tag.ofName "font" from rfl)
      (.text "one" .nil) .nil
    have htwo := Matched.element .empty (show Tag.ofName "li" = Tag.ofName "li" from rfl)
      (.text "two" .nil) .nil
    have hnested := Matched.element .empty (show Tag.ofName "ol" = Tag.ofName "ol" from rfl)
      htwo .nil
    have hstrong := Matched.element .empty
      (show Tag.ofName "strong" = Tag.ofName "strong" from rfl) hfont hnested
    have hitem := Matched.element .empty (show Tag.ofName "li" = Tag.ofName "li" from rfl)
      hstrong .nil
    have hsection := Matched.element (.ofList [("lang", "en")])
      (show Tag.ofName "section" = Tag.ofName "section" from rfl) hitem .nil
    exact .element .empty rfl hsection .nil
  -- The first item finds an empty line, and the second one the line of the first.
  have hdefinite : Writer.ItemsMeetDefinite list := by decide +kernel
  obtain ⟨text, spare, htext, hspare, -, hvisible, hfilter⟩ := convertEvents_known {} hmatched
  have hunset : ∀ name attributes, .start name attributes ∈ list → Tag.ofName name = .unknown →
      modifiers attributes .unknown = [] := by
    intro name attributes hin hunknown
    simp only [list, List.mem_cons, List.not_mem_nil, or_false, Event.start.injEq,
      reduceCtorEq, false_or] at hin
    rcases hin with ⟨-, rfl⟩ | ⟨-, rfl⟩ | ⟨-, rfl⟩ | ⟨-, rfl⟩ | ⟨-, rfl⟩ | ⟨-, rfl⟩ | ⟨-, rfl⟩
    · exact modifiers_empty _
    · exact modifiers_of_unset (by decide) _
    · exact modifiers_empty _
    · exact modifiers_empty _
    · exact modifiers_empty _
    · exact modifiers_empty _
    · exact modifiers_empty _
  rw [hfilter hunset] at hspare
  exact ⟨hmatched, text, spare, htext, hspare, hvisible hdefinite⟩

/-- Both conditions are needed: the modifiers of an unknown element are shown, and the space in
front of one makes a bare marker of a star that a text has written. -/
theorem unknown_shown :
    let titled : List Event :=
      [.start "section" (.ofList [("class", "x")]), .text "a", .stop "section"]
    let starred : List Event :=
      [.text "*", .start "section" .empty, .stop "section", .start "li" .empty, .stop "li"]
    convertEvents {} titled = .ok "(x)a" ∧
      convertEvents {} (titled.filter (!·.isUnknown)) = .ok "a" ∧
      convertEvents {} starred = .ok "*" ∧
      convertEvents {} (starred.filter (!·.isUnknown)) = .ok "*\n*" := by
  decide +kernel

end Textile
