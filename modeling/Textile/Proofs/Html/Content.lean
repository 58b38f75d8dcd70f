import Textile.Proofs.Html.Input

/-!
# The text of a document

Text comes in parts and is held back, so that a stretch of it becomes one event.
No part gets lost on the way, is passed on twice, or ends up behind a tag that came
after it.

* **What is to be passed on** (`Roster`, `keptText`): the parts that come while no
  ignored element is open. Which elements are open is read off the reports alone,
  by the numbers of the elements (`Nesting.Sound.roster_take`).
* **One input** (`Nesting.Sound.textOf_take`, `Nesting.textOf_before_tag`): what is
  passed on and what is held back then is what was held back before and what has
  come; and tags come after all that was held back.
* **Divisions of a stretch** (`Nesting.takeAll_parts`): a stretch that comes in
  parts is taken as one that comes at once.

`text_conserved` states these of all inputs.
-/

namespace Textile

/-! ## The text of events -/

/-- The text that an event passes on. -/
def Event.run? : Event → Option String
  | .text run => some run
  | .start _ _ | .stop _ | .verbatim _ => none

/-- Whether an event is the start or the end of an element. -/
def Event.isTag : Event → Bool
  | .start _ _ | .stop _ => true
  | .text _ | .verbatim _ => false

/-- The text that events pass on, in order. -/
def textOf (events : List Event) : String :=
  String.join (events.filterMap Event.run?)

theorem textOf_append (before after : List Event) :
    textOf (before ++ after) = textOf before ++ textOf after := by
  rw [textOf, List.filterMap_append, String.join_append]
  rfl

theorem textOf_of_tags {events : List Event} (h : ∀ event ∈ events, event.isTag = true) :
    textOf events = "" := by
  have hnone : events.filterMap Event.run? = [] := by
    rw [List.filterMap_eq_nil_iff]
    intro event hevent
    have htag := h event hevent
    cases event with
    | start name attributes => rfl
    | stop name => rfl
    | text run => cases htag
    | verbatim text => cases htag
  rw [textOf, hnone]
  rfl

namespace Html

/-! ## What is to be passed on -/

/-- Which elements are open, as the reports say. -/
structure Roster where
  /-- The numbers and names of the open elements, innermost first. -/
  opened : List (Nat × String)
  /-- The number of elements that have started. -/
  started : Nat

namespace Roster

/-- The roster at the start of a document. -/
def initial : Roster := ⟨[], 0⟩

/-- The roster after an input. An element that ends takes along those that have
started after it. -/
def after (roster : Roster) : Input → Roster
  | .report (.start name _) =>
      ⟨(roster.started, name) :: roster.opened, roster.started + 1⟩
  | .report (.text _ _) => roster
  | .report (.stop id) =>
      if id ∈ roster.opened.map Prod.fst then
        { roster with opened := roster.opened.filter (·.1 < id) }
      else roster
  | .finish => { roster with opened := [] }

/-- Whether an ignored element is open. -/
def leavesOut (options : Options) (roster : Roster) : Bool :=
  roster.opened.any (options.ignores ·.2)

/-- The text of an input that is to be passed on. -/
def kept (options : Options) (roster : Roster) : Input → String
  | .report (.text part _) => if roster.leavesOut options then "" else part
  | .report (.start _ _) | .report (.stop _) | .finish => ""

end Roster

/-- The text of inputs that is to be passed on: the parts that come while no ignored
element is open, in order. -/
def keptText (options : Options) (roster : Roster) : List Input → String
  | [] => ""
  | input :: inputs =>
      roster.kept options input ++ keptText options (roster.after input) inputs

namespace Nesting

/-! ## The roster of a nesting -/

/-- The open elements without their marks. -/
def roster (nesting : Nesting) : Roster :=
  ⟨nesting.opened.map fun element => (element.id, element.name), nesting.nextId⟩

theorem roster_ids (nesting : Nesting) :
    nesting.roster.opened.map Prod.fst = nesting.opened.map (·.id) :=
  List.map_map

/-- Where numbers grow inwards, an end leaves the elements with smaller numbers. -/
theorem drop_reach {opened : List Opened}
    (hnumbered : (opened.map (·.id)).Pairwise (· > ·)) (id : Nat) :
    opened.drop (reach id opened) =
      if id ∈ opened.map (·.id) then opened.filter (·.id < id) else opened := by
  induction opened with
  | nil => rfl
  | cons element enclosing ih =>
      rw [List.map_cons] at hnumbered ⊢
      obtain ⟨hlarger, henclosing⟩ := List.pairwise_cons.mp hnumbered
      by_cases hid : element.id = id
      · subst hid
        have hall : enclosing.filter (·.id < element.id) = enclosing := by
          rw [List.filter_eq_self]
          intro other hother
          exact decide_eq_true (hlarger _ (List.mem_map_of_mem hother))
        rw [reach_cons_of_eq rfl, List.drop_one, List.tail_cons, if_pos List.mem_cons_self,
          List.filter_cons_of_neg (by simp), hall]
      · rw [reach_cons_of_ne hid]
        by_cases hnone : reach id enclosing = 0
        · have hout := List.not_mem_cons_of_ne_of_not_mem (Ne.symm hid)
            (reach_eq_zero_iff.mp hnone)
          rw [if_pos hnone, if_neg hout, List.drop_zero]
        · have hin : id ∈ enclosing.map (·.id) :=
            not_not.mp fun hout => hnone (reach_eq_zero_iff.mpr hout)
          have hinner : ¬ element.id < id := Nat.not_lt.mpr (Nat.le_of_lt (hlarger id hin))
          rw [if_neg hnone, List.drop_succ_cons, ih henclosing, if_pos hin,
            if_pos (List.mem_cons_of_mem _ hin), List.filter_cons_of_neg (by simpa using hinner)]

variable {options : Options} {nesting : Nesting}

/-- The roster goes by the reports alone. -/
theorem Sound.roster_take (h : nesting.Sound options) (input : Input) :
    (nesting.take options input).1.roster = nesting.roster.after input := by
  cases input with
  | finish =>
      rw [Nesting.take, finish_eq_close]
      simp [Nesting.close, roster, Roster.after]
  | report report =>
      cases report with
      | start name attributes =>
          rw [Nesting.take, Nesting.step, start_eq]
          rfl
      | text part last =>
          rw [Nesting.take, Nesting.step, roster, text_opened, text_nextId]
          rfl
      | stop id =>
          have hdrop := drop_reach (List.pairwise_cons.mp h.numbered).2 id
          rw [Nesting.take, Nesting.step, stop_eq_close_reach, Nesting.close, hdrop,
            Roster.after, roster_ids]
          split
          · simp only [roster, List.filter_map]
            rfl
          · rfl

/-- An ignored element is open for the reports exactly if nothing becomes an event. -/
theorem Sound.leavesOut_roster (h : nesting.Sound options) :
    nesting.roster.leavesOut options = nesting.suppressed := by
  rw [h.suppressed_eq, Roster.leavesOut, roster, List.any_map]
  rfl

/-! ## One input -/

theorem textOf_heldBack (nesting : Nesting) : textOf nesting.heldBack = nesting.pending := by
  unfold heldBack
  split
  · rename_i hempty
    rw [String.isEmpty_iff.mp hempty]
    rfl
  · exact String.empty_append

theorem isTag_stop? {elements : List Opened} {event : Event}
    (h : event ∈ elements.filterMap Opened.stop?) : event.isTag = true := by
  obtain ⟨element, -, hstop⟩ := List.mem_filterMap.mp h
  obtain ⟨-, heq⟩ := Option.ite_none_right_eq_some.mp hstop
  cases heq
  rfl

theorem isTag_heldBack {event : Event} (h : event ∈ nesting.heldBack) :
    event.isTag = false := by
  unfold heldBack at h
  split at h
  · cases h
  · rw [List.mem_singleton.mp h]
    rfl

/-- A part of a text that stands in no ignored element is held back. -/
theorem Sound.pending_hold (h : nesting.Sound options) (part : String) (last : Bool) :
    (nesting.hold part).pending =
      nesting.pending ++ nesting.roster.kept options (.report (.text part last)) := by
  rw [Roster.kept, h.leavesOut_roster]
  cases hsuppressed : nesting.suppressed with
  | true => rw [hold_of_suppressed hsuppressed, if_pos rfl, String.append_empty]
  | false => rw [hold_of_not_suppressed hsuppressed, if_neg Bool.false_ne_true]

/-- Anything but text lets go of the text held back, and only tags come after that. -/
theorem take_tags (options : Options) (nesting : Nesting) (input : Input) :
    (∃ part last, input = .report (.text part last)) ∨
      (∀ roster : Roster, roster.kept options input = "") ∧
        ∃ tags, (nesting.take options input).2 = nesting.heldBack ++ tags ∧
          (∀ tag ∈ tags, tag.isTag = true) ∧ (nesting.take options input).1.pending = "" := by
  have hclose (count : Nat) : ∃ tags, (nesting.close count).2 = nesting.heldBack ++ tags ∧
      (∀ tag ∈ tags, tag.isTag = true) ∧ (nesting.close count).1.pending = "" :=
    ⟨_, rfl, fun _ => isTag_stop?, rfl⟩
  cases input with
  | finish =>
      rw [take, finish_eq_close]
      exact .inr ⟨fun _ => rfl, hclose _⟩
  | report report =>
      cases report with
      | text part last => exact .inl ⟨part, last, rfl⟩
      | stop id =>
          rw [take, step, stop_eq_close_reach]
          exact .inr ⟨fun _ => rfl, hclose _⟩
      | start name attributes =>
          rw [take, step, start_eq]
          refine .inr ⟨fun _ => rfl, _, rfl, ?_, rfl⟩
          intro tag htag
          split at htag
          · rw [List.mem_singleton.mp htag]
            rfl
          · cases htag

/-- A text passes on no tags. -/
theorem isTag_text (nesting : Nesting) (part : String) (last : Bool) :
    ∀ event ∈ (nesting.text part last).2, event.isTag = false := by
  intro event hevent
  rw [text_eq] at hevent
  cases last with
  | false => cases hevent
  | true => exact isTag_heldBack hevent

/-- What an input passes on and what is held back then, is what was held back and
what has come. -/
theorem Sound.textOf_take (h : nesting.Sound options) (input : Input) :
    textOf (nesting.take options input).2 ++ (nesting.take options input).1.pending =
      nesting.pending ++ nesting.roster.kept options input := by
  rcases take_tags options nesting input with
    ⟨part, last, rfl⟩ | ⟨hkept, tags, heq, htags, hpending⟩
  · rw [Nesting.take, Nesting.step, text_eq, ← h.pending_hold]
    cases last with
    | false => exact String.empty_append
    | true => exact String.append_empty.trans (textOf_heldBack _)
  · rw [heq, hpending, textOf_append, textOf_heldBack, textOf_of_tags htags, hkept,
      String.append_empty]

/-- When a tag is passed on, all that was held back has been passed on, and no text
comes after it. -/
theorem textOf_before_tag {input : Input} {before after : List Event} {tag : Event}
    (heq : (nesting.take options input).2 = before ++ tag :: after)
    (htag : tag.isTag = true) :
    textOf before = nesting.pending ∧ textOf after = "" ∧
      (nesting.take options input).1.pending = "" := by
  have hmem : tag ∈ (nesting.take options input).2 :=
    heq ▸ List.mem_append_right _ List.mem_cons_self
  rcases take_tags options nesting input with
    ⟨part, last, rfl⟩ | ⟨-, tags, htake, htags, hpending⟩
  · exact absurd htag (by simp [isTag_text nesting part last tag hmem])
  · -- The tag is one of those that come after the text.
    have hsplit : ∃ earlier, before = nesting.heldBack ++ earlier ∧
        tags = earlier ++ tag :: after := by
      rcases List.append_eq_append_iff.mp (htake.symm.trans heq) with hin | ⟨rest, hheld, hrest⟩
      · exact hin
      · cases rest with
        | nil => exact ⟨[], by simpa using hheld.symm, hrest.symm⟩
        | cons first rest =>
            obtain ⟨rfl, -⟩ := List.cons.inj hrest
            have hheldBack : tag ∈ nesting.heldBack :=
              hheld ▸ List.mem_append_right _ List.mem_cons_self
            exact absurd htag (by simp [isTag_heldBack hheldBack])
    obtain ⟨earlier, rfl, rfl⟩ := hsplit
    have hearlier : textOf earlier = "" := by
      apply textOf_of_tags
      intro event hevent
      exact htags event (List.mem_append_left _ hevent)
    have hafter : textOf after = "" := by
      apply textOf_of_tags
      intro event hevent
      exact htags event (List.mem_append_right _ (List.mem_cons_of_mem _ hevent))
    refine ⟨?_, hafter, hpending⟩
    rw [textOf_append, textOf_heldBack, hearlier, String.append_empty]

/-- No input passes on an empty text. -/
theorem text_empty_not_mem_take (options : Options) (nesting : Nesting) (input : Input) :
    Event.text "" ∉ (nesting.take options input).2 := by
  have hheldBack (other : Nesting) : Event.text "" ∉ other.heldBack := by
    unfold heldBack
    split
    · exact List.not_mem_nil
    · rename_i hnotEmpty
      intro hmem
      have hempty := Event.text.inj (List.mem_singleton.mp hmem)
      exact hnotEmpty (String.isEmpty_iff.mpr hempty.symm)
  rcases take_tags options nesting input with ⟨part, last, rfl⟩ | ⟨-, tags, htake, htags, -⟩
  · rw [take, step, text_eq]
    cases last with
    | false => exact List.not_mem_nil
    | true => exact hheldBack _
  · rw [htake, List.mem_append, not_or]
    exact ⟨hheldBack _, fun htext => Bool.false_ne_true (htags _ htext)⟩

/-! ## All inputs -/

/-- What inputs pass on and what is held back then, is what was held back and what is
to be passed on of them. -/
theorem Sound.textOf_takeAll (h : nesting.Sound options) (inputs : List Input) :
    textOf (nesting.takeAll options inputs).2 ++
        (nesting.takeAll options inputs).1.pending =
      nesting.pending ++ keptText options nesting.roster inputs := by
  induction inputs generalizing nesting with
  | nil => exact String.empty_append.trans String.append_empty.symm
  | cons input inputs ih =>
      have hrest := ih (h.take input)
      rw [h.roster_take] at hrest
      rw [Nesting.takeAll, textOf_append, String.append_assoc, hrest, ← String.append_assoc,
        h.textOf_take, String.append_assoc]
      rfl

theorem Sound.roster_takeAll (h : nesting.Sound options) (inputs : List Input) :
    (nesting.takeAll options inputs).1.roster = inputs.foldl Roster.after nesting.roster := by
  induction inputs generalizing nesting with
  | nil => rfl
  | cons input inputs ih =>
      rw [Nesting.takeAll, ih (h.take input), h.roster_take]
      rfl

theorem text_empty_not_mem_takeAll (options : Options) (nesting : Nesting)
    (inputs : List Input) : Event.text "" ∉ (nesting.takeAll options inputs).2 := by
  induction inputs generalizing nesting with
  | nil => exact List.not_mem_nil
  | cons input inputs ih =>
      rw [takeAll, List.mem_append, not_or]
      exact ⟨text_empty_not_mem_take options nesting input, ih _⟩

/-! ## Divisions of a stretch of text -/

theorem suppressed_hold (nesting : Nesting) (part : String) :
    (nesting.hold part).suppressed = nesting.suppressed := by
  rw [suppressed, hold_opened]
  rfl

/-- Two parts are held back as one. -/
theorem hold_hold (nesting : Nesting) (part more : String) :
    (nesting.hold part).hold more = nesting.hold (part ++ more) := by
  cases hsuppressed : nesting.suppressed with
  | true =>
      have hafter := (nesting.suppressed_hold part).trans hsuppressed
      rw [hold_of_suppressed hafter, hold_of_suppressed hsuppressed,
        hold_of_suppressed hsuppressed]
  | false =>
      have hafter := (nesting.suppressed_hold part).trans hsuppressed
      rw [hold_of_not_suppressed hafter, hold_of_not_suppressed hsuppressed,
        hold_of_not_suppressed hsuppressed, String.append_assoc]

/-- A stretch of text that comes in parts is taken as one that comes at once. -/
theorem takeAll_parts (options : Options) (nesting : Nesting) (parts : List String)
    (part : String) (last : Bool) :
    nesting.takeAll options
        (parts.map (fun part => .report (.text part false)) ++ [.report (.text part last)]) =
      nesting.takeAll options [.report (.text (String.join (parts ++ [part])) last)] := by
  induction parts generalizing nesting with
  | nil =>
      rw [List.map_nil, List.nil_append, List.nil_append, String.join_cons, String.join_nil,
        String.append_empty]
  | cons first parts ih =>
      rw [List.map_cons, List.cons_append, takeAll, take, step, text_eq,
        if_neg Bool.false_ne_true, ih, List.cons_append, String.join_cons]
      simp only [takeAll, take, step, text_eq, hold_hold, List.nil_append]

end Nesting

/-- The same holds for a sink, whatever it has been given before and whatever it is
given afterwards. -/
theorem Stream.takeAll_parts {σ : Type} [Sink σ] (options : Options) (stream : Stream σ)
    (parts : List String) (part : String) (last : Bool) (inputs : List Input) :
    stream.takeAll options
        (parts.map (fun part => .report (.text part false)) ++
          .report (.text part last) :: inputs) =
      stream.takeAll options
        (.report (.text (String.join (parts ++ [part])) last) :: inputs) := by
  have hstretch : stream.takeAll options
        (parts.map (fun part => .report (.text part false)) ++ [.report (.text part last)]) =
      stream.takeAll options [.report (.text (String.join (parts ++ [part])) last)] := by
    rw [takeAll_eq, takeAll_eq, Nesting.takeAll_parts]
  rw [List.append_cons, takeAll, List.foldl_append]
  exact congrArg (List.foldl (take options) · inputs) hstretch

/-- No text gets lost, is passed on twice or changes its place. Whatever a nesting is
given, the text that has been passed on and the text that is held back make up the
parts that came while no ignored element was open. Nothing is held back while one is
open, nor whenever a tag is passed on: the text before the tag is all of the text so
far. No event is an empty text, and nothing is held back once the document has ended.
So it does not matter how a stretch of text is divided, for no sink and from no state
on. -/
theorem text_conserved (options : Options) :
    (∀ inputs,
      let recorded := Stream.takeAll options ⟨.initial, Recording.empty⟩ inputs
      let events := recorded.sink.events.toList
      let roster := inputs.foldl Roster.after .initial
      let kept := keptText options .initial inputs
      recorded.nesting.roster = roster ∧
      textOf events ++ recorded.nesting.pending = kept ∧
      (roster.leavesOut options = true → recorded.nesting.pending = "") ∧
      (∀ input before tag after,
        (recorded.nesting.take options input).2 = before ++ tag :: after →
        tag.isTag = true →
        textOf (events ++ before) = kept ∧ textOf after = "" ∧
          (recorded.nesting.take options input).1.pending = "") ∧
      .text "" ∉ events ∧
      (recorded.take options .finish).nesting.pending = "" ∧
      textOf (recorded.take options .finish).sink.events.toList = kept) ∧
    ∀ (σ : Type) [Sink σ] (stream : Stream σ) (parts : List String) (part : String)
      (last : Bool) (inputs : List Input),
      stream.takeAll options
          (parts.map (fun part => .report (.text part false)) ++
            .report (.text part last) :: inputs) =
        stream.takeAll options
          (.report (.text (String.join (parts ++ [part])) last) :: inputs) := by
  refine ⟨?_, fun σ _ => Stream.takeAll_parts options⟩
  intro inputs recorded events roster kept
  have hevents : events = (Nesting.initial.takeAll options inputs).2 :=
    Stream.takeAll_recording options inputs
  have hnesting : recorded.nesting = (Nesting.initial.takeAll options inputs).1 :=
    congrArg Stream.nesting (Stream.takeAll_eq options _ inputs)
  have hsound : recorded.nesting.Sound options :=
    hnesting ▸ (Nesting.initial_sound options).takeAll inputs
  have hroster : recorded.nesting.roster = roster :=
    hnesting ▸ (Nesting.initial_sound options).roster_takeAll inputs
  have hkept : textOf events ++ recorded.nesting.pending = kept := by
    rw [hevents, hnesting, (Nesting.initial_sound options).textOf_takeAll]
    exact String.empty_append
  have hfinish : (recorded.nesting.take options .finish).1.pending = "" := by
    rw [Nesting.take, Nesting.finish_eq_close]
    rfl
  refine ⟨hroster, hkept, ?_, ?_, ?_, ?_, ?_⟩
  · intro hleavesOut
    rw [← hroster, hsound.leavesOut_roster] at hleavesOut
    exact hsound.silent hleavesOut
  · intro input before tag after heq htag
    obtain ⟨hbefore, hafter, hpending⟩ := Nesting.textOf_before_tag heq htag
    rw [textOf_append, hbefore]
    exact ⟨hkept, hafter, hpending⟩
  · rw [hevents]
    exact Nesting.text_empty_not_mem_takeAll options .initial inputs
  · rw [Stream.take_eq]
    exact hfinish
  · have hrest := hsound.textOf_take .finish
    rw [hfinish, String.append_empty] at hrest
    rw [Stream.take_eq, Stream.advance, receiveAll_recording, textOf_append, hrest]
    exact (String.append_assoc.symm.trans String.append_empty).trans hkept

end Html
end Textile
