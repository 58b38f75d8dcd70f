import Textile.Html.Nesting
import Textile.Proofs.WellNested

/-!
# The events of a document are well nested

Reports may come in any order: an element may be reported to end before the
elements in it, twice, or without ever having started. Whatever is reported, the
events that `Nesting` makes of it are well nested.

* **The invariant** (`Nesting.Tracks`): the open elements whose start has become
  an event are those that the events leave open, in order, and no element that
  is kept from becoming events encloses one of them.
* **One move** (`Nesting.close`): an end of an element and the end of the
  document both let go of the text held back and end a number of innermost
  elements one by one (`Nesting.stop_eq_close_reach`, `Nesting.finish_eq_close`), so
  the invariant is kept between any two of these ends as well.
* **Streams** (`Stream.after_eq`): a sink that is given the events while the
  reports come in is the sink after all of them.

`reports_wellNested` puts these together with the runs of a writer.
-/

namespace Textile.Html

namespace Nesting

/-! ## Letting go, closing and holding back -/

/-- The event of the text held back. -/
def heldBack (nesting : Nesting) : List Event :=
  if nesting.pending.isEmpty then [] else [.text nesting.pending]

theorem flush_eq (nesting : Nesting) :
    nesting.flush = ({ nesting with pending := "" }, nesting.heldBack) := by
  unfold flush heldBack
  by_cases hempty : nesting.pending.isEmpty = true
  · rw [if_pos hempty, if_pos hempty, ← String.isEmpty_iff.mp hempty]
  · rw [if_neg hempty, if_neg hempty]

/-- Whether the start of an element of this name becomes an event now. -/
def forwards (nesting : Nesting) (options : Options) (name : String) : Bool :=
  !options.ignores name && !nesting.suppressed

theorem start_eq (nesting : Nesting) (options : Options) (name : String)
    (attributes : Attributes) :
    nesting.start options name attributes =
      (⟨⟨nesting.nextId, name, nesting.forwards options name⟩ :: nesting.opened,
          nesting.nextId + 1, ""⟩,
        nesting.heldBack ++
          if nesting.forwards options name then [.start name attributes] else []) := by
  unfold start
  rw [flush_eq]
  rfl

/-- Where an element becomes an event, so have all elements around it. -/
theorem forwarded_of_forwards {nesting : Nesting} {options : Options} {name : String}
    (h : nesting.forwards options name = true) :
    nesting.opened.filter (·.forwarded) = nesting.opened := by
  have hopen := (Bool.and_eq_true_iff.mp h).2
  simpa [suppressed, List.filter_eq_self] using hopen

/-- Lets go of the text held back and ends the `count` innermost elements. -/
def close (nesting : Nesting) (count : Nat) : Nesting × List Event :=
  ({ nesting with pending := "", opened := nesting.opened.drop count },
    nesting.heldBack ++ (nesting.opened.take count).filterMap Opened.stop?)

theorem close_zero (nesting : Nesting) :
    nesting.close 0 = ({ nesting with pending := "" }, nesting.heldBack) := by
  simp [close]

/-- Closing up to an element ends the elements in it first. -/
theorem close_of_split {nesting : Nesting} {inside enclosing : List Opened}
    {element : Opened} (h : inside ++ element :: enclosing = nesting.opened) :
    nesting.close (inside.length + 1) =
      ({ nesting with pending := "", opened := enclosing },
        nesting.heldBack ++ (inside ++ [element]).filterMap Opened.stop?) := by
  have htake : nesting.opened.take (inside.length + 1) = inside ++ [element] := by
    rw [← h, List.take_length_add_append]
    rfl
  have hdrop : nesting.opened.drop (inside.length + 1) = enclosing := by
    rw [← h, List.drop_length_add_append]
    rfl
  rw [close, htake, hdrop]

/-- How many elements end where an element ends: it and those in it, or none if it
is not open. -/
def reach (id : Nat) : List Opened → Nat
  | [] => 0
  | element :: enclosing =>
      if element.id = id then 1
      else if reach id enclosing = 0 then 0
      else reach id enclosing + 1

theorem reach_cons_of_eq {id : Nat} {element : Opened} (h : element.id = id)
    (enclosing : List Opened) : reach id (element :: enclosing) = 1 :=
  if_pos h

theorem reach_cons_of_ne {id : Nat} {element : Opened} (h : element.id ≠ id)
    (enclosing : List Opened) :
    reach id (element :: enclosing) =
      if reach id enclosing = 0 then 0 else reach id enclosing + 1 :=
  if_neg h

/-- Only the end of an open element reaches anything. -/
theorem reach_eq_zero_iff {id : Nat} {opened : List Opened} :
    reach id opened = 0 ↔ id ∉ opened.map (·.id) := by
  induction opened with
  | nil => simp [reach]
  | cons element enclosing ih =>
      rw [List.map_cons, List.mem_cons, not_or, ← ih]
      by_cases hid : element.id = id
      · simp [reach_cons_of_eq hid, hid]
      · rw [reach_cons_of_ne hid]
        simp [Ne.symm hid]

/-- The elements that end are found from the innermost one outwards. -/
theorem reach_eq (id : Nat) (opened : List Opened) :
    reach id opened =
      match opened.dropWhile (·.id ≠ id) with
      | [] => 0
      | _ :: _ => (opened.takeWhile (·.id ≠ id)).length + 1 := by
  induction opened with
  | nil => rfl
  | cons element enclosing ih =>
      by_cases hid : element.id = id
      · rw [reach_cons_of_eq hid, List.dropWhile_cons_of_neg (by simpa using hid),
          List.takeWhile_cons_of_neg (by simpa using hid)]
        rfl
      · rw [reach_cons_of_ne hid, List.dropWhile_cons_of_pos (by simpa using hid),
          List.takeWhile_cons_of_pos (by simpa using hid), ih]
        cases enclosing.dropWhile (·.id ≠ id) with
        | nil => rfl
        | cons partner outer => rfl

/-- The end of an element lets go of the text held back and ends what it reaches. -/
theorem stop_eq_close_reach (nesting : Nesting) (id : Nat) :
    nesting.stop id = nesting.close (reach id nesting.opened) := by
  have hsplit := List.takeWhile_append_dropWhile (p := (·.id ≠ id)) (l := nesting.opened)
  rw [reach_eq]
  unfold stop
  simp only [flush_eq]
  cases hdrop : nesting.opened.dropWhile (·.id ≠ id) with
  | nil => exact (close_zero nesting).symm
  | cons element enclosing =>
      rw [hdrop] at hsplit
      exact (close_of_split hsplit).symm

theorem finish_eq_close (nesting : Nesting) :
    nesting.finish = nesting.close nesting.opened.length := by
  simp [finish, flush_eq, close]

/-- Holds back a part of a text, unless it stands in an element that is kept from
becoming events. -/
def hold (nesting : Nesting) (part : String) : Nesting :=
  if nesting.suppressed then nesting else { nesting with pending := nesting.pending ++ part }

theorem text_eq (nesting : Nesting) (part : String) (last : Bool) :
    nesting.text part last =
      if last then ({ nesting.hold part with pending := "" }, (nesting.hold part).heldBack)
      else (nesting.hold part, []) := by
  rw [← flush_eq]
  rfl

theorem hold_of_suppressed {nesting : Nesting} (h : nesting.suppressed = true)
    (part : String) : nesting.hold part = nesting :=
  if_pos h

theorem hold_of_not_suppressed {nesting : Nesting} (h : nesting.suppressed = false)
    (part : String) :
    nesting.hold part = { nesting with pending := nesting.pending ++ part } := by
  rw [hold, h]
  rfl

@[simp] theorem hold_opened (nesting : Nesting) (part : String) :
    (nesting.hold part).opened = nesting.opened := by
  unfold hold
  split <;> rfl

@[simp] theorem hold_nextId (nesting : Nesting) (part : String) :
    (nesting.hold part).nextId = nesting.nextId := by
  unfold hold
  split <;> rfl

/-- Text changes neither the open elements nor the numbers. -/
theorem text_opened (nesting : Nesting) (part : String) (last : Bool) :
    (nesting.text part last).1.opened = nesting.opened := by
  rw [text_eq]
  cases last <;> simp

theorem text_nextId (nesting : Nesting) (part : String) (last : Bool) :
    (nesting.text part last).1.nextId = nesting.nextId := by
  rw [text_eq]
  cases last <;> simp

/-! ## The invariant -/

/-- The open elements whose start has become an event. -/
def forwarded (nesting : Nesting) : List Opened :=
  nesting.opened.filter (·.forwarded)

/-- What ties the open elements of a document to the events so far: the events
are well nested, they leave open the elements whose start is among them, and
these elements enclose all others. -/
structure Tracks (nesting : Nesting) (events : List Event) : Prop where
  left_open : openAfter? [] events = some (nesting.forwarded.map (·.name))
  outermost : nesting.forwarded <:+ nesting.opened

/-- A start that becomes an event opens an element for those who take the events. -/
theorem forwarded_start {nesting : Nesting} {options : Options} {name : String}
    (h : nesting.forwards options name = true) (attributes : Attributes) :
    (nesting.start options name attributes).1.forwarded =
      ⟨nesting.nextId, name, true⟩ :: nesting.forwarded := by
  rw [start_eq, h]
  exact List.filter_cons_of_pos rfl

theorem initial_tracks : initial.Tracks [] := ⟨rfl, List.nil_suffix⟩

/-- The invariant is about the open elements only. -/
theorem Tracks.of_opened {nesting other : Nesting} {events : List Event}
    (h : nesting.Tracks events) (hopened : other.opened = nesting.opened) :
    other.Tracks events := by
  obtain ⟨hopen, houter⟩ := h
  unfold forwarded at hopen houter
  rw [← hopened] at hopen houter
  exact ⟨hopen, houter⟩

/-- The text that is let go of changes nothing about the open elements. -/
theorem Tracks.append_heldBack {nesting : Nesting} {events : List Event}
    (h : nesting.Tracks events) : nesting.Tracks (events ++ nesting.heldBack) := by
  refine ⟨?_, h.outermost⟩
  unfold heldBack
  split
  · rw [List.append_nil]
    exact h.left_open
  · rw [openAfter?_concat, h.left_open]
    rfl

/-- The innermost element ends: it is the innermost one for the events as well,
unless it was kept from becoming events. -/
theorem Tracks.pop {element : Opened} {enclosing : List Opened} {nextId : Nat}
    {pending : String} {events : List Event}
    (h : Tracks ⟨element :: enclosing, nextId, pending⟩ events) :
    Tracks ⟨enclosing, nextId, pending⟩ (events ++ element.stop?.toList) := by
  obtain ⟨hopen, houter⟩ := h
  unfold forwarded at hopen houter
  by_cases hforwarded : element.forwarded = true
  · rw [List.filter_cons_of_pos hforwarded] at hopen houter
    refine ⟨?_, ?_⟩
    · rw [Opened.stop?, if_pos hforwarded, Option.toList_some, openAfter?_concat, hopen]
      exact openAfterEvent?_stop.mpr rfl
    · rcases List.suffix_cons_iff.mp houter with heq | hsuffix
      · exact ⟨[], (List.cons.inj heq).2⟩
      · exact (List.suffix_cons _ _).trans hsuffix
  · rw [List.filter_cons_of_neg hforwarded] at hopen houter
    refine ⟨?_, ?_⟩
    · rw [Opened.stop?, if_neg hforwarded, Option.toList_none, List.append_nil]
      exact hopen
    · rcases List.suffix_cons_iff.mp houter with heq | hsuffix
      · -- The innermost element would have to be forwarded.
        have hmem : element ∈ enclosing.filter (·.forwarded) := heq ▸ List.mem_cons_self
        exact absurd (List.mem_filter.mp hmem).2 hforwarded
      · exact hsuffix

/-- Elements end from the innermost one outwards. -/
theorem Tracks.drop {opened : List Opened} {nextId : Nat} {pending : String}
    {events : List Event} (h : Tracks ⟨opened, nextId, pending⟩ events) (count : Nat) :
    Tracks ⟨opened.drop count, nextId, pending⟩
      (events ++ (opened.take count).filterMap Opened.stop?) := by
  -- One element ends at a time, and the invariant holds in between.
  induction opened generalizing events count with
  | nil => simpa using h
  | cons element enclosing ih =>
      cases count with
      | zero => simpa using h
      | succ count =>
          have hrest := ih h.pop count
          rw [List.append_assoc] at hrest
          cases hstop : element.stop? <;> simpa [hstop] using hrest

theorem Tracks.close {nesting : Nesting} {events : List Event}
    (h : nesting.Tracks events) (count : Nat) :
    (nesting.close count).1.Tracks (events ++ (nesting.close count).2) := by
  have hflushed : Tracks ⟨nesting.opened, nesting.nextId, ""⟩ (events ++ nesting.heldBack) :=
    h.append_heldBack.of_opened rfl
  rw [Nesting.close, ← List.append_assoc]
  exact hflushed.drop count

/-- An element starts. Its start becomes an event only where no open element is
kept from becoming events, so that it stands within forwarded elements only. -/
theorem Tracks.start {nesting : Nesting} {events : List Event} (h : nesting.Tracks events)
    (options : Options) (name : String) (attributes : Attributes) :
    (nesting.start options name attributes).1.Tracks
      (events ++ (nesting.start options name attributes).2) := by
  obtain ⟨hopen, houter⟩ := h.append_heldBack
  rw [start_eq, ← List.append_assoc]
  cases hforwards : nesting.forwards options name with
  | true =>
      have hall := forwarded_of_forwards hforwards
      refine ⟨?_, ?_⟩
      · rw [if_pos rfl, openAfter?_concat, hopen]
        simp [forwarded, openAfterEvent?]
      · simp [forwarded, hall]
  | false =>
      refine ⟨?_, ?_⟩
      · simpa [forwarded] using hopen
      · simpa [forwarded] using houter.trans (List.suffix_cons _ _)

/-- Text that comes in changes nothing about the open elements. -/
theorem Tracks.text {nesting : Nesting} {events : List Event} (h : nesting.Tracks events)
    (part : String) (last : Bool) :
    (nesting.text part last).1.Tracks (events ++ (nesting.text part last).2) := by
  have hheld : (nesting.hold part).Tracks events := h.of_opened (hold_opened nesting part)
  rw [text_eq]
  cases last with
  | false =>
      rw [if_neg Bool.false_ne_true, List.append_nil]
      exact hheld
  | true => exact hheld.append_heldBack.of_opened rfl

/-- Whatever is reported, the invariant is kept. -/
theorem Tracks.step {nesting : Nesting} {events : List Event} (h : nesting.Tracks events)
    (options : Options) (report : Report) :
    (nesting.step options report).1.Tracks (events ++ (nesting.step options report).2) := by
  cases report with
  | start name attributes => exact h.start options name attributes
  | text part last => exact h.text part last
  | stop id =>
      rw [Nesting.step, stop_eq_close_reach]
      exact h.close _

/-- The nesting after reports, and the events that they bring about. -/
def run (options : Options) (nesting : Nesting) : List Report → Nesting × List Event
  | [] => (nesting, [])
  | report :: reports =>
      let next := nesting.step options report
      let rest := run options next.1 reports
      (rest.1, next.2 ++ rest.2)

/-- The invariant holds after all reports. -/
theorem Tracks.run {nesting : Nesting} {events : List Event} (h : nesting.Tracks events)
    (options : Options) (reports : List Report) :
    (nesting.run options reports).1.Tracks (events ++ (nesting.run options reports).2) := by
  induction reports generalizing nesting events with
  | nil => simpa [Nesting.run] using h
  | cons report reports ih =>
      have hrest := ih (h.step options report)
      rw [List.append_assoc] at hrest
      exact hrest

end Nesting

/-! ## Streams -/

/-- A recording holds the events it was given, in order. -/
theorem receiveAll_recording (recording : Recording) (events : List Event) :
    (Sink.receiveAll recording events).events.toList = recording.events.toList ++ events := by
  induction events generalizing recording with
  | nil => exact (List.append_nil _).symm
  | cons event events ih =>
      show (Sink.receiveAll (Sink.receive recording event) events).events.toList = _
      rw [ih]
      simp [Sink.receive]

namespace Stream

variable {σ : Type} [Sink σ]

/-- The stream after reports from the start of a document on. -/
def after (options : Options) (sink : σ) (reports : List Report) : Stream σ :=
  reports.foldl (step options) ⟨.initial, sink⟩

/-- The stream once the text held back is let go of and the `count` innermost
elements are ended. -/
def close (stream : Stream σ) (count : Nat) : Stream σ :=
  stream.advance (stream.nesting.close count)

theorem foldl_step_eq (options : Options) (stream : Stream σ) (reports : List Report) :
    reports.foldl (step options) stream =
      stream.advance (stream.nesting.run options reports) := by
  induction reports generalizing stream with
  | nil => rfl
  | cons report reports ih =>
      rw [List.foldl_cons, ih]
      show advance _ _ = advance _ _
      simp only [advance, step, Nesting.run, Sink.receiveAll_append]

/-- While reports come in, the nesting is that of the reports alone, and the
sink is the sink after their events. -/
theorem after_eq (options : Options) (sink : σ) (reports : List Report) :
    after options sink reports =
      ⟨(Nesting.initial.run options reports).1,
        Sink.receiveAll sink (Nesting.initial.run options reports).2⟩ :=
  foldl_step_eq options ⟨.initial, sink⟩ reports

theorem finish_eq_close (stream : Stream σ) :
    stream.finish = stream.close stream.nesting.opened.length := by
  rw [finish, stream.nesting.finish_eq_close, close]

/-- A sink that takes events while reports come in is the sink that takes the
recorded events afterwards. -/
theorem after_sink_eq (options : Options) (sink : σ) (reports : List Report) :
    (after options sink reports).sink =
      Sink.receiveAll sink (after options Recording.empty reports).sink.events.toList := by
  simp only [after_eq, receiveAll_recording]
  rfl

/-- The same holds once the document has ended. -/
theorem finish_sink_eq (options : Options) (sink : σ) (reports : List Report) :
    (after options sink reports).finish.sink =
      Sink.receiveAll sink
        (after options Recording.empty reports).finish.sink.events.toList := by
  simp only [after_eq, finish, advance, ← Sink.receiveAll_append, receiveAll_recording]
  rfl

/-- The invariant holds for what a stream has recorded. -/
theorem after_tracks (options : Options) (reports : List Report) :
    (after options Recording.empty reports).nesting.Tracks
      (after options Recording.empty reports).sink.events.toList := by
  rw [after_eq, receiveAll_recording]
  exact Nesting.initial_tracks.run options reports

theorem close_tracks {stream : Stream Recording}
    (h : stream.nesting.Tracks stream.sink.events.toList) (count : Nat) :
    (stream.close count).nesting.Tracks (stream.close count).sink.events.toList := by
  rw [close, advance, receiveAll_recording]
  exact h.close count

/-- Once the document has ended, no element is left open. -/
theorem finish_left_open {stream : Stream Recording}
    (h : stream.nesting.Tracks stream.sink.events.toList) :
    openAfter? [] stream.finish.sink.events.toList = some [] := by
  rw [finish_eq_close, (close_tracks h _).left_open]
  simp [close, advance, Nesting.close, Nesting.forwarded]

end Stream

/-- Whatever is reported, in whatever order, the events of a document are well
nested. While reports come in, and between any two ends of elements that close
together, the forwarded elements are the outermost open ones and exactly those
that the events leave open; every end names the element that is open innermost,
and nothing is left open once the document has ended. So a writer that takes the
events never meets a breach: its open elements are the forwarded ones throughout,
and there are none in the end. Every start that is neither ignored nor stands in an
ignored element is forwarded. -/
theorem reports_wellNested (options : Options) (reports : List Report) :
    let during := Stream.after options Recording.empty reports
    let writing := Stream.after options Writer.empty reports
    let events := during.finish.sink.events.toList
    during.nesting.Tracks during.sink.events.toList ∧
    (∀ count,
      (during.close count).nesting.Tracks (during.close count).sink.events.toList) ∧
    (∀ before name after, events = before ++ .stop name :: after →
      ∃ enclosing, openAfter? [] before = some (name :: enclosing)) ∧
    openAfter? [] events = some [] ∧
    Writer.empty.run during.sink.events.toList = .ok writing.sink ∧
    writing.sink.Opens (during.nesting.forwarded.map (·.name)) ∧
    Writer.empty.run events = .ok writing.finish.sink ∧
    writing.finish.sink.depth = 0 ∧
    ∀ name attributes, during.nesting.forwards options name = true →
      (during.step options (.start name attributes)).nesting.forwarded.map (·.name) =
        name :: during.nesting.forwarded.map (·.name) := by
  intro during writing events
  -- What is well nested for a recording is so for a writer, which takes the same events.
  have hduring : during.nesting.Tracks during.sink.events.toList :=
    Stream.after_tracks options reports
  have hleft : openAfter? [] events = some [] := Stream.finish_left_open hduring
  obtain ⟨hrun, hopens⟩ := Writer.run_of_openAfter? Writer.empty_opens hduring.left_open
  obtain ⟨hwhole, hnone⟩ := Writer.run_of_openAfter? Writer.empty_opens hleft
  rw [← Stream.after_sink_eq] at hrun hopens
  rw [← Stream.finish_sink_eq] at hwhole hnone
  refine ⟨hduring, Stream.close_tracks hduring, ?_, hleft, hrun, hopens, hwhole, ?_, ?_⟩
  · intro before name after heq
    rw [heq] at hleft
    exact openAfter?_stop hleft
  · exact List.length_eq_zero_iff.mpr (List.map_eq_nil_iff.mp hnone)
  · intro name attributes hforwards
    exact congrArg (List.map (·.name)) (Nesting.forwarded_start hforwards attributes)

end Textile.Html
