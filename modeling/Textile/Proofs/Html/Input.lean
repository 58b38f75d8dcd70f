import Textile.Proofs.Html.Nesting

/-!
# What a nesting is given

A nesting takes reports, and it is told that the document ends. This file is
about any sequence of these, in any order: nothing keeps a report from coming
after the end.

* **Runs** (`Nesting.takeAll`, `Stream.takeAll_eq`): the events of a sequence of
  inputs are those of its parts, one after another, and a stream passes them to
  its sink as they come about.
* **The invariant** (`Nesting.Sound`): elements are numbered in the order in
  which they have started, an element is kept from becoming events exactly if it
  or an element around it is ignored, and nothing is held back in such an
  element.
-/

namespace Textile.Html

/-- What a nesting is given: a report, or the end of the document. -/
inductive Input
  | report (report : Report)
  | finish
  deriving DecidableEq

namespace Nesting

/-! ## Runs -/

/-- Takes a report or ends the document. -/
def take (options : Options) (nesting : Nesting) : Input → Nesting × List Event
  | .report report => nesting.step options report
  | .finish => nesting.finish

/-- The nesting after inputs, and the events that they bring about. -/
def takeAll (options : Options) (nesting : Nesting) : List Input → Nesting × List Event
  | [] => (nesting, [])
  | input :: inputs =>
      let next := nesting.take options input
      let rest := takeAll options next.1 inputs
      (rest.1, next.2 ++ rest.2)

theorem takeAll_append (options : Options) (nesting : Nesting) (before after : List Input) :
    nesting.takeAll options (before ++ after) =
      (((nesting.takeAll options before).1.takeAll options after).1,
        (nesting.takeAll options before).2 ++
          ((nesting.takeAll options before).1.takeAll options after).2) := by
  induction before generalizing nesting with
  | nil => rfl
  | cons input before ih => simp only [List.cons_append, takeAll, ih, List.append_assoc]

theorem takeAll_concat (options : Options) (nesting : Nesting) (before : List Input)
    (input : Input) :
    nesting.takeAll options (before ++ [input]) =
      (((nesting.takeAll options before).1.take options input).1,
        (nesting.takeAll options before).2 ++
          ((nesting.takeAll options before).1.take options input).2) := by
  rw [takeAll_append]
  simp only [takeAll, List.append_nil]

/-- Whatever is given, the events stay well nested. -/
theorem Tracks.take {nesting : Nesting} {events : List Event} (h : nesting.Tracks events)
    (options : Options) (input : Input) :
    (nesting.take options input).1.Tracks (events ++ (nesting.take options input).2) := by
  cases input with
  | report report => exact h.step options report
  | finish =>
      rw [Nesting.take, finish_eq_close]
      exact h.close nesting.opened.length

theorem Tracks.takeAll {nesting : Nesting} {events : List Event} (h : nesting.Tracks events)
    (options : Options) (inputs : List Input) :
    (nesting.takeAll options inputs).1.Tracks
      (events ++ (nesting.takeAll options inputs).2) := by
  induction inputs generalizing nesting events with
  | nil => simpa [Nesting.takeAll] using h
  | cons input inputs ih =>
      have hrest := ih (h.take options input)
      rw [List.append_assoc] at hrest
      exact hrest

/-! ## The invariant -/

/-- What holds of a nesting at all times. -/
structure Sound (options : Options) (nesting : Nesting) : Prop where
  /-- Elements are numbered as they start, so numbers grow inwards. -/
  numbered : (nesting.nextId :: nesting.opened.map (·.id)).Pairwise (· > ·)
  /-- An element is kept from becoming events exactly if it or an element around it
  is ignored. -/
  marked : ∀ element enclosing, element :: enclosing <:+ nesting.opened →
    element.forwarded = !(element :: enclosing).any (options.ignores ·.name)
  /-- Nothing is held back in an ignored element. -/
  silent : nesting.suppressed = true → nesting.pending = ""

/-- Nothing becomes an event exactly while an ignored element is open. -/
theorem Sound.suppressed_eq {options : Options} {nesting : Nesting}
    (h : nesting.Sound options) :
    nesting.suppressed = nesting.opened.any (options.ignores ·.name) := by
  obtain ⟨opened, nextId, pending⟩ := nesting
  have hmarked := h.marked
  show opened.any (!·.forwarded) = opened.any (options.ignores ·.name)
  clear h
  induction opened with
  | nil => rfl
  | cons element enclosing ih =>
      have helement := hmarked element enclosing (List.suffix_refl _)
      have henclosing : enclosing.any (!·.forwarded) =
          enclosing.any (options.ignores ·.name) := by
        apply ih
        intro other outer hsuffix
        exact hmarked other outer (hsuffix.trans (List.suffix_cons _ _))
      rw [List.any_cons, henclosing, helement, Bool.not_not, List.any_cons, Bool.or_assoc,
        Bool.or_self]

/-- The number of an open element is smaller than that of the next one to start. -/
theorem Sound.id_lt {options : Options} {nesting : Nesting} (h : nesting.Sound options)
    {element : Opened} (hopen : element ∈ nesting.opened) : element.id < nesting.nextId :=
  (List.pairwise_cons.mp h.numbered).1 _ (List.mem_map_of_mem hopen)

theorem initial_sound (options : Options) : initial.Sound options where
  numbered := List.pairwise_singleton _ _
  marked := fun _ _ hsuffix => absurd (List.suffix_nil.mp hsuffix) (List.cons_ne_nil _ _)
  silent := fun _ => rfl

theorem Sound.start {options : Options} {nesting : Nesting} (h : nesting.Sound options)
    (name : String) (attributes : Attributes) :
    (nesting.start options name attributes).1.Sound options := by
  rw [start_eq]
  refine ⟨?_, ?_, fun _ => rfl⟩
  · refine List.pairwise_cons.mpr ⟨?_, h.numbered⟩
    intro id hid
    rcases List.mem_cons.mp hid with rfl | hid
    · exact Nat.lt_succ_self _
    · exact Nat.lt_succ_of_lt ((List.pairwise_cons.mp h.numbered).1 id hid)
  · intro element enclosing hsuffix
    rcases List.suffix_cons_iff.mp hsuffix with heq | hsuffix
    · obtain ⟨rfl, rfl⟩ := List.cons.inj heq
      rw [List.any_cons, ← h.suppressed_eq, Bool.not_or]
      rfl
    · exact h.marked element enclosing hsuffix

theorem Sound.text {options : Options} {nesting : Nesting} (h : nesting.Sound options)
    (part : String) (last : Bool) : (nesting.text part last).1.Sound options := by
  have hopened := nesting.text_opened part last
  refine ⟨?_, ?_, ?_⟩
  · rw [hopened, text_nextId]
    exact h.numbered
  · rw [hopened]
    exact h.marked
  · -- Nothing has been added to what was held back, which is nothing.
    intro hsuppressed
    have hbefore : nesting.suppressed = true := by
      rwa [suppressed, hopened] at hsuppressed
    rw [text_eq, hold_of_suppressed hbefore]
    cases last with
    | false => exact h.silent hbefore
    | true => rfl

theorem Sound.close {options : Options} {nesting : Nesting} (h : nesting.Sound options)
    (count : Nat) : (nesting.close count).1.Sound options := by
  refine ⟨?_, ?_, fun _ => rfl⟩
  · rw [Nesting.close, List.map_drop]
    exact h.numbered.sublist (List.Sublist.cons_cons _ (List.drop_sublist _ _))
  · intro element enclosing hsuffix
    exact h.marked element enclosing (hsuffix.trans (List.drop_suffix _ _))

/-- Whatever is given, the invariant is kept. -/
theorem Sound.take {options : Options} {nesting : Nesting} (h : nesting.Sound options)
    (input : Input) : (nesting.take options input).1.Sound options := by
  cases input with
  | finish =>
      rw [Nesting.take, finish_eq_close]
      exact h.close _
  | report report =>
      cases report with
      | start name attributes => exact h.start name attributes
      | text part last => exact h.text part last
      | stop id =>
          rw [Nesting.take, Nesting.step, stop_eq_close_reach]
          exact h.close _

theorem Sound.takeAll {options : Options} {nesting : Nesting} (h : nesting.Sound options)
    (inputs : List Input) : (nesting.takeAll options inputs).1.Sound options := by
  induction inputs generalizing nesting with
  | nil => exact h
  | cons input inputs ih => exact ih (h.take input)

end Nesting

/-! ## Streams -/

/-- A new recording holds the events it is given. -/
theorem events_receiveAll_empty (events : List Event) :
    (Sink.receiveAll Recording.empty events).events.toList = events := by
  rw [receiveAll_recording]
  rfl

namespace Stream

variable {σ : Type} [Sink σ]

/-- Takes a report or ends the document. -/
def take (options : Options) (stream : Stream σ) : Input → Stream σ
  | .report report => stream.step options report
  | .finish => stream.finish

/-- The stream after inputs. -/
def takeAll (options : Options) (stream : Stream σ) (inputs : List Input) : Stream σ :=
  inputs.foldl (take options) stream

theorem take_eq (options : Options) (stream : Stream σ) (input : Input) :
    stream.take options input = stream.advance (stream.nesting.take options input) := by
  cases input <;> rfl

/-- The nesting of a stream is that of the inputs alone, and its sink is the sink
after their events. -/
theorem takeAll_eq (options : Options) (stream : Stream σ) (inputs : List Input) :
    stream.takeAll options inputs =
      stream.advance (stream.nesting.takeAll options inputs) := by
  induction inputs generalizing stream with
  | nil => rfl
  | cons input inputs ih =>
      show (stream.take options input).takeAll options inputs = _
      rw [ih, take_eq]
      simp only [advance, Nesting.takeAll, Sink.receiveAll_append]

/-- What has been recorded after inputs. -/
theorem takeAll_recording (options : Options) (inputs : List Input) :
    (takeAll options ⟨.initial, Recording.empty⟩ inputs).sink.events.toList =
      (Nesting.initial.takeAll options inputs).2 := by
  rw [takeAll_eq, advance, events_receiveAll_empty]

end Stream

end Textile.Html
