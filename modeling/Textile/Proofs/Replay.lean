import Textile.Writer
import Textile.Proofs.Html.Input

/-!
# Writing while reading, and writing afterwards

A document can be written while it is read, or its events can be recorded first
and written afterwards. Both ways lead to the same Textile.

* **No breach** (`Nesting.Tracks.run_eq`): a writer goes through any part of the
  events so far, since they are well nested.
* **Documents** (`deliver_eq_takeAll`): what a sink is given of a document is what
  it is given of the reports about it and of the end after them.

`convert_eq_replay` states the agreement for documents, and for every sequence of
inputs at every event in it.
-/

namespace Textile

namespace Html

/-- A writer takes what comes first of the events so far without a breach. -/
theorem Nesting.Tracks.run_eq {nesting : Nesting} {events before : List Event}
    (h : nesting.Tracks events) (hbefore : before <+: events) :
    Writer.empty.run before = .ok (Sink.receiveAll Writer.empty before) := by
  obtain ⟨between, hopen⟩ := openAfter?_of_isPrefix hbefore h.left_open
  exact (Writer.run_of_openAfter? Writer.empty_opens hopen).1

namespace Stream

variable {σ : Type} [Sink σ]

/-- A sink at some event of an input: it has taken the events of the inputs before,
and some of those that come now. -/
theorem receiveAll_takeAll (options : Options) (sink : σ) (inputs : List Input)
    (before : List Event) :
    Sink.receiveAll (takeAll options ⟨.initial, sink⟩ inputs).sink before =
      Sink.receiveAll sink ((Nesting.initial.takeAll options inputs).2 ++ before) := by
  rw [takeAll_eq, advance, Sink.receiveAll_append]

/-- What a writer is given at any event, a writer can be given afterwards. -/
theorem run_recording (options : Options) (inputs : List Input) (input : Input)
    {before : List Event}
    (hbefore : before <+: ((Nesting.initial.takeAll options inputs).1.take options input).2) :
    Writer.empty.run
        (Sink.receiveAll (takeAll options ⟨.initial, Recording.empty⟩ inputs).sink
          before).events.toList =
      .ok (Sink.receiveAll (takeAll options ⟨.initial, Writer.empty⟩ inputs).sink before) := by
  have htracks := Nesting.initial_tracks.takeAll options (inputs ++ [input])
  rw [Nesting.takeAll_concat, List.nil_append] at htracks
  rw [receiveAll_takeAll, receiveAll_takeAll, events_receiveAll_empty]
  exact htracks.run_eq ((List.prefix_append_right_inj _).mpr hbefore)

end Stream

/-- A document is read as the reports about it and the end after them. -/
theorem deliver_eq_takeAll {σ : Type} [Sink σ] (options : Options) (source : String)
    (sink : σ) :
    deliver options source sink =
      (Stream.takeAll options ⟨.initial, sink⟩
        ((Report.ofSource source).map .report ++ [.finish])).sink := by
  rw [Stream.takeAll, List.foldl_append, List.foldl_map]
  rfl

end Html

open Html

/-- Writing a document while it is read gives the Textile of its recorded events, so
these are never a breach for a writer. And in any sequence of inputs, at every event
that comes about, the writer that takes the events as they come has the open elements
and the output of a new writer that is given the record of them so far. -/
theorem convert_eq_replay (options : Options) :
    (∀ html, convertEvents options (Html.events options (options.source html)) =
      .ok (convert options html)) ∧
    ∀ inputs,
      let recorded := Stream.takeAll options ⟨.initial, Recording.empty⟩ inputs
      let writing := Stream.takeAll options ⟨.initial, Writer.empty⟩ inputs
      recorded.nesting = writing.nesting ∧
      Writer.empty.run recorded.sink.events.toList = .ok writing.sink ∧
      ∀ input before, before <+: (writing.nesting.take options input).2 →
        Writer.empty.run (Sink.receiveAll recorded.sink before).events.toList =
          .ok (Sink.receiveAll writing.sink before) := by
  have hrun (inputs : List Input) :
      Writer.empty.run
          (Stream.takeAll options ⟨.initial, Recording.empty⟩ inputs).sink.events.toList =
        .ok (Stream.takeAll options ⟨.initial, Writer.empty⟩ inputs).sink :=
    Stream.run_recording options inputs .finish List.nil_prefix
  refine ⟨?_, fun inputs => ⟨?_, hrun inputs, ?_⟩⟩
  · intro html
    rw [convertEvents, Html.events, deliver_eq_takeAll, hrun, convert, deliver_eq_takeAll]
    rfl
  · rw [Stream.takeAll_eq, Stream.takeAll_eq]
    rfl
  · intro input before hbefore
    rw [Stream.takeAll_eq] at hbefore
    exact Stream.run_recording options inputs input hbefore

end Textile
