import Textile.Html.Nesting
import Textile.Proofs.Html.Nesting
import Textile.Proofs.Html.Tag

/-!
# Documents and the way back

A document as a tree of elements and texts, written as HTML in the plainest way, and
read again. What is read is the document: `deliver_html` gives any sink the starts,
texts and ends of the tree in their order.

What one piece of a document does at each stage does not hang on the others:

* **Tokens** (`Content.scan_html`): each tag is a token, and each text that stands
  between two tags.
* **Reports** (`Content.ofTokensAfter_tokens`): each end tag is paired with the start
  tag of its element. Void elements may wait for an end tag, but their names keep
  them from being paired with one.
* **Events** (`Content.foldl_step_reports`): the element that ends is the innermost
  one, so it takes no other along.
-/

namespace Textile.Html

open Textile.Text Textile.Unicode

/-! ## Documents -/

/-- What stands in an element or in a document: elements, and texts between them. Every
element comes with the text in front of it, so that no two texts are next to each other;
a text that is empty stands for none. -/
inductive Content
  /-- The last text. -/
  | text (run : List Char)
  /-- A text, and an element that is written as a start tag alone. -/
  | leaf (before : List Char) (tag : ElementTag) (void : isLeafName tag.name = true)
      (after : Content)
  /-- A text, and an element with a start tag and an end tag. -/
  | element (before : List Char) (tag : ElementTag) (filled : isLeafName tag.name = false)
      (inside after : Content)

namespace Content

/-- The source that the content is written as. -/
def html : Content → List Char
  | text run => escape run
  | leaf before tag _ after => escape before ++ (tag.html ++ after.html)
  | element before tag _ inside after =>
      escape before ++ (tag.html ++ (inside.html ++ (tag.endHtml ++ after.html)))

/-- The text as it is written, unless it is empty. -/
def runs (run : List Char) : List String :=
  if run.isEmpty then [] else [String.ofList (escape run)]

/-- The events of the content in the order of the document, where values are changed in
some way. Texts are as they are written. -/
def events (change : String → String) : Content → List Event
  | text run => (runs run).map .text
  | leaf before tag _ after =>
      (runs before).map .text ++
        (.start tag.name (tag.attributes.mapValues change) :: .stop tag.name ::
          after.events change)
  | element before tag _ inside after =>
      (runs before).map .text ++
        (.start tag.name (tag.attributes.mapValues change) ::
          (inside.events change ++ .stop tag.name :: after.events change))

/-! ## Tokens -/

/-- The tokens of the content. -/
def tokens : Content → List Token
  | text run => (runs run).map .text
  | leaf before tag _ after =>
      (runs before).map .text ++ (.startTag tag.startTag .html :: after.tokens)
  | element before tag _ inside after =>
      (runs before).map .text ++
        (.startTag tag.startTag .html :: (inside.tokens ++ .endTag tag.name :: after.tokens))

theorem ofText_escape (run : List Char) :
    Token.ofText (escape run).reverse = (runs run).map .text := by
  rw [Token.ofText, runs, List.isEmpty_reverse, isEmpty_escape, List.reverse_reverse]
  split <;> rfl

theorem bracket_not_mem_escape (run : List Char) : '<' ∉ escape run := by
  intro hin
  rcases mem_escape hin with hin | ⟨_, hplain⟩
  · exact absurd hin (by decide)
  · exact hplain (by decide)

/-- A text that is followed by a bracket. -/
theorem scan_escape (run rest : List Char) :
    Token.scan .initial [] (escape run ++ rest) =
      Token.scan .initial (escape run).reverse rest := by
  rw [Token.scan_append (bracket_not_mem_escape run), List.append_nil]

/-- What ends a text: the text in front of it is a token of its own. -/
def Divides (rest : List Char) : Prop :=
  ∀ text, Token.scan .initial text rest = Token.ofText text ++ Token.scan .initial [] rest

theorem divides_nil : Divides [] := by
  intro text
  rw [Token.scan_nil, Token.scan_nil]
  exact (List.append_nil _).symm

theorem divides_endHtml (tag : ElementTag) (rest : List Char) :
    Divides (tag.endHtml ++ rest) := by
  intro text
  rw [tag.scan_endHtml, tag.scan_endHtml]
  rfl

/-- Content is divided into its tags and its texts, whatever ends it. -/
theorem scan_html (content : Content) {rest : List Char} (hrest : Divides rest) :
    Token.scan .initial [] (content.html ++ rest) =
      content.tokens ++ Token.scan .initial [] rest := by
  induction content generalizing rest with
  | text run => rw [html, scan_escape, hrest, ofText_escape, tokens]
  | leaf before tag void after ih =>
      rw [html, List.append_assoc, scan_escape, List.append_assoc, tag.scan_html, ih hrest,
        ofText_escape, tokens]
      simp
  | element before tag filled inside after ihinside ihafter =>
      rw [html, List.append_assoc, scan_escape, List.append_assoc, tag.scan_html,
        List.append_assoc, List.append_assoc, ihinside (divides_endHtml tag _), tag.scan_endHtml,
        ihafter hrest, ofText_escape, tokens]
      simp [Token.ofText]

/-! ## Reports -/

/-- The number of elements. -/
def size : Content → Nat
  | text _ => 0
  | leaf _ _ _ after => after.size + 1
  | element _ _ _ inside after => inside.size + after.size + 1

/-- The reports about the content, where the elements are numbered on from the first. -/
def reports (id : Nat) : Content → List Report
  | text run => (runs run).map (.text · true)
  | leaf before tag _ after =>
      (runs before).map (.text · true) ++
        (.start tag.name (tag.attributes.mapValues dropByteOrderMark) :: .stop id ::
          after.reports (id + 1))
  | element before tag _ inside after =>
      (runs before).map (.text · true) ++
        (.start tag.name (tag.attributes.mapValues dropByteOrderMark) ::
          (inside.reports (id + 1) ++ .stop id :: after.reports (id + 1 + inside.size)))

/-- The void elements of the content that wait for an end tag all the same, the last one
first. Those in an element no longer do once it has ended. -/
def waiting : Content → List Unclosed
  | text _ => []
  | leaf _ tag _ after =>
      after.waiting ++ if contentlessNames.contains tag.name then [] else [⟨tag.name, none⟩]
  | element _ _ _ _ after => after.waiting

theorem of_mem_waiting {content : Content} {tag : Unclosed} (h : tag ∈ content.waiting) :
    isLeafName tag.name = true ∧ tag.id? = none := by
  induction content with
  | text run => cases h
  | leaf before leaf void after ih =>
      rcases List.mem_append.mp h with h | h
      · exact ih h
      · split at h
        · cases h
        · rw [List.mem_singleton.mp h]
          exact ⟨void, rfl⟩
  | element before element filled inside after _ ihafter => exact ihafter h

theorem ofTokensAfter_runs (pairing : Pairing) (run : List Char) (tokens : List Token) :
    Report.ofTokensAfter pairing ((runs run).map .text ++ tokens) =
      (runs run).map (.text · true) ++ Report.ofTokensAfter pairing tokens := by
  unfold runs
  split <;> rfl

/-- An element without an end tag ends at once. -/
theorem step_leaf {tag : ElementTag} (void : isLeafName tag.name = true) (id : Nat)
    (unclosed : List Unclosed) :
    Pairing.step ⟨id, unclosed⟩ (.startTag tag.startTag .html) =
      (⟨id + 1, (if contentlessNames.contains tag.name then [] else [⟨tag.name, none⟩]) ++
        unclosed⟩,
        [.start tag.name (tag.attributes.mapValues dropByteOrderMark), .stop id]) := by
  have hends : (isVoid tag.name || !!contentlessNames.contains tag.name) = true := by
    rw [tag.isVoid_name, Bool.not_not]
    exact void
  simp only [Pairing.step, Pairing.start, tag.hasContent_startTag, tag.name_startTag,
    tag.lowercase_name, tag.elementAttributes_startTag, hends]
  cases contentlessNames.contains tag.name <;> rfl

/-- Any other element waits for its end tag. -/
theorem step_element {tag : ElementTag} (filled : isLeafName tag.name = false) (id : Nat)
    (unclosed : List Unclosed) :
    Pairing.step ⟨id, unclosed⟩ (.startTag tag.startTag .html) =
      (⟨id + 1, ⟨tag.name, some id⟩ :: unclosed⟩,
        [.start tag.name (tag.attributes.mapValues dropByteOrderMark)]) := by
  obtain ⟨hvoid, hcontentless⟩ := Bool.or_eq_false_iff.mp filled
  simp only [Pairing.step, Pairing.start, tag.hasContent_startTag, tag.name_startTag,
    tag.lowercase_name, tag.elementAttributes_startTag, tag.isVoid_name, hvoid, hcontentless]
  rfl

/-- Its end tag is paired with it, over the void elements that wait in it. -/
theorem step_endTag {tag : ElementTag} (filled : isLeafName tag.name = false) (inside : Content)
    (id started : Nat) (unclosed : List Unclosed) :
    Pairing.step ⟨started, inside.waiting ++ ⟨tag.name, some id⟩ :: unclosed⟩
        (.endTag tag.name) =
      (⟨started, unclosed⟩, [.stop id]) := by
  have hother : ∀ waiting ∈ inside.waiting, decide (waiting.name ≠ tag.name) = true := by
    intro waiting hin
    apply decide_eq_true
    intro heq
    rw [← heq, (of_mem_waiting hin).1] at filled
    cases filled
  have hnone : inside.waiting.filterMap (fun waiting => waiting.id?.map Report.stop) = [] := by
    rw [List.filterMap_eq_nil_iff]
    intro waiting hin
    rw [(of_mem_waiting hin).2]
    rfl
  have hdrop : (inside.waiting ++ ⟨tag.name, some id⟩ :: unclosed).dropWhile
      (·.name ≠ tag.name) = ⟨tag.name, some id⟩ :: unclosed := by
    rw [List.dropWhile_append_of_pos hother]
    exact List.dropWhile_cons_of_neg (by simp)
  have htake : (inside.waiting ++ ⟨tag.name, some id⟩ :: unclosed).takeWhile
      (·.name ≠ tag.name) = inside.waiting := by
    rw [List.takeWhile_append_of_pos hother, List.takeWhile_cons_of_neg (by simp),
      List.append_nil]
  simp only [Pairing.step, Pairing.stop, hdrop, htake, List.filterMap_append, hnone]
  rfl

theorem ofTokensAfter_cons {pairing next : Pairing} {token : Token} {reports : List Report}
    (h : pairing.step token = (next, reports)) (tokens : List Token) :
    Report.ofTokensAfter pairing (token :: tokens) =
      reports ++ Report.ofTokensAfter next tokens := by
  rw [Report.ofTokensAfter, h]

/-- The tags of the content are paired among themselves. -/
theorem ofTokensAfter_tokens (content : Content) (id : Nat) (unclosed : List Unclosed)
    (tokens : List Token) :
    Report.ofTokensAfter ⟨id, unclosed⟩ (content.tokens ++ tokens) =
      content.reports id ++
        Report.ofTokensAfter ⟨id + content.size, content.waiting ++ unclosed⟩ tokens := by
  induction content generalizing id unclosed tokens with
  | text run => exact ofTokensAfter_runs _ run tokens
  | leaf before tag void after ih =>
      have hsize : id + 1 + after.size = id + (after.size + 1) := by omega
      rw [Content.tokens, List.append_assoc, ofTokensAfter_runs, List.cons_append,
        ofTokensAfter_cons (step_leaf void id unclosed), ih, reports, waiting, size, hsize]
      simp only [List.append_assoc, List.cons_append, List.nil_append]
  | element before tag filled inside after ihinside ihafter =>
      have hsize : id + 1 + inside.size + after.size = id + (inside.size + after.size + 1) := by
        omega
      rw [Content.tokens, List.append_assoc, ofTokensAfter_runs, List.cons_append,
        ofTokensAfter_cons (step_element filled id unclosed), List.append_assoc, ihinside,
        List.cons_append, List.cons_append,
        ofTokensAfter_cons (step_endTag filled inside id _ unclosed), ihafter, reports, waiting,
        size, hsize]
      simp only [List.append_assoc, List.cons_append, List.nil_append]

/-! ## Events -/

variable {σ : Type} [Sink σ] {options : Options} (hignored : options.ignored = [])
  {opened : List Opened} (hopened : ∀ element ∈ opened, element.forwarded = true)

include hopened in
theorem suppressed_eq_false (id : Nat) (pending : String) :
    Nesting.suppressed ⟨opened, id, pending⟩ = false := by
  simpa [Nesting.suppressed] using hopened

include hignored hopened in
/-- Where nothing is left out, an element that starts becomes an event. -/
theorem step_start (id : Nat) (name : String) (attributes : Attributes) (sink : σ) :
    Stream.step options ⟨⟨opened, id, ""⟩, sink⟩ (.start name attributes) =
      ⟨⟨⟨id, name, true⟩ :: opened, id + 1, ""⟩,
        Sink.receiveAll sink [.start name attributes]⟩ := by
  have hforwards : Nesting.forwards ⟨opened, id, ""⟩ options name = true := by
    rw [Nesting.forwards, Options.ignores, hignored, suppressed_eq_false hopened]
    rfl
  simp only [Stream.step, Nesting.step, Nesting.start_eq, hforwards]
  rfl

/-- The innermost element takes no other along. -/
theorem step_stop (id started : Nat) (name : String) (sink : σ) :
    Stream.step options ⟨⟨⟨id, name, true⟩ :: opened, started, ""⟩, sink⟩ (.stop id) =
      ⟨⟨opened, started, ""⟩, Sink.receiveAll sink [.stop name]⟩ := by
  simp [Stream.step, Nesting.step, Nesting.stop, Nesting.flush, Stream.advance, Opened.stop?]

include hopened in
/-- A text becomes an event at once: it is whole. -/
theorem foldl_step_runs (id : Nat) (run : List Char) (sink : σ) :
    ((runs run).map (.text · true)).foldl (Stream.step options) ⟨⟨opened, id, ""⟩, sink⟩ =
      ⟨⟨opened, id, ""⟩, Sink.receiveAll sink ((runs run).map .text)⟩ := by
  unfold runs
  split
  · rfl
  · next hnonempty =>
      have hrun : String.ofList (escape run) ≠ "" := by
        intro hnil
        rw [← isEmpty_escape, List.isEmpty_iff] at hnonempty
        exact hnonempty (by simpa using congrArg String.toList hnil)
      simp [Stream.step, Nesting.step, Nesting.text, Nesting.flush, Stream.advance,
        suppressed_eq_false hopened, hrun]

include hignored in
/-- The reports about the content become its events, and leave open what was open. -/
theorem foldl_step_reports (content : Content) {opened : List Opened}
    (hopened : ∀ element ∈ opened, element.forwarded = true) (id : Nat) (sink : σ) :
    (content.reports id).foldl (Stream.step options) ⟨⟨opened, id, ""⟩, sink⟩ =
      ⟨⟨opened, id + content.size, ""⟩,
        Sink.receiveAll sink (content.events dropByteOrderMark)⟩ := by
  induction content generalizing opened id sink with
  | text run => exact foldl_step_runs hopened id run sink
  | leaf before tag void after ih =>
      have hsize : id + 1 + after.size = id + (after.size + 1) := by omega
      rw [reports, List.foldl_append, foldl_step_runs hopened, List.foldl_cons,
        step_start hignored hopened, List.foldl_cons, step_stop, ih hopened, hsize]
      simp only [← Sink.receiveAll_append, List.append_assoc, List.singleton_append]
      rfl
  | element before tag filled inside after ihinside ihafter =>
      have hsize : id + 1 + inside.size + after.size = id + (inside.size + after.size + 1) := by
        omega
      have hinside : ∀ element ∈ ⟨id, tag.name, true⟩ :: opened, element.forwarded = true :=
        List.forall_mem_cons.mpr ⟨rfl, hopened⟩
      rw [reports, List.foldl_append, foldl_step_runs hopened, List.foldl_cons,
        step_start hignored hopened, List.foldl_append, ihinside hinside, List.foldl_cons,
        step_stop, ihafter hopened, hsize]
      simp only [← Sink.receiveAll_append, List.append_assoc, List.singleton_append]
      rfl

include hignored in
/-- A sink that is given a document as it is written gets the events of the document in
their order, less the byte order marks that values start with. -/
theorem deliver_html (content : Content) (sink : σ) :
    deliver options (String.ofList content.html) sink =
      Sink.receiveAll sink (content.events dropByteOrderMark) := by
  have htokens : Token.ofSource (String.ofList content.html) = content.tokens := by
    have hscan := content.scan_html divides_nil
    rw [List.append_nil, Token.scan_nil] at hscan
    rw [Token.ofSource, String.toList_ofList, hscan]
    exact List.append_nil _
  have hreports : Report.ofSource (String.ofList content.html) = content.reports 0 := by
    have hpaired := content.ofTokensAfter_tokens 0 [] []
    rw [List.append_nil] at hpaired
    rw [Report.ofSource, htokens, Report.ofTokens, Pairing.initial, hpaired]
    exact List.append_nil _
  have hopened : ∀ element ∈ ([] : List Opened), element.forwarded = true :=
    fun _ hin => absurd hin List.not_mem_nil
  rw [deliver, hreports, Nesting.initial, foldl_step_reports hignored content hopened]
  rfl

end Content

theorem Content.events_eq {options : Options} (hignored : options.ignored = [])
    (content : Content) :
    Html.events options (String.ofList content.html) = content.events dropByteOrderMark := by
  rw [Html.events, content.deliver_html hignored, receiveAll_recording]
  exact List.nil_append _

/-- Reading undoes writing: the events of a document as it is written are those of its
tree, each once and in the order of the document, with the values that were escaped. Only
a byte order mark that a value starts with is not read. -/
theorem events_html (options : Options) (content : Content) :
    Html.events { options with ignored := [] } (String.ofList content.html) =
      content.events dropByteOrderMark :=
  content.events_eq rfl

/-- A paragraph with a class that starts with a byte order mark. -/
def markedParagraph : Content :=
  .element [] ⟨"p", .ofList [("class", "\uFEFFa")], by decide, by decide⟩ (by decide)
    (.text ['x']) (.text [])

/-- The class is read without the mark. -/
theorem events_html_marked :
    markedParagraph.html = "<p class=\"\uFEFFa\">x</p>".toList ∧
      Html.events {} (String.ofList markedParagraph.html) ≠ markedParagraph.events id := by
  refine ⟨by decide, ?_⟩
  rw [markedParagraph.events_eq rfl]
  decide

end Textile.Html
