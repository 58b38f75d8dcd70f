import Textile.Proofs.Block
import Textile.Proofs.Html.Document
import Textile.Proofs.Html.Source
import Textile.Proofs.Text.Trim

/-!
# Paragraphs

A document of paragraphs and nothing else, followed through the whole
conversion. What one paragraph does at each stage does not hang on the others:

* **Events** (`events_content`): its start, its text if it has any, its end. The
  document is one of elements without attributes, so it is read as it is written.
* **Output** (`receiveAll_events`): it is written between two newlines. Before it
  a newline is missing from a blank line because the output ends in at most one;
  after it because what is written ends in none.

`convert_paragraphs` puts them together: the newline after one paragraph and the
one before the next are the blank line between them.
-/

namespace Textile

open Textile.Html Textile.Text Textile.Unicode

/-- The names of the blocks that hold a paragraph. -/
def paragraphNames : List String :=
  ["p", "h1", "h2", "h3", "h4", "h5", "h6", "pre", "blockquote"]

/-- A paragraph in one line: the name of its block and its text. -/
structure Paragraph where
  name : String
  text : List Char
  name_mem : name ∈ paragraphNames
  oneLine : '\r' ∉ text ∧ '\n' ∉ text

namespace Paragraph

/-- The paragraph in a source. -/
def html (paragraph : Paragraph) : List Char :=
  '<' :: (paragraph.name.toList ++ '>' :: (escape paragraph.text ++
    '<' :: '/' :: (paragraph.name.toList ++ ['>'])))

/-- The sign of the block. -/
def sign (paragraph : Paragraph) : List Char :=
  (Tag.ofName paragraph.name).openingSign.toList

/-- The paragraph in Textile: its sign and its text. -/
def textile (paragraph : Paragraph) : List Char :=
  paragraph.sign ++ paragraph.text

/-! ## Names and signs -/

/-- The start tag of the block. -/
def tag (paragraph : Paragraph) : ElementTag where
  name := paragraph.name
  attributes := .empty
  named := by
    have hnames : ∀ name ∈ paragraphNames, isElementName name = true := by decide
    exact hnames _ paragraph.name_mem
  keyed := fun _ hin => absurd hin List.not_mem_nil

/-- The block has an end tag. -/
theorem isLeafName_name (paragraph : Paragraph) : isLeafName paragraph.name = false := by
  have hnames : ∀ name ∈ paragraphNames, isLeafName name = false := by decide
  exact hnames _ paragraph.name_mem

/-- The block is set off by blank lines, and its end writes nothing else. -/
theorem tag_name (paragraph : Paragraph) :
    (Tag.ofName paragraph.name).category = .block ∧
      Element.closing ⟨Tag.ofName paragraph.name, .empty⟩ = [] := by
  have hnames : ∀ name ∈ paragraphNames, (Tag.ofName name).category = .block ∧
      Element.closing ⟨Tag.ofName name, .empty⟩ = [] := by decide
  exact hnames _ paragraph.name_mem

/-- A sign begins with a visible character and ends in a space. -/
theorem sign_ends (paragraph : Paragraph) :
    (∃ c rest, paragraph.sign = c :: rest ∧ isWhiteSpace c = false) ∧
      ∃ before, paragraph.sign = before ++ [' '] := by
  have hnames : ∀ name ∈ paragraphNames,
      (Tag.ofName name).openingSign.toList.head?.map isWhiteSpace = some false ∧
        (Tag.ofName name).openingSign.toList.getLast? = some ' ' := by decide
  obtain ⟨hfirst, hlast⟩ := hnames _ paragraph.name_mem
  obtain ⟨c, hhead, hvisible⟩ := Option.map_eq_some_iff.mp hfirst
  obtain ⟨rest, hcons⟩ := List.head?_eq_some_iff.mp hhead
  exact ⟨⟨c, rest, hcons, hvisible⟩, List.getLast?_eq_some_iff.mp hlast⟩

theorem newline_not_mem_name (paragraph : Paragraph) :
    '\r' ∉ paragraph.name.toList ∧ '\n' ∉ paragraph.name.toList := by
  have hgoesOn := paragraph.tag.isTagName_name.goesOn
  refine ⟨fun hin => ?_, fun hin => ?_⟩
  · exact absurd (hgoesOn _ hin) (by decide)
  · exact absurd (hgoesOn _ hin) (by decide)

/-- A paragraph is one line of the source. -/
theorem oneLine_html (paragraph : Paragraph) :
    '\r' ∉ paragraph.html ∧ '\n' ∉ paragraph.html := by
  obtain ⟨hreturn, hnewline⟩ := paragraph.newline_not_mem_name
  have hescape {c : Char} (htext : c ∉ paragraph.text) (hreference : c ∉ referenceChars) :
      c ∉ escape paragraph.text := by
    intro hin
    rcases mem_escape hin with hin | ⟨hin, _⟩
    · exact hreference hin
    · exact htext hin
  have hreturn' := hescape paragraph.oneLine.1 (by decide)
  have hnewline' := hescape paragraph.oneLine.2 (by decide)
  simp [html, hreturn, hnewline, hreturn', hnewline']

/-! ## Events -/

/-- The text of the paragraph in a source, if it has any. -/
def runs (paragraph : Paragraph) : List String :=
  if paragraph.text.isEmpty then [] else [String.ofList (escape paragraph.text)]

/-- The events of the paragraph. -/
def events (paragraph : Paragraph) : List Event :=
  .start paragraph.name .empty :: (paragraph.runs.map .text ++ [.stop paragraph.name])

/-- The paragraphs as the content of a document. -/
def content : List Paragraph → Content
  | [] => .text []
  | paragraph :: paragraphs =>
      .element [] paragraph.tag paragraph.isLeafName_name (.text paragraph.text)
        (content paragraphs)

theorem html_content (paragraphs : List Paragraph) :
    (content paragraphs).html = paragraphs.flatMap html := by
  induction paragraphs with
  | nil => rfl
  | cons paragraph paragraphs ih =>
      show escape [] ++ (paragraph.tag.html ++ (escape paragraph.text ++
        (paragraph.tag.endHtml ++ (content paragraphs).html))) = _
      rw [ih, List.flatMap_cons]
      simp [ElementTag.html, ElementTag.endHtml, html, tag, escape, Attributes.empty]

theorem events_content (change : String → String) (paragraphs : List Paragraph) :
    (content paragraphs).events change = paragraphs.flatMap events := by
  induction paragraphs with
  | nil => rfl
  | cons paragraph paragraphs ih =>
      show .start paragraph.name .empty :: (paragraph.runs.map .text ++
        .stop paragraph.name :: (content paragraphs).events change) = _
      rw [ih, List.flatMap_cons, events, List.cons_append, List.append_assoc]
      rfl

/-! ## Output -/

/-- A paragraph begins with a visible character. -/
theorem textile_begins (paragraph : Paragraph) :
    ∃ c rest, paragraph.textile = c :: rest ∧ isWhiteSpace c = false := by
  obtain ⟨⟨c, rest, hsign, hvisible⟩, _⟩ := paragraph.sign_ends
  exact ⟨c, rest ++ paragraph.text, by rw [textile, hsign, List.cons_append], hvisible⟩

/-- No paragraph ends in a newline. -/
theorem textile_ends (paragraph : Paragraph) :
    ∃ before c, paragraph.textile = before ++ [c] ∧ c ≠ '\n' := by
  obtain ⟨_, before, hsign⟩ := paragraph.sign_ends
  rcases List.eq_nil_or_concat paragraph.text with hnil | ⟨line, c, hline⟩
  · refine ⟨before, ' ', ?_, by decide⟩
    rw [textile, hsign, hnil, List.append_nil]
  · refine ⟨paragraph.sign ++ line, c, ?_, ?_⟩
    · rw [textile, hline, List.concat_eq_append, List.append_assoc]
    · rintro rfl
      exact paragraph.oneLine.2 (by rw [hline]; simp)

/-- The block as an open element. -/
def element (paragraph : Paragraph) : Element := ⟨.ofName paragraph.name, .empty⟩

/-- A start is written after a newline where no blank line is there yet. -/
theorem step_start (paragraph : Paragraph) {output : Output}
    (h : output.newestFirst.take 2 ≠ ['\n', '\n']) :
    Writer.step ⟨[], output⟩ (.start paragraph.name .empty) =
      ⟨[paragraph.element], output.append ('\n' :: paragraph.sign)⟩ := by
  have hgap : output.separate (Writer.blockGap []) = output.append ['\n'] :=
    output.separate_blankLine.trans (if_neg h)
  rw [Writer.step_start_block rfl paragraph.tag_name.1, hgap, Output.append_append]
  rfl

/-- The text is written as it was before it was escaped. -/
theorem receiveAll_runs (paragraph : Paragraph) (output : Output) :
    Sink.receiveAll (⟨[paragraph.element], output.append ('\n' :: paragraph.sign)⟩ : Writer)
        (paragraph.runs.map .text) =
      ⟨[paragraph.element], output.append ('\n' :: paragraph.textile)⟩ := by
  obtain ⟨_, before, hsign⟩ := paragraph.sign_ends
  have hends : (output.append ('\n' :: paragraph.sign)).endsInNewline = false := by
    simp [Output.endsInNewline, Output.newestFirst_append, hsign]
  have hplain : plain (String.ofList (escape paragraph.text)).toList = paragraph.text := by
    rw [String.toList_ofList, plain_escape]
  unfold runs textile
  split
  · next hempty =>
      rw [List.isEmpty_iff.mp hempty, List.append_nil]
      rfl
  · show Writer.step ⟨_, _⟩ (.text (String.ofList (escape paragraph.text))) = _
    rw [Writer.step_text hplain paragraph.oneLine.2 hends, Output.append_append]
    rfl

/-- An end is followed by the first newline of a blank line. -/
theorem step_stop (paragraph : Paragraph) (output : Output) :
    Writer.step ⟨[paragraph.element], output.append ('\n' :: paragraph.textile)⟩
        (.stop paragraph.name) =
      ⟨[], output.append ('\n' :: paragraph.textile ++ ['\n'])⟩ := by
  obtain ⟨hcategory, hclosing⟩ := paragraph.tag_name
  obtain ⟨before, c, htextile, hc⟩ := paragraph.textile_ends
  have hline : (output.append ('\n' :: paragraph.textile)).newestFirst.take 2 ≠
      ['\n', '\n'] := by
    simp [Output.newestFirst_append, htextile, hc]
  have hgap := (output.append ('\n' :: paragraph.textile)).separate_blankLine.trans
    (if_neg hline)
  rw [← Output.append_append, Output.append_singleton, ← hgap]
  exact Writer.step_stop_block rfl hcategory hclosing [] _

/-- A paragraph is written between two newlines. -/
theorem receiveAll_events (paragraph : Paragraph) {output : Output}
    (h : output.newestFirst.take 2 ≠ ['\n', '\n']) :
    Sink.receiveAll (⟨[], output⟩ : Writer) paragraph.events =
      ⟨[], output.append ('\n' :: paragraph.textile ++ ['\n'])⟩ := by
  rw [events, Writer.receiveAll_cons, paragraph.step_start h, Sink.receiveAll_append,
    receiveAll_runs, Writer.receiveAll_cons, step_stop]
  rfl

/-- The newline after a paragraph is not the second one there. -/
theorem take_two_append (paragraph : Paragraph) (output : Output) :
    (output.append ('\n' :: paragraph.textile ++ ['\n'])).newestFirst.take 2 ≠
      ['\n', '\n'] := by
  obtain ⟨before, c, htextile, hc⟩ := paragraph.textile_ends
  simp [Output.newestFirst_append, htextile, hc]

theorem receiveAll_flatMap_events (paragraphs : List Paragraph) {output : Output}
    (h : output.newestFirst.take 2 ≠ ['\n', '\n']) :
    Sink.receiveAll (⟨[], output⟩ : Writer) (paragraphs.flatMap events) =
      ⟨[], output.append
        ((paragraphs.map textile).flatMap fun piece => ['\n'] ++ piece ++ ['\n'])⟩ := by
  -- Every paragraph leaves one newline behind, as the next one expects it.
  induction paragraphs generalizing output with
  | nil => rfl
  | cons paragraph paragraphs ih =>
      rw [List.flatMap_cons, Sink.receiveAll_append, receiveAll_events _ h,
        ih (paragraph.take_two_append output), Output.append_append, List.map_cons,
        List.flatMap_cons, List.singleton_append]

/-- The first paragraph begins with a visible character. -/
theorem visible_of_mem_head? {paragraphs : List Paragraph} {c : Char}
    (h : (List.intercalate ['\n', '\n'] (paragraphs.map (·.textile))).head? = some c) :
    isWhiteSpace c = false := by
  cases paragraphs with
  | nil => cases h
  | cons paragraph paragraphs =>
      obtain ⟨first, rest, htextile, hvisible⟩ := paragraph.textile_begins
      rw [List.map_cons, htextile, head?_intercalate] at h
      cases h
      exact hvisible

/-! ## Documents -/

/-- A document of paragraphs is read as it is written. -/
theorem source_flatMap_html (paragraphs : List Paragraph) :
    Options.source {} (String.ofList (paragraphs.flatMap html)) =
      String.ofList (paragraphs.flatMap html) := by
  have hreturn : '\r' ∉ paragraphs.flatMap html := by
    intro hin
    obtain ⟨paragraph, _, hin⟩ := List.mem_flatMap.mp hin
    exact paragraph.oneLine_html.1 hin
  have hnewline : '\n' ∉ paragraphs.flatMap html := by
    intro hin
    obtain ⟨paragraph, _, hin⟩ := List.mem_flatMap.mp hin
    exact paragraph.oneLine_html.2 hin
  show Html.tidy _ = _
  rw [Html.tidy, String.toList_ofList, tidyChars_of_oneLine hreturn hnewline]

/-- A writer that takes a document of paragraphs writes each between two newlines. -/
theorem deliver_flatMap_html (paragraphs : List Paragraph) :
    deliver {} (String.ofList (paragraphs.flatMap html)) Writer.empty =
      ⟨[], Output.empty.append
        ((paragraphs.map textile).flatMap fun piece => ['\n'] ++ piece ++ ['\n'])⟩ := by
  have hignored : ({} : Options).ignored = [] := rfl
  rw [← html_content, (content paragraphs).deliver_html hignored, events_content]
  exact receiveAll_flatMap_events paragraphs (by decide)

end Paragraph

/-- A document of paragraphs becomes their Textile, with one blank line between
two of them. Every character of a text is written once, whatever references the
text spells, and nothing else is written. -/
theorem convert_paragraphs (paragraphs : List Paragraph) :
    convert {} (String.ofList (paragraphs.flatMap (·.html))) =
      String.ofList (trimEnd
        (List.intercalate ['\n', '\n'] (paragraphs.map (·.textile)))) := by
  have hnewline : isBlank ['\n'] = true := by decide
  rw [convert, Paragraph.source_flatMap_html, Paragraph.deliver_flatMap_html]
  show trimString (String.ofList (Output.toList _)) = _
  rw [trimString, String.toList_ofList, Output.toList_append]
  exact congrArg String.ofList
    (trim_flatMap_between hnewline hnewline fun _ => Paragraph.visible_of_mem_head?)

/-- A heading with all that is escaped, a paragraph that spells a reference, one that is empty and
one that ends in white space. -/
theorem convert_paragraphs_escaped :
    convert {} ("<h1>a &amp; &lt;b&gt;</h1><p>&amp;#174; &amp;amp;</p><pre></pre>" ++
        "<blockquote> * c \t</blockquote>") =
      "h1. a & <b>\n\np. &#174; &amp;\n\npre. \n\nbq.  * c" := by
  have hwritten := convert_paragraphs [⟨"h1", "a & <b>".toList, by decide, by decide⟩,
    ⟨"p", "&#174; &amp;".toList, by decide, by decide⟩, ⟨"pre", [], by decide, by decide⟩,
    ⟨"blockquote", " * c \t".toList, by decide, by decide⟩]
  exact hwritten.trans (by decide +kernel)

end Textile
