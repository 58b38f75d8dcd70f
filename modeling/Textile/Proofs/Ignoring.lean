import Textile.Proofs.Command.Run
import Textile.Proofs.Html.Nesting
import Textile.Proofs.Unicode.Lowercase

/-!
# Ways to ignore elements

Options may be made with a list of names, be told the names one by one, or be denoted by a command
line. Elements are reported by the small form of their names as they are written
(`Pairing.start_eq`), and the list is compared with that as far as ASCII letters go.

* **Listed names** (`Options.ignores_lowercase_iff`): the small form of the element's name is that
  of a listed name in its ASCII letters. For names told one by one, which are listed by their small
  forms, it is that of one of them (`Options.foldl_ignoring_ignores_iff`).
* **Documents** (`Html.deliver_congr`): lists that agree on the elements of a document make the same
  of it.

`ignoring_alike` puts these together. The ways are not alike on a name with a capital beyond ASCII
(`not_ignoring_alike`): by such a name no element is skipped if options are made with it.
-/

namespace Textile

open Textile.Unicode Textile.Html Textile.Command

/-! ## Names -/

namespace Options

theorem ignores_iff {options : Options} {name : String} :
    options.ignores name = true ↔
      ∃ listed ∈ options.ignored, lowercaseAscii listed = lowercaseAscii name := by
  simp only [ignores, List.any_eq_true, equalIgnoringAsciiCase, beq_iff_eq]

/-- An element in small letters is ignored if its name is a listed one in small ASCII letters. -/
theorem ignores_lowercase_iff {options : Options} {name : String} :
    options.ignores (lowercase name) = true ↔
      ∃ listed ∈ options.ignored, lowercase name = lowercaseAscii listed := by
  rw [ignores_iff, lowercaseAscii_lowercase]
  exact exists_congr fun _ => and_congr_right fun _ => eq_comm

theorem foldl_ignoring (options : Options) (names : List String) :
    names.foldl ignoring options =
      { options with ignored := options.ignored ++ names.map lowercase } := by
  induction names generalizing options with
  | nil => simp
  | cons name names ih =>
      rw [List.foldl_cons, ih, ignoring, List.append_assoc]
      rfl

/-- An element is ignored if its name in small letters is one of those told in small letters. -/
theorem foldl_ignoring_ignores_iff {options : Options} (hnone : options.ignored = [])
    {names : List String} {name : String} :
    (names.foldl ignoring options).ignores (lowercase name) = true ↔
      ∃ told ∈ names, lowercase name = lowercase told := by
  rw [ignores_lowercase_iff, foldl_ignoring, hnone, List.nil_append]
  simp [lowercaseAscii_lowercase]

end Options

/-! ## Elements -/

namespace Html

/-- An element is reported by the small form of its name as it is written. -/
theorem Pairing.start_eq (pairing : Pairing) (tag : StartTag) (space : Namespace) :
    ∃ reports, (pairing.start tag space).2 =
        .start (lowercase tag.written) tag.elementAttributes :: reports ∧
      ∀ report ∈ reports, ∃ id, report = .stop id := by
  rw [← lowercase_lowercaseAscii tag.written]
  refine ⟨_, rfl, fun report hreport => ?_⟩
  split at hreport
  · exact ⟨_, List.mem_singleton.mp hreport⟩
  · cases hreport

/-- What is reported to start has a start tag. -/
theorem Report.exists_startTag {pairing : Pairing} {tokens : List Token} {name : String}
    {attributes : Attributes} (h : .start name attributes ∈ ofTokensAfter pairing tokens) :
    ∃ tag space, .startTag tag space ∈ tokens ∧ name = lowercase tag.written := by
  induction tokens generalizing pairing with
  | nil => cases h
  | cons token tokens ih =>
      rcases List.mem_append.mp h with h | h
      · cases token with
        | startTag tag space =>
            obtain ⟨reports, hstart, hstops⟩ := pairing.start_eq tag space
            rw [Pairing.step, hstart] at h
            -- After the start there is at most the end of an element without content.
            rcases List.mem_cons.mp h with h | h
            · exact ⟨tag, space, List.mem_cons_self, (Report.start.inj h).1⟩
            · obtain ⟨id, hid⟩ := hstops _ h
              cases hid
        | endTag name' =>
            simp only [Pairing.step, Pairing.stop] at h
            split at h
            · cases h
            · simp at h
        | text run => simp [Pairing.step] at h
      · obtain ⟨tag, space, hmem, hname⟩ := ih h
        exact ⟨tag, space, List.mem_cons_of_mem _ hmem, hname⟩

/-- An element is skipped at a report of its start: the start makes no event, and nothing makes one
while the element is open. -/
def Nesting.Skips (options : Options) (nesting : Nesting) (report : Report) : Prop :=
  (∀ name attributes, .start name attributes ∉ (nesting.step options report).2) ∧
    (nesting.step options report).1.suppressed = true

/-- Where no element around it is skipped, an element is skipped exactly if it is ignored. -/
theorem Nesting.skips_iff {nesting : Nesting} (h : nesting.suppressed = false) (options : Options)
    (name : String) (attributes : Attributes) :
    nesting.Skips options (.start name attributes) ↔ options.ignores name = true := by
  have hforwards : nesting.forwards options name = !options.ignores name := by
    rw [forwards, h, Bool.not_false, Bool.and_true]
  unfold Skips
  rw [step, start_eq, hforwards]
  cases options.ignores name with
  | true =>
      -- All that comes about is the text held back.
      refine ⟨fun _ => rfl, fun _ => ⟨fun name attributes hmem => ?_, rfl⟩⟩
      simp only [heldBack] at hmem
      split at hmem <;> simp at hmem
  | false =>
      refine ⟨fun hskips => ?_, fun hignored => absurd hignored Bool.false_ne_true⟩
      exact absurd (List.mem_append_right _ List.mem_cons_self) (hskips.1 name attributes)

/-- A document is read alike under options that ignore the same of its elements. -/
theorem deliver_congr {σ : Type} [Sink σ] {options options' : Options} {source : String}
    (h : ∀ tag space, .startTag tag space ∈ Token.ofSource source →
      options.ignores (lowercase tag.written) = options'.ignores (lowercase tag.written))
    (sink : σ) : deliver options source sink = deliver options' source sink := by
  have hsteps : ∀ (stream : Stream σ), ∀ report ∈ Report.ofSource source,
      stream.step options report = stream.step options' report := by
    intro stream report hreport
    -- Only a start looks at the options.
    cases report with
    | start name attributes =>
        obtain ⟨tag, space, hmem, rfl⟩ := Report.exists_startTag hreport
        have hforwards : stream.nesting.forwards options (lowercase tag.written) =
            stream.nesting.forwards options' (lowercase tag.written) := by
          rw [Nesting.forwards, Nesting.forwards, h tag space hmem]
        simp only [Stream.step, Nesting.step, Nesting.start_eq, hforwards]
    | text part last => rfl
    | stop id => rfl
  rw [deliver, deliver, List.foldl_ext _ _ _ hsteps]

end Html

theorem convert_congr {options options' : Options} {html : String}
    (htidy : options.tidySource = options'.tidySource)
    (htrim : options.trimResult = options'.trimResult)
    (h : ∀ tag space, .startTag tag space ∈ Token.ofSource (options.source html) →
      options.ignores (lowercase tag.written) = options'.ignores (lowercase tag.written)) :
    convert options html = convert options' html := by
  have hsource : options.source html = options'.source html := by
    rw [Options.source, Options.source, htidy]
  have hresult : ∀ writer : Writer, writer.result options = writer.result options' := by
    intro writer
    rw [Writer.result, Writer.result, htrim]
  rw [convert, convert, deliver_congr h, hsource, hresult]

/-! ## The ways to ignore -/

/-- Names told one by one and names on a command line make the same options, and with these an
element is skipped exactly if its name in small letters is that of a name given. An element is
skipped by the names listed as they are exactly if its name in small letters is a listed one in
small ASCII letters. A document whose elements do not tell the two apart is converted alike. -/
theorem ignoring_alike (base : Options) (names : List String) (html : String) :
    let listed : Options := { base with ignored := names }
    let told := names.foldl Options.ignoring { base with ignored := [] }
    (∀ settings arguments request, Spells settings arguments →
      ({} : Request).Takes settings request → settings.filterMap Setting.ignored? = names →
      (.keepsLayout ∈ settings ↔ base.tidySource = false) →
      (.keepsEnds ∈ settings ↔ base.trimResult = false) →
      Invocation.ofArguments arguments = .ok (.convert request) ∧
        request.written html = Request.closeLine (convert told html)) ∧
    (∀ (pairing : Pairing) (tag : StartTag) (space : Namespace) (nesting : Nesting),
      nesting.suppressed = false → ∃ report reports,
        (pairing.start tag space).2 = report :: reports ∧
        (nesting.Skips told report ↔
          ∃ name ∈ names, lowercase tag.written = lowercase name) ∧
        (nesting.Skips listed report ↔
          ∃ name ∈ names, lowercase tag.written = lowercaseAscii name)) ∧
    ((∀ tag space, .startTag tag space ∈ Token.ofSource (base.source html) →
        ((∃ name ∈ names, lowercase tag.written = lowercase name) ↔
          ∃ name ∈ names, lowercase tag.written = lowercaseAscii name)) →
      convert listed html = convert told html) := by
  intro listed told
  have heq : told = { base with ignored := names.map lowercase } :=
    Options.foldl_ignoring { base with ignored := [] } names
  have htold (name : String) : told.ignores (lowercase name) = true ↔
      ∃ given ∈ names, lowercase name = lowercase given :=
    Options.foldl_ignoring_ignores_iff rfl
  have hlisted (name : String) : listed.ignores (lowercase name) = true ↔
      ∃ given ∈ names, lowercase name = lowercaseAscii given := Options.ignores_lowercase_iff
  refine ⟨?_, ?_, ?_⟩
  · intro settings arguments request hspells htakes hnames hlayout hends
    refine ⟨ofArguments_eq_convert_iff.mpr ⟨settings, hspells, htakes⟩, ?_⟩
    have hoptions : request.options = told := by
      rw [Request.options_of_takes htakes, Setting.options, hnames, heq]
      simp [hlayout, hends]
    rw [Request.written, hoptions]
  · intro pairing tag space nesting hopen
    obtain ⟨reports, hreports, -⟩ := pairing.start_eq tag space
    refine ⟨_, reports, hreports, ?_, ?_⟩
    · exact (Nesting.skips_iff hopen _ _ _).trans (htold tag.written)
    · exact (Nesting.skips_iff hopen _ _ _).trans (hlisted tag.written)
  · intro hagree
    have htidy : listed.tidySource = told.tidySource := by rw [heq]
    have htrim : listed.trimResult = told.trimResult := by rw [heq]
    refine convert_congr htidy htrim fun tag space hmem => ?_
    rw [Bool.eq_iff_iff, htold, hlisted]
    exact (hagree tag space hmem).symm

/-- A name in ASCII capitals skips the elements of that name, whichever way it is given. -/
theorem ignoring_alike_command :
    Invocation.ofArguments ["--ignore=STYLE", "--no-trim"] =
        .ok (.convert { ignored := ["STYLE"], keepsEnds := true }) ∧
      Request.written { ignored := ["STYLE"], keepsEnds := true } "<p>x</p><Style>y</Style>" =
        Request.closeLine (convert (({ trimResult := false } : Options).ignoring "STYLE")
          "<p>x</p><Style>y</Style>") ∧
      convert { trimResult := false, ignored := ["STYLE"] } "<p>x</p><Style>y</Style>" =
        convert (({ trimResult := false } : Options).ignoring "STYLE")
          "<p>x</p><Style>y</Style>" := by
  have hline : Invocation.ofArguments ["--ignore=STYLE", "--no-trim"] =
      .ok (.convert { ignored := ["STYLE"], keepsEnds := true }) := rfl
  obtain ⟨settings, hspells, htakes⟩ := ofArguments_eq_convert_iff.mp hline
  have hoptions := Request.options_of_takes htakes
  have hlayout : decide (Setting.keepsLayout ∉ settings) = true :=
    (congrArg Options.tidySource hoptions).symm
  have hends : decide (Setting.keepsEnds ∉ settings) = false :=
    (congrArg Options.trimResult hoptions).symm
  obtain ⟨hcommand, -, halike⟩ :=
    ignoring_alike { trimResult := false } ["STYLE"] "<p>x</p><Style>y</Style>"
  refine ⟨hline, (hcommand settings _ _ hspells htakes htakes.ignored.symm ?_ ?_).2,
    halike fun tag space _ => ?_⟩
  · simpa using hlayout
  · simpa using hends
  · have hcapitals : lowercase "STYLE" = lowercaseAscii "STYLE" := by decide +kernel
    simp [hcapitals]

/-- A listed name with a capital beyond ASCII skips no element, not even one of that very name. -/
theorem not_ignoring_alike :
    convert { ignored := ["aÉ"] } "<aÉ>x</aÉ>" = "x" ∧
      convert (({} : Options).ignoring "aÉ") "<aÉ>x</aÉ>" = "" := by
  decide +kernel

end Textile
