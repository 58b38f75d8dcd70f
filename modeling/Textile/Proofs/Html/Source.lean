import Textile.Html.Source
import Textile.Proofs.Text.Trim

/-!
# Tidied sources

Tidying takes the layout out of a source and nothing else: what it leaves is in a normal
form, and differs from the source within its white space alone.

* **Normal form** (`Tidied`, `tidied_tidyChars`): each of the three passes removes one kind
  of layout, and keeps what the passes before it have removed from coming back. A tidied
  source is read as it is written (`tidyChars_of_tidied`), and so is one that has no line
  endings at all (`tidyChars_of_oneLine`).
* **White space** (`squeeze_tidyChars`): every run of white space stays where it is, be it of
  another length, and so do the words (`words_eq_of_squeeze_eq`).
* **Line endings** (`tidyChars_of_withReturns`): it does not matter which newlines have a
  carriage return in front of them.
-/

namespace Textile.Text

open Textile.Unicode

/-! ## White space apart from its length -/

/-- A text with one space in place of every run of white space, where `afterSpace` says that
the run that the text may begin with goes on from before it. -/
def squeeze (afterSpace : Bool) : List Char → List Char
  | [] => []
  | c :: cs =>
    if isWhiteSpace c then
      if afterSpace then squeeze true cs else ' ' :: squeeze true cs
    else
      c :: squeeze false cs

theorem squeeze_cons_of_white {c : Char} (h : isWhiteSpace c = true) (cs : List Char) :
    squeeze false (c :: cs) = ' ' :: squeeze true cs ∧
      squeeze true (c :: cs) = squeeze true cs := by
  simp [squeeze, h]

theorem squeeze_cons_of_visible {c : Char} (h : isWhiteSpace c = false) (afterSpace : Bool)
    (cs : List Char) : squeeze afterSpace (c :: cs) = c :: squeeze false cs := by
  simp [squeeze, h]

theorem squeeze_append_of_isBlank {white : List Char} (h : isBlank white = true)
    (cs : List Char) : squeeze true (white ++ cs) = squeeze true cs := by
  induction white with
  | nil => rfl
  | cons c white ih =>
      rw [isBlank, List.all_cons, Bool.and_eq_true] at h
      rw [List.cons_append, (squeeze_cons_of_white h.1 _).2, ih h.2]

/-- The words of a text are those that one space between them leaves. -/
theorem words_squeeze (cs : List Char) :
    words (squeeze true cs) = words cs ∧
      ∀ before, words (before ++ squeeze false cs) = words (before ++ cs) := by
  induction cs with
  | nil => exact ⟨rfl, fun _ => rfl⟩
  | cons c cs ih =>
      obtain ⟨ihafter, ihbefore⟩ := ih
      cases hc : isWhiteSpace c with
      | true =>
          have hspace : isWhiteSpace ' ' = true := by decide
          obtain ⟨hfirst, hlater⟩ := squeeze_cons_of_white hc cs
          refine ⟨?_, fun before => ?_⟩
          · rw [hlater, ihafter, words_cons hc]
          · rw [hfirst, words_append hspace, ihafter, words_append hc]
      | false =>
          -- A visible character belongs to what stands in front of the rest.
          have hrest (before : List Char) :
              words (before ++ c :: squeeze false cs) = words (before ++ c :: cs) := by
            have := ihbefore (before ++ [c])
            rwa [List.append_assoc, List.append_assoc] at this
          refine ⟨?_, fun before => ?_⟩
          · rw [squeeze_cons_of_visible hc]
            exact hrest []
          · rw [squeeze_cons_of_visible hc]
            exact hrest before

/-- Texts that differ within their white space alone have the same words. -/
theorem words_eq_of_squeeze_eq {cs other : List Char}
    (h : squeeze false cs = squeeze false other) : words cs = words other := by
  have hcs := (words_squeeze cs).2 []
  have hother := (words_squeeze other).2 []
  rw [List.nil_append, List.nil_append] at hcs hother
  rw [← hcs, h, hother]

end Textile.Text

namespace Textile.Html

open Textile.Unicode Textile.Text

/-! ## The normal form -/

/-- A source without layout: its lines are ended by newlines alone, none of them is indented,
and no line ends in the white space after a tag. -/
structure Tidied (source : List Char) : Prop where
  noReturn : '\r' ∉ source
  noIndentation : ¬['\n', ' '] <:+: source
  noBreakAfterTag : ∀ white, isBlank white = true → ¬ '>' :: (white ++ ['\n']) <:+: source

/-- A source in one line has no layout. -/
theorem tidied_of_oneLine {source : List Char} (hreturn : '\r' ∉ source)
    (hnewline : '\n' ∉ source) : Tidied source where
  noReturn := hreturn
  noIndentation := fun h => hnewline (h.subset (by simp))
  noBreakAfterTag := fun white _ h => hnewline (h.subset (by simp))

theorem not_isInfix_of_suffix {part source rest : List Char} (h : ¬part <:+: source)
    (hrest : rest <:+ source) : ¬part <:+: rest :=
  fun hpart => h (hpart.trans hrest.isInfix)

/-! ### Line endings -/

theorem return_not_mem_unifyLineEndings (source : List Char) :
    '\r' ∉ unifyLineEndings source := by
  fun_induction unifyLineEndings source with
  | case1 cs ih => simpa using ih
  | case2 c cs _ ih =>
      rw [List.mem_cons, not_or]
      refine ⟨?_, ih⟩
      split
      · decide
      · next hc => exact Ne.symm hc
  | case3 => exact List.not_mem_nil

theorem unifyLineEndings_of_not_mem {source : List Char} (h : '\r' ∉ source) :
    unifyLineEndings source = source := by
  fun_induction unifyLineEndings source with
  | case1 => exact absurd List.mem_cons_self h
  | case2 c cs _ ih =>
      rw [List.mem_cons, not_or] at h
      rw [if_neg (Ne.symm h.1), ih h.2]
  | case3 => rfl

/-! ### Indentation -/

theorem dropIndentation_subset (atLineStart : Bool) (source : List Char) :
    dropIndentation atLineStart source ⊆ source := by
  induction source generalizing atLineStart with
  | nil => exact List.Subset.refl _
  | cons c source ih =>
      rw [dropIndentation]
      split
      · exact List.subset_cons_of_subset c (ih true)
      · exact List.cons_subset_cons c (ih _)

/-- After indentation is dropped, no space follows a newline, nor is there one at the start of
a text that begins a line. -/
theorem dropIndentation_not_isInfix (atLineStart : Bool) (source : List Char) :
    (atLineStart = true → (dropIndentation atLineStart source).head? ≠ some ' ') ∧
      ¬['\n', ' '] <:+: dropIndentation atLineStart source := by
  induction source generalizing atLineStart with
  | nil => exact ⟨fun _ h => (by cases h), fun h => (by simp [dropIndentation] at h)⟩
  | cons c source ih =>
      rw [dropIndentation]
      split
      · next h => exact ⟨fun _ => (ih true).1 rfl, (ih true).2⟩
      · next h =>
          obtain ⟨ihhead, ihinfix⟩ := ih (c == '\n')
          refine ⟨fun hstart hhead => h ⟨hstart, Option.some.inj hhead⟩, fun hinfix => ?_⟩
          rcases List.infix_cons_iff.mp hinfix with hprefix | hinfix
          · obtain ⟨rfl, hspace⟩ := List.cons_prefix_cons.mp hprefix
            obtain ⟨rest, hrest⟩ := hspace
            exact ihhead rfl (hrest ▸ rfl)
          · exact ihinfix hinfix

theorem dropIndentation_of_not_isInfix {atLineStart : Bool} {source : List Char}
    (hhead : atLineStart = true → source.head? ≠ some ' ')
    (h : ¬['\n', ' '] <:+: source) : dropIndentation atLineStart source = source := by
  induction source generalizing atLineStart with
  | nil => rfl
  | cons c source ih =>
      have hrest : dropIndentation (c == '\n') source = source := by
        refine ih (fun hc hspace => h ?_) (not_isInfix_of_suffix h (List.suffix_cons c source))
        obtain ⟨rest, rfl⟩ := List.head?_eq_some_iff.mp hspace
        exact ⟨[], rest, by rw [eq_of_beq hc]; rfl⟩
      have hkept : ¬(atLineStart = true ∧ c = ' ') := fun ⟨hstart, hc⟩ =>
        hhead hstart (hc ▸ rfl)
      rw [dropIndentation, if_neg hkept, hrest]

/-! ### Breaks after tags -/

/-- What follows the last newline of some white space: white space without a newline, and the
text after it. -/
theorem exists_white_of_afterLastNewline? {cs rest : List Char}
    (h : afterLastNewline? cs = some rest) :
    ∃ white, isBlank white = true ∧ cs = white ++ '\n' :: rest ∧
      afterLastNewline? rest = none := by
  induction cs with
  | nil => cases h
  | cons c cs ih =>
      rw [afterLastNewline?] at h
      split at h
      · next hc =>
          rcases Option.or_eq_some_iff.mp h with hlater | ⟨hnone, hhere⟩
          · obtain ⟨white, hwhite, rfl, hrest⟩ := ih hlater
            refine ⟨c :: white, ?_, rfl, hrest⟩
            rw [isBlank, List.all_cons, hc, Bool.true_and]
            exact hwhite
          · obtain ⟨rfl, heq⟩ := Option.ite_none_right_eq_some.mp hhere
            cases heq
            exact ⟨[], rfl, rfl, hnone⟩
      · cases h

theorem afterLastNewline?_eq_none_iff {cs : List Char} :
    afterLastNewline? cs = none ↔
      ∀ white, isBlank white = true → ¬white ++ ['\n'] <+: cs := by
  constructor
  · rintro hnone white hwhite ⟨rest, rfl⟩
    induction white with
    | nil => simp [afterLastNewline?, isWhiteSpace_of_isWhitespace] at hnone
    | cons c white ih =>
        rw [isBlank, List.all_cons, Bool.and_eq_true] at hwhite
        rw [List.cons_append, List.cons_append, afterLastNewline?, if_pos hwhite.1,
          Option.or_eq_none_iff] at hnone
        exact ih hwhite.2 hnone.1
  · intro h
    cases hafter : afterLastNewline? cs with
    | none => rfl
    | some rest =>
        obtain ⟨white, hwhite, rfl, -⟩ := exists_white_of_afterLastNewline? hafter
        exact absurd ⟨rest, by simp⟩ (h white hwhite)

/-- No white space after a tag holds a newline. -/
theorem noBreakAfterTag_iff {source : List Char} :
    (∀ white, isBlank white = true → ¬ '>' :: (white ++ ['\n']) <:+: source) ↔
      ∀ after, '>' :: after <:+ source → afterLastNewline? after = none := by
  constructor
  · intro h after hafter
    refine afterLastNewline?_eq_none_iff.mpr fun white hwhite hprefix => h white hwhite ?_
    exact (List.cons_prefix_cons.mpr ⟨rfl, hprefix⟩).isInfix.trans hafter.isInfix
  · intro h white hwhite hinfix
    obtain ⟨rest, hprefix, hsuffix⟩ := List.infix_iff_prefix_suffix.mp hinfix
    obtain ⟨tail, rfl⟩ := hprefix
    refine afterLastNewline?_eq_none_iff.mp (h _ hsuffix) white hwhite ?_
    exact List.prefix_append _ _

theorem head?_joinAfterTags (source : List Char) :
    (joinAfterTags source).head? = source.head? := by
  fun_induction joinAfterTags source <;> rfl

/-- The white space that a text begins with is as it was. -/
theorem afterLastNewline?_joinAfterTags {source : List Char}
    (h : afterLastNewline? source = none) : afterLastNewline? (joinAfterTags source) = none := by
  have htag : isWhiteSpace '>' = false := by decide
  fun_induction joinAfterTags source with
  | case1 => rfl
  | case2 cs rest _ _ => rw [afterLastNewline?, htag, if_neg Bool.false_ne_true]
  | case3 cs _ _ => rw [afterLastNewline?, htag, if_neg Bool.false_ne_true]
  | case4 c cs hc ih =>
      rw [afterLastNewline?] at h ⊢
      split
      · next hwhite =>
          rw [if_pos hwhite, Option.or_eq_none_iff] at h
          rw [ih h.1, Option.none_or]
          split
          · next hnewline => rw [if_pos hnewline] at h; cases h.2
          · rfl
      · rfl

theorem suffix_of_afterLastNewline? {cs rest : List Char}
    (h : afterLastNewline? cs = some rest) : rest <:+ cs := by
  obtain ⟨white, -, rfl, -⟩ := exists_white_of_afterLastNewline? h
  exact ⟨white ++ ['\n'], by simp⟩

/-- Joining what stands after the tags brings no carriage return, and no space after a
newline. -/
theorem joinAfterTags_keeps {source : List Char} (hreturn : '\r' ∉ source)
    (hindentation : ¬['\n', ' '] <:+: source) :
    '\r' ∉ joinAfterTags source ∧ ¬['\n', ' '] <:+: joinAfterTags source := by
  fun_induction joinAfterTags source with
  | case1 => exact ⟨hreturn, hindentation⟩
  | case2 cs rest hrest ih =>
      have hsuffix := (suffix_of_afterLastNewline? hrest).trans (List.suffix_cons '>' cs)
      obtain ⟨ihreturn, ihindentation⟩ :=
        ih (fun h => hreturn (hsuffix.subset h)) (not_isInfix_of_suffix hindentation hsuffix)
      refine ⟨by simp [ihreturn], fun hinfix => ?_⟩
      -- The new space stands after the tag.
      rcases List.infix_cons_iff.mp hinfix with hprefix | hinfix
      · exact absurd (List.cons_prefix_cons.mp hprefix).1 (by decide)
      · rcases List.infix_cons_iff.mp hinfix with hprefix | hinfix
        · exact absurd (List.cons_prefix_cons.mp hprefix).1 (by decide)
        · exact ihindentation hinfix
  | case3 cs _ ih =>
      rw [List.mem_cons, not_or] at hreturn
      obtain ⟨ihreturn, ihindentation⟩ :=
        ih hreturn.2 (not_isInfix_of_suffix hindentation (List.suffix_cons _ _))
      refine ⟨by simp [ihreturn], fun hinfix => ?_⟩
      rcases List.infix_cons_iff.mp hinfix with hprefix | hinfix
      · exact absurd (List.cons_prefix_cons.mp hprefix).1 (by decide)
      · exact ihindentation hinfix
  | case4 c cs _ ih =>
      rw [List.mem_cons, not_or] at hreturn
      obtain ⟨ihreturn, ihindentation⟩ :=
        ih hreturn.2 (not_isInfix_of_suffix hindentation (List.suffix_cons _ _))
      refine ⟨by simp [ihreturn, hreturn.1], fun hinfix => ?_⟩
      rcases List.infix_cons_iff.mp hinfix with hprefix | hinfix
      · -- A space after a newline would have been there before.
        obtain ⟨rfl, rest, hspace⟩ := List.cons_prefix_cons.mp hprefix
        have hhead : cs.head? = some ' ' := by
          rw [← head?_joinAfterTags, ← hspace]
          rfl
        obtain ⟨after, rfl⟩ := List.head?_eq_some_iff.mp hhead
        exact hindentation ⟨[], after, rfl⟩
      · exact ihindentation hinfix

/-- Where the white space after the tags is joined, no newline is left in it. -/
theorem joinAfterTags_noBreak (source : List Char) :
    ∀ after, '>' :: after <:+ joinAfterTags source → afterLastNewline? after = none := by
  fun_induction joinAfterTags source with
  | case1 => exact fun after h => absurd (List.suffix_nil.mp h) (List.cons_ne_nil _ _)
  | case2 cs rest hrest ih =>
      intro after hafter
      rcases List.suffix_cons_iff.mp hafter with heq | hafter
      · -- What follows the last newline holds none, and the new space is none.
        obtain ⟨white, -, -, hnone⟩ := exists_white_of_afterLastNewline? hrest
        cases heq
        rw [afterLastNewline?, afterLastNewline?_joinAfterTags hnone]
        rfl
      · rcases List.suffix_cons_iff.mp hafter with heq | hafter
        · exact absurd (List.cons.inj heq).1 (by decide)
        · exact ih after hafter
  | case3 cs hnone ih =>
      intro after hafter
      rcases List.suffix_cons_iff.mp hafter with heq | hafter
      · cases heq
        exact afterLastNewline?_joinAfterTags hnone
      · exact ih after hafter
  | case4 c cs hc ih =>
      intro after hafter
      rcases List.suffix_cons_iff.mp hafter with heq | hafter
      · exact absurd (List.cons.inj heq).1.symm hc
      · exact ih after hafter

theorem joinAfterTags_of_noBreak {source : List Char}
    (h : ∀ after, '>' :: after <:+ source → afterLastNewline? after = none) :
    joinAfterTags source = source := by
  fun_induction joinAfterTags source with
  | case1 => rfl
  | case2 cs rest hrest _ =>
      rw [h cs (List.suffix_refl _)] at hrest
      cases hrest
  | case3 cs _ ih => rw [ih fun after hafter => h after (hafter.trans (List.suffix_cons _ _))]
  | case4 c cs _ ih => rw [ih fun after hafter => h after (hafter.trans (List.suffix_cons _ _))]

/-! ### All three -/

/-- What tidying leaves has no layout. -/
theorem tidied_tidyChars (source : List Char) : Tidied (tidyChars source) := by
  have hreturn : '\r' ∉ dropIndentation false (unifyLineEndings source) := fun h =>
    return_not_mem_unifyLineEndings source (dropIndentation_subset _ _ h)
  have hindentation := (dropIndentation_not_isInfix false (unifyLineEndings source)).2
  obtain ⟨hreturn, hindentation⟩ := joinAfterTags_keeps hreturn hindentation
  exact ⟨hreturn, hindentation, noBreakAfterTag_iff.mpr (joinAfterTags_noBreak _)⟩

/-- A source without layout is read as it is written. -/
theorem tidyChars_of_tidied {source : List Char} (h : Tidied source) :
    tidyChars source = source := by
  have hindentation : dropIndentation false source = source :=
    dropIndentation_of_not_isInfix (fun hstart => absurd hstart Bool.false_ne_true)
      h.noIndentation
  rw [tidyChars, unifyLineEndings_of_not_mem h.noReturn, hindentation,
    joinAfterTags_of_noBreak (noBreakAfterTag_iff.mp h.noBreakAfterTag)]

/-- A source in one line is read as it is written. -/
theorem tidyChars_of_oneLine {source : List Char} (hreturn : '\r' ∉ source)
    (hnewline : '\n' ∉ source) : tidyChars source = source :=
  tidyChars_of_tidied (tidied_of_oneLine hreturn hnewline)

/-! ## White space -/

theorem squeeze_unifyLineEndings (afterSpace : Bool) (source : List Char) :
    squeeze afterSpace (unifyLineEndings source) = squeeze afterSpace source := by
  have hreturn : isWhiteSpace '\r' = true := by decide
  have hnewline : isWhiteSpace '\n' = true := by decide
  fun_induction unifyLineEndings source generalizing afterSpace with
  | case1 cs ih => simp only [squeeze, hreturn, hnewline, if_true, ih]
  | case2 c cs _ ih =>
      by_cases hc : c = '\r'
      · simp only [squeeze, hc, hreturn, hnewline, if_true, ih]
      · simp only [squeeze, if_neg hc, ih]
  | case3 => rfl

/-- Only spaces after a newline are dropped, and so within white space. -/
theorem squeeze_dropIndentation {afterSpace atLineStart : Bool}
    (h : atLineStart = true → afterSpace = true) (source : List Char) :
    squeeze afterSpace (dropIndentation atLineStart source) = squeeze afterSpace source := by
  induction source generalizing afterSpace atLineStart with
  | nil => rfl
  | cons c source ih =>
      rw [dropIndentation]
      split
      · next hdropped =>
          obtain ⟨hstart, rfl⟩ := hdropped
          have hspace : isWhiteSpace ' ' = true := by decide
          rw [h hstart, ih fun _ => rfl, (squeeze_cons_of_white hspace source).2]
      · cases hc : isWhiteSpace c with
        | true => simp only [squeeze, hc, if_true, ih fun _ => rfl]
        | false =>
            have hline : (c == '\n') = false := by
              refine beq_eq_false_iff_ne.mpr ?_
              rintro rfl
              exact absurd hc (by decide)
            rw [squeeze_cons_of_visible hc, squeeze_cons_of_visible hc, hline,
              ih fun hstart => absurd hstart Bool.false_ne_true]

theorem squeeze_joinAfterTags (afterSpace : Bool) (source : List Char) :
    squeeze afterSpace (joinAfterTags source) = squeeze afterSpace source := by
  have htag : isWhiteSpace '>' = false := by decide
  have hspace : isWhiteSpace ' ' = true := by decide
  have hnewline : isWhiteSpace '\n' = true := by decide
  fun_induction joinAfterTags source generalizing afterSpace with
  | case1 => rfl
  | case2 cs rest hrest ih =>
      obtain ⟨white, hwhite, rfl, -⟩ := exists_white_of_afterLastNewline? hrest
      have hrun : squeeze false (white ++ '\n' :: rest) = ' ' :: squeeze true rest := by
        cases white with
        | nil => exact (squeeze_cons_of_white hnewline rest).1
        | cons c white =>
            rw [isBlank, List.all_cons, Bool.and_eq_true] at hwhite
            rw [List.cons_append, (squeeze_cons_of_white hwhite.1 _).1,
              squeeze_append_of_isBlank hwhite.2, (squeeze_cons_of_white hnewline rest).2]
      rw [squeeze_cons_of_visible htag, squeeze_cons_of_visible htag,
        (squeeze_cons_of_white hspace _).1, ih, hrun]
  | case3 cs _ ih => rw [squeeze_cons_of_visible htag, squeeze_cons_of_visible htag, ih]
  | case4 c cs _ ih => simp only [squeeze, ih]

/-- Tidying changes the length of white space, and no more. -/
theorem squeeze_tidyChars (source : List Char) :
    squeeze false (tidyChars source) = squeeze false source := by
  rw [tidyChars, squeeze_joinAfterTags, squeeze_dropIndentation (fun h => h),
    squeeze_unifyLineEndings]

/-! ## Line endings of two characters -/

/-- The second text is the first one with a carriage return in front of some of its
newlines. -/
inductive WithReturns : List Char → List Char → Prop
  | nil : WithReturns [] []
  | copy (c : Char) {cs returned : List Char} :
      WithReturns cs returned → WithReturns (c :: cs) (c :: returned)
  | newline {cs returned : List Char} :
      WithReturns cs returned → WithReturns ('\n' :: cs) ('\r' :: '\n' :: returned)

theorem unifyLineEndings_of_withReturns {source returned : List Char}
    (h : WithReturns source returned) (hreturn : '\r' ∉ source) :
    unifyLineEndings returned = source := by
  induction h with
  | nil => rfl
  | copy c _ ih =>
      rw [List.mem_cons, not_or] at hreturn
      have hcopy := ih hreturn.2
      rw [unifyLineEndings.eq_def]
      split
      · next heq => exact absurd (List.cons.inj heq).1.symm hreturn.1
      · next heq =>
          cases heq
          rw [if_neg (Ne.symm hreturn.1), hcopy]
      · next heq => cases heq
  | newline _ ih => rw [unifyLineEndings, ih (List.not_mem_of_not_mem_cons hreturn)]

/-- Which newlines have a carriage return in front of them does not matter. -/
theorem tidyChars_of_withReturns {source returned : List Char}
    (h : WithReturns source returned) (hreturn : '\r' ∉ source) :
    tidyChars returned = tidyChars source := by
  rw [tidyChars, tidyChars, unifyLineEndings_of_withReturns h hreturn,
    unifyLineEndings_of_not_mem hreturn]

/-- Tidying settles the layout of a source, whatever it is. What it leaves has no layout, and
tidying it again does nothing. The words stay, and so does every run of white space, but for
its length. And of the newlines of a source without carriage returns, any may have one put in
front of them. -/
theorem tidy_settles (source : String) :
    tidy (tidy source) = tidy source ∧
      Tidied (tidy source).toList ∧
      words (tidy source).toList = words source.toList ∧
      squeeze false (tidy source).toList = squeeze false source.toList ∧
      ∀ returned : String, '\r' ∉ source.toList →
        WithReturns source.toList returned.toList → tidy returned = tidy source := by
  have hchars : (tidy source).toList = tidyChars source.toList := String.toList_ofList
  have htidied : Tidied (tidyChars source.toList) := tidied_tidyChars _
  have hsqueeze := squeeze_tidyChars source.toList
  refine ⟨?_, ?_, ?_, ?_, fun returned hreturn hwith => ?_⟩
  · rw [tidy, hchars, tidyChars_of_tidied htidied]
    rfl
  · rwa [hchars]
  · rw [hchars, words_eq_of_squeeze_eq hsqueeze]
  · rw [hchars, hsqueeze]
  · exact congrArg String.ofList (tidyChars_of_withReturns hwith hreturn)

/-- One of two newlines has a carriage return in front of it, and stands after a tag. -/
theorem tidy_settles_returned :
    '\r' ∉ ">\n a\n".toList ∧ WithReturns ">\n a\n".toList ">\r\n a\n".toList ∧
      tidy ">\r\n a\n" = tidy ">\n a\n" ∧ tidy ">\n a\n" = "> a\n" := by
  have hreturn : '\r' ∉ ">\n a\n".toList := by decide
  have hwith : WithReturns ">\n a\n".toList ">\r\n a\n".toList :=
    .copy '>' (.newline (.copy ' ' (.copy 'a' (.copy '\n' .nil))))
  refine ⟨hreturn, hwith, (tidy_settles ">\n a\n").2.2.2.2 ">\r\n a\n" hreturn hwith, ?_⟩
  decide +kernel

end Textile.Html
