import Textile.Proofs.Output
import Textile.Proofs.Text.Escape
import Textile.Proofs.Writer

/-!
# Runs of text that meet

A text that is written in two runs has the words that it has in one, unless the first of
the two ends in a newline: that goes, with the white space before it, and the words on
its two sides become one.

* **Texts that meet** (`words_append_of_apart`, `words_append_of_visible`): two texts
  have the words of the one and those of the other, unless a visible character meets
  another. Then the last word of the first text and the first of the second are one.
* **What is written of a run** (`words_append_writtenRun`): of all that is done to a run,
  only the loss of the white space at its end can matter to the words.

`Writer.words_text_text` says which two runs are written with a word less than they have
in one, and which word that is.
-/

namespace Textile.Text

open Textile.Unicode

/-! ## Texts that meet -/

/-- Whether a text begins with a visible character. -/
def beginsVisible (cs : List Char) : Bool :=
  cs.head?.any (!isWhiteSpace ·)

/-- Whether a text ends in a visible character. -/
def endsVisible (cs : List Char) : Bool :=
  cs.getLast?.any (!isWhiteSpace ·)

theorem beginsVisible_iff {cs : List Char} :
    beginsVisible cs = true ↔ ∃ c rest, cs = c :: rest ∧ isWhiteSpace c = false := by
  cases cs <;> simp [beginsVisible]

theorem endsVisible_iff {cs : List Char} :
    endsVisible cs = true ↔ ∃ init c, cs = init ++ [c] ∧ isWhiteSpace c = false := by
  constructor
  · intro h
    rcases List.eq_nil_or_concat' cs with rfl | ⟨init, c, rfl⟩
    · cases h
    · exact ⟨init, c, rfl, by simpa [endsVisible] using h⟩
  · rintro ⟨init, c, rfl, hc⟩
    simp [endsVisible, hc]

theorem endsVisible_append {cs : List Char} (hne : cs ≠ []) (before : List Char) :
    endsVisible (before ++ cs) = endsVisible cs := by
  rw [endsVisible, List.getLast?_append, List.getLast?_eq_some_getLast hne, Option.some_or,
    ← List.getLast?_eq_some_getLast hne, endsVisible]

/-- Where two texts meet, the last piece of the first and the first piece of the second are one. -/
theorem exists_pieces_append (separates : Char → Bool) (before after : List Char) :
    ∃ front left right back, pieces separates before = front ++ [left] ∧
      pieces separates after = right :: back ∧
      pieces separates (before ++ after) = front ++ (left ++ right) :: back := by
  induction before with
  | nil =>
      obtain ⟨right, back, hafter⟩ := List.exists_cons_of_ne_nil (pieces_ne_nil separates after)
      exact ⟨[], [], right, back, rfl, hafter, hafter⟩
  | cons c before ih =>
      obtain ⟨front, left, right, back, hbefore, hafter, hboth⟩ := ih
      by_cases hc : separates c = true
      · refine ⟨[] :: front, left, right, back, ?_, hafter, ?_⟩
        · rw [pieces, if_pos hc, hbefore, List.cons_append]
        · rw [List.cons_append, pieces, if_pos hc, hboth, List.cons_append]
      · -- The character joins the first piece, which may be the last one, where the texts meet.
        cases front with
        | nil =>
            refine ⟨[], c :: left, right, back, ?_, hafter, ?_⟩
            · rw [pieces, if_neg hc, hbefore]
              rfl
            · rw [List.cons_append, pieces, if_neg hc, hboth]
              rfl
        | cons piece front =>
            refine ⟨(c :: piece) :: front, left, right, back, ?_, hafter, ?_⟩
            · rw [pieces, if_neg hc, hbefore]
              rfl
            · rw [List.cons_append, pieces, if_neg hc, hboth]
              rfl

/-- A visible character belongs to a word, so the last piece of a text that ends in one is not
empty. -/
theorem ne_nil_of_endsVisible {cs left : List Char} {front : List (List Char)}
    (h : endsVisible cs = true) (hpieces : pieces isWhiteSpace cs = front ++ [left]) :
    left ≠ [] := by
  obtain ⟨init, c, rfl, hc⟩ := endsVisible_iff.mp h
  obtain ⟨_, begun, right, back, -, hlast, hboth⟩ := exists_pieces_append isWhiteSpace init [c]
  have hword : ∀ d ∈ [c], isWhiteSpace d = false := fun d hd => List.mem_singleton.mp hd ▸ hc
  rw [pieces_of_forall hword] at hlast
  obtain ⟨rfl, rfl⟩ := List.cons.inj hlast
  have hleft : begun ++ [c] = left :=
    List.singleton_inj.mp (List.append_inj' (hboth.symm.trans hpieces) rfl).2
  rw [← hleft]
  exact List.append_ne_nil_of_right_ne_nil _ (List.cons_ne_nil _ _)

/-- The first piece of a text that begins with a visible character is not empty. -/
theorem ne_nil_of_beginsVisible {cs right : List Char} {back : List (List Char)}
    (h : beginsVisible cs = true) (hpieces : pieces isWhiteSpace cs = right :: back) :
    right ≠ [] := by
  obtain ⟨c, rest, rfl, hc⟩ := beginsVisible_iff.mp h
  have hc' : ¬isWhiteSpace c = true := by simp [hc]
  rw [pieces, if_neg hc'] at hpieces
  split at hpieces
  · exact (List.cons.inj hpieces).1 ▸ List.cons_ne_nil _ _
  · exact (List.cons.inj hpieces).1 ▸ List.cons_ne_nil _ _

/-- Where a visible character meets another, two words become one. -/
theorem words_append_of_visible {before after : List Char} (hbefore : endsVisible before = true)
    (hafter : beginsVisible after = true) :
    ∃ front left right back, words before = front ++ [left] ∧ words after = right :: back ∧
      words (before ++ after) = front ++ (left ++ right) :: back := by
  obtain ⟨front, left, right, back, hfront, hback, hboth⟩ :=
    exists_pieces_append isWhiteSpace before after
  have hleft : left ≠ [] := ne_nil_of_endsVisible hbefore hfront
  have hright : right ≠ [] := ne_nil_of_beginsVisible hafter hback
  refine ⟨front.filter (!·.isEmpty), left, right, back.filter (!·.isEmpty), ?_, ?_, ?_⟩
  · simp [words, hfront, hleft]
  · simp [words, hback, hright]
  · simp [words, hboth, hleft]

/-- Where white space is on either side, or nothing at all, the words stay as they are. -/
theorem words_append_of_apart {before after : List Char}
    (h : endsVisible before = false ∨ beginsVisible after = false) :
    words (before ++ after) = words before ++ words after := by
  rcases h with hbefore | hafter
  · rcases List.eq_nil_or_concat' before with rfl | ⟨init, c, rfl⟩
    · rfl
    · have hc : isWhiteSpace c = true := by simpa [endsVisible] using hbefore
      have hinit : words (init ++ [c]) = words init ++ words [] := words_append hc init []
      rw [hinit, List.append_assoc, List.singleton_append, words_append hc]
      simp [words, pieces]
  · cases after with
    | nil => simp [words, pieces]
    | cons c after =>
        have hc : isWhiteSpace c = true := by simpa [beginsVisible] using hafter
        rw [words_append hc, words_cons hc]

/-- A text with a visible character ends in one without the white space at its end. -/
theorem endsVisible_trimEnd {cs : List Char} (h : isBlank cs = false) :
    endsVisible (trimEnd cs) = true := by
  rw [← isBlank_reverse] at h
  cases hstart : trimStart cs.reverse with
  | nil =>
      rw [isBlank_iff_trimStart_eq_nil.mpr hstart] at h
      cases h
  | cons c rest =>
      have hc := List.head?_dropWhile_not isWhiteSpace cs.reverse
      rw [← trimStart, hstart, List.head?_cons] at hc
      refine endsVisible_iff.mpr ⟨rest.reverse, c, ?_, hc⟩
      rw [trimEnd, hstart, List.reverse_cons]

/-- Trimmed at its end, a text ends in a visible character, unless it is blank and goes. -/
theorem endsVisible_append_trimEnd (before cs : List Char) :
    endsVisible (before ++ trimEnd cs) = true ↔
      isBlank cs = false ∨ endsVisible before = true := by
  by_cases hblank : isBlank cs = true
  · have hnil : trimEnd cs = [] := trimEnd_append hblank []
    simp [hnil, hblank]
  · rw [Bool.not_eq_true] at hblank
    have hvisible := endsVisible_trimEnd hblank
    have hne : trimEnd cs ≠ [] := by
      rintro hnil
      rw [hnil] at hvisible
      cases hvisible
    simp [endsVisible_append hne, hvisible, hblank]

/-! ## What is written of a run -/

/-- White space after a text is no part of its words. -/
theorem words_append_right {white : List Char} (h : isBlank white = true) (cs : List Char) :
    words (cs ++ white) = words cs := by
  have hnil : words white = [] := by
    rw [← List.append_nil white, words_append_left h]
    rfl
  have happart : beginsVisible white = false := by
    cases white with
    | nil => rfl
    | cons c white => simp_all [beginsVisible, isBlank]
  rw [words_append_of_apart (.inr happart), hnil, List.append_nil]

theorem words_append_trimEnd (before cs : List Char) :
    words (before ++ trimEnd cs) = words (before ++ cs) := by
  obtain ⟨white, hwhite, hcs⟩ := exists_trimEnd cs
  conv_rhs => rw [hcs]
  rw [← List.append_assoc, words_append_right hwhite]

/-- A newline parts what is before it from what is after it. -/
theorem words_append_of_newline {line : List Char} (h : line.getLast? = some '\n')
    (before after : List Char) :
    words (before ++ line ++ after) = words (before ++ trimEnd line) ++ words after := by
  have hne : line ≠ [] := by
    rintro rfl
    cases h
  have hends : endsVisible (before ++ line) = false := by
    rw [endsVisible_append hne, endsVisible, h]
    decide
  rw [words_append_of_apart (.inl hends), words_append_trimEnd]

/-- White space at the start of a text is no part of its words. It may go where it does not part
them from a word before it. -/
theorem words_append_trimStart {before : List Char} (h : endsVisible before = false)
    (cs after : List Char) :
    words (before ++ (trimStart cs ++ after)) = words (before ++ (cs ++ after)) := by
  have hwhite : isBlank (cs.takeWhile isWhiteSpace) = true := List.all_takeWhile
  have hcs : cs = cs.takeWhile isWhiteSpace ++ trimStart cs :=
    List.takeWhile_append_dropWhile.symm
  conv_rhs => rw [hcs]
  rw [words_append_of_apart (.inl h), words_append_of_apart (.inl h), List.append_assoc,
    words_append_left hwhite]

/-- A text with spaces for its newlines. -/
def inOneLine (cs : List Char) : List Char :=
  cs.map fun c => if c = '\n' then ' ' else c

/-- A space parts words as a newline does. -/
theorem words_append_inOneLine (before cs after : List Char) :
    words (before ++ (inOneLine cs ++ after)) = words (before ++ (cs ++ after)) := by
  induction cs generalizing before with
  | nil => rfl
  | cons c cs ih =>
      by_cases hc : c = '\n'
      · have hspace : isWhiteSpace ' ' = true := by decide
        have hnewline : isWhiteSpace '\n' = true := by decide
        subst hc
        show words (before ++ ' ' :: (inOneLine cs ++ after)) =
          words (before ++ '\n' :: (cs ++ after))
        rw [words_append hspace, words_append hnewline]
        -- What stands before the newline is parted from the rest, and drops out of it.
        exact congrArg (words before ++ ·) (ih [])
      · have hcopy : inOneLine (c :: cs) = c :: inOneLine cs := by simp [inOneLine, hc]
        have hrest := ih (before ++ [c])
        simp only [List.append_assoc, List.singleton_append] at hrest
        rw [hcopy]
        exact hrest

theorem isWhiteSpace_newlineToSpace :
    (isWhiteSpace ∘ fun c => if c = '\n' then ' ' else c) = isWhiteSpace := by
  funext c
  by_cases hc : c = '\n'
  · subst hc
    decide
  · simp [hc]

theorem trimStart_inOneLine (cs : List Char) :
    trimStart (inOneLine cs) = inOneLine (trimStart cs) := by
  rw [trimStart, inOneLine, List.dropWhile_map, isWhiteSpace_newlineToSpace, inOneLine, trimStart]

theorem trimEnd_inOneLine (cs : List Char) : trimEnd (inOneLine cs) = inOneLine (trimEnd cs) := by
  have hreverse : (inOneLine cs).reverse = inOneLine cs.reverse := List.map_reverse.symm
  rw [trimEnd, hreverse, trimStart_inOneLine, inOneLine, ← List.map_reverse]
  rfl

/-- A run without the white space after it, if it ends in a newline. -/
def withoutLineEnd (run : List Char) : List Char :=
  if run.getLast? = some '\n' then trimEnd run else run

/-- Written, a run without references has the words that it has without its line end, whatever
stands before and after it. -/
theorem words_append_writtenRun {run : List Char} (h : '&' ∉ run) {before : List Char}
    {atLineStart : Bool} (hbefore : atLineStart = true → endsVisible before = false)
    (after : List Char) :
    words (before ++ (writtenRun run atLineStart ++ after)) =
      words (before ++ (withoutLineEnd run ++ after)) := by
  have hline : writtenRun run atLineStart =
      if atLineStart then trimStart (inOneLine (withoutLineEnd run))
      else inOneLine (withoutLineEnd run) := by
    have hend : inOneLine (withoutLineEnd run) =
        if run.getLast? = some '\n' then trimEnd (inOneLine run) else inOneLine run := by
      rw [withoutLineEnd, trimEnd_inOneLine]
      split <;> rfl
    rw [hend, writtenRun, plain_of_not_mem h]
    rfl
  rw [hline]
  cases atLineStart with
  | false => exact words_append_inOneLine _ _ _
  | true => exact (words_append_trimStart (hbefore rfl) _ _).trans (words_append_inOneLine _ _ _)

end Textile.Text

namespace Textile

open Textile.Text

/-! ## Runs that meet -/

/-- Where a line begins, no visible character stands in front of it. -/
theorem Output.endsVisible_of_endsInNewline (output : Output)
    (h : output.endsInNewline = true) : endsVisible output.toList = false := by
  have hlast : output.toList.getLast? = some '\n' := by
    rw [Output.toList, List.getLast?_reverse]
    exact eq_of_beq h
  rw [endsVisible, hlast]
  decide

namespace Writer

/-- Two runs lose what parts their words: the first ends in a newline, which goes with the white
space before it; a visible character stands in front of all that, in the run or else at the end of
the output; and the second run begins with a visible character. -/
structure Fuses (writer : Writer) (first second : String) : Prop where
  newline : first.toList.getLast? = some '\n'
  before : isBlank first.toList = false ∨ endsVisible writer.output.toList = true
  after : beginsVisible second.toList = true

/-- A run without references adds its words to the output. -/
theorem words_text (writer : Writer) {run : String} (h : '&' ∉ run.toList) :
    words (writer.text run).output.toList = words (writer.output.toList ++ run.toList) := by
  have hbefore := writer.output.endsVisible_of_endsInNewline
  have hwritten := words_append_writtenRun h hbefore []
  rw [List.append_nil, List.append_nil] at hwritten
  rw [text, Output.toList_append, hwritten, withoutLineEnd]
  split
  · exact words_append_trimEnd _ _
  · rfl

/-- Of a run that another one follows, the output keeps the words without its line end. -/
theorem words_text_text_eq (writer : Writer) {first second : String} (hfirst : '&' ∉ first.toList)
    (hsecond : '&' ∉ second.toList) :
    words ((writer.text first).text second).output.toList =
      words (writer.output.toList ++ withoutLineEnd first.toList ++ second.toList) := by
  have hbefore := writer.output.endsVisible_of_endsInNewline
  rw [words_text _ hsecond, text, Output.toList_append, List.append_assoc,
    words_append_writtenRun hfirst hbefore, List.append_assoc]

/-- Two runs in one add the words that they have together. -/
theorem words_text_append (writer : Writer) {first second : String} (hfirst : '&' ∉ first.toList)
    (hsecond : '&' ∉ second.toList) :
    words (writer.text (first ++ second)).output.toList =
      words (writer.output.toList ++ first.toList ++ second.toList) := by
  have hboth : '&' ∉ (first ++ second).toList := by
    rw [String.toList_append, List.mem_append]
    exact not_or.mpr ⟨hfirst, hsecond⟩
  rw [words_text writer hboth, String.toList_append, List.append_assoc]

section Cut

variable {writer : Writer} {first second : String} (hfirst : '&' ∉ first.toList)
  (hsecond : '&' ∉ second.toList)

include hfirst hsecond

/-- Two runs that keep what parts their words keep the words. -/
theorem words_text_text_of_not_fuses (h : ¬writer.Fuses first second) :
    words ((writer.text first).text second).output.toList =
      words (writer.text (first ++ second)).output.toList := by
  rw [words_text_text_eq writer hfirst hsecond, words_text_append writer hfirst hsecond,
    withoutLineEnd]
  split
  · next hnewline =>
      have happart : endsVisible (writer.output.toList ++ trimEnd first.toList) = false ∨
          beginsVisible second.toList = false := by
        by_contra hmeet
        simp only [not_or, Bool.not_eq_false] at hmeet
        exact h ⟨hnewline, (endsVisible_append_trimEnd _ _).mp hmeet.1, hmeet.2⟩
      rw [words_append_of_apart happart, words_append_of_newline hnewline]
  · rfl

/-- Two runs that lose what parts their words lose one word. -/
theorem Fuses.exists_words (h : writer.Fuses first second) :
    ∃ front left right back,
      words (writer.output.toList ++ first.toList) = front ++ [left] ∧
      words second.toList = right :: back ∧
      words (writer.text (first ++ second)).output.toList = front ++ left :: right :: back ∧
      words ((writer.text first).text second).output.toList =
        front ++ (left ++ right) :: back := by
  obtain ⟨front, left, right, back, hfront, hback, hboth⟩ :=
    words_append_of_visible ((endsVisible_append_trimEnd _ _).mpr h.before) h.after
  refine ⟨front, left, right, back, ?_, hback, ?_, ?_⟩
  · rw [← words_append_trimEnd, hfront]
  · rw [words_text_append writer hfirst hsecond, words_append_of_newline h.newline, hfront, hback,
      List.append_assoc, List.singleton_append]
  · rw [words_text_text_eq writer hfirst hsecond, withoutLineEnd, if_pos h.newline, hboth]

end Cut

/-- A run that is cut in two keeps its words, unless the cut loses what parts them. In that case the
last word before the cut and the first word after it become one, and all others are kept. -/
theorem words_text_text (writer : Writer) {first second : String} (hfirst : '&' ∉ first.toList)
    (hsecond : '&' ∉ second.toList) :
    let whole := words (writer.text (first ++ second)).output.toList
    let cut := words ((writer.text first).text second).output.toList
    (cut = whole ↔ ¬writer.Fuses first second) ∧
      (writer.Fuses first second → ∃ front left right back,
        words (writer.output.toList ++ first.toList) = front ++ [left] ∧
          words second.toList = right :: back ∧
          whole = front ++ left :: right :: back ∧
          cut = front ++ (left ++ right) :: back) := by
  intro whole cut
  refine ⟨⟨fun heq hfuses => ?_, words_text_text_of_not_fuses hfirst hsecond⟩,
    Fuses.exists_words hfirst hsecond⟩
  obtain ⟨front, left, right, back, -, -, hwhole, hcut⟩ := hfuses.exists_words hfirst hsecond
  -- One word less cannot be the same words.
  have hlength := congrArg List.length (hcut.symm.trans (heq.trans hwhole))
  simp at hlength

/-- The first part may be the newline alone, if the output has a word for the second one to join. -/
theorem words_text_text_some_how :
    let writer := Writer.empty.text "some"
    '&' ∉ "\n".toList ∧ '&' ∉ "how".toList ∧ writer.Fuses "\n" "how" ∧
      words ((writer.text "\n").text "how").output.toList ≠
        words (writer.text ("\n" ++ "how")).output.toList := by
  intro writer
  have hfirst : '&' ∉ "\n".toList := by decide
  have hsecond : '&' ∉ "how".toList := by decide
  have hfuses : writer.Fuses "\n" "how" := ⟨rfl, .inr (by decide +kernel), by decide⟩
  exact ⟨hfirst, hsecond, hfuses, fun heq =>
    (words_text_text writer hfirst hsecond).1.mp heq hfuses⟩

/-- Not every run keeps its words when it is cut. -/
theorem not_words_text_text :
    ¬∀ (events : List Event) (writer : Writer) (first second : String),
      Writer.empty.run events = .ok writer → '&' ∉ first.toList → '&' ∉ second.toList →
        words ((writer.text first).text second).output.toList =
          words (writer.text (first ++ second)).output.toList := by
  intro h
  have hsame := h [] .empty "x\n" "y" rfl (by decide) (by decide)
  revert hsame
  decide +kernel

end Writer

end Textile
