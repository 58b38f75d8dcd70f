import Mathlib.Data.List.DropRight
import Textile.Text.Trim

/-!
# Trimming

* **White space at the ends** (`trim_append_left`, `trim_append_right`): what is
  white space throughout goes. A text that begins with a visible character loses
  nothing there (`trim_of_head?`), and one that ends with one as well is left as it is
  (`trim_of_ends`).
* **What is left** (`mem_of_mem_trim`, `mem_of_mem_words`): nothing but characters
  of the text, and all of its visible ones (`filter_trim`).
* **Pieces** (`pieces_append`, `pieces_of_forall`): a separator ends a piece, and
  nothing else does.
* **Words** (`words_of_spaced`): they are read back from a text that is made of them,
  whatever the white space between them.
* **Pieces put together** (`flatMap_between`, `trim_flatMap_between`): pieces that are written
  one after the other, each between the same two texts, are joined by what meets
  between them.
-/

namespace Textile.Text

open Textile.Unicode

/-! ## White space at the ends -/

theorem isBlank_reverse (cs : List Char) : isBlank cs.reverse = isBlank cs :=
  List.all_reverse

/-- White space holds no other character. -/
theorem not_mem_of_isBlank {c : Char} (hc : isWhiteSpace c = false) {white : List Char}
    (h : isBlank white = true) : c ∉ white := by
  intro hin
  rw [List.all_eq_true.mp h c hin] at hc
  cases hc

theorem trimStart_append {white : List Char} (h : isBlank white = true) (cs : List Char) :
    trimStart (white ++ cs) = trimStart cs :=
  List.dropWhile_append_of_pos (List.all_eq_true.mp h)

theorem trimEnd_append {white : List Char} (h : isBlank white = true) (cs : List Char) :
    trimEnd (cs ++ white) = trimEnd cs := by
  rw [← isBlank_reverse] at h
  rw [trimEnd, List.reverse_append, trimStart_append h, ← trimEnd]

/-- Trimming again does nothing. -/
theorem trimStart_trimStart (cs : List Char) : trimStart (trimStart cs) = trimStart cs :=
  List.dropWhile_idempotent isWhiteSpace cs

/-- White space at the start goes up to the first visible character, whatever follows. -/
theorem trimStart_append_of_not_isBlank {cs : List Char} (h : isBlank cs = false)
    (rest : List Char) : trimStart (cs ++ rest) = trimStart cs ++ rest := by
  have hne : (cs.dropWhile isWhiteSpace).isEmpty ≠ true := by
    intro hempty
    have hblank := isBlank_iff_trimStart_eq_nil.mpr (List.isEmpty_iff.mp hempty)
    rw [h] at hblank
    cases hblank
  rw [trimStart, List.dropWhile_append, if_neg hne]
  rfl

theorem takeWhile_append_of_not_isBlank {cs : List Char} (h : isBlank cs = false)
    (rest : List Char) : (cs ++ rest).takeWhile isWhiteSpace = cs.takeWhile isWhiteSpace := by
  have hlength : (cs.takeWhile isWhiteSpace).length ≠ cs.length := by
    intro hall
    have hblank : isBlank cs = true := by
      rw [← (List.takeWhile_prefix isWhiteSpace).eq_of_length hall]
      exact List.all_takeWhile
    rw [h] at hblank
    cases hblank
  rw [List.takeWhile_append, if_neg hlength]

/-- A text that does not begin with white space loses nothing at its start. -/
theorem trimStart_of_head? {cs : List Char}
    (h : ∀ c, cs.head? = some c → isWhiteSpace c = false) : trimStart cs = cs := by
  cases cs with
  | nil => rfl
  | cons c cs => exact List.dropWhile_cons_of_neg (by simp [h c rfl])

/-- White space in front of a text goes. -/
theorem trim_append_left {white : List Char} (h : isBlank white = true) (cs : List Char) :
    trim (white ++ cs) = trim cs := by
  rw [trim, trim, trimStart_append h]

/-- White space after a text goes, even where the text is white space itself. -/
theorem trim_append_right {white : List Char} (h : isBlank white = true) (cs : List Char) :
    trim (cs ++ white) = trim cs := by
  rw [trim, trim, trimStart, trimStart, List.dropWhile_append]
  split
  · next hempty =>
      -- The text is white space throughout, so what follows it goes at the start.
      have hwhite : trimStart white = [] := isBlank_iff_trimStart_eq_nil.mp h
      rw [← trimStart, hwhite, List.isEmpty_iff.mp hempty]
  · exact trimEnd_append h _

/-- What trimming takes from the end is white space. -/
theorem exists_trimEnd (cs : List Char) :
    ∃ white, isBlank white = true ∧ cs = trimEnd cs ++ white := by
  refine ⟨(cs.reverse.takeWhile isWhiteSpace).reverse, ?_, ?_⟩
  · rw [isBlank_reverse]
    exact List.all_takeWhile
  · rw [trimEnd, trimStart, ← List.reverse_append, List.takeWhile_append_dropWhile,
      List.reverse_reverse]

theorem trim_of_head? {cs : List Char}
    (h : ∀ c, cs.head? = some c → isWhiteSpace c = false) : trim cs = trimEnd cs := by
  rw [trim, trimStart_of_head? h]

/-- A text that begins and ends with visible characters loses nothing. -/
theorem trim_of_ends {cs : List Char} (hstart : ∀ c, cs.head? = some c → isWhiteSpace c = false)
    (hend : ∀ c, cs.getLast? = some c → isWhiteSpace c = false) : trim cs = cs := by
  rw [← List.head?_reverse] at hend
  rw [trim_of_head? hstart, trimEnd, trimStart_of_head? hend, List.reverse_reverse]

theorem trim_of_forall {cs : List Char} (h : ∀ c ∈ cs, isWhiteSpace c = false) : trim cs = cs :=
  trim_of_ends (fun c hc => h c (List.mem_of_head? hc)) fun c hc => h c (List.mem_of_getLast? hc)

theorem trim_of_isBlank {white : List Char} (h : isBlank white = true) : trim white = [] := by
  rw [← List.append_nil white, trim_append_left h]
  rfl

/-! ## What is left of a text -/

theorem trimStart_suffix (cs : List Char) : trimStart cs <:+ cs :=
  List.dropWhile_suffix _

theorem mem_of_mem_trim {cs : List Char} {c : Char} (h : c ∈ trim cs) : c ∈ cs := by
  rw [trim, trimEnd, List.mem_reverse] at h
  have hreverse := (trimStart_suffix _).subset h
  rw [List.mem_reverse] at hreverse
  exact (trimStart_suffix cs).subset hreverse

section Filter

variable {shown : Char → Bool} (hwhite : ∀ c, isWhiteSpace c = true → shown c = false)

include hwhite

theorem filter_trimStart (cs : List Char) : (trimStart cs).filter shown = cs.filter shown := by
  induction cs with
  | nil => rfl
  | cons c cs ih =>
      rw [trimStart, List.dropWhile_cons]
      split
      · next hc => rw [List.filter_cons_of_neg (by simp [hwhite c hc]), ← ih, trimStart]
      · rfl

theorem filter_trimEnd (cs : List Char) : (trimEnd cs).filter shown = cs.filter shown := by
  rw [trimEnd, List.filter_reverse, filter_trimStart hwhite, List.filter_reverse,
    List.reverse_reverse]

/-- Trimming takes nothing away that is visible. -/
theorem filter_trim (cs : List Char) : (trim cs).filter shown = cs.filter shown := by
  rw [trim, filter_trimEnd hwhite, filter_trimStart hwhite]

end Filter

theorem mem_of_mem_pieces {separates : Char → Bool} {cs piece : List Char} {c : Char}
    (hpiece : piece ∈ pieces separates cs) (hc : c ∈ piece) : c ∈ cs := by
  induction cs generalizing piece with
  | nil =>
      rw [pieces, List.mem_singleton] at hpiece
      exact hpiece ▸ hc
  | cons d cs ih =>
      rw [pieces] at hpiece
      split at hpiece
      · rcases List.mem_cons.mp hpiece with rfl | hpiece
        · cases hc
        · exact List.mem_cons_of_mem _ (ih hpiece hc)
      · split at hpiece
        · next first others heq =>
            -- The character joins the first of the pieces of the rest.
            rw [heq] at ih
            rcases List.mem_cons.mp hpiece with rfl | hpiece
            · rcases List.mem_cons.mp hc with rfl | hc
              · exact List.mem_cons_self
              · exact List.mem_cons_of_mem _ (ih List.mem_cons_self hc)
            · exact List.mem_cons_of_mem _ (ih (List.mem_cons_of_mem _ hpiece) hc)
        · rw [List.mem_singleton.mp hpiece, List.mem_singleton] at hc
          exact hc ▸ List.mem_cons_self

theorem mem_of_mem_words {cs word : List Char} {c : Char} (hword : word ∈ words cs)
    (hc : c ∈ word) : c ∈ cs :=
  mem_of_mem_pieces (List.mem_filter.mp hword).1 hc

/-! ## Pieces -/

theorem pieces_ne_nil (separates : Char → Bool) (cs : List Char) : pieces separates cs ≠ [] := by
  induction cs with
  | nil => exact List.cons_ne_nil _ _
  | cons c cs ih =>
      rw [pieces]
      split
      · exact List.cons_ne_nil _ _
      · split
        · exact List.cons_ne_nil _ _
        · exact List.cons_ne_nil _ _

/-- A separator ends the last piece of what stands in front of it. -/
theorem pieces_append {separates : Char → Bool} {c : Char} (hc : separates c = true)
    (before after : List Char) :
    pieces separates (before ++ c :: after) =
      pieces separates before ++ pieces separates after := by
  induction before with
  | nil =>
      show pieces separates (c :: after) = [] :: pieces separates after
      rw [pieces, if_pos hc]
  | cons d before ih =>
      rw [List.cons_append, pieces, pieces, ih]
      split
      · rfl
      · cases hpieces : pieces separates before with
        | nil => exact absurd hpieces (pieces_ne_nil separates before)
        | cons piece others => rfl

/-- A text without separators is one piece. -/
theorem pieces_of_forall {separates : Char → Bool} {cs : List Char}
    (h : ∀ c ∈ cs, separates c = false) : pieces separates cs = [cs] := by
  induction cs with
  | nil => rfl
  | cons c cs ih =>
      have hrest := ih fun d hd => h d (List.mem_cons_of_mem _ hd)
      rw [pieces, if_neg (by simp [h c List.mem_cons_self]), hrest]

theorem mem_of_mem_intercalate {between : List Char} {pieces : List (List Char)} {c : Char}
    (h : c ∈ List.intercalate between pieces) : c ∈ between ∨ ∃ piece ∈ pieces, c ∈ piece := by
  induction pieces with
  | nil => cases h
  | cons piece pieces ih =>
      cases pieces with
      | nil =>
          rw [List.intercalate_singleton] at h
          exact .inr ⟨piece, List.mem_cons_self, h⟩
      | cons next pieces =>
          rw [List.intercalate_cons_cons, List.mem_append, List.mem_append] at h
          rcases h with (h | h) | h
          · exact .inr ⟨piece, List.mem_cons_self, h⟩
          · exact .inl h
          · rcases ih h with h | ⟨other, hother, h⟩
            · exact .inl h
            · exact .inr ⟨other, List.mem_cons_of_mem _ hother, h⟩

/-! ## Words -/

/-- A text is made of words, with white space between them and at the two ends. -/
inductive Spaced : List (List Char) → List Char → Prop
  | nil {white : List Char} (hwhite : isBlank white = true) : Spaced [] white
  | cons {white word text : List Char} {others : List (List Char)}
      (hwhite : isBlank white = true) (hne : word ≠ [])
      (hword : ∀ c ∈ word, isWhiteSpace c = false) (hothers : Spaced others text)
      (hapart : ∀ c, text.head? = some c → isWhiteSpace c = true) :
      Spaced (word :: others) (white ++ (word ++ text))

/-- White space ends the last word of what stands in front of it. -/
theorem words_append {c : Char} (hc : isWhiteSpace c = true) (before after : List Char) :
    words (before ++ c :: after) = words before ++ words after := by
  rw [words, pieces_append hc, List.filter_append]
  rfl

theorem words_cons {c : Char} (hc : isWhiteSpace c = true) (cs : List Char) :
    words (c :: cs) = words cs :=
  words_append hc [] cs

theorem words_append_left {white : List Char} (h : isBlank white = true) (cs : List Char) :
    words (white ++ cs) = words cs := by
  induction white with
  | nil => rfl
  | cons c white ih =>
      rw [isBlank, List.all_cons, Bool.and_eq_true] at h
      rw [List.cons_append, words_cons h.1, ih h.2]

theorem words_of_forall {word : List Char} (hne : word ≠ [])
    (h : ∀ c ∈ word, isWhiteSpace c = false) : words word = [word] := by
  rw [words, pieces_of_forall h]
  exact List.filter_cons_of_pos (by simp [hne])

theorem words_of_spaced {spaced : List (List Char)} {text : List Char} (h : Spaced spaced text) :
    words text = spaced := by
  induction h with
  | @nil white hwhite =>
      rw [← List.append_nil white, words_append_left hwhite]
      rfl
  | @cons white word text others hwhite hne hword hothers hapart ih =>
      rw [words_append_left hwhite]
      cases text with
      | nil =>
          rw [List.append_nil, words_of_forall hne hword, ← ih]
          rfl
      | cons c text =>
          have hc := hapart c rfl
          rw [words_append hc, words_of_forall hne hword, ← ih, words_cons hc]
          rfl

/-! ## Pieces put together -/

/-- Pieces that all stand between the same two texts are joined by what the two
make together. -/
theorem flatMap_between (before after : List Char) {pieces : List (List Char)}
    (h : pieces ≠ []) :
    pieces.flatMap (fun piece => before ++ piece ++ after) =
      before ++ (List.intercalate (after ++ before) pieces ++ after) := by
  induction pieces with
  | nil => exact absurd rfl h
  | cons piece pieces ih =>
      cases pieces with
      | nil => simp
      | cons next pieces =>
          rw [List.flatMap_cons, ih (List.cons_ne_nil _ _), List.intercalate_cons_cons]
          simp only [List.append_assoc]

/-- What is joined begins as its first piece does. -/
theorem head?_intercalate (between : List Char) (c : Char) (rest : List Char)
    (pieces : List (List Char)) :
    (List.intercalate between ((c :: rest) :: pieces)).head? = some c := by
  cases pieces with
  | nil => rw [List.intercalate_singleton, List.head?_cons]
  | cons piece pieces =>
      rw [List.intercalate_cons_cons, List.cons_append, List.cons_append, List.head?_cons]

/-- Pieces between white space lose it at both ends of the text they make, and keep
it where two of them meet. -/
theorem trim_flatMap_between {before after : List Char} (hbefore : isBlank before = true)
    (hafter : isBlank after = true) {pieces : List (List Char)}
    (h : ∀ c, (List.intercalate (after ++ before) pieces).head? = some c →
      isWhiteSpace c = false) :
    trim (pieces.flatMap (fun piece => before ++ piece ++ after)) =
      trimEnd (List.intercalate (after ++ before) pieces) := by
  by_cases hnil : pieces = []
  · rw [hnil]
    rfl
  · rw [flatMap_between before after hnil, trim_append_left hbefore,
      trim_append_right hafter, trim_of_head? h]

end Textile.Text
