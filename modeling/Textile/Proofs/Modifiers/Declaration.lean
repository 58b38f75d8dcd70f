import Textile.Proofs.Modifiers
import Textile.Proofs.Unicode.Classes

/-!
# Declarations and what follows them

A declaration is read from the start of a style, and the reader does not look beyond
the white space and the semicolon after it.

* **What ends a declaration** (`Ends`): white space, and then a semicolon or nothing.
  Words, digits and keywords stop there, so a value is read in the same way whether
  or not such an end follows (`Property.readToValue?_append`).
* **In a style** (`Property.read?_append_semicolon`): a text without semicolons is read
  in front of a semicolon as it is read alone.
* **White space around a style** (`align_trim`): it takes no part in the signs, and
  what it leaves is trimmed away.
-/

namespace Textile.Modifiers

open Textile.Text Textile.Unicode

/-! ## What ends a declaration -/

/-- White space, and then nothing or a semicolon. -/
def Ends (rest : List Char) : Prop :=
  ∀ c, (trimStart rest).head? = some c → c = ';'

theorem ends_semicolon (rest : List Char) : Ends (';' :: rest) := by
  intro c hc
  have htrim : trimStart (';' :: rest) = ';' :: rest := rfl
  rw [htrim] at hc
  exact (Option.some.inj hc).symm

theorem ends_of_isBlank {white : List Char} (h : isBlank white = true) : Ends white := by
  intro c hc
  rw [isBlank_iff_trimStart_eq_nil.mp h] at hc
  cases hc

namespace Ends

variable {rest : List Char}

theorem trimStart (h : Ends rest) : Ends (Text.trimStart rest) := by
  intro c hc
  rw [trimStart_trimStart] at hc
  exact h c hc

/-- The first character is white space or a semicolon. -/
theorem head (h : Ends rest) {c : Char} (hc : rest.head? = some c) :
    isWhiteSpace c = true ∨ c = ';' := by
  obtain ⟨cs, rfl⟩ := List.head?_eq_some_iff.mp hc
  by_cases hwhite : isWhiteSpace c = true
  · exact .inl hwhite
  · have htrim : Text.trimStart (c :: cs) = c :: cs := List.dropWhile_cons_of_neg hwhite
    exact .inr (h c (by rw [htrim]; rfl))

section
variable {inside : Char → Bool} (hwhite : ∀ c, isWhiteSpace c = true → inside c = false)
  (hsemicolon : inside ';' = false)
include hwhite hsemicolon

/-- A stretch of characters that are neither stops there. -/
theorem outside (h : Ends rest) {c : Char} (hc : rest.head? = some c) : inside c = false := by
  rcases h.head hc with hc | rfl
  · exact hwhite c hc
  · exact hsemicolon

theorem takeWhile_append (h : Ends rest) (cs : List Char) :
    (cs ++ rest).takeWhile inside = cs.takeWhile inside := by
  have hnone : rest.takeWhile inside = [] := by
    cases rest with
    | nil => rfl
    | cons c rest =>
        exact List.takeWhile_cons_of_neg (by simp [h.outside hwhite hsemicolon rfl])
  rw [List.takeWhile_append]
  split
  · next hall =>
      rw [hnone, List.append_nil, (List.takeWhile_prefix inside).eq_of_length hall]
  · rfl

theorem dropWhile_append (h : Ends rest) (cs : List Char) :
    (cs ++ rest).dropWhile inside = cs.dropWhile inside ++ rest := by
  have hall : rest.dropWhile inside = rest := by
    cases rest with
    | nil => rfl
    | cons c rest =>
        exact List.dropWhile_cons_of_neg (by simp [h.outside hwhite hsemicolon rfl])
  rw [List.dropWhile_append]
  split
  · next hempty => rw [hall, List.isEmpty_iff.mp hempty, List.nil_append]
  · rfl

end
end Ends

/-! ## Readers that stop at an end -/

/-- A keyword without white space and semicolons. -/
def IsKeyword (keyword : List Char) : Prop :=
  ∀ c ∈ keyword, isWhiteSpace c = false ∧ c ≠ ';'

instance (keyword : List Char) : Decidable (IsKeyword keyword) :=
  List.decidableBAll (fun c => isWhiteSpace c = false ∧ c ≠ ';') keyword

theorem dropKeyword?_append {keyword : List Char} (hkeyword : IsKeyword keyword)
    {rest : List Char} (h : Ends rest) (cs : List Char) :
    dropKeyword? keyword (cs ++ rest) = (dropKeyword? keyword cs).map (· ++ rest) := by
  fun_induction dropKeyword? keyword cs with
  | case1 cs => rfl
  | case2 letters c cs ih =>
      rw [List.cons_append, dropKeyword?, if_pos rfl]
      exact ih fun d hd => hkeyword d (List.mem_cons_of_mem _ hd)
  | case3 letter letters c cs hne =>
      rw [List.cons_append, dropKeyword?, if_neg hne]
      rfl
  | case4 letter letters =>
      -- No letter of the keyword is the end that follows.
      obtain ⟨hwhite, hsemicolon⟩ := hkeyword letter List.mem_cons_self
      cases rest with
      | nil => rfl
      | cons c rest =>
          have hne : c.toLower ≠ letter := by
            rintro rfl
            rcases h.head rfl with hc | rfl
            · rw [toLower_of_isWhiteSpace hc, hc] at hwhite
              cases hwhite
            · exact hsemicolon rfl
          rw [List.nil_append, dropKeyword?, if_neg hne]
          rfl

/-- A reader of values that reads a value alone as it reads it in front of an end. -/
structure StopsAtEnd (readValue? : List Char → Option (List Char × List Char)) : Prop where
  nil : readValue? [] = none
  append : ∀ cs {rest}, Ends rest →
    readValue? (cs ++ rest) = (readValue? cs).map fun (sign, left) => (sign, left ++ rest)

theorem readEms?_stopsAtEnd (sign : Char) : StopsAtEnd (readEms? sign) where
  nil := rfl
  append cs rest h := by
    have hdigits := h.takeWhile_append (fun _ => isDecimalDigit_of_isWhiteSpace) (by decide) cs
    have hunit := h.dropWhile_append (fun _ => isDecimalDigit_of_isWhiteSpace) (by decide) cs
    have hkeyword : IsKeyword ['e', 'm'] := by decide
    simp only [readEms?, hdigits, hunit, dropKeyword?_append hkeyword h]
    split
    · rw [Option.map_map, Option.map_map]
      rfl
    · rfl

theorem readKeyword?_stopsAtEnd (signs : List (String × String)) :
    StopsAtEnd (readKeyword? signs) where
  nil := rfl
  append cs rest h := by
    have hword := h.takeWhile_append (fun _ => isWordCharacter_of_isWhiteSpace)
      (by decide +kernel) cs
    have hleft := h.dropWhile_append (fun _ => isWordCharacter_of_isWhiteSpace)
      (by decide +kernel) cs
    simp only [readKeyword?, hword, hleft]
    split <;> rfl

theorem dropColon?_of_trimStart {cs after : List Char} (h : trimStart cs = ':' :: after) :
    dropColon? cs = some (trimStart after) := by
  rw [dropColon?, h]
  rfl

theorem dropColon?_eq_none {cs : List Char} (h : (trimStart cs).head? ≠ some ':') :
    dropColon? cs = none := by
  unfold dropColon?
  split
  · next heq =>
      rw [heq] at h
      exact absurd rfl h
  · rfl

namespace StopsAtEnd

variable {readValue? : List Char → Option (List Char × List Char)}
  (hvalue : StopsAtEnd readValue?) {rest : List Char} (h : Ends rest)
include hvalue h

theorem trimStart (cs : List Char) :
    readValue? (Text.trimStart (cs ++ rest)) =
      (readValue? (Text.trimStart cs)).map fun (sign, left) => (sign, left ++ rest) := by
  cases hblank : isBlank cs with
  | true =>
      -- There is no value, whether an end follows or not.
      have hnone := hvalue.append [] h.trimStart
      rw [hvalue.nil, List.nil_append] at hnone
      rw [trimStart_append hblank, hnone, isBlank_iff_trimStart_eq_nil.mp hblank, hvalue.nil]
      rfl
  | false => rw [trimStart_append_of_not_isBlank hblank, hvalue.append _ h]

theorem bind_dropColon? (cs : List Char) :
    (dropColon? (cs ++ rest)).bind readValue? =
      ((dropColon? cs).bind readValue?).map fun (sign, left) => (sign, left ++ rest) := by
  cases hblank : isBlank cs with
  | true =>
      have hcs : (Text.trimStart cs).head? ≠ some ':' := by
        rw [isBlank_iff_trimStart_eq_nil.mp hblank]
        exact fun hnil => nomatch hnil
      have happend : (Text.trimStart (cs ++ rest)).head? ≠ some ':' := by
        rw [trimStart_append hblank]
        exact fun hcolon => absurd (h ':' hcolon) (by decide)
      rw [dropColon?_eq_none hcs, dropColon?_eq_none happend]
      rfl
  | false =>
      have happend := trimStart_append_of_not_isBlank hblank rest
      by_cases hcolon : (Text.trimStart cs).head? = some ':'
      · obtain ⟨after, hafter⟩ := List.head?_eq_some_iff.mp hcolon
        rw [hafter, List.cons_append] at happend
        rw [dropColon?_of_trimStart hafter, dropColon?_of_trimStart happend]
        exact hvalue.trimStart h after
      · have hcolon' : (Text.trimStart (cs ++ rest)).head? ≠ some ':' := by
          have hne : Text.trimStart cs ≠ [] := fun hnil => by
            rw [isBlank_iff_trimStart_eq_nil.mpr hnil] at hblank
            cases hblank
          rwa [happend, List.head?_append_of_ne_nil _ hne]
        rw [dropColon?_eq_none hcolon, dropColon?_eq_none hcolon']
        rfl

theorem readToValue?_append {name : List Char} (hname : IsKeyword name) (cs : List Char) :
    readToValue? name readValue? (cs ++ rest) =
      (readToValue? name readValue? cs).map fun (sign, left) => (sign, left ++ rest) := by
  rw [readToValue?, readToValue?, dropKeyword?_append hname h]
  cases dropKeyword? name cs with
  | none => rfl
  | some after => exact hvalue.bind_dropColon? h after

end StopsAtEnd

/-- Up to the end of its value, a declaration is read in the same way where an end follows. -/
theorem Property.readToValue?_append (property : Property) {rest : List Char} (h : Ends rest)
    (cs : List Char) :
    property.readToValue? (cs ++ rest) =
      (property.readToValue? cs).map fun (sign, left) => (sign, left ++ rest) := by
  cases property with
  | padding =>
      have hleft := (readEms?_stopsAtEnd '(').readToValue?_append h
        (show IsKeyword "padding-left".toList by decide) cs
      have hright := (readEms?_stopsAtEnd ')').readToValue?_append h
        (show IsKeyword "padding-right".toList by decide) cs
      simp only [readToValue?, hleft, hright, Option.map_or]
  | textAlign => exact (readKeyword?_stopsAtEnd _).readToValue?_append h (by decide) cs
  | verticalAlign => exact (readKeyword?_stopsAtEnd _).readToValue?_append h (by decide) cs

/-! ## Declarations in a style -/

theorem dropSemicolon_of_trimStart {cs after : List Char} (h : trimStart cs = ';' :: after) :
    dropSemicolon cs = after := by
  rw [dropSemicolon, h]
  rfl

theorem dropSemicolon_of_head? {cs : List Char} (h : (trimStart cs).head? ≠ some ';') :
    dropSemicolon cs = trimStart cs := by
  unfold dropSemicolon
  split
  · next heq =>
      rw [heq] at h
      exact absurd rfl h
  · rfl

theorem dropSemicolon_of_not_mem {cs : List Char} (h : ';' ∉ cs) :
    dropSemicolon cs = trimStart cs :=
  dropSemicolon_of_head? fun hhead => h ((trimStart_suffix cs).subset (List.mem_of_head? hhead))

theorem not_isBlank_of_trimStart {cs after : List Char} {c : Char} (h : trimStart cs = c :: after) :
    isBlank cs = false := by
  rw [← Bool.not_eq_true, isBlank_iff_trimStart_eq_nil, h]
  exact List.cons_ne_nil c after

theorem trimStart_ne_nil {cs : List Char} (h : isBlank cs = false) : trimStart cs ≠ [] := by
  intro hnil
  rw [isBlank_iff_trimStart_eq_nil.mpr hnil] at h
  cases h

/-- A semicolon goes where only white space stands in front of it. -/
theorem dropSemicolon_append_semicolon {cs : List Char} (h : ';' ∉ cs) (rest : List Char) :
    dropSemicolon (cs ++ ';' :: rest) =
      if dropSemicolon cs = [] then rest else dropSemicolon cs ++ ';' :: rest := by
  rw [dropSemicolon_of_not_mem h]
  cases hblank : isBlank cs with
  | true =>
      have hafter : trimStart (cs ++ ';' :: rest) = ';' :: rest := by
        rw [trimStart_append hblank]
        rfl
      rw [if_pos (isBlank_iff_trimStart_eq_nil.mp hblank), dropSemicolon_of_trimStart hafter]
  | false =>
      have hne := trimStart_ne_nil hblank
      have hafter := trimStart_append_of_not_isBlank hblank (';' :: rest)
      have hhead : (trimStart (cs ++ ';' :: rest)).head? ≠ some ';' := by
        rw [hafter, List.head?_append_of_ne_nil _ hne]
        exact fun hhead => h ((trimStart_suffix cs).subset (List.mem_of_head? hhead))
      rw [if_neg hne, dropSemicolon_of_head? hhead, hafter]

/-- White space at the end of a style is left over, or goes with the last declaration. -/
theorem dropSemicolon_append_white {white : List Char} (h : isBlank white = true)
    (cs : List Char) :
    ∃ more, isBlank more = true ∧ dropSemicolon (cs ++ white) = dropSemicolon cs ++ more := by
  cases hblank : isBlank cs with
  | true =>
      have hnone : trimStart cs = [] := isBlank_iff_trimStart_eq_nil.mp hblank
      have hboth : trimStart (cs ++ white) = [] := by
        rw [trimStart_append hblank, isBlank_iff_trimStart_eq_nil.mp h]
      refine ⟨[], rfl, ?_⟩
      rw [dropSemicolon, dropSemicolon, hboth, hnone]
      rfl
  | false =>
      have happend := trimStart_append_of_not_isBlank hblank white
      refine ⟨white, h, ?_⟩
      by_cases hhead : (trimStart cs).head? = some ';'
      · obtain ⟨after, hafter⟩ := List.head?_eq_some_iff.mp hhead
        rw [hafter, List.cons_append] at happend
        rw [dropSemicolon_of_trimStart hafter, dropSemicolon_of_trimStart happend]
      · have hhead' : (trimStart (cs ++ white)).head? ≠ some ';' := by
          rwa [happend, List.head?_append_of_ne_nil _ (trimStart_ne_nil hblank)]
        rw [dropSemicolon_of_head? hhead, dropSemicolon_of_head? hhead', happend]

namespace Property

variable (property : Property)

/-- In front of a semicolon a text is read as it is read alone. -/
theorem read?_append_semicolon {cs : List Char} (h : ';' ∉ cs) (rest : List Char) :
    property.read? (cs ++ ';' :: rest) = (property.read? cs).map fun (sign, left) =>
      (sign, if left = [] then rest else left ++ ';' :: rest) := by
  rw [read?_eq, read?_eq, property.readToValue?_append (ends_semicolon rest)]
  cases hread : property.readToValue? cs with
  | none => rfl
  | some read =>
      obtain ⟨sign, left⟩ := read
      have hleft : ';' ∉ left := fun hin => h ((readToValue?_reads hread).suffix.subset hin)
      simp only [Option.map_some, dropSemicolon_append_semicolon hleft]

/-- In front of white space a text is read as it is read alone, if it is read at all. -/
theorem read?_append_white {white : List Char} (h : isBlank white = true) (cs : List Char) :
    ∃ more, isBlank more = true ∧ property.read? (cs ++ white) =
      (property.read? cs).map fun (sign, left) => (sign, left ++ more) := by
  rw [read?_eq, read?_eq, property.readToValue?_append (ends_of_isBlank h)]
  cases property.readToValue? cs with
  | none => exact ⟨[], rfl, rfl⟩
  | some read =>
      obtain ⟨sign, left⟩ := read
      obtain ⟨more, hmore, hdrop⟩ := dropSemicolon_append_white h left
      exact ⟨more, hmore, by simp only [Option.map_some, hdrop]⟩

/-! ## Taking declarations out -/

theorem read?_nil : property.read? [] = none := by
  cases property <;> rfl

theorem extract_of_isBlank {style : List Char} (h : trimStart style = []) :
    property.extract style = ([], style) := by
  rw [extract]
  split
  · rfl
  · next heq => exact absurd (h.symm.trans heq) (List.cons_ne_nil _ _).symm

/-- A declaration at the start of a style is taken out, with the white space in front of it. -/
theorem extract_of_read? {style sign rest : List Char}
    (h : property.read? (trimStart style) = some (sign, rest)) :
    property.extract style = (sign ++ (property.extract rest).1, (property.extract rest).2) := by
  rw [extract]
  split
  · next heq =>
      rw [heq, read?_nil] at h
      cases h
  · next heq =>
      rw [heq] at h
      split
      · next hread =>
          rw [h] at hread
          cases hread
          rfl
      · next hread =>
          rw [h] at hread
          cases hread

/-- A character that no declaration starts with is left where it is. -/
theorem extract_of_read?_eq_none {style cs : List Char} {c : Char}
    (htrim : trimStart style = c :: cs) (h : property.read? (c :: cs) = none) :
    property.extract style = ((property.extract cs).1,
      style.takeWhile isWhiteSpace ++ c :: (property.extract cs).2) := by
  rw [extract]
  split
  · next heq =>
      rw [htrim] at heq
      cases heq
  · next heq =>
      rw [htrim] at heq
      cases heq
      split
      · next hread =>
          rw [h] at hread
          cases hread
      · rfl

/-! ## White space around a style -/

/-- White space in front of a style is left in front of it, or goes with the first
declaration. -/
theorem extract_trimStart (style : List Char) :
    ∃ white, isBlank white = true ∧ property.extract style =
      ((property.extract (trimStart style)).1,
        white ++ (property.extract (trimStart style)).2) := by
  have hagain := trimStart_trimStart style
  cases hread : property.read? (trimStart style) with
  | some read =>
      obtain ⟨sign, rest⟩ := read
      refine ⟨[], rfl, ?_⟩
      rw [property.extract_of_read? hread]
      rw [← hagain] at hread
      rw [property.extract_of_read? hread, List.nil_append]
  | none =>
      cases htrim : trimStart style with
      | nil =>
          refine ⟨style, isBlank_iff_trimStart_eq_nil.mpr htrim, ?_⟩
          rw [property.extract_of_isBlank htrim, extract_nil, List.append_nil]
      | cons c cs =>
          rw [htrim] at hread hagain
          have hvisible : (c :: cs).takeWhile isWhiteSpace = [] := by
            have hhead := List.head?_dropWhile_not isWhiteSpace style
            rw [← trimStart, htrim] at hhead
            exact List.takeWhile_cons_of_neg (by simpa using hhead)
          refine ⟨style.takeWhile isWhiteSpace, List.all_takeWhile, ?_⟩
          rw [property.extract_of_read?_eq_none htrim hread,
            property.extract_of_read?_eq_none hagain hread, hvisible, List.nil_append]

/-- White space after a style is left after it, or goes with the last declaration. -/
theorem extract_append_white (style : List Char) {white : List Char} :
    isBlank white = true → ∃ more, isBlank more = true ∧ property.extract (style ++ white) =
      ((property.extract style).1, (property.extract style).2 ++ more) := by
  revert white
  fun_induction property.extract style with
  | case1 style hrest =>
      intro white h
      have hall : trimStart (style ++ white) = [] := by
        rw [trimStart_append (isBlank_iff_trimStart_eq_nil.mpr hrest),
          isBlank_iff_trimStart_eq_nil.mp h]
      exact ⟨white, h, property.extract_of_isBlank hall⟩
  | case2 style c cs hrest sign rest hread others =>
      rename_i ih
      intro white h
      obtain ⟨more, hmore, hread'⟩ := property.read?_append_white h (c :: cs)
      obtain ⟨left, hleft, hextract⟩ := ih hmore
      rw [hread] at hread'
      rw [← hrest, ← trimStart_append_of_not_isBlank (not_isBlank_of_trimStart hrest)] at hread'
      refine ⟨left, hleft, ?_⟩
      rw [property.extract_of_read? hread', hextract]
  | case3 style c cs hrest hread others =>
      rename_i ih
      intro white h
      obtain ⟨more, hmore, hread'⟩ := property.read?_append_white h (c :: cs)
      obtain ⟨left, hleft, hextract⟩ := ih h
      have hvisible := not_isBlank_of_trimStart hrest
      have htrim := trimStart_append_of_not_isBlank hvisible white
      rw [hread] at hread'
      rw [hrest] at htrim
      refine ⟨left, hleft, ?_⟩
      rw [property.extract_of_read?_eq_none htrim hread',
        takeWhile_append_of_not_isBlank hvisible]
      show ((property.extract (cs ++ white)).1, _ ++ c :: (property.extract (cs ++ white)).2) = _
      rw [hextract, List.append_assoc, List.cons_append]

/-- White space at the two ends of a style takes no part in the signs. -/
theorem extract_trim (style : List Char) :
    (property.extract (trim style)).1 = (property.extract style).1 ∧
      trim (property.extract (trim style)).2 = trim (property.extract style).2 := by
  obtain ⟨white, hwhite, hend⟩ := exists_trimEnd (trimStart style)
  obtain ⟨before, hbefore, hstyle⟩ := property.extract_trimStart style
  obtain ⟨after, hafter, htrim⟩ := property.extract_append_white (trim style) hwhite
  rw [hend, ← trim, htrim] at hstyle
  rw [hstyle, trim_append_left hbefore, trim_append_right hafter]
  exact ⟨rfl, rfl⟩

theorem extract_congr {style other : List Char} (h : trim style = trim other) :
    (property.extract style).1 = (property.extract other).1 ∧
      trim (property.extract style).2 = trim (property.extract other).2 := by
  obtain ⟨hsigns, hleft⟩ := property.extract_trim style
  obtain ⟨hsigns', hleft'⟩ := property.extract_trim other
  rw [h] at hsigns hleft
  exact ⟨hsigns.symm.trans hsigns', hleft.symm.trans hleft'⟩

end Property

/-- Trimming a style changes neither its signs nor what is left of it, once that is trimmed. -/
theorem align_trim (style : List Char) :
    (align (trim style)).1 = (align style).1 ∧
      trim (align (trim style)).2 = trim (align style).2 := by
  obtain ⟨hpadding, hleft⟩ := Property.extract_trim .padding style
  obtain ⟨htext, hleft'⟩ := Property.extract_congr .textAlign hleft
  obtain ⟨hcell, hleft''⟩ := Property.extract_congr .verticalAlign hleft'
  refine ⟨?_, hleft''⟩
  simp only [align, hpadding, htext, hcell]

end Textile.Modifiers
