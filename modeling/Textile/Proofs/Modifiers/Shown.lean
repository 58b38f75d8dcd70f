import Textile.Proofs.Modifiers.Style

/-!
# Modifiers as a whole

What the modifiers of a block, a row or a cell show of its attributes
(`modifiers_of_attributes`): the signs of its style, the rest of the style in braces,
the columns and the rows that it spans, and its classes and its id in parentheses. What
is absent leaves nothing behind.

The attributes are given as they may be written: the style as entries of which none but
the declared ones holds the name of a property (`Entry.Plain`), counts in decimal digits
with white space around them (`IsSpan`), classes with white space between them
(`Spaced`), and an id as it is (`IsId`).
-/

namespace Textile

open Textile.Text Textile.Unicode

namespace Modifiers

/-! ## Attributes as they are written -/

/-- The text writes the declaration, or it is a text without semicolons in which no name of
padding or alignment stands, whatever its case. -/
def Entry.Plain (entry : Entry) : Prop :=
  match entry.declaration with
  | some declaration => declaration.Writes entry.text
  | none => ';' ∉ entry.text ∧ ∀ name : Name, ¬name.text <:+: entry.text.map Char.toLower

/-- The text gives a count below 2 ^ 32 in decimal digits, with or without a plus sign, or it
gives none. -/
inductive IsSpan : Option Nat → List Char → Prop
  | none {white : List Char} (hwhite : isBlank white = true) : IsSpan .none white
  | some {count : Nat} {before plus digits after : List Char} (hbefore : isBlank before = true)
      (hplus : plus = [] ∨ plus = ['+']) (hdigits : IsNumeral 10 count digits)
      (hcount : count < UInt32.size) (hafter : isBlank after = true) :
      IsSpan (.some count) (before ++ (plus ++ (digits ++ after)))

/-- The text is an id, or blank. -/
inductive IsId : Option (List Char) → List Char → Prop
  | none {white : List Char} (hwhite : isBlank white = true) : IsId .none white
  | some {id : List Char} (hid : isBlank id = false) : IsId (.some id) id

theorem Entry.Plain.fits {entry : Entry} (h : entry.Plain) : entry.Fits := by
  obtain ⟨declaration, text⟩ := entry
  cases declaration with
  | some declaration => exact h
  | none =>
      exact ⟨h.1, fun property => Property.misses_of_absent fun name _ => h.2 name⟩

/-! ## What is shown -/

/-- A text in brackets, or nothing. -/
def bracketed (opening closing : Char) (text : List Char) : List Char :=
  if text = [] then [] else opening :: text ++ [closing]

/-- A count in decimal digits after its sign, or nothing. -/
def counted (sign : Char) : Option Nat → List Char
  | some count => sign :: Nat.toDigits 10 count
  | none => []

/-- An id after its number sign, or nothing. -/
def marked (id : Option (List Char)) : List (List Char) :=
  id.toList.map ('#' :: ·)

/-- A plus sign in front of digits makes no difference. -/
theorem readCount?_plus {plus digits : List Char} (hplus : plus = [] ∨ plus = ['+'])
    (hdigits : digits.all Char.isDigit = true) :
    readCount? (plus ++ digits) =
      if digits ≠ [] ∧ numberOfDigits 10 digits < UInt32.size
      then some (numberOfDigits 10 digits) else none := by
  have hdropped : readCount? (plus ++ digits) =
      if digits ≠ [] ∧ digits.all Char.isDigit ∧ numberOfDigits 10 digits < UInt32.size
      then some (numberOfDigits 10 digits) else none := by
    rcases hplus with rfl | rfl
    · -- Without the sign, the first digit is not taken for one.
      have hother : ∀ rest, digits = '+' :: rest → False := by
        rintro rest rfl
        exact absurd (List.all_eq_true.mp hdigits '+' List.mem_cons_self) (by decide)
      simp only [readCount?, List.nil_append]
    · rfl
  rw [hdropped]
  simp only [hdigits, true_and]

/-- A count is read as it is written. -/
theorem readCount?_of_isSpan {count : Option Nat} {text : List Char} (h : IsSpan count text) :
    readCount? (trim text) = count := by
  cases h with
  | none hwhite =>
      rw [trim_of_isBlank hwhite]
      rfl
  | @some count before plus digits after hbefore hplus hdigits hcount hafter =>
      have hdigit : digits.all Char.isDigit = true :=
        List.all_eq_true.mpr fun c hc => hdigits.isDigit hc
      have hvisible : ∀ c ∈ plus ++ digits, isWhiteSpace c = false := by
        intro c hc
        rw [← Bool.not_eq_true]
        intro hwhite
        rcases List.mem_append.mp hc with hc | hc
        · rcases hplus with rfl | rfl
          · cases hc
          · rw [List.mem_singleton.mp hc] at hwhite
            exact absurd hwhite (by decide)
        · have hout := isDecimalDigit_of_isWhiteSpace hwhite
          rw [isDecimalDigit_of_isDigit (hdigits.isDigit hc)] at hout
          cases hout
      have htrim : trim (before ++ (plus ++ (digits ++ after))) = plus ++ digits := by
        rw [trim_append_left hbefore, ← List.append_assoc, trim_append_right hafter,
          trim_of_forall hvisible]
      have hnumber := hdigits.numberOfDigits_eq (by decide) (by decide)
      rw [htrim, readCount?_plus hplus hdigit, if_pos ⟨hdigits.ne_nil, hnumber ▸ hcount⟩, hnumber]

theorem renderCount_eq (sign : Char) (count : Option Nat) :
    renderCount sign count = counted sign count := by
  cases count with
  | none => rfl
  | some count => exact congrArg (sign :: ·) String.toList_ofList

/-- The names are in parentheses unless there are none: a name is not empty. -/
theorem bracketed_names {classes : List (List Char)} {text : List Char}
    (h : Spaced classes text) (id : Option (List Char)) :
    bracketed '(' ')' (List.intercalate [' '] (classes ++ marked id)) =
      if (classes ++ marked id).isEmpty then []
      else '(' :: List.intercalate [' '] (classes ++ marked id) ++ [')'] := by
  have hne : ∀ name ∈ classes ++ marked id, name ≠ [] := by
    intro name hname
    rcases List.mem_append.mp hname with hname | hname
    · rw [← words_of_spaced h] at hname
      simpa using (List.mem_filter.mp hname).2
    · obtain ⟨text, -, rfl⟩ := List.mem_map.mp hname
      exact List.cons_ne_nil _ _
  cases hnames : classes ++ marked id with
  | nil => rfl
  | cons name names =>
      have hname := hne name (hnames ▸ List.mem_cons_self)
      obtain ⟨c, rest, rfl⟩ := List.exists_cons_of_ne_nil hname
      have hhead := head?_intercalate [' '] c rest names
      have hfilled : List.intercalate [' '] ((c :: rest) :: names) ≠ [] := by
        intro hnil
        rw [hnil] at hhead
        cases hhead
      rw [bracketed, if_neg hfilled]
      rfl

end Modifiers

open Modifiers

/-- The modifiers of a block, a row or a cell, in their order: the signs of its style, what is left
of the style in braces, the columns and the rows that it spans, and its names in parentheses. -/
theorem modifiers_of_attributes {attributes : Attributes} {tag : Tag} {entries : List Entry}
    {columns rows : Option Nat} {classes : List (List Char)} {id : Option (List Char)}
    (htag : tag.takesAlignment = true)
    (hstyle : (attributes.getD "style").toList = Entry.style entries)
    (hentries : ∀ entry ∈ entries, entry.Plain)
    (hcolumns : IsSpan columns (attributes.getD "colspan").toList)
    (hrows : IsSpan rows (attributes.getD "rowspan").toList)
    (hclasses : Spaced classes (attributes.getD "class").toList)
    (hid : IsId id (attributes.getD "id").toList) :
    modifiers attributes tag =
      Entry.allSigns entries ++ bracketed '{' '}' (trim (Entry.remaining entries)) ++
        counted '\\' columns ++ counted '/' rows ++
          bracketed '(' ')' (List.intercalate [' '] (classes ++ marked id)) := by
  obtain ⟨hsigns, hcss⟩ :=
    ofAttributes_of_style htag (fun entry hentry => (hentries entry hentry).fits) hstyle
  have hnames : (ofAttributes attributes tag).names = classes ++ marked id := by
    have hid' : (if isBlank (attributes.getD "id").toList then []
        else ['#' :: (attributes.getD "id").toList]) = marked id := by
      cases hid with
      | none hwhite => rw [if_pos hwhite]; rfl
      | some hid => rw [hid]; rfl
    simp only [ofAttributes, words_of_spaced hclasses, hid']
  have hcolumns' : (ofAttributes attributes tag).columns = columns :=
    readCount?_of_isSpan hcolumns
  have hrows' : (ofAttributes attributes tag).rows = rows := readCount?_of_isSpan hrows
  have hbraces : (if (trim (Entry.remaining entries)).isEmpty then []
      else '{' :: trim (Entry.remaining entries) ++ ['}']) =
      bracketed '{' '}' (trim (Entry.remaining entries)) := by
    simp only [bracketed, List.isEmpty_iff]
  rw [modifiers, render, hsigns, hcss, hcolumns', hrows', hnames, renderCount_eq, renderCount_eq,
    ← bracketed_names hclasses id, hbraces]

/-- A cell with declarations in both cases of letters, one of them of another property and one with
a sign of two characters. The vertical alignment comes first in the style and last in the signs. -/
theorem modifiers_of_attributes_cell :
    modifiers (Attributes.ofList [
        ("style",
          "COLOR: Red ;Padding-Left : 1eM ;vertical-align: TOP;text-align:LEFT;Text-Align:Justify"),
        ("class", " total  sum"), ("colspan", " 02 "), ("id", "t")]) .td =
      "(<<>^{COLOR: Red ;}\\2(total sum #t)".toList := by
  have hpadding : Declaration.Writes (.padding .left 1) "Padding-Left : 1eM ".toList :=
    @Declaration.Writes.intro _ [] "Padding-Left".toList [' '] [' '] "1eM".toList [' '] rfl
      (by decide) rfl rfl (@Declaration.IsValue.padding _ _ ['1'] ['e', 'M'] ⟨0, by decide⟩
        (by decide) (by decide)) rfl
  have hword {keyword : List Char} (h : keyword.all isWordCharacter = true) :
      ∀ c ∈ keyword, isWordCharacter c = true := List.all_eq_true.mp h
  have htop : Declaration.Writes (.verticalAlign "TOP".toList) "vertical-align: TOP".toList :=
    @Declaration.Writes.intro _ [] "vertical-align".toList [] [' '] "TOP".toList [] rfl (by decide)
      rfl rfl (.verticalAlign (by decide) (hword (by decide))) rfl
  have hleft : Declaration.Writes (.textAlign "LEFT".toList) "text-align:LEFT".toList :=
    @Declaration.Writes.intro _ [] "text-align".toList [] [] "LEFT".toList [] rfl (by decide) rfl
      rfl (.textAlign (by decide) (hword (by decide))) rfl
  have hjustify : Declaration.Writes (.textAlign "Justify".toList) "Text-Align:Justify".toList :=
    @Declaration.Writes.intro _ [] "Text-Align".toList [] [] "Justify".toList [] rfl (by decide)
      rfl rfl (.textAlign (by decide) (hword (by decide))) rfl
  have hvisible {word : List Char} (h : word.all (!isWhiteSpace ·) = true) :
      ∀ c ∈ word, isWhiteSpace c = false := by simpa using h
  have hsum : Spaced ["sum".toList] "  sum".toList :=
    @Spaced.cons [' ', ' '] "sum".toList [] _ rfl (by decide) (hvisible (by decide)) (.nil rfl)
      (by rintro c ⟨⟩)
  have hclasses : Spaced ["total".toList, "sum".toList] " total  sum".toList :=
    @Spaced.cons [' '] "total".toList "  sum".toList _ rfl (by decide) (hvisible (by decide)) hsum
      (by rintro c ⟨⟩; decide)
  have hcolumns : IsSpan (some 2) " 02 ".toList :=
    @IsSpan.some 2 [' '] [] ['0', '2'] [' '] rfl (.inl rfl) ⟨1, by decide⟩ (by decide) rfl
  have hshown := @modifiers_of_attributes (Attributes.ofList [
      ("style",
        "COLOR: Red ;Padding-Left : 1eM ;vertical-align: TOP;text-align:LEFT;Text-Align:Justify"),
      ("class", " total  sum"), ("colspan", " 02 "), ("id", "t")]) .td
    [⟨none, "COLOR: Red ".toList⟩, ⟨some (.padding .left 1), "Padding-Left : 1eM ".toList⟩,
      ⟨some (.verticalAlign "TOP".toList), "vertical-align: TOP".toList⟩,
      ⟨some (.textAlign "LEFT".toList), "text-align:LEFT".toList⟩,
      ⟨some (.textAlign "Justify".toList), "Text-Align:Justify".toList⟩]
    (some 2) none ["total".toList, "sum".toList] (some ['t']) rfl (by decide) ?_ hcolumns
    (.none rfl) hclasses (@IsId.some ['t'] rfl)
  · rw [hshown]
    decide
  · intro entry hentry
    simp only [List.mem_cons, List.not_mem_nil, or_false] at hentry
    rcases hentry with rfl | rfl | rfl | rfl | rfl
    · have hnone : '-' ∉ "COLOR: Red ".toList.map Char.toLower := by decide
      exact ⟨by decide, fun name hin => hnone (hin.subset name.hyphen_mem_text)⟩
    · exact hpadding
    · exact htop
    · exact hleft
    · exact hjustify

end Textile
