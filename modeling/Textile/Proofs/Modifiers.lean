import Mathlib.Data.List.Basic
import Textile.Modifiers
import Textile.Proofs.Text.Trim

/-!
# The characters of modifiers

Modifiers are made of signs and of what the attributes of an element hold.

* **Reading** (`Modifiers.Reads`): whatever reads a declaration gives signs of
  Textile only, and goes on with an end of the text it was given. So taking
  declarations out of a style adds nothing to the style
  (`Modifiers.Property.extract_reads`).
* **What they hold** (`mem_modifiers`): a sign, a digit, or a character of the
  style, the classes or the id.
* **How they end** (`modifiers_closes`): in a sign or a digit, and never in a
  character of an attribute.
* **None** (`modifiers_of_unset`): an element without the five attributes that
  matter has no modifiers.
-/

namespace Textile

open Textile.Text Textile.Unicode

namespace Modifiers

/-! ## Reading declarations -/

/-- The signs for padding and alignment. -/
def signChars : List Char := ['(', ')', '<', '>', '=', '^', '~']

/-- What is read from a text, and what of the text is left. -/
structure Reads (cs found rest : List Char) : Prop where
  signs : ∀ c ∈ found, c ∈ signChars
  suffix : rest <:+ cs

theorem suffix_of_dropKeyword? {keyword cs rest : List Char}
    (h : dropKeyword? keyword cs = some rest) : rest <:+ cs := by
  fun_induction dropKeyword? keyword cs with
  | case1 cs => cases h; exact List.suffix_refl _
  | case2 letters letter cs ih => exact (ih h).trans (List.suffix_cons _ _)
  | case3 => cases h
  | case4 => cases h

theorem suffix_of_dropColon? {cs rest : List Char} (h : dropColon? cs = some rest) :
    rest <:+ cs := by
  have htrim := trimStart_suffix cs
  unfold dropColon? at h
  split at h
  · next after heq =>
      cases h
      rw [heq] at htrim
      exact (trimStart_suffix after).trans ((List.suffix_cons _ _).trans htrim)
  · cases h

theorem dropSemicolon_suffix (cs : List Char) : dropSemicolon cs <:+ cs := by
  have htrim := trimStart_suffix cs
  unfold dropSemicolon
  split
  · next heq =>
      rw [heq] at htrim
      exact (List.suffix_cons _ _).trans htrim
  · exact htrim

theorem readEms?_reads {sign : Char} (hsign : sign ∈ signChars) {cs found rest : List Char}
    (h : readEms? sign cs = some (found, rest)) : Reads cs found rest := by
  simp only [readEms?] at h
  split at h
  · obtain ⟨after, hdrop, heq⟩ := Option.map_eq_some_iff.mp h
    cases heq
    refine ⟨fun c hc => ?_, (suffix_of_dropKeyword? hdrop).trans (List.dropWhile_suffix _)⟩
    split at hc
    · rw [List.eq_of_mem_replicate hc]
      exact hsign
    · cases hc
  · cases h

/-- The sign of a keyword is one of the table, if it has any. -/
theorem mem_lookup_getD {signs : List (String × String)}
    (hsigns : ∀ entry ∈ signs, entry.2.toList ⊆ signChars) {keyword : String} {c : Char}
    (hc : c ∈ ((signs.lookup keyword).getD "").toList) : c ∈ signChars := by
  cases hlookup : signs.lookup keyword with
  | none => rw [hlookup] at hc; cases hc
  | some sign =>
      rw [hlookup] at hc
      obtain ⟨before, after, rfl, _⟩ := List.lookup_eq_some_iff.mp hlookup
      exact hsigns (keyword, sign) (List.mem_append_right _ List.mem_cons_self) hc

theorem readKeyword?_reads {signs : List (String × String)}
    (hsigns : ∀ entry ∈ signs, entry.2.toList ⊆ signChars) {cs found rest : List Char}
    (h : readKeyword? signs cs = some (found, rest)) : Reads cs found rest := by
  unfold readKeyword? at h
  split at h
  · cases h
  · cases h
    exact ⟨fun c hc => mem_lookup_getD hsigns hc, List.dropWhile_suffix _⟩

/-- Reads a declaration of one name up to the end of its value. -/
def readToValue? (name : List Char) (readValue? : List Char → Option (List Char × List Char))
    (cs : List Char) : Option (List Char × List Char) :=
  ((dropKeyword? name cs).bind dropColon?).bind readValue?

/-- A declaration is read to the end of its value, and then on to its semicolon. -/
theorem readDeclaration?_eq (name : List Char)
    (readValue? : List Char → Option (List Char × List Char)) (cs : List Char) :
    readDeclaration? name readValue? cs =
      (readToValue? name readValue? cs).map fun (sign, left) => (sign, dropSemicolon left) := by
  unfold readDeclaration? readToValue?
  cases (dropKeyword? name cs).bind dropColon? <;> rfl

/-- A declaration is read as its value is. -/
theorem readToValue?_reads {name : List Char}
    {readValue? : List Char → Option (List Char × List Char)}
    (hvalue : ∀ {cs found rest}, readValue? cs = some (found, rest) → Reads cs found rest)
    {cs found rest : List Char} (h : readToValue? name readValue? cs = some (found, rest)) :
    Reads cs found rest := by
  obtain ⟨value, hvalue', hread⟩ := Option.bind_eq_some_iff.mp h
  obtain ⟨after, hname, hcolon⟩ := Option.bind_eq_some_iff.mp hvalue'
  obtain ⟨hsigns, hsuffix⟩ := hvalue hread
  have hafter := (suffix_of_dropColon? hcolon).trans (suffix_of_dropKeyword? hname)
  exact ⟨hsigns, hsuffix.trans hafter⟩

/-- Reads a declaration of the property up to the end of its value. -/
def Property.readToValue? : Property → List Char → Option (List Char × List Char)
  | padding, cs =>
      (Modifiers.readToValue? "padding-left".toList (readEms? '(') cs).or
        (Modifiers.readToValue? "padding-right".toList (readEms? ')') cs)
  | textAlign, cs =>
      Modifiers.readToValue? "text-align".toList (readKeyword? textAlignSigns) cs
  | verticalAlign, cs =>
      Modifiers.readToValue? "vertical-align".toList (readKeyword? verticalAlignSigns) cs

theorem Property.read?_eq (property : Property) (cs : List Char) :
    property.read? cs =
      (property.readToValue? cs).map fun (sign, left) => (sign, dropSemicolon left) := by
  cases property with
  | padding => simp only [read?, readToValue?, readDeclaration?_eq, Option.map_or]
  | textAlign => exact readDeclaration?_eq _ _ cs
  | verticalAlign => exact readDeclaration?_eq _ _ cs

theorem Property.readToValue?_reads {property : Property} {cs found rest : List Char}
    (h : property.readToValue? cs = some (found, rest)) : Reads cs found rest := by
  cases property with
  | padding =>
      rcases Option.or_eq_some_iff.mp h with h | ⟨_, h⟩
      · exact Modifiers.readToValue?_reads (readEms?_reads (by decide)) h
      · exact Modifiers.readToValue?_reads (readEms?_reads (by decide)) h
  | textAlign => exact Modifiers.readToValue?_reads (readKeyword?_reads (by decide)) h
  | verticalAlign => exact Modifiers.readToValue?_reads (readKeyword?_reads (by decide)) h

theorem Property.read?_reads {property : Property} {cs found rest : List Char}
    (h : property.read? cs = some (found, rest)) : Reads cs found rest := by
  rw [read?_eq] at h
  obtain ⟨⟨sign, left⟩, hread, heq⟩ := Option.map_eq_some_iff.mp h
  cases heq
  obtain ⟨hsigns, hsuffix⟩ := readToValue?_reads hread
  exact ⟨hsigns, (dropSemicolon_suffix left).trans hsuffix⟩

/-- Taking declarations out of a style gives signs, and leaves characters of the style. -/
theorem Property.extract_reads (property : Property) (style : List Char) :
    (∀ c ∈ (property.extract style).1, c ∈ signChars) ∧ (property.extract style).2 ⊆ style := by
  fun_induction Property.extract property style with
  | case1 style hrest => exact ⟨fun c hc => absurd hc List.not_mem_nil, fun c hc => hc⟩
  | case2 style c cs hrest sign rest hread others ih =>
      obtain ⟨hsigns, hsuffix⟩ := Property.read?_reads hread
      obtain ⟨hothers, hleft⟩ := ih
      refine ⟨fun d hd => ?_, fun d hd => ?_⟩
      · rcases List.mem_append.mp hd with hd | hd
        · exact hsigns d hd
        · exact hothers d hd
      · have hd := hsuffix.subset (hleft hd)
        rw [← hrest] at hd
        exact (trimStart_suffix style).subset hd
  | case3 style c cs hrest hread others ih =>
      obtain ⟨hothers, hleft⟩ := ih
      refine ⟨hothers, fun d hd => ?_⟩
      have hin : ∀ {d}, d ∈ c :: cs → d ∈ style := by
        intro d hd
        rw [← hrest] at hd
        exact (trimStart_suffix style).subset hd
      rcases List.mem_append.mp hd with hd | hd
      · exact (List.takeWhile_sublist _).subset hd
      · rcases List.mem_cons.mp hd with rfl | hd
        · exact hin List.mem_cons_self
        · exact hin (List.mem_cons_of_mem _ (hleft hd))

/-- The same holds for all properties together. -/
theorem align_reads (style : List Char) :
    (∀ c ∈ (align style).1, c ∈ signChars) ∧ (align style).2 ⊆ style := by
  obtain ⟨hpadding, hleft⟩ := Property.extract_reads .padding style
  obtain ⟨htext, hleft'⟩ := Property.extract_reads .textAlign (Property.padding.extract style).2
  obtain ⟨hcell, hleft''⟩ := Property.extract_reads .verticalAlign
    (Property.textAlign.extract (Property.padding.extract style).2).2
  refine ⟨fun c hc => ?_, fun c hc => hleft (hleft' (hleft'' hc))⟩
  simp only [align, List.mem_append] at hc
  rcases hc with (hc | hc) | hc
  · exact hpadding c hc
  · exact htext c hc
  · exact hcell c hc

theorem Property.extract_nil (property : Property) : property.extract [] = ([], []) := by
  rw [Property.extract]
  rfl

theorem align_nil : align [] = ([], []) := by
  simp [align, Property.extract_nil]

/-! ## What modifiers hold -/

/-- The characters of modifiers that come from no attribute, digits apart. -/
def frameChars : List Char := signChars ++ ['{', '}', '\\', '/', '#', ' ']

theorem isDigit_of_mem_toString {count : Nat} {c : Char} (h : c ∈ (toString count).toList) :
    c.isDigit = true := by
  have hdigits : (toString count).toList = Nat.toDigits 10 count := String.toList_ofList
  rw [hdigits] at h
  exact Nat.isDigit_of_mem_toDigits (by decide) (by decide) h

theorem mem_renderCount {sign c : Char} {count : Option Nat} (h : c ∈ renderCount sign count) :
    c = sign ∨ c.isDigit = true := by
  cases count with
  | none => cases h
  | some count =>
      rcases List.mem_cons.mp h with hc | hc
      · exact .inl hc
      · exact .inr (isDigit_of_mem_toString hc)

theorem mem_render {shown : Modifiers} {c : Char} (h : c ∈ shown.render) :
    c ∈ shown.signs ∨ c ∈ shown.css ∨ (∃ name ∈ shown.names, c ∈ name) ∨
      c ∈ frameChars ∨ c.isDigit = true := by
  have hcount {sign : Char} (hsign : sign ∈ frameChars) {count : Option Nat}
      (hc : c ∈ renderCount sign count) : c ∈ frameChars ∨ c.isDigit = true := by
    rcases mem_renderCount hc with rfl | hc
    · exact .inl hsign
    · exact .inr hc
  simp only [render, List.mem_append] at h
  rcases h with (((h | h) | h) | h) | h
  · exact .inl h
  · split at h
    · cases h
    · simp only [List.mem_append, List.mem_cons, List.not_mem_nil, or_false] at h
      rcases h with (rfl | h) | rfl
      · exact .inr (.inr (.inr (.inl (by decide))))
      · exact .inr (.inl h)
      · exact .inr (.inr (.inr (.inl (by decide))))
  · exact .inr (.inr (.inr (hcount (by decide) h)))
  · exact .inr (.inr (.inr (hcount (by decide) h)))
  · split at h
    · cases h
    · simp only [List.mem_append, List.mem_cons, List.not_mem_nil, or_false] at h
      rcases h with (rfl | h) | rfl
      · exact .inr (.inr (.inr (.inl (by decide))))
      · rcases mem_of_mem_intercalate h with h | h
        · rw [List.mem_singleton.mp h]
          exact .inr (.inr (.inr (.inl (by decide))))
        · exact .inr (.inr (.inl h))
      · exact .inr (.inr (.inr (.inl (by decide))))

/-! ## How modifiers end -/

/-- The characters that modifiers may end in, digits apart. -/
def closingChars : List Char := signChars ++ ['}']

/-- A text is empty, or it ends in a character that modifiers may end in. -/
def Closes (text : List Char) : Prop :=
  ∀ c, text.getLast? = some c → c ∈ closingChars ∨ c.isDigit = true

theorem closes_nil : Closes [] := fun _ h => nomatch h

theorem Closes.append {before after : List Char} (hbefore : Closes before)
    (hafter : Closes after) : Closes (before ++ after) := by
  intro c hc
  rw [List.getLast?_append, Option.or_eq_some_iff] at hc
  rcases hc with hc | ⟨_, hc⟩
  · exact hafter c hc
  · exact hbefore c hc

theorem closes_concat {c : Char} (hc : c ∈ closingChars) (before : List Char) :
    Closes (before ++ [c]) := by
  intro d hd
  rw [List.getLast?_concat] at hd
  cases hd
  exact .inl hc

theorem closes_of_forall {text : List Char} (h : ∀ c ∈ text, c ∈ signChars) : Closes text :=
  fun c hc => .inl (List.mem_append_left _ (h c (List.mem_of_getLast? hc)))

/-- A count ends in a digit: its sign stands in front of it. -/
theorem closes_renderCount (sign : Char) (count : Option Nat) :
    Closes (renderCount sign count) := by
  cases count with
  | none => exact closes_nil
  | some count =>
      have hne : (toString count).toList ≠ [] := by
        have hdigits : (toString count).toList = Nat.toDigits 10 count := String.toList_ofList
        rw [hdigits]
        exact Nat.toDigits_ne_nil
      intro c hc
      rw [renderCount, List.getLast?_cons_of_ne_nil hne] at hc
      exact .inr (isDigit_of_mem_toString (List.mem_of_getLast? hc))

theorem closes_render {shown : Modifiers} (hsigns : ∀ c ∈ shown.signs, c ∈ signChars) :
    Closes shown.render := by
  refine ((((closes_of_forall hsigns).append ?_).append (closes_renderCount _ _)).append
    (closes_renderCount _ _)).append ?_
  · split
    · exact closes_nil
    · exact closes_concat (by decide) _
  · split
    · exact closes_nil
    · exact closes_concat (by decide) _

/-! ## The modifiers of an element -/

/-- The attributes that modifiers are read from. -/
def attributeNames : List String := ["class", "id", "style", "colspan", "rowspan"]

theorem signs_ofAttributes (attributes : Attributes) (tag : Tag) :
    ∀ c ∈ (ofAttributes attributes tag).signs, c ∈ signChars := by
  intro c hc
  simp only [ofAttributes] at hc
  split at hc
  · exact (align_reads _).1 c hc
  · cases hc

theorem css_ofAttributes {attributes : Attributes} {tag : Tag} {c : Char}
    (h : c ∈ (ofAttributes attributes tag).css) : c ∈ (attributes.getD "style").toList := by
  simp only [ofAttributes] at h
  have hleft := mem_of_mem_trim h
  split at hleft
  · exact mem_of_mem_trim ((align_reads _).2 hleft)
  · exact mem_of_mem_trim hleft

theorem names_ofAttributes {attributes : Attributes} {tag : Tag} {name : List Char} {c : Char}
    (hname : name ∈ (ofAttributes attributes tag).names) (hc : c ∈ name) :
    c ∈ (attributes.getD "class").toList ∨ c = '#' ∨ c ∈ (attributes.getD "id").toList := by
  simp only [ofAttributes] at hname
  rcases List.mem_append.mp hname with hname | hname
  · exact .inl (mem_of_mem_words hname hc)
  · split at hname
    · cases hname
    · rw [List.mem_singleton.mp hname] at hc
      exact .inr (List.mem_cons.mp hc)

end Modifiers

open Modifiers

/-- Whatever stands in modifiers is a sign, a digit, or a character of an attribute. -/
theorem mem_modifiers {attributes : Attributes} {tag : Tag} {c : Char}
    (h : c ∈ modifiers attributes tag) :
    c ∈ frameChars ∨ c.isDigit = true ∨ ∃ name, c ∈ (attributes.getD name).toList := by
  rcases mem_render h with h | h | ⟨name, hname, h⟩ | h | h
  · exact .inl (List.mem_append_left _ (signs_ofAttributes _ _ c h))
  · exact .inr (.inr ⟨"style", css_ofAttributes h⟩)
  · rcases names_ofAttributes hname h with h | rfl | h
    · exact .inr (.inr ⟨"class", h⟩)
    · exact .inl (by decide)
    · exact .inr (.inr ⟨"id", h⟩)
  · exact .inl h
  · exact .inr (.inl h)

/-- Without any of the attributes that matter there are no modifiers. -/
theorem modifiers_of_unset {attributes : Attributes}
    (h : ∀ name ∈ attributeNames, attributes.get? name = none) (tag : Tag) :
    modifiers attributes tag = [] := by
  -- Whichever of them is looked up, the value is the empty text.
  have hvalue (name : String) (hname : name ∈ attributeNames) :
      (attributes.getD name).toList = [] := by
    rw [Attributes.getD, h name hname]
    rfl
  have htrim : trim [] = [] := rfl
  have hcount : readCount? [] = none := rfl
  have hwords : words [] = [] := rfl
  have hblank : isBlank [] = true := rfl
  have haligned : (if tag.takesAlignment then align [] else ([], [])) =
      (([], []) : List Char × List Char) := by
    split
    · exact align_nil
    · rfl
  simp [modifiers, ofAttributes, render, renderCount, hvalue "class" (by decide),
    hvalue "id" (by decide), hvalue "style" (by decide), hvalue "colspan" (by decide),
    hvalue "rowspan" (by decide), htrim, hcount, hwords, hblank, haligned]

/-- Modifiers end in a sign or a digit, whatever the attributes hold. -/
theorem modifiers_closes (attributes : Attributes) (tag : Tag) :
    Closes (modifiers attributes tag) :=
  closes_render (signs_ofAttributes attributes tag)

end Textile
