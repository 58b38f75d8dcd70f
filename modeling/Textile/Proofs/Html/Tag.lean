import Textile.Html.Report
import Textile.Proofs.Attributes
import Textile.Proofs.Html.Token
import Textile.Proofs.Text.Escape
import Textile.Proofs.Unicode.Classes

/-!
# Tags as they are written

The tag of an element with a plain name, with its attributes in double quotes and
their values escaped, and what a reader of HTML makes of it.

* **Names** (`lowercase_of_isSmall`): small letters and digits are what they are in
  lower case, so plain names go through as they are written.
* **Values** (`decode_escapeValue`, `dropByteOrderMark_escapeValue`): a value comes
  back whatever it holds, less the byte order mark it may start with.
* **Tags** (`ElementTag.scan_html`): a tag is read as a whole, and its attributes are
  those that were written (`ElementTag.elementAttributes_startTag`).
-/

namespace Textile

open Textile.Text Textile.Unicode

/-! ## Names -/

namespace Unicode

/-- A small ASCII letter or a digit. -/
def isSmall (c : Char) : Bool :=
  c.isLower || c.isDigit

theorem isSmall_iff {c : Char} :
    isSmall c = true ↔ 97 ≤ c.toNat ∧ c.toNat ≤ 122 ∨ 48 ≤ c.toNat ∧ c.toNat ≤ 57 := by
  rw [isSmall, Bool.or_eq_true, isLower_iff, isDigit_iff]

theorem toNat_lt_of_isSmall {c : Char} (h : isSmall c = true) : c.toNat < 0x80 := by
  rcases isSmall_iff.mp h with hletter | hdigit
  · omega
  · omega

theorem toLower_of_isSmall {c : Char} (h : isSmall c = true) : c.toLower = c := by
  have hnat := isSmall_iff.mp h
  refine dif_neg fun hcapital => ?_
  have hfrom : 65 ≤ c.toNat := hcapital.1
  have hto : c.toNat ≤ 90 := hcapital.2
  omega

theorem lowercaseAscii_of_isSmall {text : String} (h : ∀ c ∈ text.toList, isSmall c = true) :
    lowercaseAscii text = text := by
  rw [lowercaseAscii, List.map_congr_left fun c hc => toLower_of_isSmall (h c hc), List.map_id',
    String.ofList_toList]

theorem lowercaseAfter_of_isSmall {cs : List Char} (h : ∀ c ∈ cs, isSmall c = true)
    (before : List Char) : lowercaseAfter before cs = cs := by
  induction cs generalizing before with
  | nil => rfl
  | cons c cs ih =>
      obtain ⟨hc, hrest⟩ := List.forall_mem_cons.mp h
      have hsigma : c ≠ 'Σ' := by
        rintro rfl
        exact absurd hc (by decide)
      rw [lowercaseAfter, if_neg hsigma, lowercaseChar, if_pos (toNat_lt_of_isSmall hc),
        toLower_of_isSmall hc, ih hrest]
      rfl

/-- Nothing becomes smaller that is small. -/
theorem lowercase_of_isSmall {text : String} (h : ∀ c ∈ text.toList, isSmall c = true) :
    lowercase text = text := by
  rw [lowercase, lowercaseAfter_of_isSmall h, String.ofList_toList]

end Unicode

/-! ## Values -/

namespace Text

/-- A character as it is written into a value in double quotes. -/
def escapeValueChar (c : Char) : List Char :=
  if c = '"' then ['&', 'q', 'u', 'o', 't', ';'] else escapeChar c

/-- A value as it is written between double quotes. -/
def escapeValue (value : List Char) : List Char :=
  value.flatMap escapeValueChar

theorem decode_escapeValueChar (c : Char) (rest : List Char) :
    decode (escapeValueChar c ++ rest) = c :: decode rest := by
  unfold escapeValueChar
  split
  · next hc =>
      subst hc
      exact decode_named 'q' ['u', 'o', 't'] (by decide) (by decide) (by decide) (by decide) rfl
        rfl rest
  · exact decode_escapeChar c rest

theorem decode_escapeValue (value : List Char) : decode (escapeValue value) = value := by
  induction value with
  | nil => rw [escapeValue, List.flatMap_nil, decode]
  | cons c value ih =>
      rw [escapeValue, List.flatMap_cons, decode_escapeValueChar]
      exact congrArg (c :: ·) ih

/-- No quote in a value ends it. -/
theorem quote_not_mem_escapeValue (value : List Char) : '"' ∉ escapeValue value := by
  intro hin
  obtain ⟨c, _, hc⟩ := List.mem_flatMap.mp hin
  unfold escapeValueChar at hc
  split at hc
  · exact absurd hc (by decide)
  · next hne =>
      rcases mem_escapeChar hc with hreference | ⟨heq, _⟩
      · exact absurd hreference (by decide)
      · exact hne heq.symm

end Text

namespace Html

theorem dropByteOrderMark_of_head? {text : String} (h : text.toList.head? ≠ some '\uFEFF') :
    dropByteOrderMark text = text := by
  unfold dropByteOrderMark
  split
  · next heq => exact absurd (by rw [heq]; rfl) h
  · rfl

theorem head?_escapeValue {value : List Char} (h : value.head? ≠ some '\uFEFF') :
    (escapeValue value).head? ≠ some '\uFEFF' := by
  cases value with
  | nil => exact h
  | cons c value =>
      have hc : c ≠ '\uFEFF' := fun hc => h (congrArg some hc)
      have hfirst : (escapeValueChar c).head? = some '&' ∨ escapeValueChar c = [c] := by
        unfold escapeValueChar escapeChar
        split
        · exact .inl rfl
        · split
          · exact .inl rfl
          · split
            · exact .inl rfl
            · split
              · exact .inl rfl
              · exact .inr rfl
      rw [escapeValue, List.flatMap_cons]
      rcases hfirst with hreference | hplain
      · rw [List.head?_append, hreference, Option.some_or]
        decide
      · rw [hplain]
        exact fun heq => hc (Option.some.inj heq)

/-- Escaping leaves a byte order mark as it is, and brings none. -/
theorem dropByteOrderMark_escapeValue (value : String) :
    dropByteOrderMark (String.ofList (escapeValue value.toList)) =
      String.ofList (escapeValue (dropByteOrderMark value).toList) := by
  have hdrop (cs : List Char) :
      dropByteOrderMark (String.ofList ('\uFEFF' :: cs)) = String.ofList cs := by
    simp [dropByteOrderMark]
  by_cases hmark : value.toList.head? = some '\uFEFF'
  · obtain ⟨rest, hrest⟩ := List.head?_eq_some_iff.mp hmark
    have hescape : escapeValue ('\uFEFF' :: rest) = '\uFEFF' :: escapeValue rest := rfl
    rw [← String.ofList_toList (s := value), hrest, String.toList_ofList, hescape, hdrop, hdrop,
      String.toList_ofList]
  · rw [dropByteOrderMark_of_head? hmark,
      dropByteOrderMark_of_head? (by rw [String.toList_ofList]; exact head?_escapeValue hmark)]

/-! ## Attributes -/

/-- The name of an attribute, in small letters. -/
def isAttributeName (name : String) : Bool :=
  !name.toList.isEmpty && name.toList.all Char.isLower

/-- An attribute as it is written in a tag. -/
def attributeHtml (entry : String × String) : List Char :=
  ' ' :: (entry.1.toList ++ '=' :: '"' :: (escapeValue entry.2.toList ++ ['"']))

/-- An attribute as it is read: its value is still escaped. -/
def attributeRead (entry : String × String) : String × Option String :=
  (entry.1, some (String.ofList (escapeValue entry.2.toList)))

theorem endsAttributeName_of_isSmall {c : Char} (h : isSmall c = true) :
    endsAttributeName c = false := by
  have hne (d : Char) (hd : isSmall d = false) : c ≠ d := by
    rintro rfl
    rw [h] at hd
    cases hd
  simp [endsAttributeName, endsTagName, isTagSpace, hne ' ' rfl, hne '\n' rfl, hne '\r' rfl,
    hne '\t' rfl, hne '\x0c' rfl, hne '/' rfl, hne '>' rfl, hne '=' rfl]

/-- A value is read up to the quote that ends it. -/
theorem readValue?_html (value : String) (rest : List Char) :
    readValue? ('=' :: '"' :: (escapeValue value.toList ++ '"' :: rest)) =
      some (some (String.ofList (escapeValue value.toList)), rest) := by
  have hinside : ∀ c ∈ escapeValue value.toList, (!decide (c = '"')) = true := by
    intro c hc
    rw [Bool.not_eq_true', decide_eq_false_iff_not]
    rintro rfl
    exact quote_not_mem_escapeValue _ hc
  have hdrop : (escapeValue value.toList ++ '"' :: rest).dropWhile (fun c => !decide (c = '"')) =
      '"' :: rest := by
    rw [List.dropWhile_append_of_pos hinside, List.dropWhile_cons_of_neg (by simp)]
  have htake : (escapeValue value.toList ++ '"' :: rest).takeWhile (fun c => !decide (c = '"')) =
      escapeValue value.toList := by
    rw [List.takeWhile_append_of_pos hinside, List.takeWhile_cons_of_neg (by simp),
      List.append_nil]
  have hequals : isTagSpace '=' = false := rfl
  have hquote : isTagSpace '"' = false := rfl
  simp [readValue?, hequals, hquote, hdrop, htake]

theorem readAttribute?_html {c : Char} {name : List Char}
    (hname : ∀ d ∈ c :: name, isSmall d = true) (value : String) (rest : List Char) :
    readAttribute? c (name ++ '=' :: '"' :: (escapeValue value.toList ++ '"' :: rest)) =
      some (attributeRead (String.ofList (c :: name), value), rest) := by
  have hgoesOn : ∀ d ∈ name, (!endsAttributeName d) = true := by
    intro d hd
    rw [endsAttributeName_of_isSmall (hname d (List.mem_cons_of_mem c hd))]
    rfl
  have hlower : lowercaseAscii (String.ofList (c :: name)) = String.ofList (c :: name) :=
    lowercaseAscii_of_isSmall (by rwa [String.toList_ofList])
  rw [readAttribute?, List.takeWhile_append_of_pos hgoesOn, List.dropWhile_append_of_pos hgoesOn,
    List.takeWhile_cons_of_neg (by decide), List.dropWhile_cons_of_neg (by decide),
    readValue?_html, List.append_nil]
  simp only [Option.map_some, hlower]
  rfl

theorem isAttributeName_iff {name : String} :
    isAttributeName name = true ↔
      ∃ c cs, name.toList = c :: cs ∧ ∀ d ∈ c :: cs, d.isLower = true := by
  unfold isAttributeName
  cases name.toList with
  | nil => simp
  | cons c cs => simp

theorem readsBody_attributes {entries : List (String × String)}
    (h : ∀ entry ∈ entries, isAttributeName entry.1 = true) (rest : List Char) :
    ReadsBody (entries.flatMap attributeHtml ++ '>' :: rest) ⟨entries.map attributeRead, false⟩
      rest := by
  induction entries with
  | nil => exact readsBody_bracket rest
  | cons entry entries ih =>
      obtain ⟨name, value⟩ := entry
      obtain ⟨hentry, hrest⟩ := List.forall_mem_cons.mp h
      obtain ⟨c, cs, hname, hlower⟩ := isAttributeName_iff.mp hentry
      have hsmall : ∀ d ∈ c :: cs, isSmall d = true := fun d hd => by
        rw [isSmall, hlower d hd, Bool.true_or]
      have hfirst := endsAttributeName_of_isSmall (hsmall c List.mem_cons_self)
      have hread := readAttribute?_html hsmall value
        (entries.flatMap attributeHtml ++ '>' :: rest)
      have hhtml : ((name, value) :: entries).flatMap attributeHtml ++ '>' :: rest =
          ' ' :: c :: (cs ++ '=' :: '"' :: (escapeValue value.toList ++ '"' ::
            (entries.flatMap attributeHtml ++ '>' :: rest))) := by
        simp [attributeHtml, hname]
      rw [hhtml]
      refine ⟨⟨' ', _, rfl, by decide⟩, ?_⟩
      simp only [endsAttributeName, endsTagName, Bool.or_eq_false_iff,
        beq_eq_false_iff_ne] at hfirst
      obtain ⟨⟨⟨hspace, hslash⟩, hbracket⟩, _⟩ := hfirst
      rw [← hname, String.ofList_toList] at hread
      rw [readTagBody?, if_pos (by decide), readTagBody?, if_neg (by simp [hspace]),
        if_neg hbracket, if_neg hslash]
      split
      · next heq =>
          rw [hread] at heq
          cases heq
          rw [(ih hrest).read]
          rfl
      · next heq =>
          rw [hread] at heq
          cases heq

/-! ## Elements -/

/-- The elements whose content is not read as HTML. -/
def specialNames : List String :=
  ["svg", "math", "textarea", "title", "style", "iframe", "xmp", "noembed", "noframes", "noscript",
    "script", "plaintext"]

/-- The name of an element: a small letter and more small letters or digits. -/
def isElementName (name : String) : Bool :=
  name.toList.head?.any Char.isLower && name.toList.all isSmall && !specialNames.contains name

/-- Whether elements of this name are written without content and without an end tag. -/
def isLeafName (name : String) : Bool :=
  voidNames.contains name || contentlessNames.contains name

/-- The start tag of an element, with its attributes. -/
structure ElementTag where
  name : String
  attributes : Attributes
  named : isElementName name = true
  keyed : ∀ entry ∈ attributes.entries, isAttributeName entry.1 = true

namespace ElementTag

/-- The start tag in a source. -/
def html (tag : ElementTag) : List Char :=
  '<' :: (tag.name.toList ++ (tag.attributes.entries.flatMap attributeHtml ++ ['>']))

/-- The start tag as it is read. -/
def startTag (tag : ElementTag) : StartTag :=
  ⟨tag.name, tag.attributes.entries.map attributeRead, false⟩

/-- The end tag in a source. -/
def endHtml (tag : ElementTag) : List Char :=
  '<' :: '/' :: (tag.name.toList ++ ['>'])

variable (tag : ElementTag)

theorem isSmall_of_mem_name {c : Char} (h : c ∈ tag.name.toList) : isSmall c = true := by
  have hnamed := tag.named
  simp only [isElementName, Bool.and_eq_true, List.all_eq_true] at hnamed
  exact hnamed.1.2 c h

theorem isTagName_name : IsTagName tag.name.toList where
  startsWithLetter := by
    have hnamed := tag.named
    simp only [isElementName, Bool.and_eq_true, Option.any_eq_true] at hnamed
    obtain ⟨c, hc, hlower⟩ := hnamed.1.1
    obtain ⟨rest, hrest⟩ := List.head?_eq_some_iff.mp hc
    have hletter : (c.isUpper || c.isLower) = true := by rw [hlower, Bool.or_true]
    exact ⟨c, rest, hrest, hletter⟩
  goesOn := fun c hc => by
    have hends := endsAttributeName_of_isSmall (tag.isSmall_of_mem_name hc)
    exact (Bool.or_eq_false_iff.mp hends).1

theorem lowercaseAscii_name : lowercaseAscii tag.name = tag.name :=
  lowercaseAscii_of_isSmall fun _ => tag.isSmall_of_mem_name

theorem lowercase_name : lowercase tag.name = tag.name :=
  lowercase_of_isSmall fun _ => tag.isSmall_of_mem_name

theorem name_startTag : tag.startTag.name = tag.name :=
  tag.lowercaseAscii_name

theorem name_not_mem_specialNames : tag.name ∉ specialNames := by
  have hnamed := tag.named
  simp only [isElementName, Bool.and_eq_true, Bool.not_eq_true', List.contains_eq_mem,
    decide_eq_false_iff_not] at hnamed
  exact hnamed.2

/-- The element is one of HTML. -/
theorem afterStart_startTag : Namespaces.initial.afterStart tag.startTag = .initial := by
  have hspecial := tag.name_not_mem_specialNames
  have hsvg : tag.name ≠ "svg" := by
    intro heq
    exact hspecial (heq ▸ by decide)
  have hmath : tag.name ≠ "math" := by
    intro heq
    exact hspecial (heq ▸ by decide)
  rw [Namespaces.afterStart, name_startTag, if_neg hsvg, if_neg hmath]
  exact if_pos rfl

theorem afterEnd_name : Namespaces.initial.afterEnd tag.name = .initial := rfl

/-- The content of the element is no raw text. -/
theorem rawText?_startTag : Token.rawText? .initial tag.startTag = none := by
  have hspecial := tag.name_not_mem_specialNames
  have hraw : RawText.ofName? tag.name = none := by
    unfold RawText.ofName?
    split <;> first | rfl | (next heq => exact absurd (heq ▸ by decide) hspecial)
  rw [Token.rawText?, name_startTag, hraw, ite_self]

theorem isVoid_name : isVoid tag.name = voidNames.contains tag.name := by
  rw [isVoid, lowercase_name]

theorem hasContent_startTag :
    tag.startTag.hasContent .html = !contentlessNames.contains tag.name := by
  -- The names of includes have a colon.
  have hincludes : contentlessIncludes.contains tag.name = false := by
    rw [List.contains_eq_mem, decide_eq_false_iff_not]
    intro hin
    have hcolon : ∀ name ∈ contentlessIncludes, ':' ∈ name.toList := by decide
    exact absurd (tag.isSmall_of_mem_name (hcolon _ hin)) (by decide)
  rw [StartTag.hasContent, if_pos rfl, name_startTag]
  show (_ && !contentlessIncludes.contains tag.name) = _
  rw [hincludes, Bool.not_false, Bool.and_true]

/-- The attributes of the element are those of the tag, less the byte order marks that
values start with. -/
theorem elementAttributes_startTag :
    tag.startTag.elementAttributes = tag.attributes.mapValues dropByteOrderMark := by
  have hentry : ∀ entry ∈ tag.attributes.entries,
      (lowercase (dropByteOrderMark (attributeRead entry).1),
        decodeString (dropByteOrderMark ((attributeRead entry).2.getD ""))) =
      (entry.1, dropByteOrderMark entry.2) := by
    intro entry hin
    obtain ⟨c, cs, hname, hlower⟩ := isAttributeName_iff.mp (tag.keyed entry hin)
    have hsmall : ∀ d ∈ entry.1.toList, isSmall d = true := by
      rw [hname]
      exact fun d hd => by rw [isSmall, hlower d hd, Bool.true_or]
    have hhead : entry.1.toList.head? ≠ some '\uFEFF' := by
      rw [hname]
      intro heq
      cases heq
      exact absurd (hlower _ List.mem_cons_self) (by decide)
    show (lowercase (dropByteOrderMark entry.1), decodeString (dropByteOrderMark (String.ofList
      (escapeValue entry.2.toList)))) = _
    rw [dropByteOrderMark_of_head? hhead, lowercase_of_isSmall hsmall,
      dropByteOrderMark_escapeValue, decodeString, String.toList_ofList, decode_escapeValue,
      String.ofList_toList]
  have hentries := List.map_congr_left hentry
  rw [StartTag.elementAttributes, ← Attributes.ofList_entries (tag.attributes.mapValues _)]
  congr 1
  rw [startTag, List.map_map]
  exact hentries

/-! ## Scanning -/

/-- The start tag is read as a whole, whatever follows it. -/
theorem scan_html (text rest : List Char) :
    Token.scan .initial text (tag.html ++ rest) =
      Token.ofText text ++ .startTag tag.startTag .html :: Token.scan .initial [] rest := by
  have htag : tag.startTag = ⟨String.ofList tag.name.toList,
      tag.attributes.entries.map attributeRead, false⟩ := by
    rw [String.ofList_toList, startTag]
  have hscan := Token.scan_startTag tag.isTagName_name (readsBody_attributes tag.keyed rest) htag
    tag.rawText?_startTag text
  have hcurrent : Namespaces.initial.current = .html := rfl
  rw [afterStart_startTag, hcurrent] at hscan
  simpa [html] using hscan

/-- The end tag is read as a whole, whatever follows it. -/
theorem scan_endHtml (text rest : List Char) :
    Token.scan .initial text (tag.endHtml ++ rest) =
      Token.ofText text ++ .endTag tag.name :: Token.scan .initial [] rest := by
  have hscan := Token.scan_endTag tag.isTagName_name .initial text rest
  rw [String.ofList_toList, lowercaseAscii_name, afterEnd_name] at hscan
  simpa [endHtml] using hscan

end ElementTag

end Html

end Textile
