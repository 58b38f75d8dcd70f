import Textile.Proofs.Modifiers.Written

/-!
# Styles as lists of declarations

A style is a list of entries with semicolons between them (`Entry`). An entry that writes a
declaration of padding or alignment is taken out, together with the semicolon after it,
and gives the signs of that declaration. All other entries stay, each with the semicolon
that separates it from the next, as long as no declaration begins inside them
(`Entry.Fits`).

* **One property** (`Property.extract_leftover`): its own declarations go, and what the
  properties before it have left stays as it is. The induction is on the entries, and
  what follows an entry is all that it needs to know of the rest (`Follows`).
* **All properties** (`align_style`): the signs come in the order of the properties, and
  what is left is the style without its declarations.
* **Nothing in between** (`declarations_whole`): a declaration is taken or left as a whole. What is
  left holds the same texts between its semicolons as the style, declarations apart.
-/

namespace Textile.Modifiers

open Textile.Text Textile.Unicode

/-! ## Entries -/

/-- One of the texts between the semicolons of a style. -/
structure Entry where
  /-- What the text declares, if it declares padding or alignment. -/
  declaration : Option Declaration
  text : List Char
  deriving Repr, DecidableEq

namespace Entry

/-- The style with the given entries. -/
def style (entries : List Entry) : List Char :=
  List.intercalate [';'] (entries.map text)

/-- Whether the entry declares a property. -/
def declares (property : Property) (entry : Entry) : Bool :=
  entry.declaration.any (·.property = property)

/-- The signs of the declarations of a property, in the order of the entries. -/
def signsOf (property : Property) (entries : List Entry) : List Char :=
  entries.flatMap fun entry =>
    match entry.declaration with
    | some declaration => if declaration.property = property then declaration.signs else []
    | none => []

/-- The style without some entries: each of them goes with the semicolon after it. -/
def leftover (gone : Entry → Bool) : List Entry → List Char
  | [] => []
  | entry :: entries =>
    if gone entry then leftover gone entries
    else if entries = [] then entry.text else entry.text ++ ';' :: leftover gone entries

/-- The text writes the declaration, or it is a text without semicolons in which no
declaration begins. -/
def Fits (entry : Entry) : Prop :=
  match entry.declaration with
  | some declaration => declaration.Writes entry.text
  | none => ';' ∉ entry.text ∧ ∀ property : Property, property.Misses entry.text

theorem leftover_of_gone {gone : Entry → Bool} {entry : Entry} (h : gone entry = true)
    (entries : List Entry) : leftover gone (entry :: entries) = leftover gone entries := by
  rw [leftover, if_pos h]

theorem leftover_of_kept {gone : Entry → Bool} {entry : Entry} (h : gone entry = false)
    (entries : List Entry) : leftover gone (entry :: entries) =
      entry.text ++ if entries = [] then [] else ';' :: leftover gone entries := by
  have hkept : ¬gone entry = true := by simp [h]
  rw [leftover, if_neg hkept]
  split
  · rw [List.append_nil]
  · rfl

theorem leftover_none (entries : List Entry) :
    leftover (fun _ => false) entries = style entries := by
  induction entries with
  | nil => rfl
  | cons entry entries ih =>
      rw [leftover_of_kept rfl, ih]
      cases entries with
      | nil => simp [style]
      | cons next entries => simp [style, List.intercalate_cons_cons]

theorem leftover_congr {gone gone' : Entry → Bool} {entries : List Entry}
    (h : ∀ entry ∈ entries, gone entry = gone' entry) :
    leftover gone entries = leftover gone' entries := by
  induction entries with
  | nil => rfl
  | cons entry entries ih =>
      have hrest := ih fun next hnext => h next (List.mem_cons_of_mem _ hnext)
      rw [leftover, leftover, h entry List.mem_cons_self, hrest]

end Entry

/-! ## One property -/

namespace Property

variable {property : Property}

/-- What follows an entry: nothing of it is read as the end of a declaration that the entry
begins, and its own declarations are known. -/
structure Follows (property : Property) (tail found left : List Char) : Prop where
  misses : ∀ {cs}, ';' ∉ cs → property.read? cs = none → property.read? (cs ++ tail) = none
  white : ∀ {white}, isBlank white = true →
    property.extract (white ++ tail) = (found, white ++ left)

theorem follows_nil : property.Follows [] [] [] where
  misses _ h := by rwa [List.append_nil]
  white h := by
    rw [List.append_nil, property.extract_of_isBlank (isBlank_iff_trimStart_eq_nil.mp h)]

theorem follows_semicolon (rest : List Char) :
    property.Follows (';' :: rest) (property.extract rest).1
      (';' :: (property.extract rest).2) where
  misses hsemicolon h := by
    rw [property.read?_append_semicolon hsemicolon, h]
    rfl
  white {white} h := by
    have htrim : trimStart (white ++ ';' :: rest) = ';' :: rest := by
      rw [trimStart_append h]
      rfl
    have hread : property.read? (';' :: rest) = none := by
      have happend := property.read?_append_semicolon List.not_mem_nil rest
      rwa [property.read?_nil] at happend
    have hwhite : (white ++ ';' :: rest).takeWhile isWhiteSpace = white := by
      rw [List.takeWhile_append_of_pos (List.all_eq_true.mp h),
        List.takeWhile_cons_of_neg (by decide), List.append_nil]
    rw [property.extract_of_read?_eq_none htrim hread, hwhite]

theorem Misses.suffix {text part : List Char} (h : property.Misses text) (hpart : part <:+ text) :
    property.Misses part :=
  fun cs hcs => h cs (hcs.trans hpart)

/-- A text that the property misses is left as it is, whatever follows. -/
theorem extract_of_misses {text tail found left : List Char} (hsemicolon : ';' ∉ text)
    (hmisses : property.Misses text) (htail : property.Follows tail found left) :
    property.extract (text ++ tail) = (found, text ++ left) := by
  fun_induction property.extract text with
  | case1 text hblank => exact htail.white (isBlank_iff_trimStart_eq_nil.mpr hblank)
  | case2 text c cs htrim sign rest hread others =>
      have hnone := hmisses (c :: cs) (htrim ▸ trimStart_suffix text)
      rw [hread] at hnone
      cases hnone
  | case3 text c cs htrim hread others =>
      rename_i ih
      have hsuffix : c :: cs <:+ text := htrim ▸ trimStart_suffix text
      have hrest : cs <:+ text := (List.suffix_cons c cs).trans hsuffix
      have hvisible := not_isBlank_of_trimStart htrim
      have htrim' : trimStart (text ++ tail) = c :: (cs ++ tail) := by
        rw [trimStart_append_of_not_isBlank hvisible, htrim, List.cons_append]
      have hread' : property.read? (c :: (cs ++ tail)) = none :=
        htail.misses (fun hin => hsemicolon (hsuffix.subset hin)) hread
      have htext : text.takeWhile isWhiteSpace ++ c :: cs = text := by
        rw [← htrim]
        exact List.takeWhile_append_dropWhile
      rw [property.extract_of_read?_eq_none htrim' hread',
        takeWhile_append_of_not_isBlank hvisible,
        ih (fun hin => hsemicolon (hrest.subset hin)) (hmisses.suffix hrest)]
      show (found, _ ++ (c :: cs ++ left)) = _
      rw [← List.append_assoc, htext]

/-- A text that is read whole is taken out, together with the semicolon after it. -/
theorem extract_of_takes {text signs : List Char} (hsemicolon : ';' ∉ text)
    (h : property.read? (trimStart text) = some (signs, [])) :
    property.extract text = (signs, []) ∧ ∀ rest, property.extract (text ++ ';' :: rest) =
      (signs ++ (property.extract rest).1, (property.extract rest).2) := by
  have hvisible : isBlank text = false := by
    rw [← Bool.not_eq_true, isBlank_iff_trimStart_eq_nil]
    intro hnil
    rw [hnil, property.read?_nil] at h
    cases h
  refine ⟨?_, fun rest => ?_⟩
  · rw [property.extract_of_read? h, property.extract_nil, List.append_nil]
  · have hread : property.read? (trimStart (text ++ ';' :: rest)) = some (signs, rest) := by
      rw [trimStart_append_of_not_isBlank hvisible, property.read?_append_semicolon
        (fun hin => hsemicolon ((trimStart_suffix text).subset hin)), h]
      rfl
    rw [property.extract_of_read? hread]

end Property

namespace Entry

variable {property : Property} {entry : Entry}

theorem Fits.not_mem_semicolon (h : entry.Fits) : ';' ∉ entry.text := by
  unfold Fits at h
  split at h
  · exact h.not_mem_semicolon
  · exact h.1

/-- A property misses the entries that do not declare it. -/
theorem Fits.misses (h : entry.Fits) (hdeclares : entry.declares property = false) :
    property.Misses entry.text := by
  unfold Fits at h
  split at h
  · next declaration heq =>
      simp only [declares, heq, Option.any_some, decide_eq_false_iff_not] at hdeclares
      exact h.misses (Ne.symm hdeclares)
  · exact h.2 property

/-- A property takes the entries that declare it. -/
theorem Fits.takes (h : entry.Fits) (hdeclares : entry.declares property = true) :
    property.read? (trimStart entry.text) = some (signsOf property [entry], []) := by
  unfold Fits at h
  split at h
  · next declaration heq =>
      simp only [declares, heq, Option.any_some, decide_eq_true_eq] at hdeclares
      subst hdeclares
      simp only [signsOf, List.flatMap_singleton, heq, if_true]
      exact h.takes
  · next heq => simp [declares, heq] at hdeclares

/-- An entry declares one property only. -/
theorem declares_of_ne {other : Property} (h : entry.declares property = true)
    (hne : property ≠ other) : entry.declares other = false := by
  rw [declares, Option.any_eq_true] at h
  obtain ⟨declaration, heq, hproperty⟩ := h
  rw [declares, heq, Option.any_some, of_decide_eq_true hproperty]
  exact decide_eq_false hne

theorem signsOf_cons (property : Property) (entry : Entry) (entries : List Entry) :
    signsOf property (entry :: entries) = signsOf property [entry] ++ signsOf property entries := by
  rw [signsOf, signsOf, signsOf, List.flatMap_cons, List.flatMap_singleton]

theorem signsOf_of_not_declares (h : entry.declares property = false) :
    signsOf property [entry] = [] := by
  rw [signsOf, List.flatMap_singleton]
  split
  · next declaration heq =>
      simp only [declares, heq, Option.any_some, decide_eq_false_iff_not] at h
      rw [if_neg h]
  · rfl

end Entry

open Entry

/-- The declarations of the property go, and give their signs. What has gone before stays away,
and all other entries stay. -/
theorem Property.extract_leftover {property : Property} {gone : Entry → Bool} {entries : List Entry}
    (hfits : ∀ entry ∈ entries, entry.Fits)
    (hgone : ∀ entry, gone entry = true → entry.declares property = false) :
    property.extract (leftover gone entries) = (signsOf property entries,
      leftover (fun entry => gone entry || entry.declares property) entries) := by
  -- An entry has gone before, goes now, or stays; what follows it is known by induction.
  induction entries with
  | nil => exact property.extract_nil
  | cons entry entries ih =>
      have hrest := ih fun next hnext => hfits next (List.mem_cons_of_mem _ hnext)
      have hentry := hfits entry List.mem_cons_self
      rw [signsOf_cons]
      cases hcase : gone entry with
      | true =>
          have hgone' : (gone entry || entry.declares property) = true := by
            rw [hcase, Bool.true_or]
          rw [leftover_of_gone hcase, leftover_of_gone hgone', hrest,
            signsOf_of_not_declares (hgone entry hcase), List.nil_append]
      | false =>
          rw [leftover_of_kept hcase]
          cases hdeclares : entry.declares property with
          | true =>
              have hgone' : (gone entry || entry.declares property) = true := by
                rw [hdeclares, Bool.or_true]
              obtain ⟨hlast, hbefore⟩ :=
                extract_of_takes hentry.not_mem_semicolon (hentry.takes hdeclares)
              rw [leftover_of_gone hgone']
              split
              · next hnil =>
                  subst hnil
                  rw [List.append_nil, hlast]
                  exact Prod.ext (List.append_nil _).symm rfl
              · rw [hbefore, hrest]
          | false =>
              have hkept : (gone entry || entry.declares property) = false := by
                rw [hcase, hdeclares, Bool.or_false]
              have hmisses := hentry.misses hdeclares
              rw [leftover_of_kept hkept, signsOf_of_not_declares hdeclares, List.nil_append]
              split
              · next hnil =>
                  rw [extract_of_misses hentry.not_mem_semicolon hmisses follows_nil, hnil]
                  rfl
              · rw [extract_of_misses hentry.not_mem_semicolon hmisses (follows_semicolon _), hrest]

/-! ## All properties -/

namespace Entry

/-- The signs of a style: those for padding, those that align text, those that align cells. -/
def allSigns (entries : List Entry) : List Char :=
  signsOf .padding entries ++ signsOf .textAlign entries ++ signsOf .verticalAlign entries

/-- The style without its declarations of padding and alignment. -/
def remaining (entries : List Entry) : List Char :=
  leftover (·.declaration.isSome) entries

end Entry

theorem align_style {entries : List Entry} (h : ∀ entry ∈ entries, entry.Fits) :
    align (style entries) = (allSigns entries, remaining entries) := by
  have hpadding : Property.padding.extract (style entries) =
      (signsOf .padding entries, leftover (declares .padding) entries) := by
    rw [← leftover_none]
    exact Property.extract_leftover h fun entry hgone => nomatch hgone
  have htext : Property.textAlign.extract (leftover (declares .padding) entries) =
      (signsOf .textAlign entries,
        leftover (fun entry => entry.declares .padding || entry.declares .textAlign) entries) :=
    Property.extract_leftover h fun entry hentry => declares_of_ne hentry (by decide)
  have hcell : Property.verticalAlign.extract
        (leftover (fun entry => entry.declares .padding || entry.declares .textAlign) entries) =
      (signsOf .verticalAlign entries, leftover (fun entry =>
        (entry.declares .padding || entry.declares .textAlign) || entry.declares .verticalAlign)
          entries) := by
    apply Property.extract_leftover h
    intro entry hentry
    rcases Bool.or_eq_true_iff.mp hentry with hentry | hentry
    · exact declares_of_ne hentry (by decide)
    · exact declares_of_ne hentry (by decide)
  have hall : leftover (fun entry =>
        (entry.declares .padding || entry.declares .textAlign) || entry.declares .verticalAlign)
      entries = remaining entries := by
    apply leftover_congr
    intro entry _
    cases hdeclaration : entry.declaration with
    | none => simp [declares, hdeclaration]
    | some declaration =>
        simp only [declares, hdeclaration, Option.any_some, Option.isSome_some]
        cases declaration.property <;> rfl
  simp only [align, hpadding, htext, hcell, hall, allSigns]

/-- What a block, a row or a cell shows of its style: the signs, and what is left over. -/
theorem ofAttributes_of_style {attributes : Attributes} {tag : Tag} {entries : List Entry}
    (htag : tag.takesAlignment = true) (h : ∀ entry ∈ entries, entry.Fits)
    (hstyle : (attributes.getD "style").toList = style entries) :
    (ofAttributes attributes tag).signs = allSigns entries ∧
      (ofAttributes attributes tag).css = trim (remaining entries) := by
  obtain ⟨hsigns, hleft⟩ := align_trim (style entries)
  rw [align_style h] at hsigns hleft
  simp only [ofAttributes, htag, if_true, hstyle]
  exact ⟨hsigns, hleft⟩

/-! ## Statements -/

/-- The texts between the semicolons of a style, without white space around them, and
without those that are blank. -/
def statements (style : List Char) : List (List Char) :=
  ((pieces (· = ';') style).map trim).filter (!·.isEmpty)

theorem statements_append (before after : List Char) :
    statements (before ++ ';' :: after) = statements before ++ statements after := by
  rw [statements, pieces_append (decide_eq_true rfl), List.map_append, List.filter_append]
  rfl

theorem statements_of_not_mem {text : List Char} (h : ';' ∉ text) :
    statements text = [trim text].filter (!·.isEmpty) := by
  have hone : pieces (· = ';') text = [text] :=
    pieces_of_forall fun c hc => decide_eq_false fun heq => h (heq ▸ hc)
  rw [statements, hone, List.map_singleton]

/-- White space in front of a style is white space in front of its first statement. -/
theorem statements_append_left {white : List Char} (h : isBlank white = true) (cs : List Char) :
    statements (white ++ cs) = statements cs := by
  have hwhite : ';' ∉ white := not_mem_of_isBlank (by decide) h
  have hfirst {text : List Char} (htext : ';' ∉ text) :
      statements (white ++ text) = statements text := by
    rw [statements_of_not_mem (by simp [hwhite, htext]), statements_of_not_mem htext,
      trim_append_left h]
  by_cases hin : ';' ∈ cs
  · obtain ⟨text, rest, rfl, htext⟩ := List.eq_append_cons_of_mem hin
    rw [← List.append_assoc, statements_append, statements_append, hfirst htext]
  · exact hfirst hin

/-- White space after a style is white space after its last statement. -/
theorem statements_append_right {white : List Char} (h : isBlank white = true) (cs : List Char) :
    statements (cs ++ white) = statements cs := by
  have hwhite : ';' ∉ white := not_mem_of_isBlank (by decide) h
  have hlast {text : List Char} (htext : ';' ∉ text) :
      statements (text ++ white) = statements text := by
    rw [statements_of_not_mem (by simp [hwhite, htext]), statements_of_not_mem htext,
      trim_append_right h]
  by_cases hin : ';' ∈ cs
  · -- The last semicolon is the first one from behind.
    obtain ⟨text, rest, heq, htext⟩ := List.eq_append_cons_of_mem (List.mem_reverse.mpr hin)
    have hcs : cs = rest.reverse ++ ';' :: text.reverse := by
      rw [← List.reverse_reverse cs, heq]
      simp
    rw [hcs, List.append_assoc, List.cons_append, statements_append, statements_append,
      hlast (fun hin => htext (List.mem_reverse.mp hin))]
  · exact hlast hin

theorem statements_trim (cs : List Char) : statements (trim cs) = statements cs := by
  obtain ⟨white, hwhite, hend⟩ := exists_trimEnd (trimStart cs)
  have hstart : isBlank (cs.takeWhile isWhiteSpace) = true := List.all_takeWhile
  calc statements (trim cs)
      = statements (trim cs ++ white) := (statements_append_right hwhite _).symm
    _ = statements (trimStart cs) := by rw [hend, ← trim]
    _ = statements (cs.takeWhile isWhiteSpace ++ trimStart cs) :=
        (statements_append_left hstart _).symm
    _ = statements cs := congrArg statements List.takeWhile_append_dropWhile

/-- The statements that are left are those that declare neither padding nor alignment. -/
theorem statements_remaining {entries : List Entry} (h : ∀ entry ∈ entries, entry.Fits) :
    statements (remaining entries) =
      ((entries.filter (·.declaration.isNone)).map (trim ·.text)).filter (!·.isEmpty) := by
  induction entries with
  | nil => rfl
  | cons entry entries ih =>
      have hrest := ih fun next hnext => h next (List.mem_cons_of_mem _ hnext)
      have htext := (h entry List.mem_cons_self).not_mem_semicolon
      rw [remaining] at hrest ⊢
      cases hdeclaration : entry.declaration with
      | some declaration =>
          rw [leftover_of_gone (by rw [hdeclaration, Option.isSome_some]), hrest,
            List.filter_cons_of_neg (by simp [hdeclaration])]
      | none =>
          have hothers : (trim entry.text ::
              (entries.filter (·.declaration.isNone)).map (trim ·.text)).filter (!·.isEmpty) =
              statements entry.text ++ statements (leftover (·.declaration.isSome) entries) := by
            rw [statements_of_not_mem htext, hrest, ← List.filter_append, List.singleton_append]
          rw [leftover_of_kept (by rw [hdeclaration, Option.isSome_none]),
            List.filter_cons_of_pos (by simp [hdeclaration]), List.map_cons, hothers]
          split
          · next hnil =>
              subst hnil
              rw [List.append_nil, leftover]
              exact (List.append_nil _).symm
          · rw [statements_append]

/-- A declaration of a block, a row or a cell is converted as a whole or kept as a whole: those of
padding and alignment give their signs, all others are the statements of what is left over. -/
theorem declarations_whole {attributes : Attributes} {tag : Tag} {entries : List Entry}
    (htag : tag.takesAlignment = true) (hfits : ∀ entry ∈ entries, entry.Fits)
    (hstyle : (attributes.getD "style").toList = style entries) :
    (ofAttributes attributes tag).signs = allSigns entries ∧
      statements (ofAttributes attributes tag).css =
        ((entries.filter (·.declaration.isNone)).map (trim ·.text)).filter (!·.isEmpty) := by
  obtain ⟨hsigns, hcss⟩ := ofAttributes_of_style htag hfits hstyle
  refine ⟨hsigns, ?_⟩
  rw [hcss, statements_trim, statements_remaining hfits]

/-- Padding in other units has no signs: it is kept with its name, next to padding that has. -/
theorem declarations_whole_units :
    let shown := ofAttributes
      (Attributes.ofList [("style", "padding-left: 4px; padding-right: 2em")]) .p
    shown.signs = [')', ')'] ∧ statements shown.css = ["padding-left: 4px".toList] := by
  have hems : Declaration.Writes (.padding .right 2) " padding-right: 2em".toList :=
    @Declaration.Writes.intro _ [' '] "padding-right".toList [] [' '] "2em".toList [] rfl
      (by decide) rfl rfl (@Declaration.IsValue.padding _ _ ['2'] ['e', 'm'] ⟨0, by decide⟩
        (by decide) (by decide)) rfl
  have hname : Name.paddingLeft.Bears "padding-left: 4px".toList ": 4px".toList :=
    ⟨⟨[], "padding-left".toList, by decide, by decide, by decide⟩, by decide⟩
  have hpixels (property : Property) : property.Misses "padding-left: 4px".toList :=
    Name.misses_of_unread hname (by decide) property
  refine @declarations_whole _ .p [⟨none, "padding-left: 4px".toList⟩,
    ⟨some (.padding .right 2), " padding-right: 2em".toList⟩] rfl ?_ (by decide)
  intro entry hentry
  simp only [List.mem_cons, List.not_mem_nil, or_false] at hentry
  rcases hentry with rfl | rfl
  · exact ⟨by decide, hpixels⟩
  · exact hems

/-- The condition on the other entries is needed: a name is found inside a longer one too, and takes
a piece out of a declaration of another property. -/
theorem scroll_padding_cut :
    modifiers (Attributes.ofList [("style", "scroll-padding-left: 2em")]) .p =
        "(({scroll-}".toList ∧
      "scroll-".toList ∉ statements "scroll-padding-left: 2em".toList := by
  decide +kernel

end Textile.Modifiers
