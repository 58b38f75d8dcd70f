import Textile.Proofs.Modifiers.Declaration
import Textile.Proofs.Text.Numeral

/-!
# Declarations as they are written

What a declaration of padding or alignment says (`Declaration`), and the texts that say
it (`Declaration.Writes`): its name and its unit in any case, its count in one or two
digits, and white space in front of the name, around the colon and at the end.

* **Signs** (`lookup_textAlignSigns`, `lookup_verticalAlignSigns`): a keyword has the sign
  that is written out here for it.
* **Names** (`Name.Bears.found_once`): a name shows in its letters around the hyphen which one
  it is. So in a text with one hyphen, only one name is found, and only in one place.
* **Its own property** (`Declaration.Writes.takes`): the text is read whole.
* **Other properties** (`Declaration.Writes.misses`): nothing is found in it.
* **No value** (`Name.misses_of_unread`): nothing is found either in a text with a name
  and a value that is not read, such as padding in another unit.
-/

namespace Textile.Modifiers

open Textile.Text Textile.Unicode

/-! ## Declarations -/

/-- The names that padding and alignment are declared under. -/
inductive Name
  | paddingLeft
  | paddingRight
  | textAlign
  | verticalAlign
  deriving Repr, DecidableEq

/-- The side of the padding. -/
inductive Side
  | left
  | right
  deriving Repr, DecidableEq

/-- The sign for one em of padding. -/
def Side.sign : Side → Char
  | left => '('
  | right => ')'

/-- A declaration of padding or alignment. -/
inductive Declaration
  | padding (side : Side) (ems : Nat)
  | textAlign (keyword : List Char)
  | verticalAlign (keyword : List Char)
  deriving Repr, DecidableEq

namespace Name

/-- The property that the name belongs to. -/
def property : Name → Property
  | paddingLeft | paddingRight => .padding
  | textAlign => .textAlign
  | verticalAlign => .verticalAlign

/-- The name in small letters. -/
def text : Name → List Char
  | paddingLeft => "padding-left".toList
  | paddingRight => "padding-right".toList
  | textAlign => "text-align".toList
  | verticalAlign => "vertical-align".toList

/-- The reader of the values under the name. -/
def readValue? : Name → List Char → Option (List Char × List Char)
  | paddingLeft => readEms? Side.left.sign
  | paddingRight => readEms? Side.right.sign
  | textAlign => readKeyword? Property.textAlignSigns
  | verticalAlign => readKeyword? Property.verticalAlignSigns

end Name

/-- The sign for a keyword that aligns a text, in any case of letters. Other keywords have none. -/
def textAlignSign (keyword : List Char) : List Char :=
  match String.ofList (keyword.map Char.toLower) with
  | "left" => ['<']
  | "right" => ['>']
  | "center" => ['=']
  | "justify" => ['<', '>']
  | _ => []

/-- The sign for a keyword that aligns a cell, in any case of letters. Other keywords have none. -/
def verticalAlignSign (keyword : List Char) : List Char :=
  match String.ofList (keyword.map Char.toLower) with
  | "top" => ['^']
  | "bottom" => ['~']
  | _ => []

namespace Declaration

/-- The name of the declaration. -/
def name : Declaration → Name
  | padding .left _ => .paddingLeft
  | padding .right _ => .paddingRight
  | textAlign _ => .textAlign
  | verticalAlign _ => .verticalAlign

/-- The property that is declared. -/
def property (declaration : Declaration) : Property :=
  declaration.name.property

/-- The signs of the declaration. -/
def signs : Declaration → List Char
  | padding side ems => List.replicate ems side.sign
  | textAlign keyword => textAlignSign keyword
  | verticalAlign keyword => verticalAlignSign keyword

/-- The texts of the declared value: a keyword as it is, and a number of ems in one or
two digits. -/
inductive IsValue : Declaration → List Char → Prop
  | padding {side : Side} {ems : Nat} {digits unit : List Char} (hdigits : IsNumeral 10 ems digits)
      (hlength : digits.length ≤ 2) (hunit : unit.map Char.toLower = ['e', 'm']) :
      IsValue (.padding side ems) (digits ++ unit)
  | textAlign {keyword : List Char} (hne : keyword ≠ [])
      (hword : ∀ c ∈ keyword, isWordCharacter c = true) : IsValue (.textAlign keyword) keyword
  | verticalAlign {keyword : List Char} (hne : keyword ≠ [])
      (hword : ∀ c ∈ keyword, isWordCharacter c = true) : IsValue (.verticalAlign keyword) keyword

/-- The texts that write a declaration. -/
inductive Writes (declaration : Declaration) : List Char → Prop
  | intro {before letters beforeColon afterColon value after : List Char}
      (hbefore : isBlank before = true)
      (hletters : letters.map Char.toLower = declaration.name.text)
      (hbeforeColon : isBlank beforeColon = true) (hafterColon : isBlank afterColon = true)
      (hvalue : declaration.IsValue value) (hafter : isBlank after = true) :
      Writes declaration
        (before ++ (letters ++ (beforeColon ++ ':' :: (afterColon ++ (value ++ after)))))

end Declaration

/-! ## Values -/

/-- The unit has its letters in either case. -/
theorem mem_unit {unit : List Char} (h : unit.map Char.toLower = ['e', 'm']) :
    ∀ c ∈ unit, c ∈ ['e', 'm', 'E', 'M'] := by
  intro c hc
  have hlower : c.toLower ∈ ['e', 'm'] := h ▸ List.mem_map_of_mem hc
  have hnat := toNat_toLower c
  simp only [List.mem_cons, List.not_mem_nil, or_false] at hlower ⊢
  simp only [← Char.toNat_inj] at hlower ⊢
  show c.toNat = 101 ∨ c.toNat = 109 ∨ c.toNat = 69 ∨ c.toNat = 77
  change c.toLower.toNat = 101 ∨ c.toLower.toNat = 109 at hlower
  split at hnat <;> omega

namespace Declaration.IsValue

variable {declaration : Declaration} {value : List Char}

theorem ne_nil (h : declaration.IsValue value) : value ≠ [] := by
  cases h with
  | padding hdigits hlength hunit =>
      exact fun hnil => hdigits.ne_nil (List.append_eq_nil_iff.mp hnil).1
  | textAlign hne hword => exact hne
  | verticalAlign hne hword => exact hne

theorem isWordCharacter (h : declaration.IsValue value) :
    ∀ c ∈ value, isWordCharacter c = true := by
  cases h with
  | padding hdigits hlength hunit =>
      intro c hc
      rcases List.mem_append.mp hc with hc | hc
      · have halphanum : c.isAlphanum = true := by simp [Char.isAlphanum, hdigits.isDigit hc]
        exact isWordCharacter_of_isAlphanum halphanum
      · have hletters : ['e', 'm', 'E', 'M'].all Unicode.isWordCharacter = true := by decide
        exact List.all_eq_true.mp hletters c (mem_unit hunit c hc)
  | textAlign hne hword => exact hword
  | verticalAlign hne hword => exact hword

/-- A value begins with no white space. -/
theorem trimStart_append (h : declaration.IsValue value) (rest : List Char) :
    trimStart (value ++ rest) = value ++ rest := by
  obtain ⟨c, cs, rfl⟩ := List.exists_cons_of_ne_nil h.ne_nil
  apply trimStart_of_head?
  rintro d ⟨⟩
  by_contra hwhite
  have hword := h.isWordCharacter c List.mem_cons_self
  rw [isWordCharacter_of_isWhiteSpace (Bool.not_eq_false _ ▸ hwhite)] at hword
  cases hword

end Declaration.IsValue

theorem dropKeyword?_eq (keyword cs : List Char) :
    dropKeyword? keyword cs =
      if keyword <+: cs.map Char.toLower then some (cs.drop keyword.length) else none := by
  fun_induction dropKeyword? keyword cs with
  | case1 cs => simp
  | case2 letters c cs ih => simp [ih]
  | case3 letter letters c cs hne => simp [Ne.symm hne]
  | case4 letter letters => simp

/-- A keyword is dropped whatever the case of its letters. -/
theorem dropKeyword?_letters {letters keyword : List Char}
    (h : letters.map Char.toLower = keyword) (rest : List Char) :
    dropKeyword? keyword (letters ++ rest) = some rest := by
  subst h
  rw [dropKeyword?_eq, List.map_append, if_pos (List.prefix_append _ _), List.length_map,
    List.drop_left]

/-- Where a keyword is dropped, its letters stand in one case or the other. -/
theorem exists_letters_of_dropKeyword? {keyword cs rest : List Char}
    (h : dropKeyword? keyword cs = some rest) :
    ∃ letters, cs = letters ++ rest ∧ letters.map Char.toLower = keyword := by
  rw [dropKeyword?_eq] at h
  split at h
  · next hstart =>
      cases h
      refine ⟨cs.take keyword.length, (List.take_append_drop _ cs).symm, ?_⟩
      rw [List.map_take]
      exact (List.prefix_iff_eq_take.mp hstart).symm
  · cases h

theorem readEms?_written {sign : Char} {ems : Nat} {digits unit : List Char}
    (hdigits : IsNumeral 10 ems digits) (hlength : digits.length ≤ 2)
    (hunit : unit.map Char.toLower = ['e', 'm']) :
    readEms? sign (digits ++ unit) = some (List.replicate ems sign, []) := by
  have hall : ∀ c ∈ digits, isDecimalDigit c = true := fun c hc =>
    isDecimalDigit_of_isDigit (hdigits.isDigit hc)
  have hstop : ∀ c ∈ unit, isDecimalDigit c = false := by
    have hletters : ['e', 'm', 'E', 'M'].all (!isDecimalDigit ·) = true := by decide
    exact fun c hc => by simpa using List.all_eq_true.mp hletters c (mem_unit hunit c hc)
  have hrest : unit.takeWhile isDecimalDigit = [] ∧ unit.dropWhile isDecimalDigit = unit := by
    cases unit with
    | nil => exact ⟨rfl, rfl⟩
    | cons c unit =>
        have hc : ¬isDecimalDigit c = true := by simp [hstop c List.mem_cons_self]
        exact ⟨List.takeWhile_cons_of_neg hc, List.dropWhile_cons_of_neg hc⟩
  have htake : (digits ++ unit).takeWhile isDecimalDigit = digits := by
    rw [List.takeWhile_append_of_pos hall, hrest.1, List.append_nil]
  have hdrop : (digits ++ unit).dropWhile isDecimalDigit = unit := by
    rw [List.dropWhile_append_of_pos hall, hrest.2]
  have hcount : digits.length = 1 ∨ digits.length = 2 := by
    have hpos := List.length_pos_of_ne_nil hdigits.ne_nil
    omega
  have hascii : digits.all Char.isDigit = true :=
    List.all_eq_true.mpr fun c hc => hdigits.isDigit hc
  have hem : dropKeyword? ['e', 'm'] unit = some [] := by
    rw [← List.append_nil unit, dropKeyword?_letters hunit]
  simp only [readEms?, htake, hdrop, if_pos hcount, hem, Option.map_some, hascii, if_true,
    hdigits.numberOfDigits_eq (by decide) (by decide)]

/-- The sign that is looked up for a keyword that aligns a text is its sign. -/
theorem lookup_textAlignSigns (keyword : List Char) :
    ((Property.textAlignSigns.lookup (lowercaseAscii (String.ofList keyword))).getD "").toList =
      textAlignSign keyword := by
  rw [textAlignSign, lowercaseAscii, String.toList_ofList]
  split
  · next h => rw [h]; rfl
  · next h => rw [h]; rfl
  · next h => rw [h]; rfl
  · next h => rw [h]; rfl
  · next hleft hright hcenter hjustify =>
      simp [Property.textAlignSigns, List.lookup_cons, beq_false_of_ne hleft,
        beq_false_of_ne hright, beq_false_of_ne hcenter, beq_false_of_ne hjustify]

/-- The sign that is looked up for a keyword that aligns a cell is its sign. -/
theorem lookup_verticalAlignSigns (keyword : List Char) :
    ((Property.verticalAlignSigns.lookup (lowercaseAscii (String.ofList keyword))).getD "").toList =
      verticalAlignSign keyword := by
  rw [verticalAlignSign, lowercaseAscii, String.toList_ofList]
  split
  · next h => rw [h]; rfl
  · next h => rw [h]; rfl
  · next htop hbottom =>
      simp [Property.verticalAlignSigns, List.lookup_cons, beq_false_of_ne htop,
        beq_false_of_ne hbottom]

/-- A keyword is read whole, as the sign that is looked up for it. -/
theorem readKeyword?_written {signs : List (String × String)} {keyword : List Char}
    (hne : keyword ≠ []) (hword : ∀ c ∈ keyword, isWordCharacter c = true) :
    readKeyword? signs keyword =
      some (((signs.lookup (lowercaseAscii (String.ofList keyword))).getD "").toList, []) := by
  have htake : keyword.takeWhile isWordCharacter = keyword := List.takeWhile_eq_self_iff.mpr hword
  have hdrop : keyword.dropWhile isWordCharacter = [] := List.dropWhile_eq_nil_iff.mpr hword
  unfold readKeyword?
  rw [htake, hdrop]
  split
  · exact absurd rfl hne
  · rfl

theorem Name.readValue?_stopsAtEnd (name : Name) : StopsAtEnd name.readValue? := by
  cases name with
  | paddingLeft => exact readEms?_stopsAtEnd _
  | paddingRight => exact readEms?_stopsAtEnd _
  | textAlign => exact readKeyword?_stopsAtEnd _
  | verticalAlign => exact readKeyword?_stopsAtEnd _

theorem Declaration.IsValue.readValue? {declaration : Declaration} {value : List Char}
    (h : declaration.IsValue value) :
    declaration.name.readValue? value = some (declaration.signs, []) := by
  cases h with
  | @padding side ems digits unit hdigits hlength hunit =>
      cases side with
      | left => exact readEms?_written hdigits hlength hunit
      | right => exact readEms?_written hdigits hlength hunit
  | textAlign hne hword =>
      have hread : readKeyword? Property.textAlignSigns value = _ :=
        readKeyword?_written hne hword
      rwa [lookup_textAlignSigns] at hread
  | verticalAlign hne hword =>
      have hread : readKeyword? Property.verticalAlignSigns value = _ :=
        readKeyword?_written hne hword
      rwa [lookup_verticalAlignSigns] at hread

/-! ## Names -/

namespace Name

/-- What stands in front of the hyphen. -/
def stem : Name → List Char
  | paddingLeft | paddingRight => "padding".toList
  | textAlign => "text".toList
  | verticalAlign => "vertical".toList

/-- What stands after the hyphen. -/
def ending : Name → List Char
  | paddingLeft => "left".toList
  | paddingRight => "right".toList
  | textAlign | verticalAlign => "align".toList

theorem text_eq (name : Name) : name.text = name.stem ++ '-' :: name.ending := by
  cases name <;> decide

theorem stem_ne_nil (name : Name) : name.stem ≠ [] := by
  cases name <;> decide

theorem ending_ne_nil (name : Name) : name.ending ≠ [] := by
  cases name <;> decide

theorem hyphen_not_mem_stem (name : Name) : '-' ∉ name.stem := by
  cases name <;> decide

theorem hyphen_not_mem_ending (name : Name) : '-' ∉ name.ending := by
  cases name <;> decide

theorem hyphen_mem_text (name : Name) : '-' ∈ name.text := by
  rw [text_eq]
  exact List.mem_append_right _ List.mem_cons_self

/-- The letters around the hyphen tell the names apart. -/
theorem eq_of_joint {name other : Name} (hstem : name.stem.getLast? = other.stem.getLast?)
    (hending : name.ending.head? = other.ending.head?) : name = other := by
  revert hstem hending
  cases name <;> cases other <;> decide

theorem text_ne_nil (name : Name) : name.text ≠ [] := by
  cases name <;> decide

/-- A name has no white space and no semicolon. -/
theorem isKeyword_text (name : Name) : IsKeyword name.text := by
  cases name <;> decide

variable {name other : Name}

/-- In a text with a single hyphen, a name stands in one place, and no other name stands there. -/
theorem eq_of_single_hyphen {before after front back : List Char} (hbefore : '-' ∉ before)
    (hafter : '-' ∉ after)
    (h : before ++ (name.text ++ after) = front ++ (other.text ++ back)) :
    other = name ∧ back = after := by
  -- Both sides are divided at their only hyphen.
  have hsplit : (before ++ name.stem) ++ '-' :: (name.ending ++ after) =
      (front ++ other.stem) ++ '-' :: (other.ending ++ back) := by
    rw [text_eq, text_eq] at h
    simpa using h
  obtain ⟨hleft, -, hright⟩ := (List.append_cons_inj_of_notMem
    (by simp [hbefore, name.hyphen_not_mem_stem])
    (by simp [hafter, name.hyphen_not_mem_ending])).mp hsplit
  have hsame : other = name := by
    apply eq_of_joint
    · have hlast := congrArg List.getLast? hleft
      rw [List.getLast?_append_of_ne_nil _ name.stem_ne_nil,
        List.getLast?_append_of_ne_nil _ other.stem_ne_nil] at hlast
      exact hlast.symm
    · have hhead := congrArg List.head? hright
      rw [List.head?_append_of_ne_nil _ name.ending_ne_nil,
        List.head?_append_of_ne_nil _ other.ending_ne_nil] at hhead
      exact hhead.symm
  subst hsame
  exact ⟨rfl, (List.append_cancel_left hright).symm⟩

/-- Only a hyphen becomes one in small letters. -/
theorem hyphen_not_mem_lower {cs : List Char} (h : '-' ∉ cs) : '-' ∉ cs.map Char.toLower := by
  intro hin
  obtain ⟨c, hc, hhyphen⟩ := List.mem_map.mp hin
  rw [eq_of_toLower_eq hhyphen (by decide)] at hc
  exact h hc

/-- A text with a single hyphen, which is that of a name. -/
structure Bears (name : Name) (text after : List Char) : Prop where
  exists_letters : ∃ before letters, text = before ++ (letters ++ after) ∧
    letters.map Char.toLower = name.text ∧ '-' ∉ before
  hyphen_not_mem : '-' ∉ after

/-- Only the name of the text is found in it, and only where it stands. -/
theorem Bears.found_once {text after part rest : List Char} (h : name.Bears text after)
    (hpart : part <:+ text) (hfound : dropKeyword? other.text part = some rest) :
    other = name ∧ rest = after := by
  obtain ⟨⟨before, letters, htext, hletters, hbefore⟩, hafter⟩ := h
  obtain ⟨front, heq⟩ := hpart
  obtain ⟨found, rfl, hname⟩ := exists_letters_of_dropKeyword? hfound
  have hboth : before ++ (letters ++ after) = front ++ (found ++ rest) := htext.symm.trans heq.symm
  have hlower := congrArg (List.map Char.toLower) hboth
  simp only [List.map_append, hletters, hname] at hlower
  obtain ⟨hsame, hrest⟩ :=
    eq_of_single_hyphen (hyphen_not_mem_lower hbefore) (hyphen_not_mem_lower hafter) hlower
  have hlength : after.length = rest.length := by
    simpa using (congrArg List.length hrest).symm
  rw [← List.append_assoc, ← List.append_assoc] at hboth
  exact ⟨hsame, (List.append_inj' hboth hlength).2.symm⟩

end Name

/-! ## Texts that a property misses -/

/-- No declaration of the property begins anywhere in the text. -/
def Property.Misses (property : Property) (text : List Char) : Prop :=
  ∀ part, part <:+ text → property.read? part = none

/-- A property reads nothing where none of its names is followed by a value. -/
theorem Property.read?_eq_none {property : Property} {cs : List Char}
    (h : ∀ name : Name, name.property = property →
      Modifiers.readToValue? name.text name.readValue? cs = none) :
    property.read? cs = none := by
  rw [read?_eq, Option.map_eq_none_iff]
  cases property with
  | padding =>
      have hleft : Modifiers.readToValue? "padding-left".toList (readEms? '(') cs = none :=
        h .paddingLeft rfl
      have hright : Modifiers.readToValue? "padding-right".toList (readEms? ')') cs = none :=
        h .paddingRight rfl
      rw [readToValue?, hleft, hright, Option.or_none]
  | textAlign => exact h .textAlign rfl
  | verticalAlign => exact h .verticalAlign rfl

theorem readToValue?_of_dropKeyword? {name : List Char}
    {readValue? : List Char → Option (List Char × List Char)} {cs : List Char}
    (h : ∀ rest, dropKeyword? name cs = some rest → (dropColon? rest).bind readValue? = none) :
    readToValue? name readValue? cs = none := by
  rw [readToValue?]
  cases hdrop : dropKeyword? name cs with
  | none => rfl
  | some rest => exact h rest hdrop

/-- A property misses the texts that none of its names stands in. -/
theorem Property.misses_of_absent {property : Property} {text : List Char}
    (h : ∀ name : Name, name.property = property → ¬name.text <:+: text.map Char.toLower) :
    property.Misses text := by
  intro part hpart
  apply read?_eq_none
  intro name hname
  apply readToValue?_of_dropKeyword?
  intro rest hdrop
  rw [dropKeyword?_eq, if_neg] at hdrop
  · cases hdrop
  · exact fun hstart => h name hname (hstart.isInfix.trans (hpart.map Char.toLower).isInfix)

namespace Name

variable {name : Name} {text after : List Char}

/-- A property of another name misses the text of a name. -/
theorem Bears.misses (h : name.Bears text after) {property : Property}
    (hproperty : property ≠ name.property) : property.Misses text := by
  intro part hpart
  apply Property.read?_eq_none
  intro other hother
  apply readToValue?_of_dropKeyword?
  intro rest hdrop
  obtain ⟨rfl, -⟩ := h.found_once hpart hdrop
  exact absurd hother.symm hproperty

/-- All properties miss a text with a name whose value is not read. -/
theorem misses_of_unread (h : name.Bears text after)
    (hvalue : (dropColon? after).bind name.readValue? = none) (property : Property) :
    property.Misses text := by
  intro part hpart
  apply Property.read?_eq_none
  intro other _
  apply readToValue?_of_dropKeyword?
  intro rest hdrop
  obtain ⟨rfl, rfl⟩ := h.found_once hpart hdrop
  exact hvalue

/-- Where the value after the name of a text is read, the property reads it. -/
theorem Bears.readToValue? (h : name.Bears text after) {cs : List Char} (hcs : cs <:+ text)
    {read : List Char × List Char}
    (hread : Modifiers.readToValue? name.text name.readValue? cs = some read) :
    name.property.readToValue? cs = some read := by
  cases name with
  | paddingLeft => exact Option.or_eq_some_iff.mpr (.inl hread)
  | paddingRight =>
      -- The left padding is tried first, and its name is not found in the text.
      have hleft : Modifiers.readToValue? "padding-left".toList (readEms? '(') cs = none := by
        apply readToValue?_of_dropKeyword?
        intro rest hdrop
        have hdrop' : dropKeyword? Name.paddingLeft.text cs = some rest := hdrop
        cases (h.found_once hcs hdrop').1
      exact Option.or_eq_some_iff.mpr (.inr ⟨hleft, hread⟩)
  | textAlign => exact hread
  | verticalAlign => exact hread

/-- A name begins with no white space. -/
theorem trimStart_letters {letters : List Char} (h : letters.map Char.toLower = name.text)
    (rest : List Char) : trimStart (letters ++ rest) = letters ++ rest := by
  cases letters with
  | nil => exact absurd h.symm name.text_ne_nil
  | cons c letters =>
      apply trimStart_of_head?
      rintro d ⟨⟩
      have hlower : isWhiteSpace c.toLower = false :=
        (name.isKeyword_text _ (h ▸ List.mem_map_of_mem List.mem_cons_self)).1
      rw [← Bool.not_eq_true]
      intro hwhite
      rw [toLower_of_isWhiteSpace hwhite, hwhite] at hlower
      cases hlower

end Name

/-! ## Texts that write a declaration -/

namespace Declaration.Writes

variable {declaration : Declaration} {text : List Char}

/-- Neither a hyphen nor a semicolon stands around the name. -/
theorem exists_parts (h : declaration.Writes text) :
    ∃ before letters after, text = before ++ (letters ++ after) ∧
      letters.map Char.toLower = declaration.name.text ∧
      ∀ c ∈ ['-', ';'], c ∉ before ∧ c ∉ after := by
  cases h with
  | @intro before letters beforeColon afterColon value after hbefore hletters hbeforeColon
      hafterColon hvalue hafter =>
    refine ⟨before, letters, _, rfl, hletters, fun c hc => ?_⟩
    obtain ⟨hwhite, hword, hcolon⟩ :
        isWhiteSpace c = false ∧ isWordCharacter c = false ∧ c ≠ ':' := by
      rcases List.mem_pair.mp hc with rfl | rfl
      · exact ⟨by decide, by decide +kernel, by decide⟩
      · exact ⟨by decide, by decide +kernel, by decide⟩
    have hnotValue : c ∉ value := fun hin => by
      rw [hvalue.isWordCharacter c hin] at hword
      cases hword
    simp only [List.mem_append, List.mem_cons, not_or]
    exact ⟨not_mem_of_isBlank hwhite hbefore, not_mem_of_isBlank hwhite hbeforeColon, hcolon,
      not_mem_of_isBlank hwhite hafterColon, hnotValue, not_mem_of_isBlank hwhite hafter⟩

theorem bears (h : declaration.Writes text) : ∃ after, declaration.name.Bears text after := by
  obtain ⟨before, letters, after, htext, hletters, haround⟩ := h.exists_parts
  obtain ⟨hbefore, hafter⟩ := haround '-' (by decide)
  exact ⟨after, ⟨before, letters, htext, hletters, hbefore⟩, hafter⟩

theorem not_mem_semicolon (h : declaration.Writes text) : ';' ∉ text := by
  obtain ⟨before, letters, after, rfl, hletters, haround⟩ := h.exists_parts
  obtain ⟨hbefore, hafter⟩ := haround ';' (by decide)
  have hnotLetter : ';' ∉ letters := fun hin =>
    (declaration.name.isKeyword_text _ (hletters ▸ List.mem_map_of_mem hin)).2 rfl
  simp only [List.mem_append, not_or]
  exact ⟨hbefore, hnotLetter, hafter⟩

/-- The readers of all other properties miss the text. -/
theorem misses (h : declaration.Writes text) {property : Property}
    (hproperty : property ≠ declaration.property) : property.Misses text := by
  obtain ⟨after, hbears⟩ := h.bears
  exact hbears.misses hproperty

/-- The reader of the name reads up to the white space at the end. -/
theorem readToValue? (h : declaration.Writes text) :
    ∃ after, isBlank after = true ∧
      Modifiers.readToValue? declaration.name.text declaration.name.readValue? (trimStart text) =
        some (declaration.signs, after) := by
  cases h with
  | @intro before letters beforeColon afterColon value after hbefore hletters hbeforeColon
      hafterColon hvalue hafter =>
    have hcolon : trimStart (beforeColon ++ ':' :: (afterColon ++ (value ++ after))) =
        ':' :: (afterColon ++ (value ++ after)) := by
      rw [trimStart_append hbeforeColon]
      rfl
    refine ⟨after, hafter, ?_⟩
    rw [trimStart_append hbefore, Name.trimStart_letters hletters, Modifiers.readToValue?,
      dropKeyword?_letters hletters, Option.bind_some, dropColon?_of_trimStart hcolon,
      Option.bind_some, trimStart_append hafterColon, hvalue.trimStart_append,
      declaration.name.readValue?_stopsAtEnd.append value (ends_of_isBlank hafter),
      hvalue.readValue?]
    rfl

/-- The text is read whole by the reader of its property. -/
theorem takes (h : declaration.Writes text) :
    declaration.property.read? (trimStart text) = some (declaration.signs, []) := by
  obtain ⟨after, hafter, hread⟩ := h.readToValue?
  obtain ⟨rest, hbears⟩ := h.bears
  have hend : dropSemicolon after = [] := by
    have hnone : trimStart after = [] := isBlank_iff_trimStart_eq_nil.mp hafter
    rw [dropSemicolon, hnone]
  rw [property, Property.read?_eq, hbears.readToValue? (trimStart_suffix text) hread, ← hend]
  rfl

end Declaration.Writes

end Textile.Modifiers
