import Textile.Html.Token

/-!
# Tokens of plain sources

A source in which every bracket belongs to a tag is divided into its tags and the
texts between them: text is passed over up to the next bracket (`scan_append`), a
tag is read whole (`scan_startTag`, `scan_endTag`).
-/

namespace Textile.Html

open Textile.Unicode

/-! ## Tags -/

/-- A name that is read as the name of a tag: it starts with a letter and goes on
up to the end of the name. -/
structure IsTagName (name : List Char) : Prop where
  startsWithLetter : ∃ c rest, name = c :: rest ∧ c.isAlpha = true
  goesOn : ∀ c ∈ name, endsTagName c = false

/-- A text that follows the name of a tag, and how it is read: what the tag says, and
the text after it. -/
structure ReadsBody (after : List Char) (body : TagBody) (rest : List Char) : Prop where
  endsName : ∃ c cs, after = c :: cs ∧ endsTagName c = true
  read : readTagBody? after = some (body, rest)

/-- A tag that ends after its name. -/
theorem readsBody_bracket (rest : List Char) : ReadsBody ('>' :: rest) ⟨[], false⟩ rest where
  endsName := ⟨'>', rest, rfl, by decide⟩
  read := by rw [readTagBody?, if_neg (by decide), if_pos rfl]

namespace IsTagName

variable {name after rest : List Char} {body : TagBody}

theorem readTag_eq (hname : IsTagName name) (h : ReadsBody after body rest)
    (ofTag : StartTag → Markup) :
    readTag ofTag (name ++ after) =
      (ofTag ⟨String.ofList name, body.attributes, body.selfClosing⟩, rest) := by
  obtain ⟨⟨c, cs, rfl, hends⟩, hread⟩ := h
  have hgoesOn : ∀ c ∈ name, (!endsTagName c) = true := by
    intro c hc
    rw [hname.goesOn c hc]
    rfl
  have htake : (c :: cs).takeWhile (!endsTagName ·) = [] :=
    List.takeWhile_cons_of_neg (by simp [hends])
  have hdrop : (c :: cs).dropWhile (!endsTagName ·) = c :: cs :=
    List.dropWhile_cons_of_neg (by simp [hends])
  rw [readTag, List.takeWhile_append_of_pos hgoesOn, List.dropWhile_append_of_pos hgoesOn,
    htake, hdrop, hread, List.append_nil]

theorem read?_startTag (hname : IsTagName name) (h : ReadsBody after body rest)
    (inForeign : Bool) :
    Markup.read? inForeign (name ++ after) =
      some (.startTag ⟨String.ofList name, body.attributes, body.selfClosing⟩, rest) := by
  have hread := hname.readTag_eq h .startTag
  obtain ⟨c, name, rfl, hletter⟩ := hname.startsWithLetter
  rw [List.cons_append] at hread ⊢
  unfold Markup.read?
  -- What starts other markup is no letter.
  split <;> simp_all [show Char.isAlpha '!' = false from rfl,
    show Char.isAlpha '?' = false from rfl, show Char.isAlpha '/' = false from rfl]

theorem read?_endTag (hname : IsTagName name) (inForeign : Bool) (rest : List Char) :
    Markup.read? inForeign ('/' :: (name ++ '>' :: rest)) =
      some (.endTag (lowercaseAscii (String.ofList name)), rest) := by
  have hread := hname.readTag_eq (readsBody_bracket rest) (fun tag => .endTag tag.name)
  obtain ⟨c, name, rfl, hletter⟩ := hname.startsWithLetter
  rw [List.cons_append] at hread ⊢
  simp only [Markup.read?, hletter, if_true, hread]
  rfl

end IsTagName

namespace Token

/-! ## Scanning -/

theorem scan_nil (spaces : Namespaces) (text : List Char) :
    scan spaces text [] = ofText text := by
  rw [scan]

/-- Text is passed over up to the next bracket. -/
theorem scan_append {text : List Char} (h : '<' ∉ text) (spaces : Namespaces)
    (before rest : List Char) :
    scan spaces before (text ++ rest) = scan spaces (text.reverse ++ before) rest := by
  induction text generalizing before with
  | nil => rfl
  | cons c text ih =>
      rw [List.mem_cons, not_or] at h
      rw [List.cons_append, scan, if_neg (Ne.symm h.1), ih h.2]
      simp

theorem scan_startTag {name after rest : List Char} {body : TagBody} {tag : StartTag}
    (hname : IsTagName name) (h : ReadsBody after body rest)
    (htag : tag = ⟨String.ofList name, body.attributes, body.selfClosing⟩) {spaces : Namespaces}
    (hraw : rawText? spaces tag = none) (text : List Char) :
    scan spaces text ('<' :: (name ++ after)) =
      ofText text ++ startTag tag (spaces.afterStart tag).current ::
        scan (spaces.afterStart tag) [] rest := by
  have hread := hname.read?_startTag h (decide (spaces.current ≠ .html))
  rw [← htag] at hread
  rw [scan, if_pos rfl]
  split <;> rename_i heq <;> rw [hread] at heq <;> cases heq
  rw [hraw]

theorem scan_endTag {name : List Char} (hname : IsTagName name) (spaces : Namespaces)
    (text rest : List Char) :
    scan spaces text ('<' :: '/' :: (name ++ '>' :: rest)) =
      ofText text ++ endTag (lowercaseAscii (String.ofList name)) ::
        scan (spaces.afterEnd (lowercaseAscii (String.ofList name))) [] rest := by
  have hread := hname.read?_endTag (decide (spaces.current ≠ .html)) rest
  rw [scan, if_pos rfl]
  split <;> rename_i heq <;> rw [hread] at heq <;> cases heq
  rfl

end Token

end Textile.Html
