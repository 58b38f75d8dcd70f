import Textile.Html.Namespace
import Textile.Html.RawText

/-!
# Markup

What an opening angle bracket may start: tags, comments, document types and sections of character
data. `Markup.read?` reads the text after the bracket. Markup that the document ends in the middle
of is skipped as a whole; a bracket that starts no markup is text.
-/

namespace Textile.Html

open Textile.Unicode Textile.Text

/-- A piece of markup. -/
inductive Markup
  | startTag (tag : StartTag)
  | endTag (name : String)
  /-- Character data, which is text. -/
  | characterData (text : List Char)
  /-- Comments, document types and the like. -/
  | skipped
  deriving Repr, DecidableEq

/-! ## Attributes -/

/-- Whether a character ends the name of an attribute. -/
def endsAttributeName (c : Char) : Bool :=
  endsTagName c || c == '='

/-- What follows a name in a tag, read as the value of an attribute and the rest of the tag. Nothing
is read if the text ends within the value. -/
def readValue? (cs : List Char) : Option (Option String × List Char) :=
  match cs.dropWhile isTagSpace with
  | '=' :: cs =>
    match cs.dropWhile isTagSpace with
    | [] => none
    | '>' :: cs => some (none, '>' :: cs)
    | c :: cs =>
      if c = '"' ∨ c = '\'' then
        match cs.dropWhile (· ≠ c) with
        | [] => none
        | _ :: rest => some (some (String.ofList (cs.takeWhile (· ≠ c))), rest)
      else
        let inValue (d : Char) : Bool := !isTagSpace d && d != '>'
        some (some (String.ofList ((c :: cs).takeWhile inValue)), (c :: cs).dropWhile inValue)
  | cs => some (some "", cs)

/-- Reads an attribute of a tag whose name starts with `c`. -/
def readAttribute? (c : Char) (cs : List Char) : Option ((String × Option String) × List Char) :=
  let name := c :: cs.takeWhile (!endsAttributeName ·)
  (readValue? (cs.dropWhile (!endsAttributeName ·))).map fun (value, rest) =>
    ((lowercaseAscii (String.ofList name), value), rest)

theorem length_of_readValue? {cs rest : List Char} {value : Option String}
    (h : readValue? cs = some (value, rest)) : rest.length ≤ cs.length := by
  have drop (p : Char → Bool) (l : List Char) : (l.dropWhile p).length ≤ l.length :=
    (List.dropWhile_sublist p).length_le
  have hcs := drop isTagSpace cs
  unfold readValue? at h
  split at h
  · rename_i after heq
    have hafter := drop isTagSpace after
    rw [heq, List.length_cons] at hcs
    split at h
    · cases h
    · rename_i heq'
      cases h
      rw [heq'] at hafter
      omega
    · rename_i c inside _ heq'
      rw [heq', List.length_cons] at hafter
      split at h
      · have hinside := drop (· ≠ c) inside
        split at h
        · cases h
        · rename_i heq''
          cases h
          rw [heq'', List.length_cons] at hinside
          omega
      · cases h
        refine Nat.le_trans (drop _ _) ?_
        rw [List.length_cons]
        omega
  · cases h
    exact hcs

theorem length_of_readAttribute? {c : Char} {cs rest : List Char}
    {entry : String × Option String} (h : readAttribute? c cs = some (entry, rest)) :
    rest.length ≤ cs.length := by
  obtain ⟨⟨value, rest'⟩, hread, heq⟩ := Option.map_eq_some_iff.1 h
  cases heq
  exact Nat.le_trans (length_of_readValue? hread) (List.dropWhile_sublist _).length_le

/-! ## Tags -/

/-- What a tag says after its name. -/
structure TagBody where
  attributes : List (String × Option String)
  selfClosing : Bool
  deriving Repr, DecidableEq

/-- Reads a tag from the end of its name, and gives the text after the tag. Nothing is read if the
text ends within the tag. -/
def readTagBody? : List Char → Option (TagBody × List Char)
  | [] => none
  | c :: cs =>
    if isTagSpace c then readTagBody? cs
    else if c = '>' then some (⟨[], false⟩, cs)
    else if c = '/' then
      if cs.head? = some '>' then some (⟨[], true⟩, cs.drop 1) else readTagBody? cs
    else
      match _h : readAttribute? c cs with
      | some (entry, rest) =>
        (readTagBody? rest).map fun (body, rest) =>
          ({ body with attributes := entry :: body.attributes }, rest)
      | none => none
  termination_by cs => cs.length
  decreasing_by
    · simp
    · simp
    · have := length_of_readAttribute? _h
      simp; omega

theorem length_of_readTagBody? {cs rest : List Char} {body : TagBody}
    (h : readTagBody? cs = some (body, rest)) : rest.length < cs.length := by
  fun_induction readTagBody? cs generalizing body rest with
  | case1 => cases h
  | case2 c cs _ ih => exact Nat.lt_succ_of_lt (ih h)
  | case3 => cases h; exact Nat.lt_succ_self _
  | case4 => cases h; rw [List.length_drop, List.length_cons]; omega
  | case5 cs _ _ _ ih => exact Nat.lt_succ_of_lt (ih h)
  | case6 c cs _ _ _ entry after hread ih =>
    obtain ⟨⟨body', rest'⟩, hbody, heq⟩ := Option.map_eq_some_iff.1 h
    cases heq
    have h1 := length_of_readAttribute? hread
    have h2 := ih hbody
    simp; omega
  | case7 => cases h

/-- Reads a tag from its name on. A tag that the document ends in is skipped. -/
def readTag (ofTag : StartTag → Markup) (cs : List Char) : Markup × List Char :=
  let name := String.ofList (cs.takeWhile (!endsTagName ·))
  match readTagBody? (cs.dropWhile (!endsTagName ·)) with
  | some (body, rest) => (ofTag ⟨name, body.attributes, body.selfClosing⟩, rest)
  | none => (.skipped, [])

/-! ## Comments and declarations -/

/-- The text after the first closing angle bracket. -/
def afterBracket (cs : List Char) : List Char :=
  (cs.dropWhile (· ≠ '>')).drop 1

/-- The text after the first end of a comment. -/
def afterCommentEnd : List Char → List Char
  | [] => []
  | '-' :: '-' :: '>' :: rest => rest
  | '-' :: '-' :: '!' :: '>' :: rest => rest
  | _ :: cs => afterCommentEnd cs

/-- The text after a comment, from the text after its opening. An end may follow at once. -/
def afterComment : List Char → List Char
  | '>' :: rest => rest
  | '-' :: '>' :: rest => rest
  | cs => afterCommentEnd cs

/-- The text up to the end of a section of character data, and the text after the section. -/
def splitAtDataEnd : List Char → List Char × List Char
  | [] => ([], [])
  | ']' :: ']' :: '>' :: rest => ([], rest)
  | c :: cs =>
    let (text, rest) := splitAtDataEnd cs
    (c :: text, rest)

/-- The text that opens a section of character data after `<!`. -/
def dataOpening : List Char := ['[', 'C', 'D', 'A', 'T', 'A', '[']

/-- Reads markup from the text after `<!`. Sections of character data are known in foreign content
only; whatever is not known ends at the first closing bracket, as document types do. -/
def readDeclaration (inForeign : Bool) (cs : List Char) : Markup × List Char :=
  if ['-', '-'].isPrefixOf cs then (.skipped, afterComment (cs.drop 2))
  else if inForeign ∧ dataOpening.isPrefixOf cs then
    let (text, rest) := splitAtDataEnd (cs.drop dataOpening.length)
    (.characterData text, rest)
  else (.skipped, afterBracket cs)

/-! ## All markup -/

/-- Reads markup from the text after an opening angle bracket, where `inForeign` says whether the
text is part of foreign content. -/
def Markup.read? (inForeign : Bool) : List Char → Option (Markup × List Char)
  | [] => none
  | '!' :: cs => some (readDeclaration inForeign cs)
  | '?' :: cs => some (.skipped, afterBracket cs)
  | ['/'] => none
  | '/' :: c :: cs =>
    if c.isAlpha then some (readTag (fun tag => .endTag tag.name) (c :: cs))
    else some (.skipped, afterBracket (c :: cs))
  | c :: cs => if c.isAlpha then some (readTag .startTag (c :: cs)) else none

theorem length_readTag_le (ofTag : StartTag → Markup) (cs : List Char) :
    (readTag ofTag cs).2.length ≤ cs.length := by
  have hle : (cs.dropWhile (!endsTagName ·)).length ≤ cs.length :=
    (List.dropWhile_sublist _).length_le
  unfold readTag
  simp only
  split
  · rename_i heq
    exact Nat.le_of_lt (Nat.lt_of_lt_of_le (length_of_readTagBody? heq) hle)
  · exact Nat.zero_le _

theorem length_afterBracket_le (cs : List Char) : (afterBracket cs).length ≤ cs.length :=
  ((List.drop_sublist _ _).trans (List.dropWhile_sublist _)).length_le

theorem length_afterCommentEnd_le (cs : List Char) : (afterCommentEnd cs).length ≤ cs.length := by
  fun_induction afterCommentEnd cs <;> simp <;> omega

theorem length_afterComment_le (cs : List Char) : (afterComment cs).length ≤ cs.length := by
  unfold afterComment
  split
  · simp
  · simp; omega
  · exact length_afterCommentEnd_le _

theorem length_splitAtDataEnd_le (cs : List Char) :
    (splitAtDataEnd cs).2.length ≤ cs.length := by
  fun_induction splitAtDataEnd cs with
  | case1 => simp
  | case2 => simp; omega
  | case3 c cs _ text rest heq ih => rw [heq] at ih; simp at ih ⊢; omega

theorem length_readDeclaration_le (inForeign : Bool) (cs : List Char) :
    (readDeclaration inForeign cs).2.length ≤ cs.length := by
  unfold readDeclaration
  split
  · exact Nat.le_trans (length_afterComment_le _) (List.drop_sublist _ _).length_le
  · split
    · exact Nat.le_trans (length_splitAtDataEnd_le _) (List.drop_sublist _ _).length_le
    · exact length_afterBracket_le cs

theorem Markup.length_of_read? {inForeign : Bool} {cs rest : List Char} {markup : Markup}
    (h : Markup.read? inForeign cs = some (markup, rest)) : rest.length ≤ cs.length := by
  unfold Markup.read? at h
  split at h
  · cases h
  · rename_i after
    have hle := length_readDeclaration_le inForeign after
    rw [Option.some.inj h] at hle
    simp at hle ⊢; omega
  · rename_i after
    cases h
    have := length_afterBracket_le after
    simp; omega
  · cases h
  · rename_i c after
    split at h
    · have hle := length_readTag_le (fun tag => .endTag tag.name) (c :: after)
      rw [Option.some.inj h] at hle
      simp at hle ⊢; omega
    · cases h
      have := length_afterBracket_le (c :: after)
      simp at this ⊢; omega
  · rename_i c after _ _ _ _
    split at h
    · have hle := length_readTag_le .startTag (c :: after)
      rw [Option.some.inj h] at hle
      exact hle
    · cases h

end Textile.Html
