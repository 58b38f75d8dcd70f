import Mathlib.Data.List.Infix
import Textile.Text.Run

/-!
# Escaped text

A text is written into a source with references in place of the three characters
that mean something there.

* **Stand-ins** (`plain_of_not_isInfix`): a run in which no ampersand is followed
  by a number sign holds no reference that has a stand-in, so it is decoded and
  nothing else. A run without ampersands is left as it is (`plain_of_not_mem`).
* **Round trip** (`decode_escape`, `plain_escape`): decoding an escaped text gives
  the text back, whatever references the text itself may spell.
-/

namespace Textile.Text

/-! ## Stand-ins -/

/-- Nothing is replaced where the first two characters of what is sought do not
meet. -/
theorem replaceAll_of_not_isInfix {first second : Char} {cs : List Char}
    (h : ¬[first, second] <:+: cs) (others new : List Char) :
    replaceAll first (second :: others) new cs = cs := by
  induction cs with
  | nil => rw [replaceAll]
  | cons c cs ih =>
      rw [List.infix_cons_iff, not_or] at h
      obtain ⟨hhere, hlater⟩ := h
      have hmiss : ¬(c = first ∧ (second :: others).isPrefixOf cs = true) := by
        rintro ⟨rfl, hothers⟩
        -- What is sought would begin with the two characters, here.
        obtain ⟨rest, rfl⟩ := List.isPrefixOf_iff_prefix.mp hothers
        exact hhere ⟨others ++ rest, rfl⟩
      rw [replaceAll, if_neg hmiss, ih hlater]

/-- Stand-ins are for numeric references alone. -/
theorem plain_of_not_isInfix {run : List Char} (h : ¬['&', '#'] <:+: run) :
    plain run = decode run := by
  have hfold (replaced : List StandIn) : replaced.foldl StandIn.apply run = run := by
    induction replaced with
    | nil => rfl
    | cons standIn replaced ih =>
        rw [List.foldl_cons, StandIn.apply, StandIn.body, List.cons_append,
          replaceAll_of_not_isInfix h]
        exact ih
  rw [plain, hfold]

/-! ## Text without references -/

theorem decode_cons_of_ne {c : Char} (h : c ≠ '&') (cs : List Char) :
    decode (c :: cs) = c :: decode cs := by
  rw [decode, if_neg h]

theorem decode_of_not_mem {cs : List Char} (h : '&' ∉ cs) : decode cs = cs := by
  induction cs with
  | nil => rw [decode]
  | cons c cs ih =>
      rw [List.mem_cons, not_or] at h
      rw [decode_cons_of_ne (Ne.symm h.1), ih h.2]

theorem plain_of_not_mem {run : List Char} (h : '&' ∉ run) : plain run = run := by
  have hinfix : ¬['&', '#'] <:+: run := fun hin => h (hin.subset List.mem_cons_self)
  rw [plain_of_not_isInfix hinfix, decode_of_not_mem h]

/-- A run whose characters hold no newline is written as it is within a line. -/
theorem writtenRun_eq_plain {run : List Char} (h : '\n' ∉ plain run) :
    writtenRun run false = plain run := by
  have hmap : (plain run).map (fun c => if c = '\n' then ' ' else c) = plain run := by
    conv => rhs; rw [← List.map_id (plain run)]
    apply List.map_congr_left
    intro c hc
    apply if_neg
    rintro rfl
    exact h hc
  have hlast : (plain run).getLast? ≠ some '\n' := fun hlast =>
    h (List.mem_of_getLast? hlast)
  simp only [writtenRun, hmap, if_neg hlast]
  rfl

/-! ## Escaped text -/

/-- A character as it is written into a source. -/
def escapeChar (c : Char) : List Char :=
  if c = '&' then ['&', 'a', 'm', 'p', ';']
  else if c = '<' then ['&', 'l', 't', ';']
  else if c = '>' then ['&', 'g', 't', ';']
  else [c]

/-- A text as it is written into a source. -/
def escape (text : List Char) : List Char :=
  text.flatMap escapeChar

theorem escapeChar_ne_nil (c : Char) : escapeChar c ≠ [] := by
  unfold escapeChar
  split
  · exact List.cons_ne_nil _ _
  · split
    · exact List.cons_ne_nil _ _
    · split <;> exact List.cons_ne_nil _ _

/-- Escaping leaves something of every character. -/
theorem isEmpty_escape (text : List Char) : (escape text).isEmpty = text.isEmpty := by
  cases text with
  | nil => rfl
  | cons c text => simp [escape, escapeChar_ne_nil]

/-- A body that is followed by a semicolon is taken whole. -/
theorem Reference.readBody?_append {inBody : Char → Bool} {body : List Char}
    (hbody : ∀ c ∈ body, inBody c = true) (hend : inBody ';' = false) {least most : Nat}
    (hleast : least ≤ body.length) (hmost : body.length ≤ most)
    (ofBody : List Char → Reference) (rest : List Char) :
    readBody? ofBody inBody least most (body ++ ';' :: rest) = some (ofBody body, rest) := by
  rw [readBody?, List.takeWhile_append_of_pos hbody, List.dropWhile_append_of_pos hbody,
    List.takeWhile_cons_of_neg (by simp [hend]), List.dropWhile_cons_of_neg (by simp [hend]),
    List.append_nil]
  exact if_pos ⟨hleast, hmost⟩

/-- A name that is followed by a semicolon is taken whole. -/
theorem Reference.read?_named (c : Char) (name : List Char) (hfirst : c.isAlpha = true)
    (hname : name.all Char.isAlphanum = true) (hleast : 1 ≤ name.length)
    (hmost : name.length ≤ 31) (rest : List Char) :
    read? (c :: name ++ ';' :: rest) = some (.named (c :: name), rest) := by
  have hbody : ∀ d ∈ c :: name, d.isAlphanum = true := by
    intro d hd
    rcases List.mem_cons.mp hd with rfl | hd
    · rw [Char.isAlphanum, hfirst, Bool.true_or]
    · exact List.all_eq_true.mp hname d hd
  have hread := readBody?_append hbody (by decide) (Nat.succ_le_succ hleast)
    (Nat.succ_le_succ hmost) named rest
  unfold read?
  split
  · next hnumber =>
      -- A number sign is no letter.
      rw [(List.cons.inj hnumber).1] at hfirst
      exact absurd hfirst (by decide)
  · next hcons =>
      cases hcons
      rw [if_pos hfirst]
      exact hread
  · next hnil => cases hnil

/-- Decoding goes on after a reference that stands for a character. -/
theorem decode_of_readCharacter? {cs rest : List Char} {c : Char}
    (h : Reference.readCharacter? cs = some (c, rest)) : decode ('&' :: cs) = c :: decode rest := by
  rw [decode, if_pos rfl]
  split
  · next heq =>
      rw [h] at heq
      cases heq
      rfl
  · next heq =>
      rw [h] at heq
      cases heq

/-- Decoding takes a named reference whole. -/
theorem decode_named (c : Char) (name : List Char) {code : Nat} {named : Char}
    (hfirst : c.isAlpha = true) (hname : name.all Char.isAlphanum = true)
    (hleast : 1 ≤ name.length) (hmost : name.length ≤ 31)
    (hcode : Reference.Names.codePoint? (String.ofList (c :: name)) = some code)
    (hnamed : scalar? code = some named) (rest : List Char) :
    decode ('&' :: (c :: name ++ ';' :: rest)) = named :: decode rest := by
  apply decode_of_readCharacter?
  simp only [Reference.readCharacter?, Option.bind_some,
    Reference.read?_named c name hfirst hname hleast hmost rest, Reference.character?,
    Reference.codePoint?, hcode, hnamed, Option.map_some]

/-- The reference that a character is escaped by is read back as a whole. -/
theorem decode_escapeChar (c : Char) (rest : List Char) :
    decode (escapeChar c ++ rest) = c :: decode rest := by
  unfold escapeChar
  split
  · next hc =>
      subst hc
      exact decode_named 'a' ['m', 'p'] (by decide) (by decide) (by decide) (by decide) rfl rfl
        rest
  · split
    · next hc =>
        subst hc
        exact decode_named 'l' ['t'] (by decide) (by decide) (by decide) (by decide) rfl rfl
          rest
    · split
      · next hc =>
          subst hc
          exact decode_named 'g' ['t'] (by decide) (by decide) (by decide) (by decide) rfl rfl
            rest
      · next hc _ _ => exact decode_cons_of_ne hc rest

/-- References are decoded once: what the text itself spells stays as it is. -/
theorem decode_escape (text : List Char) : decode (escape text) = text := by
  induction text with
  | nil => rw [escape, List.flatMap_nil, decode]
  | cons c text ih =>
      rw [escape, List.flatMap_cons, decode_escapeChar]
      exact congrArg (c :: ·) ih

/-- No reference that a character is escaped by is numeric. -/
theorem not_isInfix_escapeChar_append {rest : List Char} (h : ¬['&', '#'] <:+: rest)
    (c : Char) : ¬['&', '#'] <:+: escapeChar c ++ rest := by
  unfold escapeChar
  split
  · simpa [List.infix_cons_iff] using h
  · split
    · simpa [List.infix_cons_iff] using h
    · split
      · simpa [List.infix_cons_iff] using h
      · next hc _ _ =>
          simpa [List.infix_cons_iff, Ne.symm hc] using h

theorem not_isInfix_escape (text : List Char) : ¬['&', '#'] <:+: escape text := by
  induction text with
  | nil => simp [escape]
  | cons c text ih =>
      rw [escape, List.flatMap_cons]
      exact not_isInfix_escapeChar_append ih c

theorem plain_escape (text : List Char) : plain (escape text) = text := by
  rw [plain_of_not_isInfix (not_isInfix_escape text), decode_escape]

/-- The characters of the references that special characters are escaped by. -/
def referenceChars : List Char := ['&', 'a', 'm', 'p', 'l', 'g', 't', ';']

theorem mem_escapeChar {c d : Char} (h : d ∈ escapeChar c) :
    d ∈ referenceChars ∨ (d = c ∧ c ∉ ['&', '<', '>']) := by
  have hamp : ['&', 'a', 'm', 'p', ';'].Sublist referenceChars := by decide
  have hlt : ['&', 'l', 't', ';'].Sublist referenceChars := by decide
  have hgt : ['&', 'g', 't', ';'].Sublist referenceChars := by decide
  unfold escapeChar at h
  split at h
  · exact .inl (hamp.subset h)
  · split at h
    · exact .inl (hlt.subset h)
    · split at h
      · exact .inl (hgt.subset h)
      · next hamp hlt hgt =>
          right
          simp [List.mem_singleton.mp h, hamp, hlt, hgt]

/-- An escaped text holds the characters of references, and those of the text that
mean nothing in a source. -/
theorem mem_escape {text : List Char} {d : Char} (h : d ∈ escape text) :
    d ∈ referenceChars ∨ (d ∈ text ∧ d ∉ ['&', '<', '>']) := by
  obtain ⟨c, hc, hd⟩ := List.mem_flatMap.mp h
  rcases mem_escapeChar hd with href | ⟨rfl, hplain⟩
  · exact .inl href
  · exact .inr ⟨hc, hplain⟩

end Textile.Text
