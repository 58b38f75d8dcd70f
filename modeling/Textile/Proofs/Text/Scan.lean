import Textile.Proofs.Newlines
import Textile.Proofs.Text.Escape
import Textile.Proofs.Text.Numeral

/-!
# Runs of text in one pass

The stand-ins of a run are put in place one after the other, each in a pass of its own, and
decoding is one more pass. This file shows that a single pass from left to right does the same:
what one pass writes is never taken for a part of a reference by a later one.

* **Passes** (`Reader.scan`): a pass replaces each reference that its reader reads, and copies
  every other character. Both the replacement of a stand-in and decoding are passes.
* **Two passes** (`Reader.scan_scan`): they are a single one if the second reader is not disturbed
  by what the first one writes.
* **Replaced texts** (`Reader.Sealed`): a text that begins with a character that no reference
  holds ends whatever is read, just as the ampersand in its place did, so it disturbs no reader
  (`Reader.Sealed.reference`, `Reader.Sealed.ofStandIn`).

`writtenRun_eq_scan` puts these together with what is done to the ends of a run.
-/

namespace Textile.Text

open Textile.Unicode

/-- A way of reading a reference from the text after its ampersand: as the text that is put in
its place, and what follows it. -/
structure Reader where
  read? : List Char → Option (List Char × List Char)
  length_le {cs text rest : List Char} :
    read? cs = some (text, rest) → rest.length ≤ cs.length

/-- A reference that has no number sign has a name. -/
theorem Reference.read?_of_ne {c : Char} (h : c ≠ '#') (cs : List Char) :
    read? (c :: cs) =
      if c.isAlpha then readBody? named Char.isAlphanum 2 32 (c :: cs) else none := by
  unfold read?
  split
  · next heq => exact absurd (List.cons.inj heq).1 h
  · next heq => cases heq; rfl
  · next heq => cases heq

namespace Reader

/-! ## Passes -/

/-- A pass over a text from left to right: each reference that is read is replaced, and every
other character is copied. -/
def scan (reader : Reader) : List Char → List Char
  | [] => []
  | c :: cs =>
    if c = '&' then
      match _h : reader.read? cs with
      | some (text, rest) => text ++ reader.scan rest
      | none => c :: reader.scan cs
    else
      c :: reader.scan cs
  termination_by cs => cs.length
  decreasing_by
    · have hrest := reader.length_le _h
      rw [List.length_cons]
      omega
    all_goals exact Nat.lt_succ_self _

/-- Reads the reference of a stand-in. -/
def ofStandIn (standIn : StandIn) : Reader where
  read? cs := (cs.dropPrefix? standIn.body).map fun rest => (standIn.text.toList, rest)
  length_le := by
    intro cs text rest h
    obtain ⟨rest', hrest, heq⟩ := Option.map_eq_some_iff.mp h
    obtain ⟨body, rfl, -⟩ := List.dropPrefix?_eq_some_iff.mp hrest
    cases heq
    simp

/-- Reads a reference to a character. -/
def reference : Reader where
  read? cs := (Reference.readCharacter? cs).map fun (c, rest) => ([c], rest)
  length_le := by
    intro cs text rest h
    obtain ⟨⟨c, rest'⟩, hread, heq⟩ := Option.map_eq_some_iff.mp h
    cases heq
    exact Nat.le_of_lt (Reference.length_of_readCharacter? hread)

/-- Reads as the first of two readers does, or else as the second. -/
def orElse (first second : Reader) : Reader where
  read? cs := (first.read? cs).or (second.read? cs)
  length_le := by
    intro cs text rest h
    rcases Option.or_eq_some_iff.mp h with hfirst | ⟨-, hsecond⟩
    · exact first.length_le hfirst
    · exact second.length_le hsecond

/-- Reads a reference by the first stand-in that it has, or else by the character that it stands
for. -/
def withStandIns (standIns : List StandIn) : Reader :=
  standIns.foldr (fun standIn later => (ofStandIn standIn).orElse later) reference

section Equations

variable (reader : Reader) {cs text rest : List Char}

theorem scan_nil : reader.scan [] = [] := by
  rw [scan]

theorem scan_cons_of_ne {c : Char} (h : c ≠ '&') (cs : List Char) :
    reader.scan (c :: cs) = c :: reader.scan cs := by
  rw [scan, if_neg h]

theorem scan_of_read? (h : reader.read? cs = some (text, rest)) :
    reader.scan ('&' :: cs) = text ++ reader.scan rest := by
  rw [scan, if_pos rfl]
  split
  · next heq =>
      rw [h] at heq
      cases heq
      rfl
  · next heq =>
      rw [h] at heq
      cases heq

theorem scan_of_read?_eq_none (h : reader.read? cs = none) :
    reader.scan ('&' :: cs) = '&' :: reader.scan cs := by
  rw [scan, if_pos rfl]
  split
  · next heq =>
      rw [h] at heq
      cases heq
  · rfl

/-- A text without ampersands is copied. -/
theorem scan_append_of_not_mem (h : '&' ∉ text) (cs : List Char) :
    reader.scan (text ++ cs) = text ++ reader.scan cs := by
  induction text with
  | nil => rfl
  | cons c text ih =>
      rw [List.mem_cons, not_or] at h
      rw [List.cons_append, scan_cons_of_ne reader (Ne.symm h.1), ih h.2, List.cons_append]

end Equations

/-- Decoding is a pass. -/
theorem scan_reference (cs : List Char) : reference.scan cs = decode cs := by
  fun_induction decode cs with
  | case1 => exact scan_nil _
  | case2 cs decoded rest hread ih =>
      have hsome : reference.read? cs = some ([decoded], rest) := by simp [reference, hread]
      rw [scan_of_read? _ hsome, ih]
      rfl
  | case3 cs hread ih =>
      have hnone : reference.read? cs = none := by simp [reference, hread]
      rw [scan_of_read?_eq_none _ hnone, ih]
  | case4 c cs hne ih => rw [scan_cons_of_ne _ hne, ih]

theorem isPrefixOf_of_dropPrefix? {cs body rest : List Char}
    (h : cs.dropPrefix? body = some rest) : body.isPrefixOf cs = true := by
  obtain ⟨body', rfl, hbody⟩ := List.dropPrefix?_eq_some_iff.mp h
  rw [beq_iff_eq.mp hbody]
  exact List.isPrefixOf_iff_prefix.mpr (List.prefix_append _ _)

/-- Putting a stand-in in place is a pass. -/
theorem scan_ofStandIn (standIn : StandIn) (cs : List Char) :
    (ofStandIn standIn).scan cs = standIn.apply cs := by
  rw [StandIn.apply]
  fun_induction replaceAll '&' standIn.body standIn.text.toList cs with
  | case1 => exact scan_nil _
  | case2 c cs hfound ih =>
      obtain ⟨rfl, hbody⟩ := hfound
      obtain ⟨rest, rfl⟩ := List.isPrefixOf_iff_prefix.mp hbody
      have hsome : (ofStandIn standIn).read? (standIn.body ++ rest) =
          some (standIn.text.toList, rest) := by
        have hdrop : (standIn.body ++ rest).dropPrefix? standIn.body = some rest :=
          List.dropPrefix?_eq_some_iff.mpr ⟨standIn.body, rfl, beq_self_eq_true _⟩
        simp [ofStandIn, hdrop]
      rw [List.drop_left] at ih ⊢
      rw [scan_of_read? _ hsome, ih]
  | case3 c cs hmissed ih =>
      by_cases hc : c = '&'
      · subst hc
        have hnone : (ofStandIn standIn).read? cs = none := by
          rw [Option.eq_none_iff_forall_ne_some]
          intro read hread
          obtain ⟨rest, hrest, -⟩ := Option.map_eq_some_iff.mp hread
          exact hmissed ⟨rfl, isPrefixOf_of_dropPrefix? hrest⟩
        rw [scan_of_read?_eq_none _ hnone, ih]
      · rw [scan_cons_of_ne _ hc, ih]

/-! ## Two passes -/

/-- A reader is not disturbed by a pass of another one: it reads there what it reads in the text
itself. -/
def Undisturbed (second first : Reader) : Prop :=
  ∀ cs, second.read? (first.scan cs) =
    (second.read? cs).map fun (text, rest) => (text, first.scan rest)

theorem Undisturbed.orElse {first second third : Reader} (hsecond : second.Undisturbed first)
    (hthird : third.Undisturbed first) : (second.orElse third).Undisturbed first := by
  intro cs
  show ((second.read? _).or (third.read? _)) = ((second.read? _).or (third.read? _)).map _
  rw [hsecond cs, hthird cs, Option.map_or]

/-- Two passes are a single one, in which the first reader comes first. -/
theorem scan_scan {first second : Reader} (h : second.Undisturbed first)
    (hplain : ∀ {cs text rest}, first.read? cs = some (text, rest) → '&' ∉ text) :
    ∀ cs, second.scan (first.scan cs) = (first.orElse second).scan cs
  | [] => by rw [scan_nil, scan_nil, scan_nil]
  | c :: cs => by
      by_cases hc : c = '&'
      · subst hc
        cases hfirst : first.read? cs with
        | some read =>
            obtain ⟨text, rest⟩ := read
            have hboth : (first.orElse second).read? cs = some (text, rest) := by
              simp [Reader.orElse, hfirst]
            have hlength := first.length_le hfirst
            -- What the first pass puts there holds no ampersand, so the second one copies it.
            rw [scan_of_read? _ hfirst, scan_of_read? _ hboth,
              scan_append_of_not_mem _ (hplain hfirst), scan_scan h hplain rest]
        | none =>
            have hboth : (first.orElse second).read? cs = second.read? cs := by
              simp [Reader.orElse, hfirst]
            rw [scan_of_read?_eq_none _ hfirst]
            -- The ampersand is left to the second pass, which reads on as in the text itself.
            have hagain := h cs
            cases hsecond : second.read? cs with
            | some read =>
                obtain ⟨text, rest⟩ := read
                rw [hsecond] at hagain hboth
                have hlength := second.length_le hsecond
                rw [scan_of_read? _ hagain, scan_of_read? _ hboth, scan_scan h hplain rest]
            | none =>
                rw [hsecond] at hagain hboth
                rw [scan_of_read?_eq_none _ hagain, scan_of_read?_eq_none _ hboth,
                  scan_scan h hplain cs]
      · rw [scan_cons_of_ne _ hc, scan_cons_of_ne _ hc, scan_cons_of_ne _ hc,
          scan_scan h hplain cs]
  termination_by cs => cs.length
  decreasing_by all_goals grind

/-! ## Replaced texts -/

/-- Whether a character may stand in a reference, after its ampersand. -/
def isReferenceChar (c : Char) : Bool :=
  c.isAlphanum || c == '#' || c == ';'

theorem isReferenceChar_of_isAlphanum (c : Char) (h : c.isAlphanum = true) :
    isReferenceChar c = true := by
  rw [isReferenceChar, h, Bool.true_or, Bool.true_or]

theorem isReferenceChar_of_isDigit (c : Char) (h : c.isDigit = true) :
    isReferenceChar c = true := by
  apply isReferenceChar_of_isAlphanum
  rw [Char.isAlphanum, h, Bool.or_true]

theorem isReferenceChar_of_isHexDigit (c : Char) (h : isHexDigit c = true) :
    isReferenceChar c = true := by
  apply isReferenceChar_of_isAlphanum
  show (c.isUpper || c.isLower || c.isDigit) = true
  rcases isHexDigit_iff.mp h with (hdigit | hsmall) | hcapital
  · rw [isDigit_iff.mpr hdigit, Bool.or_true]
  · rw [isLower_iff.mpr (by omega), Bool.or_true, Bool.true_or]
  · have hupper : c.isUpper = true :=
      decide_eq_true (show 65 ≤ c.toNat ∧ c.toNat ≤ 90 by omega)
    rw [hupper, Bool.true_or, Bool.true_or]

theorem isAlpha_of_isReferenceChar_eq_false {c : Char} (h : isReferenceChar c = false) :
    c.isAlpha = false := by
  simp only [isReferenceChar, Char.isAlphanum, Bool.or_eq_false_iff] at h
  exact h.1.1.1

/-- What a reader puts in place of a reference begins with a character that no reference holds,
and holds no ampersand. -/
structure Sealed (reader : Reader) : Prop where
  first {cs text rest : List Char} : reader.read? cs = some (text, rest) →
    ∃ c others, text = c :: others ∧ isReferenceChar c = false
  plain {cs text rest : List Char} : reader.read? cs = some (text, rest) → '&' ∉ text

/-- Characters of references are copied. -/
theorem scan_cons_of_isReferenceChar (reader : Reader) {c : Char} (h : isReferenceChar c = true)
    (cs : List Char) : reader.scan (c :: cs) = c :: reader.scan cs := by
  apply scan_cons_of_ne
  rintro rfl
  exact absurd h (by decide)

namespace Sealed

variable {reader : Reader}

/-- A character is copied, or a pass leaves one there of which it is true as well that no
reference holds it. -/
theorem scan_cons (h : reader.Sealed) (c : Char) (cs : List Char) :
    reader.scan (c :: cs) = c :: reader.scan cs ∨
      isReferenceChar c = false ∧
        ∃ d others, reader.scan (c :: cs) = d :: others ∧ isReferenceChar d = false := by
  by_cases hc : c = '&'
  · subst hc
    cases hread : reader.read? cs with
    | some read =>
        obtain ⟨text, rest⟩ := read
        obtain ⟨d, others, rfl, hd⟩ := h.first hread
        exact .inr ⟨by decide, d, _, scan_of_read? _ hread, hd⟩
    | none => exact .inl (scan_of_read?_eq_none _ hread)
  · exact .inl (scan_cons_of_ne _ hc cs)

/-- A pass leaves a stretch of characters of references as it is, and goes on after it. -/
theorem span_scan (h : reader.Sealed) {inBody : Char → Bool}
    (hbody : ∀ c, inBody c = true → isReferenceChar c = true) (cs : List Char) :
    (reader.scan cs).takeWhile inBody = cs.takeWhile inBody ∧
      (reader.scan cs).dropWhile inBody = reader.scan (cs.dropWhile inBody) := by
  have hout {c : Char} (hc : isReferenceChar c = false) : ¬inBody c = true := by
    intro hin
    rw [hbody c hin] at hc
    cases hc
  induction cs with
  | nil => simp [scan_nil]
  | cons c cs ih =>
      obtain ⟨htake, hdrop⟩ := ih
      by_cases hc : inBody c = true
      · rw [scan_cons_of_isReferenceChar _ (hbody c hc), List.takeWhile_cons_of_pos hc,
          List.takeWhile_cons_of_pos hc, List.dropWhile_cons_of_pos hc,
          List.dropWhile_cons_of_pos hc, htake]
        exact ⟨rfl, hdrop⟩
      · -- The stretch ends at this character, and at what a pass leaves in its place as well.
        rw [List.takeWhile_cons_of_neg hc, List.dropWhile_cons_of_neg hc]
        rcases h.scan_cons c cs with hcopy | ⟨-, d, others, hleft, hd⟩
        · rw [hcopy, List.takeWhile_cons_of_neg hc, List.dropWhile_cons_of_neg hc]
          exact ⟨rfl, rfl⟩
        · rw [hleft, List.takeWhile_cons_of_neg (hout hd), List.dropWhile_cons_of_neg (hout hd)]
          exact ⟨rfl, rfl⟩

/-- The body of a reference is read after a pass as it is before. -/
theorem readBody?_scan (h : reader.Sealed) {inBody : Char → Bool}
    (hbody : ∀ c, inBody c = true → isReferenceChar c = true)
    (ofBody : List Char → Reference) (least most : Nat) (cs : List Char) :
    Reference.readBody? ofBody inBody least most (reader.scan cs) =
      (Reference.readBody? ofBody inBody least most cs).map
        fun (read, rest) => (read, reader.scan rest) := by
  obtain ⟨htake, hdrop⟩ := h.span_scan hbody cs
  rw [Reference.readBody?, Reference.readBody?, htake, hdrop]
  cases cs.dropWhile inBody with
  | nil => rw [scan_nil]; rfl
  | cons c rest =>
      by_cases hc : c = ';'
      · subst hc
        rw [scan_cons_of_isReferenceChar _ (by decide)]
        simp only
        split <;> rfl
      · rcases h.scan_cons c rest with hcopy | ⟨-, d, others, hleft, hd⟩
        · rw [hcopy]
          simp [hc]
        · have hd : d ≠ ';' := by
            rintro rfl
            exact absurd hd (by decide)
          rw [hleft]
          simp [hc, hd]

/-- A word of such characters is found after a pass where it stands before. -/
theorem dropPrefix?_scan (h : reader.Sealed) {word : List Char}
    (hword : ∀ c ∈ word, isReferenceChar c = true) (cs : List Char) :
    (reader.scan cs).dropPrefix? word = (cs.dropPrefix? word).map reader.scan := by
  induction word generalizing cs with
  | nil => simp
  | cons c word ih =>
      obtain ⟨hc, hrest⟩ := List.forall_mem_cons.mp hword
      cases cs with
      | nil => rw [scan_nil]; rfl
      | cons d cs =>
          by_cases hd : d = c
          · rw [hd, scan_cons_of_isReferenceChar _ hc]
            simp [List.dropPrefix?, ih hrest]
          · rcases h.scan_cons d cs with hcopy | ⟨-, e, others, hleft, he⟩
            · simp [hcopy, List.dropPrefix?, hd]
            · have hne : e ≠ c := by
                rintro rfl
                rw [hc] at he
                cases he
              simp [hleft, List.dropPrefix?, hd, hne]

/-- What follows a number sign is read after a pass as it is before. -/
theorem read?_sign_scan (h : reader.Sealed) (cs : List Char) :
    Reference.read? ('#' :: reader.scan cs) =
      (Reference.read? ('#' :: cs)).map fun (read, rest) => (read, reader.scan rest) := by
  cases cs with
  | nil => rw [scan_nil]; rfl
  | cons c cs =>
      by_cases hx : c = 'x' ∨ c = 'X'
      · have hc : isReferenceChar c = true := by rcases hx with rfl | rfl <;> decide
        rw [scan_cons_of_isReferenceChar _ hc, Reference.read?, Reference.read?, if_pos hx,
          if_pos hx]
        exact h.readBody?_scan isReferenceChar_of_isHexDigit _ _ _ _
      · rw [Reference.read?, if_neg hx,
          ← h.readBody?_scan isReferenceChar_of_isDigit .decimal 1 7 (c :: cs)]
        rcases h.scan_cons c cs with hcopy | ⟨-, d, others, hleft, hd⟩
        · rw [hcopy, Reference.read?, if_neg hx]
        · have hdx : ¬(d = 'x' ∨ d = 'X') := by
            rintro (rfl | rfl) <;> exact absurd hd (by decide)
          rw [hleft, Reference.read?, if_neg hdx]

/-- So is a reference of any kind: the characters that tell the kinds apart are copied, and no
others take their place. -/
theorem read?_scan (h : reader.Sealed) (cs : List Char) :
    Reference.read? (reader.scan cs) =
      (Reference.read? cs).map fun (read, rest) => (read, reader.scan rest) := by
  cases cs with
  | nil => rw [scan_nil]; rfl
  | cons c cs =>
      by_cases hsign : c = '#'
      · rw [hsign, scan_cons_of_isReferenceChar _ (by decide)]
        exact h.read?_sign_scan cs
      · rw [Reference.read?_of_ne hsign]
        rcases h.scan_cons c cs with hcopy | ⟨hc, d, others, hleft, hd⟩
        · rw [hcopy, Reference.read?_of_ne hsign, ← hcopy,
            h.readBody?_scan isReferenceChar_of_isAlphanum]
          split <;> rfl
        · have hdsign : d ≠ '#' := by
            rintro rfl
            exact absurd hd (by decide)
          rw [hleft, Reference.read?_of_ne hdsign, isAlpha_of_isReferenceChar_eq_false hd,
            isAlpha_of_isReferenceChar_eq_false hc]
          rfl

/-- Decoding is not disturbed. -/
theorem reference (h : reader.Sealed) : Undisturbed .reference reader := by
  intro cs
  simp only [Reader.reference, Reference.readCharacter?, h.read?_scan cs]
  cases Reference.read? cs with
  | none => rfl
  | some read =>
      obtain ⟨read, rest⟩ := read
      simp only [Option.map_some, Option.bind_some]
      cases read.character? <;> rfl

/-- No other stand-in is disturbed, if its reference is made of characters of references. -/
theorem ofStandIn (h : reader.Sealed) {standIn : StandIn}
    (hbody : ∀ c ∈ standIn.body, isReferenceChar c = true) :
    Undisturbed (.ofStandIn standIn) reader := by
  intro cs
  simp only [Reader.ofStandIn]
  rw [h.dropPrefix?_scan hbody]
  cases cs.dropPrefix? standIn.body <;> rfl

end Sealed

end Reader

/-! ## Runs -/

/-- The reference of a stand-in is made of characters of references, and its text begins with
another character and holds no ampersand. -/
def StandIn.isApart (standIn : StandIn) : Bool :=
  standIn.body.all Reader.isReferenceChar &&
    !standIn.text.toList.head?.all Reader.isReferenceChar &&
    !standIn.text.toList.contains '&'

theorem isApart_standIns : standIns.all StandIn.isApart = true := by decide

namespace Reader

theorem sealed_ofStandIn {standIn : StandIn} (h : standIn.isApart = true) :
    (ofStandIn standIn).Sealed := by
  simp only [StandIn.isApart, Bool.and_eq_true] at h
  obtain ⟨⟨-, hfirst⟩, hplain⟩ := h
  have htext {cs text rest : List Char} (hread : (ofStandIn standIn).read? cs = some (text, rest)) :
      text = standIn.text.toList := by
    obtain ⟨rest', -, heq⟩ := Option.map_eq_some_iff.mp hread
    exact (Prod.mk.inj heq).1.symm
  refine ⟨fun hread => ?_, fun hread => ?_⟩
  · rw [htext hread]
    cases hhead : standIn.text.toList.head? with
    | none => simp [hhead] at hfirst
    | some c =>
        obtain ⟨others, hothers⟩ := List.head?_eq_some_iff.mp hhead
        exact ⟨c, others, hothers, by simpa [hhead] using hfirst⟩
  · rw [htext hread]
    simpa using hplain

theorem undisturbed_withStandIns {standIn : StandIn} (h : standIn.isApart = true)
    {later : List StandIn} (hlater : later.all StandIn.isApart = true) :
    (withStandIns later).Undisturbed (ofStandIn standIn) := by
  have hsealed := sealed_ofStandIn h
  induction later with
  | nil => exact hsealed.reference
  | cons next later ih =>
      rw [List.all_cons, Bool.and_eq_true] at hlater
      obtain ⟨hnext, hlater⟩ := hlater
      simp only [StandIn.isApart, Bool.and_eq_true] at hnext
      exact (hsealed.ofStandIn (List.all_eq_true.mp hnext.1.1)).orElse (ih hlater)

/-- Stand-ins put in place one after the other, and decoding after them, are one pass. -/
theorem decode_foldl_apply {standIns : List StandIn}
    (h : standIns.all StandIn.isApart = true) (run : List Char) :
    decode (standIns.foldl StandIn.apply run) = (withStandIns standIns).scan run := by
  induction standIns generalizing run with
  | nil => exact (scan_reference run).symm
  | cons standIn later ih =>
      rw [List.all_cons, Bool.and_eq_true] at h
      rw [List.foldl_cons, ih h.2, ← scan_ofStandIn]
      exact scan_scan (undisturbed_withStandIns h.1 h.2) (sealed_ofStandIn h.1).plain run

/-- A reference that is cut in two by another one is not put together by what replaces that. -/
example : (withStandIns standIns).scan "&#1&#8217;74; &#174;".toList = "&#1'74; (R)".toList := by
  decide +kernel

end Reader

/-- A newline and the space in its place are both white space. -/
theorem filter_newlinesToSpaces (text : List Char) :
    (text.map fun c => if c = '\n' then ' ' else c).filter (!isWhiteSpace ·) =
      text.filter (!isWhiteSpace ·) := by
  induction text with
  | nil => rfl
  | cons c text ih =>
      rw [List.map_cons, List.filter_cons, List.filter_cons, ih]
      by_cases hc : c = '\n'
      · subst hc
        rfl
      · rw [if_neg hc]

/-- A run is written as one pass from left to right leaves it: a reference that has a stand-in is
replaced by that, any other reference to a character by the character, and all else is copied. Of
what the pass leaves, each newline becomes a space, the white space at the end goes if that was a
newline, and the white space at the start goes where the run begins a line. So a run is written in
one line, and its visible characters are those of the pass, in order. -/
theorem writtenRun_eq_scan (run : List Char) (atLineStart : Bool) :
    let text := (Reader.withStandIns standIns).scan run
    let line := text.map fun c => if c = '\n' then ' ' else c
    let line := if text.getLast? = some '\n' then trimEnd line else line
    writtenRun run atLineStart = (if atLineStart then trimStart line else line) ∧
      '\n' ∉ writtenRun run atLineStart ∧
      (writtenRun run atLineStart).filter (!isWhiteSpace ·) = text.filter (!isWhiteSpace ·) := by
  intro text spaced line
  have hplain : plain run = text := Reader.decode_foldl_apply isApart_standIns run
  have hwritten : writtenRun run atLineStart = if atLineStart then trimStart line else line := by
    simp only [writtenRun, hplain]
    rfl
  have hwhite : ∀ c, isWhiteSpace c = true → (!isWhiteSpace c) = false := by
    intro c hc
    rw [hc]
    rfl
  have hspaced : spaced.filter (!isWhiteSpace ·) = text.filter (!isWhiteSpace ·) :=
    filter_newlinesToSpaces text
  have hline : line.filter (!isWhiteSpace ·) = spaced.filter (!isWhiteSpace ·) := by
    show List.filter _ (if _ then _ else _) = _
    split
    · exact filter_trimEnd hwhite _
    · rfl
  refine ⟨hwritten, newline_not_mem_writtenRun run atLineStart, ?_⟩
  rw [hwritten, ← hspaced, ← hline]
  split
  · exact filter_trimStart hwhite _
  · rfl

/-- All ten stand-ins, a reference to an ampersand in front of what would be another one, and white
space at both ends. -/
theorem writtenRun_eq_scan_standIns :
    writtenRun (" &#8220;a&#8221;&#8212;&#8211;&#8230;&#215;&#8482;&#174;&#169;&#8217;".toList ++
        "&#38;#174;\n&#x41; \n".toList) true =
      "'a'---... x (TM)(R)(C)'&#174; A".toList :=
  (writtenRun_eq_scan _ _).1.trans (by decide +kernel)

end Textile.Text
