import Mathlib.Data.List.Forall2
import Textile.Proofs.Html.Input

/-!
# Ignored elements

What stands in an ignored element leaves no trace but the numbers it has used up.

* **Inside** (`Nesting.Within`): while an ignored element is open, nothing becomes an
  event and no text is held back, whatever starts and ends in it
  (`Nesting.Within.run`). Once it ends, or an element around it ends, or the document
  ends, the nesting goes on as if the element had never started
  (`Nesting.Within.stop_outer`, `Nesting.Within.finish_eq`).
* **Two runs** (`Nesting.Alike`): of two documents that differ in what an ignored
  element contains, what follows makes the same events. The elements that follow may
  have other numbers, so ends are compared by which element they name
  (`Corresponding`).

`ignored_noninterference` puts these together.
-/

namespace Textile.Html

namespace Nesting

/-! ## Inside an ignored element -/

/-- An ignored element is open, within some elements around it. What has started in it
is kept from becoming events as well, and has greater numbers. -/
structure Within (element : Opened) (enclosing : List Opened) (nesting : Nesting) : Prop where
  silenced : element.forwarded = false
  outer : ∀ other ∈ enclosing, other.id < element.id
  opened : ∃ inner, nesting.opened = inner ++ element :: enclosing ∧
    ∀ other ∈ inner, element.id < other.id ∧ other.forwarded = false
  pending : nesting.pending = ""
  nextId : element.id < nesting.nextId

theorem heldBack_of_pending {nesting : Nesting} (h : nesting.pending = "") :
    nesting.heldBack = [] := by
  rw [heldBack, h]
  rfl

/-- Elements that are kept from becoming events end in silence. -/
theorem filterMap_stop?_eq_nil {elements : List Opened}
    (h : ∀ element ∈ elements, element.forwarded = false) :
    elements.filterMap Opened.stop? = [] := by
  rw [List.filterMap_eq_nil_iff]
  intro element helement
  rw [Opened.stop?, h element helement]
  rfl

/-- An end of an element that is not among the outer ones ends inner ones at most. -/
theorem reach_append_le {id : Nat} {outer : List Opened} (hout : reach id outer = 0)
    (inner : List Opened) : reach id (inner ++ outer) ≤ inner.length := by
  induction inner with
  | nil => exact Nat.le_of_eq hout
  | cons element inner ih =>
      by_cases hid : element.id = id
      · rw [List.cons_append, reach_cons_of_eq hid]
        exact Nat.succ_le_succ (Nat.zero_le _)
      · rw [List.cons_append, reach_cons_of_ne hid]
        split
        · exact Nat.zero_le _
        · exact Nat.succ_le_succ ih

/-- An end of an outer element ends all inner ones. -/
theorem reach_append {id : Nat} {inner : List Opened} (hinner : ∀ other ∈ inner, other.id ≠ id)
    {outer : List Opened} (hout : reach id outer ≠ 0) :
    reach id (inner ++ outer) = inner.length + reach id outer := by
  induction inner with
  | nil => exact (Nat.zero_add _).symm
  | cons element inner ih =>
      have hrest : reach id (inner ++ outer) = inner.length + reach id outer := by
        apply ih
        intro other hother
        exact hinner other (List.mem_cons_of_mem _ hother)
      rw [List.cons_append, reach_cons_of_ne (hinner element List.mem_cons_self), hrest,
        if_neg (by omega), List.length_cons]
      omega

namespace Within

variable {element : Opened} {enclosing : List Opened} {nesting : Nesting}

theorem suppressed (h : Within element enclosing nesting) : nesting.suppressed = true := by
  obtain ⟨inner, hopened, -⟩ := h.opened
  rw [Nesting.suppressed, hopened, List.any_append, List.any_cons, h.silenced, Bool.not_false,
    Bool.true_or, Bool.or_true]

/-- What starts inside makes no event. -/
theorem start (h : Within element enclosing nesting) (options : Options) (name : String)
    (attributes : Attributes) :
    Within element enclosing (nesting.start options name attributes).1 ∧
      (nesting.start options name attributes).2 = [] ∧
      (nesting.start options name attributes).1.nextId = nesting.nextId + 1 := by
  have hforwards : nesting.forwards options name = false := by
    rw [forwards, h.suppressed, Bool.not_true, Bool.and_false]
  obtain ⟨inner, hopened, hinner⟩ := h.opened
  rw [start_eq, hforwards, heldBack_of_pending h.pending]
  refine ⟨⟨h.silenced, h.outer, ⟨_ :: inner, congrArg _ hopened, ?_⟩, rfl, ?_⟩, rfl, rfl⟩
  · intro other hother
    rcases List.mem_cons.mp hother with rfl | hother
    · exact ⟨h.nextId, rfl⟩
    · exact hinner other hother
  · exact Nat.lt_succ_of_lt h.nextId

/-- Text inside goes nowhere. -/
theorem text_eq (h : Within element enclosing nesting) (part : String) (last : Bool) :
    nesting.text part last = (nesting, []) := by
  rw [Nesting.text_eq, hold_of_suppressed h.suppressed, heldBack_of_pending h.pending,
    ← h.pending]
  exact ite_self _

/-- An end that names neither the ignored element nor one around it ends what has
started inside, if anything. -/
theorem stop_inner (h : Within element enclosing nesting) {id : Nat}
    (hid : reach id (element :: enclosing) = 0) :
    Within element enclosing (nesting.stop id).1 ∧ (nesting.stop id).2 = [] ∧
      (nesting.stop id).1.nextId = nesting.nextId := by
  obtain ⟨inner, hopened, hinner⟩ := h.opened
  have hcount : reach id nesting.opened ≤ inner.length := hopened ▸ reach_append_le hid inner
  have hended : nesting.opened.take (reach id nesting.opened) =
      inner.take (reach id nesting.opened) := by
    rw [hopened] at hcount ⊢
    exact List.take_append_of_le_length hcount
  have hleft : nesting.opened.drop (reach id nesting.opened) =
      inner.drop (reach id nesting.opened) ++ element :: enclosing := by
    rw [hopened] at hcount ⊢
    exact List.drop_append_of_le_length hcount
  rw [stop_eq_close_reach, close, heldBack_of_pending h.pending, hended, hleft]
  refine ⟨⟨h.silenced, h.outer, ⟨_, rfl, ?_⟩, rfl, h.nextId⟩, ?_, rfl⟩
  · intro other hother
    exact hinner other (List.mem_of_mem_drop hother)
  · apply filterMap_stop?_eq_nil
    intro other hother
    exact (hinner other (List.mem_of_mem_take hother)).2

/-- The ignored element ends with all that is in it in silence. -/
theorem close_outer (h : Within element enclosing nesting) {inner : List Opened}
    (hopened : nesting.opened = inner ++ element :: enclosing)
    (hinner : ∀ other ∈ inner, other.forwarded = false) (count : Nat) :
    nesting.close (inner.length + 1 + count) =
      close ⟨enclosing, nesting.nextId, ""⟩ count := by
  have hsplit : nesting.opened = (inner ++ [element]) ++ enclosing := by
    rw [hopened, List.append_cons]
  have hlength : inner.length + 1 = (inner ++ [element]).length := by simp
  have hsilent : (inner ++ [element]).filterMap Opened.stop? = [] := by
    apply filterMap_stop?_eq_nil
    intro other hother
    rcases List.mem_append.mp hother with hother | hother
    · exact hinner other hother
    · rw [List.mem_singleton.mp hother]
      exact h.silenced
  rw [close, close, hsplit, hlength, List.drop_length_add_append, List.take_length_add_append,
    List.filterMap_append, hsilent, heldBack_of_pending h.pending]
  rfl

/-- The end of the ignored element, or of one around it, is that of a nesting in which
the ignored element has never started. -/
theorem stop_outer (h : Within element enclosing nesting) {id : Nat}
    (hid : reach id (element :: enclosing) ≠ 0) :
    nesting.stop id = stop ⟨enclosing, nesting.nextId, ""⟩ id := by
  obtain ⟨inner, hopened, hinner⟩ := h.opened
  -- The ignored element is reached first, wherever the end goes on to.
  have hreach : reach id (element :: enclosing) = 1 + reach id enclosing ∧ id ≤ element.id := by
    by_cases heq : element.id = id
    · have hnone : reach id enclosing = 0 := by
        rw [reach_eq_zero_iff]
        intro hmem
        obtain ⟨other, hother, rfl⟩ := List.mem_map.mp hmem
        exact Nat.ne_of_gt (h.outer other hother) heq
      rw [reach_cons_of_eq heq, hnone]
      exact ⟨rfl, heq.ge⟩
    · rw [reach_cons_of_ne heq] at hid ⊢
      have hsome : reach id enclosing ≠ 0 := fun hnone => hid (if_pos hnone)
      have hmem : id ∈ enclosing.map (·.id) :=
        not_not.mp fun hout => hsome (reach_eq_zero_iff.mpr hout)
      obtain ⟨other, hother, rfl⟩ := List.mem_map.mp hmem
      rw [if_neg hsome, Nat.add_comm]
      exact ⟨rfl, Nat.le_of_lt (h.outer other hother)⟩
  have hdistinct : ∀ other ∈ inner, other.id ≠ id := by
    intro other hother
    exact Nat.ne_of_gt (Nat.lt_of_le_of_lt hreach.2 (hinner other hother).1)
  rw [stop_eq_close_reach, stop_eq_close_reach, hopened, reach_append hdistinct hid, hreach.1,
    ← Nat.add_assoc, h.close_outer hopened fun other hother => (hinner other hother).2]

theorem finish_eq (h : Within element enclosing nesting) :
    nesting.finish = finish ⟨enclosing, nesting.nextId, ""⟩ := by
  obtain ⟨inner, hopened, hinner⟩ := h.opened
  have hlength : nesting.opened.length = inner.length + 1 + enclosing.length := by
    simp only [hopened, List.length_append, List.length_cons]
    omega
  rw [finish_eq_close, hlength, h.close_outer hopened fun other hother => (hinner other hother).2,
    finish_eq_close]

/-- Whatever is reported inside makes no event, until an end names the ignored element
or one around it. -/
theorem run (h : Within element enclosing nesting) (options : Options)
    {reports : List Report}
    (hinside : ∀ id, .stop id ∈ reports → id ∉ (element :: enclosing).map (·.id)) :
    Within element enclosing (nesting.run options reports).1 ∧
      (nesting.run options reports).2 = [] := by
  induction reports generalizing nesting with
  | nil => exact ⟨h, rfl⟩
  | cons report reports ih =>
      have hstep : Within element enclosing (nesting.step options report).1 ∧
          (nesting.step options report).2 = [] := by
        cases report with
        | start name attributes =>
            obtain ⟨hwithin, hnone, -⟩ := h.start options name attributes
            exact ⟨hwithin, hnone⟩
        | text part last =>
            rw [step, h.text_eq]
            exact ⟨h, rfl⟩
        | stop id =>
            have hid := reach_eq_zero_iff.mpr (hinside id List.mem_cons_self)
            obtain ⟨hwithin, hnone, -⟩ := h.stop_inner hid
            exact ⟨hwithin, hnone⟩
      obtain ⟨hwithin, hnone⟩ := hstep
      have hremain : ∀ id, .stop id ∈ reports → id ∉ (element :: enclosing).map (·.id) := by
        intro id hid
        exact hinside id (List.mem_cons_of_mem _ hid)
      obtain ⟨hlast, hrest⟩ := ih hwithin hremain
      rw [Nesting.run, hnone, hrest]
      exact ⟨hlast, rfl⟩

end Within
end Nesting

/-! ## Two runs -/

/-- Two runs have reached the content of the same ignored element, the element `id`,
and they differ in what it contains. `Corresponding id first first'` relates the
numbers by which they name elements, if those that start after the content have
numbers from `first` on in one run and from `first'` on in the other. -/
inductive Corresponding (id first first' : Nat) : Nat → Nat → Prop
  /-- The ignored element and those before it are the same in both runs. -/
  | earlier {number : Nat} : number ≤ id → Corresponding id first first' number number
  /-- What the ignored element contains is anything. -/
  | inner {number number' : Nat} : id < number → number < first → id < number' →
      number' < first' → Corresponding id first first' number number'
  /-- What follows starts in the same order. -/
  | later (count : Nat) : Corresponding id first first' (first + count) (first' + count)

/-- Two inputs are the same, apart from the numbers by which they name elements. -/
inductive Input.Matches (same : Nat → Nat → Prop) : Input → Input → Prop
  | start (name : String) (attributes : Attributes) :
      Matches same (.report (.start name attributes)) (.report (.start name attributes))
  | text (part : String) (last : Bool) :
      Matches same (.report (.text part last)) (.report (.text part last))
  | stop {id id' : Nat} : same id id' → Matches same (.report (.stop id)) (.report (.stop id'))
  | finish : Matches same .finish .finish

/-- Open elements of two runs that are the same, apart from their numbers. -/
structure Twin (id first first' : Nat) (element element' : Opened) : Prop where
  name : element.name = element'.name
  forwarded : element.forwarded = element'.forwarded
  ids : (element.id ≤ id ∧ element'.id = element.id) ∨
    ∃ count, element.id = first + count ∧ element'.id = first' + count

section TwoRuns

variable {id first first' : Nat}

/-- An end names an open element in one run if it does so in the other. -/
theorem Twin.id_eq_iff {element element' : Opened}
    (h : Twin id first first' element element') (hfirst : id < first) (hfirst' : id < first')
    {number number' : Nat} (hnumber : Corresponding id first first' number number') :
    element.id = number ↔ element'.id = number' := by
  rcases h.ids with ⟨hle, heq⟩ | ⟨place, heq, heq'⟩ <;> cases hnumber <;> omega

theorem Twin.stop?_eq {element element' : Opened} (h : Twin id first first' element element') :
    element.stop? = element'.stop? := by
  rw [Opened.stop?, Opened.stop?, h.name, h.forwarded]

variable {opened opened' : List Opened}

/-- Elements that are the same in both runs end with the same events. -/
theorem filterMap_stop?_congr (h : List.Forall₂ (Twin id first first') opened opened') :
    opened.filterMap Opened.stop? = opened'.filterMap Opened.stop? := by
  induction h with
  | nil => rfl
  | cons htwin _ ih => rw [List.filterMap_cons, List.filterMap_cons, htwin.stop?_eq, ih]

theorem any_not_forwarded_congr (h : List.Forall₂ (Twin id first first') opened opened') :
    opened.any (!·.forwarded) = opened'.any (!·.forwarded) := by
  induction h with
  | nil => rfl
  | cons htwin _ ih => rw [List.any_cons, List.any_cons, htwin.forwarded, ih]

/-- An end reaches as many elements in one run as in the other. -/
theorem reach_congr (h : List.Forall₂ (Twin id first first') opened opened')
    (hfirst : id < first) (hfirst' : id < first') {number number' : Nat}
    (hnumber : Corresponding id first first' number number') :
    Nesting.reach number opened = Nesting.reach number' opened' := by
  induction h with
  | nil => rfl
  | cons htwin _ ih =>
      have hid := htwin.id_eq_iff hfirst hfirst' hnumber
      rw [Nesting.reach, Nesting.reach, ih]
      simp only [hid]

end TwoRuns

namespace Nesting

/-- Two runs after the ignored element: they have the same elements open and the same
text held back, and the same number of elements has started since. -/
structure Outside (id first first' : Nat) (nesting nesting' : Nesting) : Prop where
  opened : List.Forall₂ (Twin id first first') nesting.opened nesting'.opened
  pending : nesting.pending = nesting'.pending
  started : ∃ count, nesting.nextId = first + count ∧ nesting'.nextId = first' + count

/-- Two runs that make the same events from now on: both are inside the ignored element,
or both have left it. -/
inductive Alike (element : Opened) (enclosing : List Opened) (first first' : Nat)
    (nesting nesting' : Nesting) : Prop
  | inside : Within element enclosing nesting → Within element enclosing nesting' →
      (∃ count, nesting.nextId = first + count ∧ nesting'.nextId = first' + count) →
      Alike element enclosing first first' nesting nesting'
  | outside : Outside element.id first first' nesting nesting' →
      Alike element enclosing first first' nesting nesting'

section TwoRuns

variable {id first first' : Nat} {nesting nesting' : Nesting}

theorem Outside.heldBack_eq (h : Outside id first first' nesting nesting') :
    nesting.heldBack = nesting'.heldBack := by
  rw [heldBack, heldBack, h.pending]

theorem Outside.suppressed_eq (h : Outside id first first' nesting nesting') :
    nesting.suppressed = nesting'.suppressed :=
  any_not_forwarded_congr h.opened

theorem Outside.start (h : Outside id first first' nesting nesting') (options : Options)
    (name : String) (attributes : Attributes) :
    (nesting.start options name attributes).2 = (nesting'.start options name attributes).2 ∧
      Outside id first first' (nesting.start options name attributes).1
        (nesting'.start options name attributes).1 := by
  obtain ⟨count, hnext, hnext'⟩ := h.started
  have hforwards : nesting.forwards options name = nesting'.forwards options name := by
    rw [forwards, forwards, h.suppressed_eq]
  rw [start_eq, start_eq, hforwards, h.heldBack_eq]
  refine ⟨rfl, .cons ⟨rfl, rfl, .inr ⟨count, hnext, hnext'⟩⟩ h.opened, rfl, count + 1, ?_, ?_⟩
  · exact congrArg (· + 1) hnext
  · exact congrArg (· + 1) hnext'

theorem Outside.hold (h : Outside id first first' nesting nesting') (part : String) :
    Outside id first first' (nesting.hold part) (nesting'.hold part) := by
  refine ⟨?_, ?_, ?_⟩
  · rw [hold_opened, hold_opened]
    exact h.opened
  · rw [Nesting.hold, Nesting.hold, h.suppressed_eq]
    split
    · exact h.pending
    · exact congrArg (· ++ part) h.pending
  · rw [hold_nextId, hold_nextId]
    exact h.started

theorem Outside.text (h : Outside id first first' nesting nesting') (part : String)
    (last : Bool) :
    (nesting.text part last).2 = (nesting'.text part last).2 ∧
      Outside id first first' (nesting.text part last).1 (nesting'.text part last).1 := by
  have hheld := h.hold part
  rw [text_eq, text_eq]
  cases last with
  | false => exact ⟨rfl, hheld⟩
  | true => exact ⟨hheld.heldBack_eq, hheld.opened, rfl, hheld.started⟩

theorem Outside.close (h : Outside id first first' nesting nesting') (count : Nat) :
    (nesting.close count).2 = (nesting'.close count).2 ∧
      Outside id first first' (nesting.close count).1 (nesting'.close count).1 := by
  refine ⟨?_, List.forall₂_drop count h.opened, rfl, h.started⟩
  rw [Nesting.close, Nesting.close, h.heldBack_eq,
    filterMap_stop?_congr (List.forall₂_take count h.opened)]

/-- What follows the ignored element makes the same events. -/
theorem Outside.take (h : Outside id first first' nesting nesting') (hfirst : id < first)
    (hfirst' : id < first') (options : Options) {input input' : Input}
    (hinput : input.Matches (Corresponding id first first') input') :
    (nesting.take options input).2 = (nesting'.take options input').2 ∧
      Outside id first first' (nesting.take options input).1
        (nesting'.take options input').1 := by
  cases hinput with
  | start name attributes => exact h.start options name attributes
  | text part last => exact h.text part last
  | stop hnumber =>
      simp only [Nesting.take, Nesting.step, stop_eq_close_reach,
        reach_congr h.opened hfirst hfirst' hnumber]
      exact h.close _
  | finish =>
      simp only [Nesting.take, finish_eq_close, h.opened.length_eq]
      exact h.close _

variable {element : Opened} {enclosing : List Opened}

/-- Where the ignored element is left, both runs go on from the same elements. -/
theorem Within.outside (h : Within element enclosing nesting)
    (hstarted : ∃ count, nesting.nextId = first + count ∧ nesting'.nextId = first' + count) :
    Outside element.id first first' ⟨enclosing, nesting.nextId, ""⟩
      ⟨enclosing, nesting'.nextId, ""⟩ where
  opened := List.forall₂_same.mpr fun other hother =>
    ⟨rfl, rfl, .inl ⟨Nat.le_of_lt (h.outer other hother), rfl⟩⟩
  pending := rfl
  started := hstarted

/-- Numbers greater than that of the ignored element belong to no element around it. -/
theorem Within.reach_eq_zero (h : Within element enclosing nesting) {number : Nat}
    (hgreater : element.id < number) : reach number (element :: enclosing) = 0 := by
  rw [reach_eq_zero_iff]
  intro hmem
  rcases List.mem_cons.mp hmem with rfl | hmem
  · exact Nat.lt_irrefl _ hgreater
  · obtain ⟨other, hother, rfl⟩ := List.mem_map.mp hmem
    exact Nat.lt_asymm hgreater (h.outer other hother)

/-- An end inside the ignored element in both runs keeps both inside. -/
theorem Within.alike_stop (h : Within element enclosing nesting)
    (h' : Within element enclosing nesting')
    (hstarted : ∃ count, nesting.nextId = first + count ∧ nesting'.nextId = first' + count)
    {number number' : Nat} (hnone : reach number (element :: enclosing) = 0)
    (hnone' : reach number' (element :: enclosing) = 0) :
    (nesting.stop number).2 = (nesting'.stop number').2 ∧
      Alike element enclosing first first' (nesting.stop number).1
        (nesting'.stop number').1 := by
  obtain ⟨hin, hsilent, hsame⟩ := h.stop_inner hnone
  obtain ⟨hin', hsilent', hsame'⟩ := h'.stop_inner hnone'
  refine ⟨hsilent.trans hsilent'.symm, .inside hin hin' ?_⟩
  rw [hsame, hsame']
  exact hstarted

/-- Two runs that are alike make the same events of the same input, and stay alike. -/
theorem Alike.take (h : Alike element enclosing first first' nesting nesting')
    (hfirst : element.id < first) (hfirst' : element.id < first') (options : Options)
    {input input' : Input}
    (hinput : input.Matches (Corresponding element.id first first') input') :
    (nesting.take options input).2 = (nesting'.take options input').2 ∧
      Alike element enclosing first first' (nesting.take options input).1
        (nesting'.take options input').1 := by
  cases h with
  | outside houtside =>
      obtain ⟨hevents, hafter⟩ := houtside.take hfirst hfirst' options hinput
      exact ⟨hevents, .outside hafter⟩
  | inside hwithin hwithin' hstarted =>
      -- The element is left in both runs at once, or in none.
      have hleave := (hwithin.outside hstarted).take hfirst hfirst' options hinput
      cases hinput with
      | start name attributes =>
          obtain ⟨count, hnext, hnext'⟩ := hstarted
          obtain ⟨hin, hsilent, hnew⟩ := hwithin.start options name attributes
          obtain ⟨hin', hsilent', hnew'⟩ := hwithin'.start options name attributes
          refine ⟨hsilent.trans hsilent'.symm, .inside hin hin' ⟨count + 1, ?_, ?_⟩⟩
          · exact hnew.trans (congrArg (· + 1) hnext)
          · exact hnew'.trans (congrArg (· + 1) hnext')
      | text part last =>
          simp only [Nesting.take, Nesting.step, hwithin.text_eq, hwithin'.text_eq]
          exact ⟨trivial, .inside hwithin hwithin' hstarted⟩
      | @stop number _ hnumber =>
          cases hnumber with
          | earlier _ =>
              by_cases hnone : reach number (element :: enclosing) = 0
              · exact hwithin.alike_stop hwithin' hstarted hnone hnone
              · simp only [Nesting.take, Nesting.step, hwithin.stop_outer hnone,
                  hwithin'.stop_outer hnone]
                exact ⟨hleave.1, .outside hleave.2⟩
          | inner hlt _ hlt' _ =>
              exact hwithin.alike_stop hwithin' hstarted (hwithin.reach_eq_zero hlt)
                (hwithin'.reach_eq_zero hlt')
          | later place =>
              exact hwithin.alike_stop hwithin' hstarted
                (hwithin.reach_eq_zero (Nat.lt_add_right _ hfirst))
                (hwithin'.reach_eq_zero (Nat.lt_add_right _ hfirst'))
      | finish =>
          simp only [Nesting.take, hwithin.finish_eq, hwithin'.finish_eq]
          exact ⟨hleave.1, .outside hleave.2⟩

theorem Alike.takeAll (h : Alike element enclosing first first' nesting nesting')
    (hfirst : element.id < first) (hfirst' : element.id < first') (options : Options)
    {inputs inputs' : List Input}
    (hinputs : List.Forall₂ (Input.Matches (Corresponding element.id first first')) inputs
      inputs') :
    (nesting.takeAll options inputs).2 = (nesting'.takeAll options inputs').2 := by
  induction hinputs generalizing nesting nesting' with
  | nil => rfl
  | cons hinput _ ih =>
      obtain ⟨hevents, hafter⟩ := h.take hfirst hfirst' options hinput
      simp only [Nesting.takeAll, hevents, ih hafter]

end TwoRuns

/-- Reports that stand in the element that starts next: none of them is the end of that
element or of one that is open already. -/
def StandInNext (nesting : Nesting) (reports : List Report) : Prop :=
  ∀ id, .stop id ∈ reports → id ∉ nesting.nextId :: nesting.opened.map (·.id)

theorem forwards_of_ignores {options : Options} {name : String}
    (hignored : options.ignores name = true) (nesting : Nesting) :
    nesting.forwards options name = false := by
  rw [forwards, hignored]
  rfl

/-- Where an ignored element has just started, the nesting is inside it. -/
theorem Sound.within_start {options : Options} {nesting : Nesting} (h : nesting.Sound options)
    {name : String} (hignored : options.ignores name = true) (attributes : Attributes) :
    Within ⟨nesting.nextId, name, false⟩ nesting.opened
      (nesting.start options name attributes).1 := by
  rw [start_eq, forwards_of_ignores hignored]
  exact ⟨rfl, fun _ => h.id_lt, ⟨[], rfl, fun _ hother => absurd hother List.not_mem_nil⟩, rfl,
    Nat.lt_succ_self _⟩

end Nesting

/-- What an ignored element contains does not matter. At any time, an ignored element that
starts only lets go of the text held back; whatever is reported in it makes no event; and
its end, that of an element around it and that of the document are as if it had never
started, apart from the numbers that have been used up. So if it contains anything else,
what follows makes the same events, by whatever numbers it names the elements that
follow. -/
theorem ignored_noninterference (options : Options) (inputs : List Input) {name : String}
    (hignored : options.ignores name = true) (attributes : Attributes) :
    let nesting := (Nesting.initial.takeAll options inputs).1
    let begun := nesting.start options name attributes
    begun.2 = nesting.flush.2 ∧
    ∀ reports, nesting.StandInNext reports →
      let inside := begun.1.run options reports
      let flushed : Nesting := { nesting.flush.1 with nextId := inside.1.nextId }
      inside.2 = [] ∧
      inside.1.stop nesting.nextId = (flushed, []) ∧
      (∀ element ∈ nesting.opened, inside.1.stop element.id = flushed.stop element.id) ∧
      inside.1.finish = flushed.finish ∧
      ∀ reports', nesting.StandInNext reports' →
        let inside' := begun.1.run options reports'
        ∀ following following',
          List.Forall₂
              (Input.Matches
                (Corresponding nesting.nextId inside.1.nextId inside'.1.nextId))
              following following' →
          (inside.1.takeAll options following).2 = (inside'.1.takeAll options following').2 := by
  intro nesting begun
  have hsound : nesting.Sound options := (Nesting.initial_sound options).takeAll inputs
  have hbegun := hsound.within_start hignored attributes
  refine ⟨?_, ?_⟩
  · show (nesting.start options name attributes).2 = _
    rw [Nesting.start_eq, Nesting.forwards_of_ignores hignored, Nesting.flush_eq]
    exact List.append_nil _
  intro reports hreports inside flushed
  obtain ⟨hinside, hsilent⟩ := hbegun.run options hreports
  have hflushed : flushed = ⟨nesting.opened, inside.1.nextId, ""⟩ := by
    show ({ nesting.flush.1 with nextId := inside.1.nextId } : Nesting) = _
    rw [Nesting.flush_eq]
  refine ⟨hsilent, ?_, ?_, ?_, ?_⟩
  · -- Among the elements around it, none has the number of the ignored element.
    have hreach : Nesting.reach nesting.nextId nesting.opened = 0 := by
      rw [Nesting.reach_eq_zero_iff]
      intro hmem
      obtain ⟨other, hother, heq⟩ := List.mem_map.mp hmem
      exact Nat.ne_of_lt (hsound.id_lt hother) heq
    rw [hinside.stop_outer (by simp [Nesting.reach]), hflushed, Nesting.stop_eq_close_reach, hreach]
    rfl
  · intro element helement
    have hreach :
        Nesting.reach element.id (⟨nesting.nextId, name, false⟩ :: nesting.opened) ≠ 0 := by
      intro hzero
      rw [Nesting.reach_eq_zero_iff] at hzero
      exact hzero (List.mem_cons_of_mem _ (List.mem_map_of_mem helement))
    rw [hinside.stop_outer hreach, hflushed]
  · rw [hinside.finish_eq, hflushed]
  · intro reports' hreports' inside' following following' hfollowing
    obtain ⟨hinside', -⟩ := hbegun.run options hreports'
    have halike : Nesting.Alike ⟨nesting.nextId, name, false⟩ nesting.opened inside.1.nextId
        inside'.1.nextId inside.1 inside'.1 :=
      .inside hinside hinside' ⟨0, rfl, rfl⟩
    exact halike.takeAll hinside.nextId hinside'.nextId options hfollowing

/-- A script that holds an unclosed element, and one that holds nothing. Both are closed
by the end of the paragraph around them; the element that follows is number 3 after the
one and number 2 after the other. -/
theorem ignored_noninterference_unclosed :
    let options : Options := { ignored := ["script"] }
    let nesting := (Nesting.initial.takeAll options [.report (.start "p" .empty)]).1
    let begun := nesting.start options "script" .empty
    let inside := begun.1.run options [.start "b" .empty, .text "x" true]
    let inside' := begun.1.run options []
    options.ignores "script" = true ∧
    (inside.1.takeAll options [.report (.stop 0), .report (.text "c" true),
        .report (.start "i" .empty), .report (.stop 3), .finish]).2 =
      (inside'.1.takeAll options [.report (.stop 0), .report (.text "c" true),
        .report (.start "i" .empty), .report (.stop 2), .finish]).2 := by
  intro options nesting begun inside inside'
  have hignored : options.ignores "script" = true := by decide
  have hreports : nesting.StandInNext [.start "b" .empty, .text "x" true] := by
    intro id hid
    simp at hid
  have hreports' : nesting.StandInNext [] := fun _ hid => absurd hid List.not_mem_nil
  have hfollowing : List.Forall₂ (Input.Matches (Corresponding 1 3 2))
      [.report (.stop 0), .report (.text "c" true), .report (.start "i" .empty),
        .report (.stop 3), .finish]
      [.report (.stop 0), .report (.text "c" true), .report (.start "i" .empty),
        .report (.stop 2), .finish] :=
    .cons (.stop (.earlier (by decide))) (.cons (.text _ _) (.cons (.start _ _)
      (.cons (.stop (.later 0)) (.cons .finish .nil))))
  obtain ⟨-, -, -, -, hevents⟩ :=
    (ignored_noninterference options [.report (.start "p" .empty)] hignored .empty).2 _ hreports
  exact ⟨hignored, hevents [] hreports' _ _ hfollowing⟩

end Textile.Html
