import Textile.Proofs.Modifiers
import Textile.Writer

/-!
# Elements

* **Without attributes** (`Element.opening_empty`): an element that was given none
  has no modifiers, so what it writes at its start is its sign, with a space after
  it where the sign stands in a row of its own.
* **Among others** (`opening_knownElements`, `gap_knownElements`): the markers of
  items and the gaps hang on the elements around. Unknown elements are no lists, so
  nothing hangs on them.
-/

namespace Textile

/-! ## Without attributes -/

/-- Without attributes there are no modifiers. -/
theorem modifiers_empty (tag : Tag) : modifiers .empty tag = [] :=
  modifiers_of_unset (fun _ _ => rfl) tag

@[simp] theorem modifyDot_nil (sign : List Char) : modifyDot [] sign = sign := by
  induction sign with
  | nil => rfl
  | cons c sign ih =>
      by_cases hc : c = '.'
      · simp [modifyDot, hc]
      · simp [modifyDot, hc, ih]

/-- The sign of an element among the elements around it. -/
def Element.sign (tag : Tag) (enclosing : List Element) : List Char :=
  if tag = .li then itemSign enclosing else tag.openingSign.toList

/-- Without attributes, the start of an element writes its sign alone. -/
theorem Element.opening_empty (tag : Tag) (enclosing : List Element) :
    Element.opening ⟨tag, .empty⟩ enclosing =
      if tag.category = .row then Element.sign tag enclosing ++ [' ']
      else Element.sign tag enclosing := by
  cases hcategory : tag.category <;>
    simp [Element.opening, Element.sign, hcategory, modifiers_empty]

/-! ## Among others -/

/-- The elements that Textile can express. -/
def knownElements (elements : List Element) : List Element :=
  elements.filter (·.tag ≠ .unknown)

theorem findSome?_knownElements (enclosing : List Element) :
    (knownElements enclosing).findSome? (·.tag.itemMarker?) =
      enclosing.findSome? (·.tag.itemMarker?) := by
  induction enclosing with
  | nil => rfl
  | cons element enclosing ih =>
      by_cases hunknown : element.tag = .unknown
      · have hmarker : element.tag.itemMarker? = none := by rw [hunknown]; rfl
        rw [knownElements, List.filter_cons_of_neg (by simpa using hunknown),
          List.findSome?_cons_of_isNone (by simp [hmarker]), ← ih]
        rfl
      · rw [knownElements, List.filter_cons_of_pos (by simpa using hunknown), List.findSome?_cons,
          List.findSome?_cons, ← ih]
        rfl

/-- The nearest list around an item gives the marker, be it the element just around or not. -/
theorem itemSign_eq (enclosing : List Element) :
    itemSign enclosing = List.replicate (max 1 (enclosing.countP (·.tag.isList)))
      ((enclosing.findSome? (·.tag.itemMarker?)).getD '*') := by
  have hown : (enclosing.head?.bind (·.tag.itemMarker?)).or
      (enclosing.findSome? (·.tag.itemMarker?)) = enclosing.findSome? (·.tag.itemMarker?) := by
    cases enclosing with
    | nil => rfl
    | cons element enclosing =>
        rw [List.findSome?_cons, List.head?_cons, Option.bind_some]
        cases element.tag.itemMarker? with
        | none => rfl
        | some marker => rfl
  rw [itemSign]
  simp only [hown]

theorem itemSign_knownElements (enclosing : List Element) :
    itemSign (knownElements enclosing) = itemSign enclosing := by
  have hcount : (knownElements enclosing).countP (·.tag.isList) =
      enclosing.countP (·.tag.isList) := by
    rw [knownElements, List.countP_filter]
    apply List.countP_congr
    intro element _
    have hlist : element.tag.isList = true → element.tag ≠ .unknown := by
      intro hlist hunknown
      rw [hunknown] at hlist
      cases hlist
    simpa using hlist
  rw [itemSign_eq, itemSign_eq, hcount, findSome?_knownElements]

theorem opening_knownElements (element : Element) (enclosing : List Element) :
    element.opening (knownElements enclosing) = element.opening enclosing := by
  simp only [Element.opening, itemSign_knownElements]

/-- The start of an unknown element writes its modifiers alone. -/
theorem opening_unknown (attributes : Attributes) (enclosing : List Element) :
    Element.opening ⟨.unknown, attributes⟩ enclosing = modifiers attributes .unknown := by
  have hsign : Tag.unknown.openingSign.toList = [] := rfl
  simp only [Element.opening, Tag.category, reduceCtorEq, if_false, hsign, List.nil_append]

/-- The end of an unknown element writes nothing. -/
theorem closing_unknown {element : Element} (h : element.tag = .unknown) :
    element.closing = [] := by
  simp only [Element.closing, h]
  rfl

theorem gap_knownElements (enclosing : List Element) (full spare : Output) (tag : Tag) :
    Writer.gap ⟨knownElements enclosing, spare⟩ tag = Writer.gap ⟨enclosing, full⟩ tag := by
  have hline : (knownElements enclosing).any (·.tag.keepsLine) =
      enclosing.any (·.tag.keepsLine) := by
    rw [knownElements, List.any_filter]
    apply congrArg (List.any enclosing)
    funext element
    cases element.tag <;> rfl
  simp only [Writer.gap, hline]

end Textile
