import Textile.Proofs.Element
import Textile.Proofs.Text.Escape
import Textile.Proofs.Writer

/-!
# Blocks without attributes

A block without attributes writes its sign, set off by the gap around blocks: a
blank line, or a space where a list of any kind keeps it in its line. An item writes
its sign in a line of its own. Text in one line is written as it is decoded, unless it
begins a line of the output.
-/

namespace Textile.Writer

open Textile.Text

/-- The gap around a block. -/
def blockGap (enclosing : List Element) : Gap :=
  if enclosing.any (·.tag.keepsLine) then .space else .blankLine

variable {tag : Tag} {name : String}

theorem gap_of_block (hcategory : tag.category = .block) (enclosing : List Element)
    (output : Output) : gap ⟨enclosing, output⟩ tag = blockGap enclosing := by
  simp only [gap, Gap.around, hcategory, blockGap]

/-- No block is an item. -/
theorem ne_li_of_block (hcategory : tag.category = .block) : tag ≠ .li := by
  rintro rfl
  cases hcategory

/-- A block starts after its gap. -/
theorem step_start_of_block (hname : Tag.ofName name = tag) (hcategory : tag.category = .block)
    (attributes : Attributes) (enclosing : List Element) (output : Output) :
    step ⟨enclosing, output⟩ (.start name attributes) =
      ⟨⟨tag, attributes⟩ :: enclosing,
        (output.separate (blockGap enclosing)).append
          (Element.opening ⟨tag, attributes⟩ enclosing)⟩ := by
  rw [step_start_of_ne _ hname (ne_li_of_block hcategory), gap_of_block hcategory]

/-- Without attributes, it starts with its sign. -/
theorem step_start_block (hname : Tag.ofName name = tag) (hcategory : tag.category = .block)
    (enclosing : List Element) (output : Output) :
    step ⟨enclosing, output⟩ (.start name .empty) =
      ⟨⟨tag, .empty⟩ :: enclosing,
        (output.separate (blockGap enclosing)).append tag.openingSign.toList⟩ := by
  have hrow : tag.category ≠ .row := by
    rw [hcategory]
    decide
  rw [step_start_of_block hname hcategory, Element.opening_empty, if_neg hrow, Element.sign,
    if_neg (ne_li_of_block hcategory)]

/-- An item starts in a line of its own, with its sign. -/
theorem step_item (writer : Writer) (hname : Tag.ofName name = .li) :
    writer.step (.start name .empty) =
      ⟨⟨.li, .empty⟩ :: writer.elements,
        (writer.output.dropBareMarker.separate .lineBreak).append
          (itemSign writer.elements ++ [' '])⟩ := by
  have hrow : Tag.li.category = .row := rfl
  rw [step_start_item writer hname, Element.opening_empty, if_pos hrow, Element.sign,
    if_pos rfl]

/-- A block that writes nothing at its end is followed by its gap. -/
theorem step_stop_block (hname : Tag.ofName name = tag) (hcategory : tag.category = .block)
    (hclosing : Element.closing ⟨tag, .empty⟩ = []) (enclosing : List Element)
    (output : Output) :
    step ⟨⟨tag, .empty⟩ :: enclosing, output⟩ (.stop name) =
      ⟨enclosing, output.separate (blockGap enclosing)⟩ := by
  rw [step, stop_of_eq hname.symm, hclosing, Output.append_nil, gap_of_block hcategory]

/-- Text in one line is written as it is decoded, where it does not begin a line. -/
theorem step_text {run : String} {text : List Char} (hplain : plain run.toList = text)
    (hline : '\n' ∉ text) {output : Output} (hends : output.endsInNewline = false)
    (elements : List Element) :
    step ⟨elements, output⟩ (.text run) = ⟨elements, output.append text⟩ := by
  have hwritten : writtenRun run.toList false = text := by
    rw [writtenRun_eq_plain (by rw [hplain]; exact hline), hplain]
  show Writer.mk _ (Output.append _ (writtenRun _ _)) = _
  rw [hends, hwritten]

end Textile.Writer
