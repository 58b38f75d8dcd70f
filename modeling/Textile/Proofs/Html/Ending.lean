import Textile.Proofs.Html.Ignored

/-!
# The order in which elements end

The ends of elements that close together may be reported in any order, several times, or
not at all if the document ends anyway. This file shows that none of it makes a
difference.

* **Two ends** (`Nesting.Sound.takeAll_stop_stop`): elements have distinct numbers, so two
  ends together close up to the outer one of the two elements, whichever comes first.
* **Any number of ends** (`Nesting.Sound.takeAll_stops_perm`,
  `Nesting.Sound.takeAll_stops_concat`): they may come in any order, and an end takes up
  all earlier ones of elements that are inside.
* **The end of the document** (`Nesting.takeAll_stops_finish`): it takes up all ends
  before it.

`stops_interchange` states these for what a sink is given.
-/

namespace Textile.Html

/-- The reports that elements end, one after the other. -/
def stops (ids : List Nat) : List Input :=
  ids.map fun id => .report (.stop id)

namespace Nesting

/-! ## Two ends -/

/-- Closing twice is closing at once: nothing is held back any more the second time. -/
theorem close_add (nesting : Nesting) (count more : Nat) :
    nesting.close (count + more) =
      (((nesting.close count).1.close more).1,
        (nesting.close count).2 ++ ((nesting.close count).1.close more).2) := by
  have hnone : (nesting.close count).1.heldBack = [] := heldBack_of_pending rfl
  simp only [close] at hnone ⊢
  rw [hnone, List.take_add, List.filterMap_append, List.drop_drop]
  simp only [List.append_assoc, List.nil_append]

/-- An element that is open is reached at its place among the elements with other
numbers. -/
theorem reach_drop {opened : List Opened} (h : (opened.map (·.id)).Nodup) (i j : Nat) :
    reach i opened + reach j (opened.drop (reach i opened)) =
      max (reach i opened) (reach j opened) := by
  induction opened with
  | nil => rfl
  | cons element enclosing ih =>
      obtain ⟨hnew, hrest⟩ := List.nodup_cons.mp h
      have hnone : reach element.id enclosing = 0 := reach_eq_zero_iff.mpr hnew
      have hstep := ih hrest
      by_cases hi : element.id = i
      · subst hi
        by_cases hj : element.id = j
        · subst hj
          simp [reach_cons_of_eq, hnone]
        · rw [reach_cons_of_eq rfl, reach_cons_of_ne hj, List.drop_one, List.tail_cons]
          split <;> omega
      · -- The element goes with `i` only if `i` is open around it.
        rw [reach_cons_of_ne hi]
        by_cases hsome : reach i enclosing = 0
        · rw [if_pos hsome, List.drop_zero]
          omega
        · rw [if_neg hsome, List.drop_succ_cons]
          by_cases hj : element.id = j
          · subst hj
            rw [reach_cons_of_eq rfl]
            omega
          · rw [reach_cons_of_ne hj]
            split <;> omega

variable {options : Options} {nesting : Nesting}

/-- Open elements have distinct numbers. -/
theorem Sound.nodup (h : nesting.Sound options) : (nesting.opened.map (·.id)).Nodup :=
  (List.pairwise_cons.mp h.numbered).2.imp Nat.ne_of_gt

/-- Two ends close up to the outer one of their elements. -/
theorem Sound.takeAll_stop_stop (h : nesting.Sound options) (i j : Nat) :
    nesting.takeAll options (stops [i, j]) =
      nesting.close (max (reach i nesting.opened) (reach j nesting.opened)) := by
  rw [← reach_drop h.nodup, close_add]
  simp only [stops, List.map_cons, List.map_nil, Nesting.takeAll, Nesting.take, Nesting.step,
    stop_eq_close_reach, List.append_nil]
  rfl

theorem takeAll_stop (options : Options) (nesting : Nesting) (id : Nat) :
    nesting.takeAll options (stops [id]) = nesting.close (reach id nesting.opened) := by
  simp only [stops, List.map_cons, List.map_nil, takeAll, take, step, stop_eq_close_reach,
    List.append_nil]

/-! ## Any number of ends -/

/-- Ends may come in any order. -/
theorem Sound.takeAll_stops_perm (h : nesting.Sound options) {ids ids' : List Nat}
    (hperm : ids.Perm ids') :
    nesting.takeAll options (stops ids) = nesting.takeAll options (stops ids') := by
  induction hperm generalizing nesting with
  | nil => rfl
  | cons id _ ih =>
      show nesting.takeAll options (.report (.stop id) :: stops _) =
        nesting.takeAll options (.report (.stop id) :: stops _)
      rw [Nesting.takeAll, Nesting.takeAll, ih (h.take _)]
  | swap i j ids =>
      show nesting.takeAll options (stops [j, i] ++ stops ids) =
        nesting.takeAll options (stops [i, j] ++ stops ids)
      rw [takeAll_append, takeAll_append, h.takeAll_stop_stop, h.takeAll_stop_stop, max_comm]
  | trans _ _ ihFirst ihSecond => exact (ihFirst h).trans (ihSecond h)

/-- An end takes up the ends before it that do not reach further. -/
theorem Sound.takeAll_stops_concat (h : nesting.Sound options) {id : Nat} {ids : List Nat}
    (hinside : ∀ other ∈ ids, reach other nesting.opened ≤ reach id nesting.opened) :
    nesting.takeAll options (stops (ids ++ [id])) = nesting.takeAll options (stops [id]) := by
  induction ids generalizing nesting with
  | nil => rfl
  | cons first ids ih =>
      obtain ⟨hfirst, hothers⟩ := List.forall_mem_cons.mp hinside
      -- The first end takes the same number of elements from what any other end reaches.
      have hrest : ∀ other ∈ ids,
          reach other (nesting.takeAll options (stops [first])).1.opened ≤
            reach id (nesting.takeAll options (stops [first])).1.opened := by
        intro other hother
        have hle := hothers other hother
        have hdrop := reach_drop h.nodup first other
        have hdrop' := reach_drop h.nodup first id
        rw [takeAll_stop]
        show reach other (nesting.opened.drop _) ≤ reach id (nesting.opened.drop _)
        omega
      calc nesting.takeAll options (stops (first :: ids ++ [id]))
        _ = nesting.takeAll options (stops [first] ++ stops (ids ++ [id])) := rfl
        _ = nesting.takeAll options (stops [first] ++ stops [id]) := by
            rw [takeAll_append, takeAll_append, ih (h.takeAll _) hrest]
        _ = nesting.close (max (reach first nesting.opened) (reach id nesting.opened)) :=
            h.takeAll_stop_stop first id
        _ = nesting.takeAll options (stops [id]) := by
            rw [max_eq_right hfirst, takeAll_stop]

/-- An end of an open element takes up the ends of those in it. -/
theorem Sound.takeAll_stops_inner (h : nesting.Sound options) {inner enclosing : List Opened}
    {element : Opened} (hopened : nesting.opened = inner ++ element :: enclosing) :
    nesting.takeAll options (stops ((inner ++ [element]).map (·.id))) =
      nesting.takeAll options (stops [element.id]) := by
  have hnodup := h.nodup
  rw [hopened, List.map_append] at hnodup
  obtain ⟨-, -, hdisjoint⟩ := List.nodup_append.mp hnodup
  have hmem : element.id ∈ (element :: enclosing).map (·.id) := List.mem_cons_self
  have hreach : reach element.id nesting.opened = inner.length + 1 := by
    rw [hopened, reach_append, reach_cons_of_eq rfl]
    · exact fun other hother => hdisjoint _ (List.mem_map_of_mem hother) _ hmem
    · rw [reach_cons_of_eq rfl]
      exact Nat.one_ne_zero
  rw [List.map_append]
  apply h.takeAll_stops_concat
  intro id hid
  have hout : reach id (element :: enclosing) = 0 :=
    reach_eq_zero_iff.mpr fun hin => hdisjoint id hid id hin rfl
  rw [hreach, hopened]
  exact Nat.le_succ_of_le (reach_append_le hout inner)

/-! ## The end of the document -/

theorem reach_le_length (id : Nat) (opened : List Opened) : reach id opened ≤ opened.length := by
  have hnone : reach id ([] : List Opened) = 0 := rfl
  have hle := reach_append_le hnone opened
  rwa [List.append_nil] at hle

/-- The end of the document takes up the ends before it. -/
theorem takeAll_stops_finish (options : Options) (nesting : Nesting) (ids : List Nat) :
    nesting.takeAll options (stops ids ++ [.finish]) = nesting.takeAll options [.finish] := by
  induction ids generalizing nesting with
  | nil => rfl
  | cons id ids ih =>
      have hlength := Nat.add_sub_of_le (reach_le_length id nesting.opened)
      have hleft : (nesting.close (reach id nesting.opened)).1.opened.length =
          nesting.opened.length - reach id nesting.opened := List.length_drop
      calc nesting.takeAll options (stops (id :: ids) ++ [.finish])
        _ = nesting.takeAll options (stops [id] ++ (stops ids ++ [.finish])) := rfl
        _ = nesting.takeAll options (stops [id] ++ [.finish]) := by
            rw [takeAll_append _ _ (stops [id]) (stops ids ++ _), ih, ← takeAll_append]
        _ = nesting.takeAll options [.finish] := by
            rw [takeAll_append, takeAll_stop]
            simp only [takeAll, take, finish_eq_close, List.append_nil]
            rw [hleft, ← close_add, hlength]

end Nesting

/-- It makes no difference in which order elements end, nor how often, nor whether the elements
in them have ended before, nor whether any have before the document ends. Whatever a document is
so far, and whatever follows, the nesting and the sink are the same in all these cases. -/
theorem stops_interchange {σ : Type} [Sink σ] (options : Options) (sink : σ)
    (inputs : List Input) :
    let stream := Stream.takeAll options ⟨.initial, sink⟩ inputs
    (∀ i j, stream.takeAll options (stops [i, j]) = stream.takeAll options (stops [j, i])) ∧
    (∀ i, stream.takeAll options (stops [i, i]) = stream.takeAll options (stops [i])) ∧
    (∀ inner element enclosing, stream.nesting.opened = inner ++ element :: enclosing →
      stream.takeAll options (stops ((inner ++ [element]).map (·.id))) =
        stream.takeAll options (stops [element.id])) ∧
    stream.takeAll options (stops (stream.nesting.opened.map (·.id)) ++ [.finish]) =
      stream.takeAll options [.finish] ∧
    (∀ ids ids' after, ids.Perm ids' →
      stream.takeAll options (stops ids ++ after) =
        stream.takeAll options (stops ids' ++ after)) ∧
    ∀ ids, stream.takeAll options (stops ids ++ [.finish]) =
      stream.takeAll options [.finish] := by
  intro stream
  have hsound : stream.nesting.Sound options := by
    show (Stream.takeAll options ⟨.initial, sink⟩ inputs).nesting.Sound options
    rw [Stream.takeAll_eq]
    exact (Nesting.initial_sound options).takeAll inputs
  have hlift {before after : List Input}
      (h : stream.nesting.takeAll options before = stream.nesting.takeAll options after) :
      stream.takeAll options before = stream.takeAll options after := by
    rw [Stream.takeAll_eq, Stream.takeAll_eq, h]
  have hfinish (ids : List Nat) := hlift (stream.nesting.takeAll_stops_finish options ids)
  refine ⟨fun i j => ?_, fun i => ?_, ?_, hfinish _, ?_, hfinish⟩
  · exact hlift (hsound.takeAll_stops_perm (.swap j i []))
  · have hinside : ∀ other ∈ [i],
        Nesting.reach other stream.nesting.opened ≤ Nesting.reach i stream.nesting.opened := by
      simp
    have htwice := hsound.takeAll_stops_concat hinside
    exact hlift htwice
  · intro inner element enclosing hopened
    exact hlift (hsound.takeAll_stops_inner hopened)
  · intro ids ids' after hperm
    apply hlift
    rw [Nesting.takeAll_append, Nesting.takeAll_append, hsound.takeAll_stops_perm hperm]

end Textile.Html
