import EventTickets.Text.Cut
import Mathlib.Data.List.Infix

/-!
# Cutting at a mark

A text is cut where its mark stands for the first time. A mark that does not repeat its first
character cannot begin in a text that is free of it and end behind that text, so it is found right
behind that text.
-/

namespace EventTickets.Text

variable {c : Char} {cs before after : List Char}

theorem not_prefix_append (hc : c ∉ cs) {x : Char} (hfree : ¬ c :: cs <:+: x :: before) :
    ¬ c :: cs <+: x :: before ++ (c :: cs ++ after) := by
  intro hprefix
  obtain ⟨rfl, hrest⟩ := List.cons_prefix_cons.mp hprefix
  have hnext : before ++ [c] <+: before ++ (c :: cs ++ after) :=
    (List.prefix_append_right_inj before).mpr ⟨cs ++ after, rfl⟩
  -- Either the rest of the mark ends within the text, or it reaches its own first character.
  rcases List.prefix_or_prefix_of_prefix hrest hnext with hwithin | hbeyond
  · rcases List.prefix_concat_iff.mp hwithin with hwhole | hwithin
    · exact hc (by simp [hwhole])
    · exact hfree (List.cons_prefix_cons.mpr ⟨rfl, hwithin⟩).isInfix
  · exact hc (hbeyond.subset (by simp))

theorem cutChars?_append (hc : c ∉ cs) (hfree : ¬ c :: cs <:+: before) (after : List Char) :
    cutChars? (c :: cs) (before ++ (c :: cs ++ after)) = some (before, after) := by
  induction before with
  | nil => simp [cutChars?]
  | cons x before ih =>
    have hnot : ¬ c :: cs <+: x :: before ++ (c :: cs ++ after) := not_prefix_append hc hfree
    rw [List.cons_append] at hnot ⊢
    rw [cutChars?, if_neg (by rwa [List.isPrefixOf_iff_prefix]),
      ih fun hinfix => hfree (List.infix_cons_iff.mpr (.inr hinfix))]
    rfl

/-- A text is cut at the first mark, with what stands before it free of the mark. -/
theorem cut?_append {mark before : String} (hmark : mark.toList = c :: cs) (hc : c ∉ cs)
    (hfree : ¬ mark.toList <:+: before.toList) (after : String) :
    cut? mark (before ++ mark ++ after) = some (before, after) := by
  rw [hmark] at hfree
  rw [cut?, String.append_assoc, String.toList_append, String.toList_append, hmark,
    cutChars?_append hc hfree]
  simp

theorem cut?_append_of_not_mem {mark before : String} (hmark : mark.toList = [c])
    (hfree : c ∉ before.toList) (after : String) :
    cut? mark (before ++ mark ++ after) = some (before, after) := by
  refine cut?_append hmark List.not_mem_nil (fun hinfix => hfree ?_) after
  exact hinfix.subset (by rw [hmark]; exact List.mem_cons_self)

end EventTickets.Text
