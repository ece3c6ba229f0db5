import EventTickets.Text.Blank
import Mathlib.Data.List.TakeWhile

/-!
# Trimming

Blanks around a text do not count, and a text without blanks is its own trimmed form.
-/

namespace EventTickets.Text

/-- Whether a text is another one with nothing but blanks around it. -/
def IsPadded (s padded : String) : Prop :=
  ∃ before after : String, (∀ c ∈ before.toList, isBlank c = true) ∧
    (∀ c ∈ after.toList, isBlank c = true) ∧ padded = before ++ s ++ after

theorem IsPadded.refl (s : String) : IsPadded s s :=
  ⟨"", "", fun _ hc => (List.not_mem_nil hc).elim, fun _ hc => (List.not_mem_nil hc).elim, by simp⟩

theorem isPadded_trim (s : String) : IsPadded (trim s) s := by
  have hfront := List.takeWhile_append_dropWhile (p := isBlank) (l := s.toList)
  have hback := List.takeWhile_append_dropWhile (p := isBlank) (l := (dropBlanks s.toList).reverse)
  refine ⟨String.ofList (s.toList.takeWhile isBlank),
    String.ofList ((dropBlanks s.toList).reverse.takeWhile isBlank).reverse,
    fun c hc => ?_, fun c hc => ?_, ?_⟩
  · rw [String.toList_ofList] at hc
    exact List.mem_takeWhile_imp hc
  · rw [String.toList_ofList, List.mem_reverse] at hc
    exact List.mem_takeWhile_imp hc
  · have hmiddle : trimChars s.toList ++ ((dropBlanks s.toList).reverse.takeWhile isBlank).reverse =
        dropBlanks s.toList := by
      rw [trimChars, ← List.reverse_append]
      exact (congrArg List.reverse hback).trans (List.reverse_reverse _)
    rw [← String.toList_inj]
    simp only [trim, String.toList_append, String.toList_ofList, List.append_assoc, hmiddle]
    exact hfront.symm

variable {cs pad pad' : List Char}

theorem dropBlanks_append (h : ∀ c ∈ pad, isBlank c = true) :
    dropBlanks (pad ++ cs) = dropBlanks cs :=
  List.dropWhile_append_of_pos h

theorem dropBlanks_eq_self (h : ∀ c ∈ cs, isBlank c = false) : dropBlanks cs = cs := by
  cases cs with
  | nil => rfl
  | cons c rest =>
    exact List.dropWhile_cons_of_neg (by rw [h c List.mem_cons_self]; exact Bool.false_ne_true)

theorem trimChars_append_blanks (hpad : ∀ c ∈ pad, isBlank c = true)
    (hpad' : ∀ c ∈ pad', isBlank c = true) : trimChars (pad ++ cs ++ pad') = trimChars cs := by
  have hnone : dropBlanks pad' = [] := List.dropWhile_eq_nil_iff.mpr hpad'
  have hfront : dropBlanks (pad ++ cs ++ pad') = if (dropBlanks cs).isEmpty then [] else
      dropBlanks cs ++ pad' := by
    rw [List.append_assoc, dropBlanks_append hpad, ← hnone]
    exact List.dropWhile_append
  rw [trimChars, trimChars, hfront]
  split
  · next hblank => rw [List.isEmpty_iff.mp hblank]
  · rw [List.reverse_append, dropBlanks_append (fun c hc => hpad' c (List.mem_reverse.mp hc))]

theorem trimChars_eq_self (h : ∀ c ∈ cs, isBlank c = false) : trimChars cs = cs := by
  rw [trimChars, dropBlanks_eq_self h,
    dropBlanks_eq_self (fun c hc => h c (List.mem_reverse.mp hc)), List.reverse_reverse]

theorem trimChars_eq_nil_iff : trimChars cs = [] ↔ ∀ c ∈ cs, isBlank c = true := by
  rw [trimChars, List.reverse_eq_nil_iff, dropBlanks, List.dropWhile_eq_nil_iff]
  constructor
  · intro h c hc
    rw [← List.takeWhile_append_dropWhile (p := isBlank) (l := cs)] at hc
    rcases List.mem_append.mp hc with hfront | hrest
    · exact List.mem_takeWhile_imp hfront
    · exact h c (List.mem_reverse.mpr hrest)
  · intro h c hc
    exact h c ((List.dropWhile_sublist _).subset (List.mem_reverse.mp hc))

theorem mem_of_mem_trimChars {c : Char} (h : c ∈ trimChars cs) : c ∈ cs :=
  (List.dropWhile_sublist _).subset
    (List.mem_reverse.mp ((List.dropWhile_sublist _).subset (List.mem_reverse.mp h)))

theorem trimChars_append_cons {front back : List Char} {c : Char} (h : isBlank c = false) :
    trimChars (front ++ c :: back) = dropBlanks front ++
      c :: (dropBlanks back.reverse).reverse := by
  have hc : ∀ rest, dropBlanks (c :: rest) = c :: rest := fun rest =>
    List.dropWhile_cons_of_neg (by rw [h]; exact Bool.false_ne_true)
  have happend : ∀ cs rest, dropBlanks (cs ++ c :: rest) = dropBlanks cs ++ c :: rest := by
    intro cs rest
    have hsplit : dropBlanks (cs ++ c :: rest) =
        if (dropBlanks cs).isEmpty then dropBlanks (c :: rest) else dropBlanks cs ++ c :: rest :=
          List.dropWhile_append
    rw [hsplit]
    split
    · next hempty => rw [List.isEmpty_iff.mp hempty, hc, List.nil_append]
    · rfl
  rw [trimChars, happend, List.reverse_append, List.reverse_cons, List.append_assoc,
    List.singleton_append, happend]
  simp

theorem trim_isEmpty (s : String) : (trim s).isEmpty = s.toList.all isBlank := by
  rw [Bool.eq_iff_iff, String.isEmpty_iff, trim, ← String.toList_inj,
    String.toList_ofList, List.all_eq_true]
  exact trimChars_eq_nil_iff

theorem normalizeToken_isEmpty (s : String) :
    (normalizeToken s).isEmpty = s.toList.all isBlank := by
  rw [← trim_isEmpty, Bool.eq_iff_iff, String.isEmpty_iff, String.isEmpty_iff,
    normalizeToken, upper, ← String.toList_inj, ← String.toList_inj, String.toList_ofList]
  exact List.map_eq_nil_iff

theorem IsPadded.trimChars_eq {s padded : String} (h : IsPadded s padded) :
    Text.trimChars padded.toList = Text.trimChars s.toList := by
  obtain ⟨before, after, hbefore, hafter, rfl⟩ := h
  rw [String.toList_append, String.toList_append, trimChars_append_blanks hbefore hafter]

theorem IsPadded.trimChars {s padded : String} (h : IsPadded s padded)
    (hs : ∀ c ∈ s.toList, isBlank c = false) : Text.trimChars padded.toList = s.toList := by
  rw [h.trimChars_eq, trimChars_eq_self hs]

theorem isEmpty_of_ne_nil {s : String} (h : s.toList ≠ []) : s.isEmpty = false := by
  rw [Bool.eq_false_iff, ne_eq, String.isEmpty_iff]
  rintro rfl
  exact h rfl

theorem IsPadded.trim {s padded : String} (h : IsPadded s padded)
    (hs : ∀ c ∈ s.toList, isBlank c = false) : Text.trim padded = s := by
  rw [Text.trim, h.trimChars hs, String.ofList_toList]

theorem IsPadded.nonBlank? {s padded : String} (h : IsPadded s padded)
    (hs : ∀ c ∈ s.toList, isBlank c = false) (hne : s.toList ≠ []) :
    Text.nonBlank? padded = some s := by
  rw [Text.nonBlank?, h.trim hs]
  simp only [isEmpty_of_ne_nil hne, Bool.false_eq_true, if_false]

theorem nonBlank?_eq_some {s t : String} (h : nonBlank? s = some t) : t = trim s := by
  simp only [nonBlank?] at h
  split at h
  · cases h
  · exact (Option.some.inj h).symm

end EventTickets.Text
