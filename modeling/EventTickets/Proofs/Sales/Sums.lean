import Mathlib.Algebra.BigOperators.Group.List.Basic
import Mathlib.Algebra.Ring.Int.Defs

/-!
# Sums over the rows that pass a test

Figures are sums of this kind, over orders, lines or tickets. They split by the key of the rows, so
that what is summed order by order, product by product or event by event is summed over all rows at
once.
-/

namespace EventTickets

variable {α β κ : Type}

def sumOf (picks : α → Bool) (weight : α → Int) (l : List α) : Int :=
  ((l.filter picks).map weight).sum

variable {picks picks' : α → Bool} {weight weight' : α → Int} {l l' : List α}

@[simp] theorem sumOf_nil : sumOf picks weight [] = 0 := rfl

theorem sumOf_cons (a : α) (l : List α) :
    sumOf picks weight (a :: l) = (if picks a then weight a else 0) + sumOf picks weight l := by
  rw [sumOf, List.filter_cons]
  split
  · rw [List.map_cons, List.sum_cons, sumOf]
  · rw [Int.zero_add, sumOf]

theorem sumOf_append :
    sumOf picks weight (l ++ l') = sumOf picks weight l + sumOf picks weight l' := by
  rw [sumOf, List.filter_append, List.map_append, List.sum_append, sumOf, sumOf]

theorem sumOf_congr
    (h : ∀ a ∈ l, (if picks a then weight a else 0) = if picks' a then weight' a else 0) :
    sumOf picks weight l = sumOf picks' weight' l := by
  induction l with
  | nil => rfl
  | cons a rest ih =>
    obtain ⟨ha, hrest⟩ := List.forall_mem_cons.mp h
    rw [sumOf_cons, sumOf_cons, ha, ih hrest]

theorem sumOf_eq_zero (h : ∀ a ∈ l, picks a = true → weight a = 0) : sumOf picks weight l = 0 := by
  induction l with
  | nil => rfl
  | cons a rest ih =>
    obtain ⟨ha, hrest⟩ := List.forall_mem_cons.mp h
    rw [sumOf_cons, ih hrest]
    split
    · next hpicks => rw [ha hpicks, Int.add_zero]
    · rfl

theorem sumOf_filter (q : α → Bool) (l : List α) :
    sumOf picks weight (l.filter q) = sumOf (fun a => q a && picks a) weight l := by
  rw [sumOf, List.filter_filter, sumOf]
  simp only [Bool.and_comm]

theorem sumOf_map (f : β → α) (l : List β) :
    sumOf picks weight (l.map f) = sumOf (fun b => picks (f b)) (fun b => weight (f b)) l := by
  rw [sumOf, List.filter_map, List.map_map]
  rfl

theorem sumOf_nonneg (h : ∀ a ∈ l, 0 ≤ weight a) : 0 ≤ sumOf picks weight l := by
  induction l with
  | nil => exact Int.le_refl 0
  | cons a rest ih =>
    obtain ⟨ha, hrest⟩ := List.forall_mem_cons.mp h
    have := ih hrest
    rw [sumOf_cons]
    split <;> omega

theorem sumOf_le (h : ∀ a ∈ l, 0 ≤ weight a) (hpicks : ∀ a ∈ l, picks a = true → picks' a = true) :
    sumOf picks weight l ≤ sumOf picks' weight l := by
  induction l with
  | nil => exact Int.le_refl 0
  | cons a rest ih =>
    obtain ⟨ha, hrest⟩ := List.forall_mem_cons.mp h
    obtain ⟨hpick, hpicks⟩ := List.forall_mem_cons.mp hpicks
    have hle := ih hrest hpicks
    rw [sumOf_cons, sumOf_cons]
    by_cases hp : picks a = true
    · rw [if_pos hp, if_pos (hpick hp)]
      omega
    · rw [if_neg hp]
      split <;> omega

theorem sumOf_prefix_le (h : ∀ a ∈ l, 0 ≤ weight a) (hpre : l' <+: l) :
    sumOf picks weight l' ≤ sumOf picks weight l := by
  obtain ⟨rest, rfl⟩ := hpre
  have hrest : 0 ≤ sumOf picks weight rest :=
    sumOf_nonneg fun a ha => h a (List.mem_append_right l' ha)
  rw [sumOf_append]
  omega

theorem sumOf_one (picks : α → Bool) (l : List α) :
    sumOf picks (fun _ => 1) l = l.countP picks := by
  induction l with
  | nil => rfl
  | cons a rest ih =>
    rw [sumOf_cons, ih, List.countP_cons]
    split <;> omega

section

variable [DecidableEq κ]

theorem sum_map_key {keys : List κ} (h : keys.Nodup) (k : κ) (n : Int) :
    (keys.map fun k' => if k = k' then n else 0).sum = if keys.contains k then n else 0 := by
  induction keys with
  | nil => rfl
  | cons k' rest ih =>
    obtain ⟨hk', hrest⟩ := List.nodup_cons.mp h
    rw [List.map_cons, List.sum_cons, ih hrest]
    by_cases e : k = k'
    · subst e
      simp [hk']
    · simp [e]

theorem sum_sumOf_key {keys : List κ} (h : keys.Nodup) (key : α → κ)
    (picks : α → Bool) (weight : α → Int) (l : List α) :
    (keys.map fun k => sumOf (fun a => key a == k && picks a) weight l).sum =
      sumOf (fun a => keys.contains (key a) && picks a) weight l := by
  induction l with
  | nil => simp
  | cons a rest ih =>
    have hsplit : ∀ k, sumOf (fun a => key a == k && picks a) weight (a :: rest) =
        (if key a = k then if picks a then weight a else 0 else 0) +
          sumOf (fun a => key a == k && picks a) weight rest := by
      intro k
      rw [sumOf_cons]
      by_cases e : key a = k <;> simp [e]
    simp only [hsplit]
    rw [List.sum_map_add, ih, sum_map_key h, sumOf_cons]
    cases keys.contains (key a) <;> simp

end

end EventTickets
