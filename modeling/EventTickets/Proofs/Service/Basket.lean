import EventTickets.Proofs.Service.Subtotal
import Mathlib.Data.List.Dedup

/-!
# What a basket makes of its selections

A basket has one line for each product of which something is selected, with all that is selected of
it, whatever the order and the parts of the selections. So what a basket costs can be told from the
selections.
-/

namespace EventTickets.Basket

variable {basket : List (ProductId × UInt32)} {product p : ProductId} {quantity cap : UInt32}
  {selections : List ProductSelection}

/-- How much is selected of a product, with each selection cut to the cap. -/
def wanted (selections : List ProductSelection) (cap : UInt32) (product : ProductId) : Nat :=
  ((selections.filter (·.productId = product)).map fun s => (min s.quantity cap).toNat).sum

/-- How much is bought of a product: what is wanted, up to the greatest count. -/
def bought (selections : List ProductSelection) (cap : UInt32) (product : ProductId) : Nat :=
  min (wanted selections cap product) (2 ^ 32 - 1)

def selected (selections : List ProductSelection) : List ProductId :=
  ((selections.filter (0 < ·.quantity)).map (·.productId)).dedup

def worth (price? : ProductId → Option Int64) (selections : List ProductSelection) (cap : UInt32) :
    Int :=
  ((selected selections).map fun product => (price? product).elim 0 Int64.toInt *
    bought selections cap product).sum

theorem mem_selected :
    product ∈ selected selections ↔ ∃ s ∈ selections, s.productId = product ∧ 0 < s.quantity := by
  rw [selected, List.mem_dedup, List.mem_map]
  constructor
  · rintro ⟨s, hs, e⟩
    obtain ⟨hs, hpositive⟩ := List.mem_filter.mp hs
    exact ⟨s, hs, e, of_decide_eq_true hpositive⟩
  · rintro ⟨s, hs, e, hpositive⟩
    exact ⟨s, List.mem_filter.mpr ⟨hs, decide_eq_true hpositive⟩, e⟩

theorem toNat_bought :
    (UInt32.ofNat (bought selections cap product)).toNat = bought selections cap product := by
  refine UInt32.toNat_ofNat_of_lt' ?_
  rw [UInt32.size, bought]
  omega

theorem wanted_cons (s : ProductSelection) (rest : List ProductSelection) :
    wanted (s :: rest) cap product =
      (if s.productId = product then (min s.quantity cap).toNat else 0) +
        wanted rest cap product := by
  simp only [wanted, List.filter_cons, decide_eq_true_eq]
  split <;> simp

theorem toNat_saturatingAdd (a b : UInt32) :
    (saturatingAdd a b).toNat = min (a.toNat + b.toNat) (2 ^ 32 - 1) := by
  rw [saturatingAdd]
  split
  · rw [UInt32.toNat_add]
    omega
  · simp only [UInt32.reduceToNat]
    omega

theorem InOrder.lookup_eq_none {line : ProductId × UInt32} (h : InOrder (line :: basket))
    (hbefore : Ranked.rank product < Ranked.rank line.1) :
    (line :: basket).lookup product = none := by
  rw [Option.eq_none_iff_forall_ne_some]
  intro n hn
  have hmem := (Table.lookup_eq_some_iff_mem h).mp hn
  rcases List.mem_cons.mp hmem with e | hmem
  · rw [← e] at hbefore
    exact Int.lt_irrefl _ hbefore
  · exact Int.lt_irrefl _ (Int.lt_trans hbefore ((List.pairwise_cons.mp h).1 _ hmem))

theorem lookup_add (h : InOrder basket) :
    (add product quantity basket).lookup p =
      if p = product then some ((basket.lookup product).elim quantity (saturatingAdd · quantity))
      else basket.lookup p := by
  induction basket with
  | nil => rw [add, Table.lookup_cons_eq]; rfl
  | cons line rest ih =>
    rw [add]
    split
    · next hbefore =>
      rw [h.lookup_eq_none hbefore, Table.lookup_cons_eq]
      rfl
    · split
      · next e =>
        subst e
        simp only [Table.lookup_cons_eq, if_true, Option.elim_some]
        split <;> rfl
      · next hne =>
        rw [Table.lookup_cons_eq, ih (List.pairwise_cons.mp h).2]
        by_cases hp : p = product
        · subst hp
          simp [Table.lookup_cons_eq, hne]
        · simp [Table.lookup_cons_eq, hp]

def select (cap : UInt32) (basket : List (ProductId × UInt32)) (s : ProductSelection) :
    List (ProductId × UInt32) :=
  if 0 < s.quantity then add s.productId (min s.quantity cap) basket else basket

theorem merge_eq (selections : List ProductSelection) (cap : UInt32) :
    merge selections cap = selections.foldl (select cap) [] := by
  simp only [merge, List.foldl_filter, decide_eq_true_eq]
  rfl

theorem lookup_foldl_select (h : InOrder basket) {n : UInt32} :
    (selections.foldl (select cap) basket).lookup product = some n ↔
      ((basket.lookup product).isSome ∨ ∃ s ∈ selections, s.productId = product ∧ 0 < s.quantity) ∧
        n.toNat = min ((basket.lookup product).elim 0 UInt32.toNat + wanted selections cap product)
          (2 ^ 32 - 1) := by
  -- By induction on the selections, for any basket that they are added to.
  induction selections generalizing basket with
  | nil =>
    rw [List.foldl_nil]
    rcases basket.lookup product with _ | m
    · simp
    · have hm := UInt32.toNat_lt m
      have hsame : m = n ↔ n.toNat = min (m.toNat + 0) (2 ^ 32 - 1) := by
        rw [← UInt32.toNat_inj]
        omega
      simpa [wanted] using hsame
  | cons s rest ih =>
    rw [List.foldl_cons, wanted_cons, select]
    by_cases hpositive : 0 < s.quantity
    · rw [if_pos hpositive, ih (add_inOrder _ _ h), lookup_add h]
      by_cases hp : product = s.productId
      · have hcount : ((basket.lookup s.productId).elim (min s.quantity cap)
            (saturatingAdd · (min s.quantity cap))).toNat =
              min ((basket.lookup s.productId).elim 0 UInt32.toNat + (min s.quantity cap).toNat)
                (2 ^ 32 - 1) := by
          rcases basket.lookup s.productId with _ | m
          · have := UInt32.toNat_lt (min s.quantity cap)
            simp only [Option.elim_none]
            omega
          · exact toNat_saturatingAdd _ _
        subst hp
        simp only [if_true, Option.isSome_some, Option.elim_some, hcount, List.mem_cons,
          exists_eq_or_imp, hpositive, true_and, and_true, true_or, or_true]
        omega
      · simp [hp, Ne.symm hp]
    · have hzero : s.quantity = 0 := UInt32.le_zero_iff.mp (UInt32.not_lt.mp hpositive)
      have hnone : (min s.quantity cap).toNat = 0 := by
        rw [min_eq_ite, hzero]
        split
        · rfl
        · next hcap => exact absurd (UInt32.zero_le) hcap
      simp [ih h, hnone, hpositive]

theorem mem_merge_iff {n : UInt32} :
    (product, n) ∈ merge selections cap ↔ product ∈ selected selections ∧
      n.toNat = bought selections cap product := by
  rw [mem_selected, ← Table.lookup_eq_some_iff_mem (merge_inOrder selections cap), merge_eq,
    lookup_foldl_select .nil]
  simp [bought]

theorem merge_perm (selections : List ProductSelection) (cap : UInt32) :
    (merge selections cap).Perm
      ((selected selections).map fun product =>
        (product, UInt32.ofNat (bought selections cap product))) := by
  have hinjective : Function.Injective fun product =>
      (product, UInt32.ofNat (bought selections cap product)) :=
    fun _ _ e => (Prod.mk.inj e).1
  refine (List.perm_ext_iff_of_nodup (merge_inOrder selections cap).nodup.of_map
    ((List.nodup_dedup _).map hinjective)).mpr fun ⟨product, n⟩ => ?_
  rw [mem_merge_iff, List.mem_map]
  constructor
  · rintro ⟨hselected, hn⟩
    exact ⟨product, hselected, by rw [← hn, UInt32.ofNat_toNat]⟩
  · rintro ⟨_, hselected, ⟨⟩⟩
    exact ⟨hselected, toNat_bought⟩

theorem cost_merge (price? : ItemType → ProductId → Option Int64) (kind : ItemType) :
    cost price? ((merge selections cap).map (Prod.mk kind)) =
      worth (price? kind) selections cap := by
  have hperm := (merge_perm selections cap).map (Prod.mk kind)
  rw [cost, (hperm.map _).sum_eq, worth]
  simp only [List.map_map, Function.comp_def, toNat_bought]

theorem forall_mem_merge {P : ProductId → Prop} :
    (∀ line ∈ merge selections cap, P line.1) ↔
      ∀ s ∈ selections, 0 < s.quantity → P s.productId := by
  have hproducts : (∀ line ∈ merge selections cap, P line.1) ↔
      ∀ product ∈ selected selections, P product := by
    simp only [(merge_perm selections cap).mem_iff, List.forall_mem_map]
  simp only [hproducts, mem_selected]
  constructor
  · exact fun h s hs hpositive => h _ ⟨s, hs, rfl, hpositive⟩
  · rintro h _ ⟨s, hs, rfl, hpositive⟩
    exact h s hs hpositive

theorem merge_eq_nil_iff : merge selections cap = [] ↔ ¬ ∃ s ∈ selections, 0 < s.quantity := by
  rw [List.eq_nil_iff_forall_not_mem, not_exists]
  exact (forall_mem_merge (P := fun _ => False)).trans (by simp)

end EventTickets.Basket
