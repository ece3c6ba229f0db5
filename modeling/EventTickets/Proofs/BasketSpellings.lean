import EventTickets.Proofs.OrderAcceptance
import Mathlib.Algebra.Order.Group.Nat
import Mathlib.Data.UInt

/-!
# Ways to write a basket down

A basket tells its selections by the product and says how much is wanted of it, in the order of the
products. Nothing else of how they are written down is left in it, so an order that is asked for in
another way is the same order.
-/

namespace EventTickets

namespace Basket

variable {cap : UInt32} {product p : ProductId} {a b rest selections : List ProductSelection}
  {parts : List UInt32}

/-- Selections that ask for the same: in another order, with a line of nothing more, or with parts
in place of what the cap leaves whole. -/
inductive Alike (cap : UInt32) : List ProductSelection → List ProductSelection → Prop
  | reordered {a b : List ProductSelection} (h : a.Perm b) : Alike cap a b
  | nothing (product : ProductId) (rest : List ProductSelection) :
      Alike cap rest (⟨product, 0⟩ :: rest)
  | parted (product : ProductId) (rest : List ProductSelection) {quantity : UInt32}
      {parts : List UInt32}
    (whole : quantity ≤ cap) (sum : (parts.map UInt32.toNat).sum = quantity.toNat) :
    Alike cap (⟨product, quantity⟩ :: rest) (parts.map (⟨product, ·⟩) ++ rest)
  | symm {a b : List ProductSelection} (h : Alike cap a b) : Alike cap b a
  | trans {a b c : List ProductSelection} (h : Alike cap a b) (h' : Alike cap b c) : Alike cap a c

/-- What the non-zero selections of a product come to, each cut to the cap. -/
def total (selections : List ProductSelection) (cap : UInt32) (product : ProductId) : Nat :=
  ((selections.filter fun s => s.productId = product ∧ 0 < s.quantity).map fun s =>
    min s.quantity.toNat cap.toNat).sum

theorem total_eq_wanted : total selections cap product = wanted selections cap product := by
  induction selections with
  | nil => rfl
  | cons s rest ih =>
    rw [wanted_cons, ← ih, total, total, List.filter_cons]
    by_cases hp : s.productId = product <;> by_cases hpositive : 0 < s.quantity
    · simp [hp, hpositive, UInt32.toNat_min]
    · have hzero : s.quantity = 0 := UInt32.le_zero_iff.mp (UInt32.not_lt.mp hpositive)
      simp [hp, hzero, UInt32.toNat_min]
    · simp [hp]
    · simp [hp]

theorem wanted_append :
    wanted (a ++ b) cap product = wanted a cap product + wanted b cap product := by
  simp [wanted]

theorem wanted_parts (h : ∀ n ∈ parts, n ≤ cap) :
    wanted (parts.map (⟨product, ·⟩)) cap p = if product = p then
      (parts.map UInt32.toNat).sum else 0 := by
  induction parts with
  | nil => simp [wanted]
  | cons n rest ih =>
    obtain ⟨hn, hrest⟩ := List.forall_mem_cons.mp h
    rw [List.map_cons, wanted_cons, ih hrest, UInt32.toNat_min,
      Nat.min_eq_left (UInt32.le_iff_toNat_le.mp hn)]
    split <;> simp

theorem mem_selected_cons {s : ProductSelection} :
    p ∈ selected (s :: rest) ↔ s.productId = p ∧ 0 < s.quantity ∨ p ∈ selected rest := by
  simp [mem_selected]

theorem mem_selected_append : p ∈ selected (a ++ b) ↔ p ∈ selected a ∨ p ∈ selected b := by
  simp [mem_selected, or_and_right, exists_or]

theorem mem_selected_parts :
    p ∈ selected (parts.map (⟨product, ·⟩)) ↔ product = p ∧ 0 < (parts.map UInt32.toNat).sum := by
  rw [mem_selected, List.sum_pos_iff_exists_pos_nat]
  simp [UInt32.lt_iff_toNat_lt, and_left_comm]

/-- The same products are selected, and as much is wanted of each. -/
structure SameDemand (cap : UInt32) (a b : List ProductSelection) : Prop where
  selected : ∀ p, p ∈ selected a ↔ p ∈ selected b
  wanted : ∀ p, wanted a cap p = wanted b cap p

theorem Alike.sameDemand (h : Alike cap a b) : SameDemand cap a b := by
  induction h with
  | reordered h =>
    exact ⟨fun p => by simp only [mem_selected, h.mem_iff], fun p => ((h.filter _).map _).sum_eq⟩
  | nothing product rest =>
    refine ⟨fun p => by simp [mem_selected_cons], fun p => ?_⟩
    rw [wanted_cons]
    simp [UInt32.toNat_min]
  | @parted product rest quantity parts whole sum =>
    -- No part is larger than the whole, which the cap leaves as it is.
    have hparts : ∀ n ∈ parts, n ≤ cap := fun n hn => by
      have hle := List.le_sum_of_mem (List.mem_map_of_mem (f := UInt32.toNat) hn)
      rw [sum] at hle
      exact UInt32.le_trans (UInt32.le_iff_toNat_le.mpr hle) whole
    refine ⟨fun p => ?_, fun p => ?_⟩
    · rw [mem_selected_cons, mem_selected_append, mem_selected_parts, sum, UInt32.lt_iff_toNat_lt]
      rfl
    · rw [wanted_cons, wanted_append, wanted_parts hparts, sum, UInt32.toNat_min,
        Nat.min_eq_left (UInt32.le_iff_toNat_le.mp whole)]
  | symm h ih => exact ⟨fun p => (ih.selected p).symm, fun p => (ih.wanted p).symm⟩
  | trans h h' ih ih' =>
    exact ⟨fun p => (ih.selected p).trans (ih'.selected p),
      fun p => (ih.wanted p).trans (ih'.wanted p)⟩

theorem InOrder.eq_of_mem_iff {basket basket' : List (ProductId × UInt32)} (h : InOrder basket)
    (h' : InOrder basket') (hmem : ∀ line, line ∈ basket ↔ line ∈ basket') : basket = basket' := by
  refine List.Perm.eq_of_pairwise (fun _ _ _ _ hlt hgt => absurd hlt (Int.lt_asymm hgt)) h h' ?_
  exact (List.perm_ext_iff_of_nodup h.nodup.of_map h'.nodup.of_map).mpr hmem

theorem merge_eq_of_sameDemand (h : SameDemand cap a b) : merge a cap = merge b cap := by
  refine (merge_inOrder a cap).eq_of_mem_iff (merge_inOrder b cap) fun ⟨product, n⟩ => ?_
  rw [mem_merge_iff, mem_merge_iff, h.selected, bought, bought, h.wanted]

theorem Alike.merge_eq (h : Alike cap a b) : merge a cap = merge b cap :=
  merge_eq_of_sameDemand h.sameDemand

end Basket

namespace CreateOrderRequest

abbrev respelled (request : CreateOrderRequest) (tickets transfers : List ProductSelection) :
    CreateOrderRequest :=
  { request with ticketItems := tickets, transferItems := transfers }

end CreateOrderRequest

section

variable {env : Environment} {request : CreateOrderRequest}
  {tickets transfers : List ProductSelection}

theorem Purchase.check_respelled {policy : OrderPolicy}
    (htickets : Basket.Alike policy.maxQuantityPerProduct request.ticketItems tickets)
    (htransfers : Basket.Alike policy.maxQuantityPerProduct request.transferItems transfers) :
    Purchase.check policy (request.respelled tickets transfers) =
      Purchase.check policy request := by
  rw [Purchase.check, Purchase.check, htickets.merge_eq, htransfers.merge_eq]

theorem createOrder_respelled
    (htickets : Basket.Alike env.policy.maxQuantityPerProduct request.ticketItems tickets)
    (htransfers : Basket.Alike env.policy.maxQuantityPerProduct request.transferItems transfers) :
    createOrder env (request.respelled tickets transfers) = createOrder env request := by
  rw [createOrder, createOrder, Purchase.check_respelled htickets htransfers]

end

/-- A basket has a line for each product of which some selection is not zero, in ascending order,
with what the non-zero selections come to, each cut to the cap, up to the greatest count. So an
order that is asked for with selections in another order, with lines of nothing or with its
selections in parts ends alike and leaves the same store. -/
theorem basket_spelling_immaterial :
    (∀ (selections : List ProductSelection) (cap : UInt32),
      (Basket.merge selections cap).Pairwise (fun a b => Ranked.rank a.1 < Ranked.rank b.1) ∧
        ∀ product n, (product, n) ∈ Basket.merge selections cap ↔
          (∃ s ∈ selections, s.productId = product ∧ 0 < s.quantity) ∧
            n.toNat = min (2 ^ 32 - 1) (Basket.total selections cap product)) ∧
    ∀ (env : Environment) (request : CreateOrderRequest)
      (tickets transfers : List ProductSelection),
      Basket.Alike env.policy.maxQuantityPerProduct request.ticketItems tickets →
      Basket.Alike env.policy.maxQuantityPerProduct request.transferItems transfers →
      ∀ {σ : Type} (channel : Channel σ) (s : Memory.State σ),
        Memory.State.serve channel (createOrder env (request.respelled tickets transfers)) s =
          Memory.State.serve channel (createOrder env request) s := by
  refine ⟨fun selections cap => ⟨Basket.merge_inOrder selections cap, fun product n => ?_⟩, ?_⟩
  · rw [Basket.mem_merge_iff, Basket.mem_selected, Basket.bought,
      Basket.total_eq_wanted, Nat.min_comm]
  · intro env request tickets transfers htickets htransfers σ channel s
    rw [createOrder_respelled htickets htransfers]

theorem basket_spelling_immaterial_in_parts :
    ∃ detail after,
      Memory.State.serve .log (createOrder Sample.environment Sample.discountedRequest)
          (Sample.store Sample.onSale) =
        (.ok detail, after) ∧
      Memory.State.serve .log
          (createOrder Sample.environment
            (Sample.discountedRequest.respelled [⟨Sample.product, 2⟩] []))
          (Sample.store Sample.onSale) =
        (.ok detail, after) := by
  have hsum : ([1, 1].map UInt32.toNat).sum = (2 : UInt32).toNat := rfl
  have hparts : Basket.Alike 100 [⟨Sample.product, 2⟩] [⟨Sample.product, 1⟩, ⟨Sample.product, 1⟩] :=
    .parted Sample.product [] (by decide) hsum
  have hnothing : Basket.Alike 100 [⟨Sample.product, 1⟩, ⟨Sample.product, 1⟩]
      Sample.discountedRequest.ticketItems :=
    .trans (.nothing ⟨Sample.promo.uuid⟩ _) (.reordered (List.Perm.swap _ _ _))
  have hplaced : (Memory.State.serve .log (createOrder Sample.environment Sample.discountedRequest)
      (Sample.store Sample.onSale)).1.toOption.isSome = true := by
    decide +kernel
  have hsame := basket_spelling_immaterial.2 Sample.environment Sample.discountedRequest
    [⟨Sample.product, 2⟩] []
    (.symm (.trans hparts hnothing)) (.reordered (List.Perm.refl _)) .log
    (Sample.store Sample.onSale)
  rw [hsame]
  rcases hserve : Memory.State.serve .log (createOrder Sample.environment Sample.discountedRequest)
      (Sample.store Sample.onSale) with ⟨e | detail, after⟩
  · rw [hserve] at hplaced
    cases hplaced
  · exact ⟨detail, after, rfl, rfl⟩

end EventTickets
