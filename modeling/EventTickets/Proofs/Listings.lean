import EventTickets.Proofs.Sales.Report

/-!
# Listings of orders and their pages

Orders are listed with later ones first, and those of one time by their identifiers. Nothing is lost
or repeated where one page ends and the next begins: the pages of one size, one after the other, are
the listing.
-/

namespace EventTickets

open Time (Instant)

theorem flatMap_parts {α : Type} (l : List α) (size count : Nat) :
    ((List.range count).flatMap fun k => (l.drop (k * size)).take size) =
      l.take (count * size) := by
  induction count with
  | zero => simp
  | succ count ih =>
    rw [List.range_succ, List.flatMap_append, ih, List.flatMap_singleton,
      Nat.succ_mul, List.take_add]

/-- Pages of a size, by their offsets, that together are a list. -/
structure Page.Partition {α : Type} (page : UInt32 → Page α) (size : Nat) (listing : List α) :
    Prop where
  whole : ∀ count, (∀ k < count, k * size < 2 ^ 32) → listing.length ≤ count * size →
    ((List.range count).flatMap fun k => (page (UInt32.ofNat (k * size))).items) = listing
  enough : ∃ count, (∀ k < count, k * size < 2 ^ 32) ∧ listing.length ≤ count * size
  total : ∀ offset, (page offset).total.toNat = listing.length
  length_le : ∀ offset, (page offset).items.length ≤ size
  shorter : ∀ offset later : UInt32, (page offset).items.length < size →
    offset.toNat + size ≤ later.toNat → (page later).items = []
  past : ∀ offset : UInt32, listing.length ≤ offset.toNat → (page offset).items = []

theorem Page.partition_of_eq {α : Type} {page : UInt32 → Page α} {size : Nat} {listing : List α}
    (hpage : ∀ offset, page offset =
      ⟨(listing.drop offset.toNat).take size, UInt64.ofNat listing.length⟩)
    (hsize : 0 < size) (hfew : listing.length < 2 ^ 32) : Page.Partition page size listing := by
  have hitems : ∀ offset, (page offset).items = (listing.drop offset.toNat).take size :=
    fun offset => by
    rw [hpage]
  have hpast : ∀ offset : UInt32, listing.length ≤ offset.toNat → (page offset).items = [] := by
    intro offset hoffset
    rw [hitems, List.drop_eq_nil_of_le hoffset, List.take_nil]
  refine ⟨fun count hfits hlength => ?_, ⟨listing.length / size + 1, fun k hk => ?_, ?_⟩,
    fun offset => ?_, fun offset => ?_, fun offset later hshort hlater => hpast later ?_, hpast⟩
  · have hparts : ((List.range count).flatMap fun k => (page (UInt32.ofNat (k * size))).items) =
        (List.range count).flatMap fun k => (listing.drop (k * size)).take size := by
      refine List.flatMap_congr fun k hk => ?_
      rw [hitems, UInt32.toNat_ofNat_of_lt' (hfits k (List.mem_range.mp hk))]
    rw [hparts, flatMap_parts, List.take_of_length_le hlength]
  · have hbefore : k * size ≤ listing.length :=
      (Nat.le_div_iff_mul_le hsize).mp (Nat.le_of_lt_succ hk)
    omega
  · rw [Nat.mul_comm]
    exact Nat.le_of_lt (Nat.lt_mul_div_succ _ hsize)
  · rw [hpage]
    exact UInt64.toNat_ofNat_of_lt' (Nat.lt_trans hfew (by decide))
  · rw [hitems, List.length_take]
    exact Nat.min_le_left _ _
  · rw [hitems, List.length_take, List.length_drop] at hshort
    omega

namespace OrderQuery

theorem normalizeLimit_bounds (limit : UInt32) :
    0 < (normalizeLimit limit).toNat ∧ (normalizeLimit limit).toNat ≤ 200 := by
  rw [normalizeLimit]
  split
  · decide
  · next hnonzero =>
    split
    · decide
    · next hle =>
      have hpositive : limit.toNat ≠ 0 := fun h => hnonzero (UInt32.toNat_inj.mp h)
      rw [UInt32.lt_iff_toNat_lt] at hle
      have hmax : maxLimit.toNat = 200 := rfl
      omega

end OrderQuery

namespace Memory.Tables

variable {t : Tables} {passes : Order → Bool} {a b c : Order}

def Precedes (a b : Order) : Prop :=
  b.createdAt < a.createdAt ∨ a.createdAt = b.createdAt ∧ Ranked.rank b.id < Ranked.rank a.id

theorem listedBefore_iff :
    listedBefore a b = true ↔
      b.createdAt < a.createdAt ∨ a.createdAt = b.createdAt ∧
        Ranked.rank b.id ≤ Ranked.rank a.id := by
  simp [listedBefore]

theorem listedBefore_trans (a b c : Order) (hab : listedBefore a b = true)
    (hbc : listedBefore b c = true) : listedBefore a c = true := by
  rw [listedBefore_iff] at hab hbc ⊢
  rcases hab with hab | ⟨hab, hrank⟩ <;> rcases hbc with hbc | ⟨hbc, hrank'⟩
  · rw [Instant.lt_iff] at hab hbc ⊢
    omega
  · exact .inl (hbc ▸ hab)
  · exact .inl (hab ▸ hbc)
  · exact .inr ⟨hab.trans hbc, by omega⟩

theorem listedBefore_total (a b : Order) : (listedBefore a b || listedBefore b a) = true := by
  rw [Bool.or_eq_true, listedBefore_iff, listedBefore_iff]
  by_cases hlt : b.createdAt < a.createdAt
  · exact .inl (.inl hlt)
  · by_cases hgt : a.createdAt < b.createdAt
    · exact .inr (.inl hgt)
    · have hsame : a.createdAt = b.createdAt := by
        rw [Instant.lt_iff] at hlt hgt
        cases ha : a.createdAt
        cases hb : b.createdAt
        simp only [ha, hb, Instant.mk.injEq] at hlt hgt ⊢
        omega
      rcases Int.le_total (Ranked.rank b.id) (Ranked.rank a.id) with hle | hle
      · exact .inl (.inr ⟨hsame, hle⟩)
      · exact .inr (.inr ⟨hsame.symm, hle⟩)

theorem precedes_of_listedBefore (h : listedBefore a b = true) (hne : a.id ≠ b.id) :
    Precedes a b := by
  refine (listedBefore_iff.mp h).imp_right fun ⟨hsame, hle⟩ => ⟨hsame, ?_⟩
  have hrank : Ranked.rank b.id ≠ Ranked.rank a.id :=
    fun e => hne (Ranked.rank_injective _ _ e).symm
  omega

def listing (t : Tables) (passes : Order → Bool) : List Order :=
  (t.orders.values.filter passes).mergeSort listedBefore

theorem page_eq (t : Tables) (passes : Order → Bool) (limit offset : UInt32) :
    t.page passes limit offset =
      ⟨(((t.listing passes).map t.summary).drop offset.toNat).take limit.toNat,
        UInt64.ofNat ((t.listing passes).map t.summary).length⟩ := by
  rw [List.length_map, ← List.map_drop, ← List.map_take]
  rfl

/-- A list of the orders that pass a test, each once, with every order before those it precedes. -/
structure Lists (t : Tables) (passes : Order → Bool) (listing : List Order) : Prop where
  mem : ∀ order, order ∈ listing ↔ order ∈ t.orders.values ∧ passes order = true
  nodup : listing.Nodup
  descending : listing.Pairwise Precedes
  length : listing.length = t.orders.values.countP passes

theorem Accountable.lists (h : t.Accountable) (passes : Order → Bool) :
    t.Lists passes (t.listing passes) := by
  have hperm : (t.listing passes).Perm (t.orders.values.filter passes) := List.mergeSort_perm _ _
  have hids : ((t.listing passes).map (·.id)).Nodup :=
    (hperm.map _).nodup_iff.mpr (h.ids_nodup.sublist (List.filter_sublist.map _))
  refine ⟨fun order => ?_, hids.of_map, ?_, ?_⟩
  · rw [hperm.mem_iff, List.mem_filter]
  · have hsorted : (t.listing passes).Pairwise fun a b => listedBefore a b = true :=
      List.pairwise_mergeSort listedBefore_trans listedBefore_total _
    exact (hsorted.and (List.pairwise_map.mp hids)).imp fun ⟨hbefore, hne⟩ =>
      precedes_of_listedBefore hbefore hne
  · rw [hperm.length_eq, List.countP_eq_length_filter]

theorem partition_page (hfew : t.orders.values.length < 2 ^ 32)
    (passes : Order → Bool) (limit : UInt32) :
    Page.Partition (t.page passes (OrderQuery.normalizeLimit limit))
      (OrderQuery.normalizeLimit limit).toNat
      ((t.listing passes).map t.summary) := by
  refine Page.partition_of_eq (t.page_eq passes _) (OrderQuery.normalizeLimit_bounds limit).1 ?_
  rw [List.length_map, listing, List.length_mergeSort]
  exact Nat.lt_of_le_of_lt (List.length_filter_le _ _) hfew

end Memory.Tables

namespace Memory.State

open Memory.Tables (Lists)

variable {σ : Type} {channel : Channel σ} {s : State σ}

/-- Whatever is asked for, and whatever the size of the pages, the pages of a listing are all orders
that match, each once and in order. So are those of a user's orders. -/
theorem pages_partition_listing (h : Reachable channel anyCall s) (hfresh : s.sources.ids.Fresh)
    (hfew : s.committed.orders.values.length < 2 ^ 32) :
    (∀ query : OrderQuery, ∃ listing page, s.committed.Lists query.matchesOrder listing ∧
      (∀ offset, serve channel (listOrders
        { query with offset := offset }) s = (.ok (page offset), s)) ∧
      Page.Partition page (OrderQuery.normalizeLimit query.limit).toNat
        (listing.map s.committed.summary)) ∧
    ∀ (user : UserId) (limit : UInt32), user.isValid = true → ∃ listing page,
      s.committed.Lists (·.userId == user) listing ∧
      (∀ offset, serve channel (listUserOrders user limit offset) s = (.ok (page offset), s)) ∧
      Page.Partition page (OrderQuery.normalizeLimit limit).toNat
        (listing.map s.committed.summary) := by
  have haccountable := h.accountable hfresh
  refine ⟨fun query => ?_, fun user limit hvalid => ?_⟩
  · exact ⟨_, s.committed.page query.matchesOrder (OrderQuery.normalizeLimit query.limit),
      haccountable.lists _, fun offset => rfl, Tables.partition_page hfew _ _⟩
  · refine ⟨_, s.committed.page (·.userId == user) (OrderQuery.normalizeLimit limit),
      haccountable.lists _, fun offset => ?_, Tables.partition_page hfew _ _⟩
    rw [listUserOrders, if_pos hvalid]
    rfl

end Memory.State

namespace Sample

def untilThreePlaced : List ServiceCall := [createProduct, createOrder, createOrder, createOrder]

def twoByTwo : OrderQuery := ⟨none, none, none, none, 2, 0⟩

end Sample

namespace Memory.State

theorem pages_partition_listing_two_by_two :
    ∃ page : UInt32 → Page OrderSummary,
      (∀ offset, serve .log (listOrders
        { Sample.twoByTwo with offset := offset }) (Sample.store Sample.untilThreePlaced) =
        (.ok (page offset), Sample.store Sample.untilThreePlaced)) ∧
      (page 0).total.toNat = 3 ∧ ((page 0).items ++ (page 2).items).length = 3 ∧
        (page 4).items = [] := by
  obtain ⟨hall, -⟩ := pages_partition_listing (Sample.store_reachable Sample.untilThreePlaced)
    (Sample.store_fresh Sample.untilThreePlaced (by decide +kernel)) (by decide +kernel)
  obtain ⟨listing, page, hlists, hserve, hpages⟩ := hall Sample.twoByTwo
  have hthree : (listing.map (Sample.store Sample.untilThreePlaced).committed.summary).length =
      3 := by
    rw [List.length_map, hlists.length]
    decide +kernel
  have hsize : (OrderQuery.normalizeLimit Sample.twoByTwo.limit).toNat = 2 := rfl
  have hwhole := hpages.whole 2
  rw [hsize, hthree] at hwhole
  have hwhole := congrArg List.length (hwhole (by decide) (by decide))
  refine ⟨page, hserve, (hpages.total 0).trans hthree, ?_, hpages.past 4 (by rw [hthree]; decide)⟩
  rw [hthree] at hwhole
  simpa [List.range_succ] using hwhole

end Memory.State

end EventTickets
