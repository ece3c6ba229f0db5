import EventTickets.Proofs.Records.Catalog
import EventTickets.Proofs.Records.Orders

/-!
# Round trips

What is read is normalised at once: written again it reads as the same value, and so it is written
the same way from then on. That holds of values and of their texts, where fields come back in
another order than they are written in.
-/

namespace EventTickets

/-- How the value that some JSON stands for is written. -/
def normalForm? (α : Type) [Encode α] [Decode α] (j : Json) : Option Json :=
  (decode? j : Option α).map encode

def readText? (α : Type) [Decode α] (text : String) : Option α := (Json.parse? text).bind decode?

/-- What has been read is read again from its written form, also from the text of that form, and the
form is not changed by reading it. -/
structure RoundTrips (α : Type) [Encode α] [Decode α] : Prop where
  rereads : ∀ (j : Json) (a : α), decode? j = some a → decode? (encode a) = some a
  settles : ∀ j j' : Json, normalForm? α j = some j' → normalForm? α j' = some j'
  reprints : ∀ (text : String) (a : α), readText? α text = some a → (encode a).Whole →
    readText? α (encode a).compact = some a

section

variable (α : Type) [Encode α] [Decode α] [TwoWay α]

theorem RoundTrips.of_fits
    (hfits : ∀ {j : Json} {a : α}, j.Fits 128 → decode? j = some a → (encode a).Fits 128) :
    RoundTrips α where
  rereads _ _ h := TwoWay.rereads rearrangement_id trivial h
  settles j j' h := by
    obtain ⟨a, ha, rfl⟩ := Option.map_eq_some_iff.mp h
    have hagain : decode? (encode a) = some a := TwoWay.rereads rearrangement_id trivial ha
    rw [normalForm?, hagain, Option.map_some]
  reprints text a h hwhole := by
    obtain ⟨j, hj, ha⟩ := Option.bind_eq_some_iff.mp h
    obtain ⟨hfit, hcanonical⟩ := Json.of_parse? hj
    rw [readText?, Json.parse?_compact hwhole (hfits hfit ha), Option.bind_some]
    exact TwoWay.rereads rearrangement_sorted hcanonical ha

theorem roundTrips [Bounded α] : RoundTrips α := .of_fits α Bounded.fits

end

theorem TransferProductInput.roundTrips : RoundTrips TransferProductInput :=
  .of_fits _ fun hj h => schema_describes.fits hj h (show 2 < 128 by decide)

theorem CreateOrderRequest.roundTrips : RoundTrips CreateOrderRequest :=
  .of_fits _ fun hj h => schema_describes.fits hj h (show 2 < 128 by decide)

/-- Every record that is both read and written is settled by one reading, with all its aliases,
spellings, unknown fields and absent defaults. -/
theorem records_round_trip :
    RoundTrips TicketProduct ∧ RoundTrips TransferProduct ∧
      RoundTrips PromoCode ∧ RoundTrips Order ∧ RoundTrips OrderItem ∧ RoundTrips Ticket ∧
        RoundTrips Purchaser ∧ RoundTrips OrderDetail ∧
      RoundTrips OrderSummary ∧ RoundTrips (Page OrderSummary) ∧ RoundTrips StatsBucket ∧
        RoundTrips TicketStats ∧
      RoundTrips PurchasableProducts ∧ RoundTrips PromoValidation ∧ RoundTrips Claims ∧
      RoundTrips CreateOrderRequest ∧ RoundTrips ProductSelection ∧ RoundTrips TicketProductInput ∧
      RoundTrips TransferProductInput ∧ RoundTrips PromoCodeInput ∧ RoundTrips ProductFilter :=
  ⟨roundTrips _, roundTrips _, roundTrips _, roundTrips _, roundTrips _, roundTrips _,
    roundTrips _, roundTrips _, roundTrips _, roundTrips _, roundTrips _, roundTrips _,
    roundTrips _, roundTrips _, roundTrips _, CreateOrderRequest.roundTrips, roundTrips _,
    roundTrips _, TransferProductInput.roundTrips, roundTrips _, roundTrips _⟩

namespace Sample

/-- A paid order as others may write it: with the old name of its status, a braced identifier, a
time with an offset, a field that is none of its own and without those that may be absent. -/
def respelledOrder : Json := .obj [
  ("status", .str "CONFIRMED"),
  ("id", .str "\x7b00000000-0000-0000-0000-0000000000AF\x7d"),
  ("userId", .int 7),
  ("eventId", .int 1),
  ("channel", .str "kiosk"),
  ("paymentMethod", .str "PHONE"),
  ("subtotalCents", .int 5000),
  ("discountCents", .int 0),
  ("totalCents", .int 5000),
  ("currency", .str "USD"),
  ("createdAt", .str "2025-01-01T02:30:00.500+02:30"),
  ("updatedAt", .str "2025-01-01t00:00:00z")]

def settledOrder : Json := .obj [
  ("id", .str "00000000-0000-0000-0000-0000000000af"),
  ("userId", .int 7),
  ("eventId", .int 1),
  ("status", .str "PAID"),
  ("paymentMethod", .str "PHONE"),
  ("paymentReference", .null),
  ("paymentNotes", .null),
  ("promoCodeId", .null),
  ("subtotalCents", .int 5000),
  ("discountCents", .int 0),
  ("totalCents", .int 5000),
  ("currency", .str "USD"),
  ("confirmedAt", .null),
  ("confirmedBy", .null),
  ("canceledAt", .null),
  ("canceledBy", .null),
  ("canceledReason", .null),
  ("redeemedAt", .null),
  ("createdAt", .str "2025-01-01T00:00:00.500Z"),
  ("updatedAt", .str "2025-01-01T00:00:00Z")]

def respelledPromo : Json := .obj [
  ("id", .str "000000000000000000000000000000af"),
  ("code", .str "WELCOME"),
  ("discountType", .str " percent "),
  ("value", .int 10),
  ("usedCount", .int 0),
  ("isActive", .bool true),
  ("createdAt", .str "2025-01-01T00:00:00Z"),
  ("updatedAt", .str "2025-01-01T00:00:00Z")]

def respelledSelection : String := "[\"\x7b00000000-0000-0000-0000-0000000000AF\x7d\", 2]"

end Sample

theorem records_round_trip_respelled :
    normalForm? Order Sample.respelledOrder = some Sample.settledOrder ∧
      normalForm? Order Sample.settledOrder = some Sample.settledOrder ∧
      (∃ promo : PromoCode, decode? Sample.respelledPromo = some promo ∧
        promo.discountType = .percent ∧ decode? (encode promo) = some promo) ∧
      ∃ selection : ProductSelection,
        readText? ProductSelection Sample.respelledSelection = some selection ∧
        readText? ProductSelection (encode selection).compact = some selection := by
  obtain ⟨-, -, hpromo, horder, -, -, -, -, -, -, -, -, -, -, -, -, hselection, -⟩ :=
    records_round_trip
  have hsettled : normalForm? Order Sample.respelledOrder = some Sample.settledOrder := rfl
  have hpercent : (decode? Sample.respelledPromo : Option PromoCode).map (·.discountType) =
      some .percent := rfl
  have hread : (readText? ProductSelection Sample.respelledSelection).isSome = true := by
    decide +kernel
  obtain ⟨promo, hdecoded, hkind⟩ := Option.map_eq_some_iff.mp hpercent
  obtain ⟨selection, hselected⟩ := Option.isSome_iff_exists.mp hread
  refine ⟨hsettled, horder.settles _ _ hsettled,
    ⟨promo, hdecoded, hkind, hpromo.rereads _ promo hdecoded⟩,
    selection, hselected, hselection.reprints _ selection hselected ?_⟩
  exact ⟨trivial, trivial, trivial⟩

end EventTickets
