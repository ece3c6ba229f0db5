import EventTickets.Amount
import EventTickets.Catalog.Draft
import EventTickets.Catalog.Filter
import EventTickets.Catalog.Kind
import EventTickets.Catalog.Limit
import EventTickets.Catalog.Patch
import EventTickets.Catalog.Product
import EventTickets.CommandLine.Arguments
import EventTickets.CommandLine.Parameter
import EventTickets.CommandLine.Tree
import EventTickets.CommandLine.UsageError
import EventTickets.Delivery
import EventTickets.Digest.Sha256
import EventTickets.Digest.Text
import EventTickets.Error
import EventTickets.Id
import EventTickets.Json.Codec
import EventTickets.Json.Double
import EventTickets.Json.Mask
import EventTickets.Json.Pointer
import EventTickets.Json.Pretty
import EventTickets.Json.Reader
import EventTickets.Json.Source
import EventTickets.Json.Value
import EventTickets.Main
import EventTickets.Memory.Snapshot
import EventTickets.Memory.Store
import EventTickets.Memory.Tables
import EventTickets.Memory.Transaction
import EventTickets.Operator.Command
import EventTickets.Operator.Invocation
import EventTickets.Order.Basket
import EventTickets.Order.New
import EventTickets.Order.PaymentMethod
import EventTickets.Order.Query
import EventTickets.Order.Record
import EventTickets.Order.Status
import EventTickets.Order.Transition
import EventTickets.Program
import EventTickets.Promo.Code
import EventTickets.Promo.DiscountType
import EventTickets.Promo.Verdict
import EventTickets.Proofs.AllOrNothing
import EventTickets.Proofs.AnyRows
import EventTickets.Proofs.BasketSpellings
import EventTickets.Proofs.CancelOrCheckIn
import EventTickets.Proofs.CheckIn
import EventTickets.Proofs.ConfirmationAcceptance
import EventTickets.Proofs.Deliveries
import EventTickets.Proofs.Digest.Text
import EventTickets.Proofs.EventReport
import EventTickets.Proofs.Finality
import EventTickets.Proofs.Inventory
import EventTickets.Proofs.Json.Fields
import EventTickets.Proofs.Json.Numbers
import EventTickets.Proofs.Json.Reading
import EventTickets.Proofs.Json.Schema
import EventTickets.Proofs.Json.Strings
import EventTickets.Proofs.Json.TwoWay
import EventTickets.Proofs.Json.Values
import EventTickets.Proofs.Lifecycle
import EventTickets.Proofs.Limits
import EventTickets.Proofs.Listings
import EventTickets.Proofs.LockOrder
import EventTickets.Proofs.LoggedAddress
import EventTickets.Proofs.Memory.Serving
import EventTickets.Proofs.Memory.Tables
import EventTickets.Proofs.Memory.Transactions
import EventTickets.Proofs.OrderAcceptance
import EventTickets.Proofs.Orders
import EventTickets.Proofs.OwnRows
import EventTickets.Proofs.Prices
import EventTickets.Proofs.Program
import EventTickets.Proofs.PromoListing
import EventTickets.Proofs.PromoMonotonicity
import EventTickets.Proofs.PromoNames
import EventTickets.Proofs.PromoPreview
import EventTickets.Proofs.PromoRows
import EventTickets.Proofs.PromoUsage
import EventTickets.Proofs.PromoVerdict
import EventTickets.Proofs.PromoWindows
import EventTickets.Proofs.ReadBack
import EventTickets.Proofs.Records.Catalog
import EventTickets.Proofs.Records.Orders
import EventTickets.Proofs.Records.Parts
import EventTickets.Proofs.Records.RoundTrips
import EventTickets.Proofs.RowOrder
import EventTickets.Proofs.RowsInAnyOrder
import EventTickets.Proofs.Runs
import EventTickets.Proofs.Sales.Bucket
import EventTickets.Proofs.Sales.Orders
import EventTickets.Proofs.Sales.Reference
import EventTickets.Proofs.Sales.Report
import EventTickets.Proofs.Sales.Stock
import EventTickets.Proofs.Sales.Sums
import EventTickets.Proofs.Sales.Tally
import EventTickets.Proofs.SalesFigures
import EventTickets.Proofs.Service.Basket
import EventTickets.Proofs.Service.Calls
import EventTickets.Proofs.Service.Cancellation
import EventTickets.Proofs.Service.Careful
import EventTickets.Proofs.Service.Catalog
import EventTickets.Proofs.Service.CatalogCalls
import EventTickets.Proofs.Service.Confirmation
import EventTickets.Proofs.Service.Details
import EventTickets.Proofs.Service.Leading
import EventTickets.Proofs.Service.Locking
import EventTickets.Proofs.Service.Ordering
import EventTickets.Proofs.Service.Pricing
import EventTickets.Proofs.Service.Purchase
import EventTickets.Proofs.Service.Redemption
import EventTickets.Proofs.Service.Subtotal
import EventTickets.Proofs.Sql.Asking
import EventTickets.Proofs.Sql.Assignment
import EventTickets.Proofs.Sql.Formats
import EventTickets.Proofs.Sql.Layout
import EventTickets.Proofs.Sql.Patches
import EventTickets.Proofs.Sql.Statement
import EventTickets.Proofs.Sql.Taking
import EventTickets.Proofs.Sql.Transaction
import EventTickets.Proofs.Sql.Turns
import EventTickets.Proofs.Stages
import EventTickets.Proofs.Text.Blank
import EventTickets.Proofs.Text.Cut
import EventTickets.Proofs.Text.Digits
import EventTickets.Proofs.Text.LetterCase
import EventTickets.Proofs.Text.Utf8
import EventTickets.Proofs.Ticket.Acceptance
import EventTickets.Proofs.Ticket.Claims
import EventTickets.Proofs.Ticket.Issue
import EventTickets.Proofs.Ticket.RoundTrip
import EventTickets.Proofs.Ticket.Token
import EventTickets.Proofs.Time.Calendar
import EventTickets.Proofs.Time.Rfc3339
import EventTickets.Proofs.Tokens
import EventTickets.Proofs.Totals
import EventTickets.Proofs.WritingOrder
import EventTickets.Rehearsal
import EventTickets.Sales.Bucket
import EventTickets.Sales.Tally
import EventTickets.Sample
import EventTickets.Service.Cancellation
import EventTickets.Service.Catalog
import EventTickets.Service.Confirmation
import EventTickets.Service.Listing
import EventTickets.Service.Pricing
import EventTickets.Service.PromoCheck
import EventTickets.Service.Purchase
import EventTickets.Service.Redemption
import EventTickets.Service.Request
import EventTickets.Settings
import EventTickets.Sources
import EventTickets.Sources.Seeded
import EventTickets.Sql.Assignment
import EventTickets.Sql.Cell
import EventTickets.Sql.Connection
import EventTickets.Sql.Link
import EventTickets.Sql.Rows
import EventTickets.Sql.Schema
import EventTickets.Sql.Script
import EventTickets.Sql.Statement
import EventTickets.Sql.Store
import EventTickets.Sql.Transaction
import EventTickets.Store.Call
import EventTickets.Store.CallCodec
import EventTickets.Store.Error
import EventTickets.Store.Fault
import EventTickets.Store.Ledger
import EventTickets.Store.Lock
import EventTickets.Table
import EventTickets.Text.Blank
import EventTickets.Text.Cut
import EventTickets.Text.Hex
import EventTickets.Text.Integer
import EventTickets.Text.Quoted
import EventTickets.Text.Unprintable
import EventTickets.Text.UpperCase
import EventTickets.Ticket.Claims
import EventTickets.Ticket.Token
import EventTickets.Time.Calendar
import EventTickets.Time.Instant
import EventTickets.Time.Rfc3339
import EventTickets.Uuid
