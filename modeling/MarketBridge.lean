import MarketBridge.Relational.Table
import MarketBridge.Relational.Keyed
import MarketBridge.Relational.Transaction
import MarketBridge.Relational.ReadCommitted
import MarketBridge.Schema.Enums
import MarketBridge.Schema.Rows
import MarketBridge.Payment.StateMachine
import MarketBridge.Order.StateMachine
import MarketBridge.Payment.Obligation
import MarketBridge.Payment.Records
import MarketBridge.Order.Record
import MarketBridge.Inventory.Service
import MarketBridge.Payment.Settlement
import MarketBridge.Payment.Creation
import MarketBridge.Payment.SettlementSpec
import MarketBridge.Payment.SettlementEffects
import MarketBridge.Payment.SettlementExits
import MarketBridge.Payment.Conformance
import MarketBridge.Payment.Replay
import MarketBridge.Payment.Repeat
import MarketBridge.Payout.Service
import MarketBridge.Payout.Concurrency
import MarketBridge.Refund.Service
import MarketBridge.Refund.Coupling
import MarketBridge.Refund.Operations
import MarketBridge.Refund.Runs
import MarketBridge.Order.Cancellation
import MarketBridge.Order.CancellationSpec
import MarketBridge.Order.Unwinding
import MarketBridge.Order.PaymentWindow
import MarketBridge.Refund.Requests
import MarketBridge.Order.CancellationRefunds
import MarketBridge.Payment.Service
import MarketBridge.Order.Lifecycle
import MarketBridge.Dispute.Service
import MarketBridge.Order.Progress
import MarketBridge.Offer.Service
import MarketBridge.Offer.Actions
import MarketBridge.Offer.Moves
import MarketBridge.Refund.Frame
import MarketBridge.Refund.Moves
import MarketBridge.Market.Step
import MarketBridge.Payment.Payability
import MarketBridge.Payment.ObligationSync
import MarketBridge.Transport.Cancellation
import MarketBridge.Transport.CancellationLaw
import MarketBridge.Transport.CancellationPaths
import MarketBridge.Inspection.Cancellation
import MarketBridge.Dispute.ServiceRefunds
import MarketBridge.Market.Effects
import MarketBridge.Market.Money
import MarketBridge.Ledger.Entries
import MarketBridge.Ledger.Booking
import MarketBridge.Ledger.Runs
import MarketBridge.Payout.Returned
import MarketBridge.Dispute.Discipline
import MarketBridge.Dispute.Runs
import MarketBridge.Refund.Interleaved
import MarketBridge.Refund.PlanCompletion
import MarketBridge.Refund.PlanRuns
import MarketBridge.Refund.ProvenanceRuns
import MarketBridge.Refund.Exits
import MarketBridge.Refund.ExitRuns
import MarketBridge.Payment.ClosedOrders
import MarketBridge.Payment.AgreementRuns
import MarketBridge.Transport.StatusRuns
import MarketBridge.Transport.BestTrucks
import MarketBridge.Relational.Holding
import MarketBridge.Transport.Assignment
import MarketBridge.Transport.Commitment
import MarketBridge.Transport.CommitmentAssignments
import MarketBridge.Transport.CommitmentRuns
import MarketBridge.Transport.Negotiation
import MarketBridge.Advertising.Campaign
import MarketBridge.Advertising.CampaignCancellation
import MarketBridge.Advertising.CampaignRuns
import MarketBridge.Auth.RefreshFamilies
import MarketBridge.Auth.RefreshRuns
import MarketBridge.Idempotency.Fingerprint
import MarketBridge.Idempotency.Separation
import MarketBridge.Idempotency.Middleware
import MarketBridge.Idempotency.Promise
import MarketBridge.Inspection.Arrival
import MarketBridge.Inspection.ArrivalRuns
import MarketBridge.Inspection.Reopening
import MarketBridge.Listing.Closed
import MarketBridge.Listing.Committable
import MarketBridge.Payment.CheckoutBinding
import MarketBridge.Provider.Standing
import MarketBridge.Provider.StandingMoves
import MarketBridge.Provider.Strikes
import MarketBridge.Relational.KeyedList
import MarketBridge.Relational.Threads
import MarketBridge.Sms.Accounts
import MarketBridge.Auth.OneTimeRuns
import MarketBridge.Payment.InspectionFeeRuns
import MarketBridge.Ledger.EarningRuns
import MarketBridge.Listing.Policy
import MarketBridge.Listing.Edit
import MarketBridge.Payment.Split
import MarketBridge.Listing.Pages
import MarketBridge.Pricing.MarketReference
import MarketBridge.Pricing.HonestReference
import MarketBridge.Advertising.Live
import MarketBridge.Payout.Release
import MarketBridge.Inspection.LapseLaw
import MarketBridge.Inspection.Handshake
import MarketBridge.Inspection.GateRuns
import MarketBridge.Inspection.BidRanking
import MarketBridge.Inspection.EarliestWindow
import MarketBridge.Order.Decisions
import MarketBridge.Order.DecisionRuns
import MarketBridge.Contact.Detection
import MarketBridge.Market.Laws
import MarketBridge.Listing.Stock
import MarketBridge.Offer.Runs
