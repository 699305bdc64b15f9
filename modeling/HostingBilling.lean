import HostingBilling.Main
import HostingBilling.Schedule
import HostingBilling.Proofs.InstantOrder
import HostingBilling.Proofs.Calendar
import HostingBilling.Proofs.Periods
import HostingBilling.Proofs.Spelling
import HostingBilling.Proofs.Rows
import HostingBilling.Proofs.Runs
import HostingBilling.Proofs.Constraints
import HostingBilling.Proofs.Footprints
import HostingBilling.Proofs.Quiet
import HostingBilling.Proofs.Checkout.Preparation
import HostingBilling.Proofs.Checkout.Invoicing
import HostingBilling.Proofs.Checkout.Recording
import HostingBilling.Proofs.Checkout.PaymentKeys
import HostingBilling.Proofs.Checkout.Settlement
import HostingBilling.Proofs.Checkout.Fulfilment
import HostingBilling.Proofs.Checkout.Committing
import HostingBilling.Proofs.Checkout.Progress
import HostingBilling.Proofs.Json.Additions
import HostingBilling.Proofs.Json.Records
import HostingBilling.Proofs.Gateway.Additions
import HostingBilling.Proofs.Gateway.Documents
import HostingBilling.Proofs.Startup
import HostingBilling.Proofs.Http.Refusals
import HostingBilling.Proofs.Independence.Purchases
import HostingBilling.Proofs.Independence.Statements
import HostingBilling.Proofs.Independence.Deliveries
import HostingBilling.Proofs.Independence.Commutation
import HostingBilling.Proofs.Jobs.Law
import HostingBilling.Proofs.Jobs.Commitment
import HostingBilling.Proofs.Jobs.Work
import HostingBilling.Proofs.Jobs.Reach
import HostingBilling.Proofs.Jobs.Attempt
import HostingBilling.Proofs.Jobs.Answers
import HostingBilling.Proofs.Jobs.Reprovisioning
import HostingBilling.Proofs.Invoices.Renewals
import HostingBilling.Proofs.Invoices.Amounts
import HostingBilling.Proofs.Invoices.Subtotals
import HostingBilling.Proofs.Ledger.Claims
import HostingBilling.Proofs.Ledger.Exclusivity
import HostingBilling.Proofs.Ledger.Deliveries
import HostingBilling.Proofs.Ledger.Oblivious
import HostingBilling.Proofs.Ledger.Sequences
import HostingBilling.Proofs.Operations.Moves
import HostingBilling.Proofs.Operations.PaidOrders
import HostingBilling.Proofs.Operations.RefundedOrders
import HostingBilling.Proofs.Operations.CompletedJobs
import HostingBilling.Proofs.Operations.OrderLife
import HostingBilling.Proofs.Operations.RefundedPayments
import HostingBilling.Proofs.Payments.Reports
import HostingBilling.Proofs.Payments.Charges
import HostingBilling.Proofs.Payments.Rises
import HostingBilling.Proofs.Payments.Confluence
import HostingBilling.Proofs.Payments.Tallies
import HostingBilling.Proofs.Recovery.Stranded
import HostingBilling.Proofs.Recovery.Redelivery
import HostingBilling.Proofs.Recovery.Submissions
import HostingBilling.Proofs.Recovery.FailedCheckouts
import HostingBilling.Proofs.Recovery.Convergence
import HostingBilling.Proofs.Jobs.Cancellation
import HostingBilling.Proofs.Reminders.DaysLeft
import HostingBilling.Proofs.Reminders.Scan
import HostingBilling.Proofs.Reminders.Runs
import HostingBilling.Proofs.Services.Terminated
import HostingBilling.Proofs.Schedule.Cadence
import HostingBilling.Proofs.Tasks.Due
import HostingBilling.Proofs.Tasks.Polls
import HostingBilling.Proofs.Tasks.Shares
import HostingBilling.Proofs.Tasks.Retries
import HostingBilling.Proofs.Tasks.Handling
import HostingBilling.Proofs.Tasks.Settling
import HostingBilling.Proofs.Tasks.Reinvocation
import HostingBilling.Proofs.Tasks.Expiry
import HostingBilling.Proofs.Tasks.Payloads
