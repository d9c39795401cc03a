import ModelDock.Cash.DebitRecords
import ModelDock.Cash.RefundHold
import ModelDock.Concurrency.RateLimit
import ModelDock.Domain.Decimal
import ModelDock.Gateway.Budgets
import ModelDock.Gateway.Quotas
import ModelDock.Gateway.TailCapture
import ModelDock.Governance.JobQueue
import ModelDock.Identity.OneTimeCodes
import ModelDock.Identity.Owners
import ModelDock.Identity.Provenance
import ModelDock.Identity.Scim
import ModelDock.Late.Discount
import ModelDock.Marketplace.Destination
import ModelDock.Marketplace.Resume
import ModelDock.Outbound.Clients
import ModelDock.Outbox.Delivery
import ModelDock.Payment.Confluence
import ModelDock.Payment.Instalments
import ModelDock.Payment.Starvation
import ModelDock.Pricing.Margin
import ModelDock.Provider.MonthlyBudget
import ModelDock.Quality.Circuit
import ModelDock.Quality.PriceTruth
import ModelDock.Routing.Merge
import ModelDock.Routing.Resolve
import ModelDock.Scheduler.Lifecycle
import ModelDock.Scheduler.SharedCapacity
import ModelDock.Settlement.Estimate
import ModelDock.Settlement.ExactlyOnce
import ModelDock.Settlement.SnapshotPrice
import ModelDock.Subscription.Period
import ModelDock.Wallet.NetDebit
