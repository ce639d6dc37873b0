import SupplierSwitch.Access.Authentication
import SupplierSwitch.Json.Text
import SupplierSwitch.Market.Handlers
import SupplierSwitch.Memory.Store
import SupplierSwitch.Postgres.Peer
import SupplierSwitch.Postgres.Store
import SupplierSwitch.Proofs.Market.Agreement
import SupplierSwitch.Proofs.Market.Guarantees
import SupplierSwitch.Proofs.Memory.Leases
import SupplierSwitch.Scenario.Setup
import SupplierSwitch.Scenario.Worlds
import SupplierSwitch.Startup
import SupplierSwitch.Proofs.Memory.Aggregates
import SupplierSwitch.Proofs.Memory.Updates
import SupplierSwitch.Proofs.Memory.Contention
import SupplierSwitch.Proofs.Market.Decisions
import SupplierSwitch.Proofs.Market.Contention
import SupplierSwitch.Proofs.Market.Crowd
import SupplierSwitch.Proofs.Market.Reports
import SupplierSwitch.Proofs.Market.Forwarding
import SupplierSwitch.Proofs.Outbox.Accounts
import SupplierSwitch.Proofs.Memory.Attending
import SupplierSwitch.Proofs.Memory.DrainOrder
import SupplierSwitch.Proofs.Memory.Retries
import SupplierSwitch.Proofs.Market.Enqueuing
import SupplierSwitch.Proofs.Memory.Guards
import SupplierSwitch.Proofs.Memory.Budget
import SupplierSwitch.Proofs.Memory.Isolation
import SupplierSwitch.Proofs.Memory.Numbering
import SupplierSwitch.Proofs.Outbox.Invariants
import SupplierSwitch.Proofs.Memory.Snapshot
import SupplierSwitch.Proofs.Outbox.Totals
import SupplierSwitch.Proofs.Memory.Policies
import SupplierSwitch.Proofs.Outbox.Twins
import SupplierSwitch.Proofs.Memory.Undisturbed
import SupplierSwitch.Proofs.Memory.Exchange
import SupplierSwitch.Proofs.Postgres.Failures
import SupplierSwitch.Proofs.Postgres.Overheard
import SupplierSwitch.Proofs.Postgres.Commits
import SupplierSwitch.Proofs.Market.Changes
import SupplierSwitch.Proofs.Market.StoredForms
import SupplierSwitch.Proofs.Market.Answers
import SupplierSwitch.Proofs.Market.CheckDigits
import SupplierSwitch.Proofs.Access.Admission
import SupplierSwitch.Proofs.Outbox.Backoff
import SupplierSwitch.Proofs.Outbox.Waiting
import SupplierSwitch.Proofs.Market.Footprints
import SupplierSwitch.Proofs.Market.Commuting
import SupplierSwitch.Proofs.Postgres.Columns
import SupplierSwitch.Proofs.Memory.Census
import SupplierSwitch.Proofs.Outbox.Configuration
