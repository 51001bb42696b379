import Quidz.Verify
import Quidz.Worker
import Quidz.Connection
import Quidz.Receive
import Quidz.Reconcile
import Quidz.Proofs.AdyenBinding
import Quidz.Proofs.StripeBinding
import Quidz.Proofs.Identity
import Quidz.Proofs.Conservation
import Quidz.Proofs.Ratchet
import Quidz.Proofs.LedgerFold
import Quidz.Proofs.Atomicity
import Quidz.Proofs.Corrections
import Quidz.Proofs.Lifecycle
import Quidz.Proofs.Refresh
import Quidz.Proofs.Gate
import Quidz.Proofs.Reconciliation
import Quidz.Proofs.Isolation
import Quidz.Proofs.Redelivery
import Quidz.Proofs.Batch
import Quidz.Proofs.Attempts
import Quidz.Proofs.Retries
import Quidz.Proofs.Idle
import Quidz.Proofs.Ordering
import Quidz.Proofs.Replay
import Quidz.Proofs.Waiting
import Quidz.Proofs.Authorizations
import Quidz.Proofs.Currencies
import Quidz.Proofs.Outcomes
import Quidz.Proofs.Undecodable
import Quidz.Proofs.Headers
import Quidz.Library.Group
import Quidz.App
import Quidz.Limits
import Quidz.Proofs.Forgeries
import Quidz.Proofs.Keys
import Quidz.Proofs.Notifications
import Quidz.Proofs.Fees
import Quidz.Proofs.SettlementJoin
import Quidz.Proofs.ReportOrder
import Quidz.Proofs.Fleet
import Quidz.Proofs.Accounts
import Quidz.Proofs.Aging
import Quidz.Proofs.Resolution
import Quidz.Proofs.Transports
import Quidz.Proofs.Snapshots
import Quidz.Sim
import Quidz.Proofs.Signing
import Quidz.Proofs.Entries
import Quidz.Proofs.Bookings
import Quidz.Proofs.Agreement
import Quidz.Proofs.CleanRun
