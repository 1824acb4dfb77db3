import LeaseQueue.Main
import LeaseQueue.Proofs.Absence
import LeaseQueue.Proofs.Agreement
import LeaseQueue.Proofs.Arriving
import LeaseQueue.Proofs.Contention
import LeaseQueue.Proofs.Dispatch
import LeaseQueue.Proofs.Draining
import LeaseQueue.Proofs.Handles
import LeaseQueue.Proofs.Horizon
import LeaseQueue.Proofs.Interleaving
import LeaseQueue.Proofs.Layers
import LeaseQueue.Proofs.Ledger
import LeaseQueue.Proofs.Lifecycle
import LeaseQueue.Proofs.Line
import LeaseQueue.Proofs.Pace
import LeaseQueue.Proofs.Patience
import LeaseQueue.Proofs.Payload
import LeaseQueue.Proofs.Peeking
import LeaseQueue.Proofs.Receiving
import LeaseQueue.Proofs.Refusal
import LeaseQueue.Proofs.Renewal
import LeaseQueue.Proofs.Rest
import LeaseQueue.Proofs.Return
import LeaseQueue.Proofs.Settlement
import LeaseQueue.Proofs.Stop
import LeaseQueue.Proofs.TypedText
import LeaseQueue.Proofs.Unlocked
import LeaseQueue.Proofs.Validation
import LeaseQueue.Proofs.Wakeup
import LeaseQueue.Scenario
