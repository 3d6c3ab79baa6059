import Bornera.Lib.Owner
import Bornera.Lib.Lookup
import Bornera.Lib.Keeping
import Bornera.Lib.Transducer
import Bornera.Lib.Probing
import Bornera.Core.Basic
import Bornera.Core.KeySet
import Bornera.Core.Ledger
import Bornera.Core.Allocation
import Bornera.Core.Writer
import Bornera.Core.Machine
import Bornera.Core.Aggregate
import Bornera.Core.Recovery
import Bornera.Core.Calls
import Bornera.Core.Epoch
import Bornera.Core.Invariant
import Bornera.Core.Policy
import Bornera.Core.Reconcile
import Bornera.Core.Refinement
import Bornera.Core.Settlement
import Bornera.Core.Delivery
import Bornera.Core.Ownership
import Bornera.Core.Rejection
import Bornera.Core.Lifecycle
import Bornera.Core.Replies
import Bornera.Core.Wire
import Bornera.Core.Merge
import Bornera.Core.Identity
import Bornera.Slot.Basic
import Bornera.Slot.Ports
import Bornera.Slot.Owner
import Bornera.Slot.Drive
import Bornera.Slot.Calls
import Bornera.Slot.Moves
import Bornera.Slot.Interpret
import Bornera.Slot.Walks
import Bornera.Slot.Steps
import Bornera.Slot.Outcomes
import Bornera.Slot.Settlement
import Bornera.Slot.Paths
import Bornera.Slot.Deadlines
import Bornera.Slot.Closing
import Bornera.Slot.Events
import Bornera.Slot.Agenda
import Bornera.Slot.Outstanding
import Bornera.Slot.Quantum
import Bornera.Slot.Memory
import Bornera.Slot.Beside
import Bornera.Slot.Rotation
import Bornera.Slot.Shutdown
import Bornera.Slot.Health
import Bornera.Rustls.Safety
import Bornera.Rustls.Progress
import Bornera.Rustls.Hosting
import Bornera.Tcp.Transport
import Bornera.Shared.Queue
import Bornera.Shared.Moves
import Bornera.Shared.Entries
import Bornera.Shared.Connect
import Bornera.Shared.Memory
import Bornera.Sim.Wire
import Bornera.Sim.Replay
import Bornera.Sim.Progress
