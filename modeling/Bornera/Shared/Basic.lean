import Bornera.Lib.Table
import Bornera.Slot.Calls

/-!
# A set of connections on one selector

The data of `ConnectionSet` (`set.rs`): slots under tokens that are fenced by their generation, one
readiness selector, and a queue of the connections to drive. The table of resources, the selector
and the mailbox of commands belong to the runtime and are interfaces; what they answer is arbitrary,
except for what their documentation promises (`FencedTable`, `LawfulPoller`).
-/

namespace Bornera.Shared

open Bornera.Core Slot Lib

/-! ### Identities -/

/-- The name of a resource of one generation. -/
structure ResourceToken where
  get : ℕ
  deriving DecidableEq, Repr

/-- The logical identity of one socket lifetime. -/
structure ConnectionIdentity where
  endpoint : ℕ
  lane : ℕ
  connection : ℕ
  epoch : ConnectionEpoch
  deriving DecidableEq

/-- A connection admitted to a set. -/
structure ConnectionToken where
  resource : ResourceToken
  identity : ConnectionIdentity
  deriving DecidableEq

structure ConnectionConfig where
  slot : ConnectionSlotConfig
  identity : ConnectionIdentity
  epoch_eq : identity.epoch = slot.epoch

/-- The capacities and the bounds of one turn. -/
structure ConnectionSetLimits where
  maxConnections : ℕ+
  commandsPerTurn : ℕ+
  readyConnectionsPerTurn : ℕ+

/-- A command queued for one connection. -/
inductive ConnectionCommand where
  | openAdmission (connection : ConnectionToken)
  | cancel (connection : ConnectionToken) (operation : OperationId)
  | beginDrain (connection : ConnectionToken) (deadline : Deadline)
  | close (connection : ConnectionToken)
  deriving DecidableEq

def ConnectionCommand.connection : ConnectionCommand → ConnectionToken
  | openAdmission connection => connection
  | cancel connection _ => connection
  | beginDrain connection _ => connection
  | close connection => connection

/-! ### The runtime -/

/-- A transport that can be registered with a selector. -/
class RegisteredTransport (T : Type) extends SlotTransport T where
  observeReadiness : T → Readiness → T

/-- An event of the selector; the wakes name no resource. -/
inductive PollEvent where
  | resource (token : ResourceToken) (readiness : Readiness)
  | wake
  deriving DecidableEq

structure PollReport where
  observed : ℕ
  stale : ℕ
  saturated : Bool
  deriving DecidableEq

/-- The selector. Registration goes through the transport, which may change. `poll` fills the
batch of events it is given. -/
class MioPoller (P T : Type) where
  register : P → T → ResourceToken → Interest → Except MioError Unit × P × T
  reregister : P → T → ResourceToken → Interest → Except MioError Unit × P × T
  deregister : P → T → ResourceToken → Except MioError Unit × P × T
  poll : P → ℕ → List PollEvent → Except MioError PollReport × List PollEvent × P

/-- The resources a selector watches. A registration that fails leaves none behind. -/
class LawfulPoller (P T : Type) [MioPoller P T] where
  registered : P → ResourceToken → Prop
  register_ok : ∀ (p p' : P) (t t' : T) (k : ResourceToken) (i : Interest),
    MioPoller.register p t k i = (.ok (), p', t') → ∀ x, registered p' x ↔ x = k ∨ registered p x
  register_error : ∀ (p p' : P) (t t' : T) (k : ResourceToken) (i : Interest) (error : MioError),
    MioPoller.register p t k i = (.error error, p', t') → ∀ x, registered p' x ↔ registered p x
  reregister_same : ∀ (p : P) (t : T) (k : ResourceToken) (i : Interest) (x : ResourceToken),
    registered (MioPoller.reregister p t k i).2.1 x ↔ registered p x
  deregister_ok : ∀ (p p' : P) (t t' : T) (k : ResourceToken),
    MioPoller.deregister p t k = (.ok (), p', t') → ∀ x, registered p' x ↔ x ≠ k ∧ registered p x
  deregister_error : ∀ (p p' : P) (t t' : T) (k : ResourceToken) (error : MioError),
    MioPoller.deregister p t k = (.error error, p', t') → ∀ x, x ≠ k →
      (registered p' x ↔ registered p x)
  poll_same : ∀ (p : P) (maximum : ℕ) (events : List PollEvent) (x : ResourceToken),
    registered (MioPoller.poll (T := T) p maximum events).2.2 x ↔ registered p x

/-- The receiving end of the mailbox: it hands out a number of commands, and
says whether there are more. -/
class CommandMailbox (X : Type) where
  drainInto : X → ℕ → (List ConnectionCommand × Bool) × X
  close : X → X

/-! ### The set -/

/-- One slot with the transport registered for it, and the identity it is filed under. -/
structure ConnectionEntry (B D C R : Type) (Q W : Type → Type) (T : Type) where
  identity : ConnectionIdentity
  slot : ConnectionSlot B D C R Q W
  transport : Option T
  interest : Interest
  readyQueued : Bool

/-- The owner of many connections. -/
structure ConnectionSet (B D C R : Type) (Q W : Type → Type) (T P X : Type) (M : Type → Type) where
  limits : ConnectionSetLimits
  poller : P
  pollEvents : List PollEvent
  resources : M (ConnectionEntry B D C R Q W T)
  ready : List ResourceToken
  commands : X
  commandMorePending : Bool
  pollSaturated : Bool
  staleBackendEvents : ℕ
  staleResourceEvents : ℕ
  staleCommands : ℕ
  ownerFailure : Option OwnerFailure

/-! ### Errors -/

inductive ConnectError (E : Type) where
  | io (source : IoError)
  | mio (source : MioError)
  | decoder (source : FrameDecodeError E)
  | resourceAdmission
  | ownerFailed (reason : OwnerFailure)
  | transportCapacity (limit : ℕ) (reported : TransportPressure)
  | transportLimit (limit reported : ℕ)

inductive ConnectionAccessError where
  | staleConnection
  | owner (source : EngineError)
  deriving DecidableEq

inductive ConnectionReserveError where
  | staleConnection
  | rejected (error : ReserveError)
  deriving DecidableEq

inductive ConnectionCommitError where
  | staleConnection (permit : OperationPermit) (frame : OutboundFrame)
  | connection (source : EngineCommitError)

inductive ConnectionRetireError where
  | staleConnection
  | transportLive
  | ownerFailed (reason : OwnerFailure)
  | publicationsPending
  deriving DecidableEq

inductive ConnectionRecoveryError where
  | staleConnection
  | ownerRunning
  deriving DecidableEq

/-- When the owner of the set wants the next turn. -/
inductive Next where
  | now
  | wake
  | wakeOr (deadline : Deadline)
  deriving DecidableEq

structure SetTurn where
  work : ℕ
  next : Next
  deriving DecidableEq

inductive WaitOutcome where
  | idle
  | notified
  deriving DecidableEq

end Bornera.Shared
