import Bornera.Core.Recovery
import Bornera.Lib.Transducer

/-!
# Runs of public calls

A `World` is a core together with the permits its caller still holds. `step` performs one public
call of the core; a permit is named by its place among the live ones, since each is used at most
once. Runs and their histories are those of `Lib.Transducer`.
-/

namespace Bornera.Core

open Lib

/-- A core and the live permits taken from it. -/
@[ext] structure World (B F : Type) where
  core : ConnectionCore B F
  permits : List OperationPermit

/-- A public call. The frames' byte views belong to the call, so they may differ between calls. -/
inductive Call (F R : Type) where
  | reserve (now : ℕ) (options : OperationOptions)
  | commit (index : ℕ) (frame : F) (view : FrameView F)
  | commitForeign (permit : OperationPermit) (frame : F) (view : FrameView F)
  | dropPermit (index : ℕ)
  | apply (input : ConnectionInput)
  | applyReply (reply : InboundReply R)
  | frontWrite (view : FrameView F) (maximum : ℕ)
  | advanceWrite (epoch : ConnectionEpoch) (effect : EffectId) (written : ℕ)
  | recover

/-- What a call hands back. `unavailable` answers a call that names no permit of the caller. -/
inductive Response (F R : Type) where
  | reserved (result : Except ReserveError OperationPermit)
  | committed (result : Except (FrameCommitError F) (OperationId × ConnectionTransition R))
  | dropped
  | transition (result : Except ConnectionCoreError (ConnectionTransition R))
  | offered (result : Except ConnectionCoreError (Option WriteSlice))
  | recovered (recovery : ConnectionRecovery F)
  | unavailable

namespace World

variable {B F R : Type} [ByteBudget B]

def new (ledgerId : ℕ) (epoch : ConnectionEpoch) (limits : ConnectionLimits)
    (seeds : IdentitySeeds) :
    World B F :=
  ⟨ConnectionCore.withIdentitySeeds ledgerId epoch limits seeds, []⟩

/-- The world after a method of the core that returns a transition. -/
def transition (w : World B F) (m : ConnectionCore.Run B F (ConnectionTransition R)) :
    World B F × Response F R :=
  ({ w with core := (m w.core).2 }, .transition (m w.core).1)

/-- A commit keeps the permit when it fails. -/
def commit (debug : Bool) (w : World B F) (index : ℕ) (frame : F) (view : FrameView F) :
    World B F × Response F R :=
  match w.permits[index]? with
  | none => (w, .unavailable)
  | some permit =>
    match w.core.commit debug permit frame view with
    | (.error e, core) => ({ w with core }, .committed (.error e))
    | (.ok accepted, core) => (⟨core, w.permits.eraseIdx index⟩, .committed (.ok accepted))

def step (debug : Bool) (w : World B F) : Call F R → World B F × Response F R
  | .reserve now options =>
    match w.core.reserve debug now options with
    | (.error e, core) => ({ w with core }, .reserved (.error e))
    | (.ok permit, core) => (⟨core, w.permits ++ [permit]⟩, .reserved (.ok permit))
  | .commit index frame view => w.commit debug index frame view
  | .commitForeign permit frame view =>
    if permit.ledger = w.core.machine.ledgerId then (w, .unavailable)
    else
      ({ w with core := (w.core.commit (R := R) debug permit frame view).2 },
        .committed (w.core.commit debug permit frame view).1)
  | .dropPermit index =>
    match w.permits[index]? with
    | none => (w, .unavailable)
    | some permit => (⟨w.core.dropPermit permit, w.permits.eraseIdx index⟩, .dropped)
  | .apply input => w.transition (ConnectionCore.apply debug input)
  | .applyReply reply => w.transition (ConnectionCore.applyReply debug reply)
  | .frontWrite view maximum =>
    ({ w with core := (w.core.frontWrite view maximum).2 },
      .offered (w.core.frontWrite view maximum).1)
  | .advanceWrite epoch effect written =>
    w.transition (ConnectionCore.advanceWrite epoch effect written)
  | .recover => ({ w with core := w.core.recover.2 }, .recovered w.core.recover.1)

end World
end Bornera.Core
