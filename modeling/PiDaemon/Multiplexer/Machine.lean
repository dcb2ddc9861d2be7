import PiDaemon.Multiplexer.Lifecycle
import PiDaemon.Multiplexer.TurnRuns

/-!
# The host

Residency leases, and the machine in which turns, lifecycle operations and leases
interleave.  A run of `hostStep` is any order of their steps.
-/

namespace PiDaemon.Multiplexer

open Lib

/-! ## Residency leases -/

def MAX_RESIDENCY_LEASES : Nat := 256

namespace Host

def leaseCount (h : Host) : Nat :=
  h.residencyLeases.values.foldl (fun count leases => count + leases.size) 0

/-- The part of `acquireResidencyLease` after `retainedSession`. -/
def acquireResidencyLease (h : Host) (sessionId : SessionId) (generation ttl : Nat) :
    Except ErrorCode Host := do
  match h.sessions.get? sessionId with
  | none => .error .sessionNotResident
  | some i =>
    if generation ≠ (h.slot i).generation then .error .staleGeneration
    else if h.leaseCount ≥ MAX_RESIDENCY_LEASES then .error .residencyLeaseCapacity
    else
      let token := h.leases.next
      let leases := (h.residencyLeases.get? sessionId).getD .empty
      .ok { h with
        residencyLeases :=
          h.residencyLeases.set sessionId (leases.set token ⟨generation, h.clock + ttl⟩)
        leases := h.leases.alloc
          { sessionId := sessionId, generation := generation, ttl := ttl, released := false,
            expiresAt := h.clock + ttl } }

/-- The entry of a lease in `#residencyLeases`. -/
def leaseEntry (h : Host) (sessionId : SessionId) (token : LeaseToken) : Option Lease :=
  (h.residencyLeases.get? sessionId).bind fun leases => leases.get? token

/-- `renew` of a lease handle. -/
def renewLease (h : Host) (token : LeaseToken) : Host :=
  let lease := h.leases.cell token
  if lease.released then h
  else
    match h.residencyLeases.get? lease.sessionId with
    | none => h
    | some leases =>
      match leases.get? token with
      | none => h
      | some current =>
        if current.generation ≠ lease.generation then h
        else
          { h with
            residencyLeases := h.residencyLeases.set lease.sessionId
              (leases.set token { current with expiresAt := h.clock + lease.ttl })
            leases := h.leases.set token { lease with expiresAt := h.clock + lease.ttl } }

/-- `release` of a lease handle. -/
def releaseLease (h : Host) (token : LeaseToken) : Host :=
  let lease := h.leases.cell token
  if lease.released then h
  else
    let h' := { h with leases := h.leases.set token { lease with released := true } }
    match h.residencyLeases.get? lease.sessionId with
    | none => h'
    | some leases =>
      let current := leases.delete token
      { h' with
        residencyLeases :=
          if current.size = 0 then h.residencyLeases.delete lease.sessionId
          else h.residencyLeases.set lease.sessionId current }

end Host

inductive LeaseEvent where
  | acquire (sessionId : SessionId) (generation ttl : Nat)
  | renew (token : LeaseToken)
  | release (token : LeaseToken)
  deriving DecidableEq

/-- `positiveInteger(ttlMs, …)` refuses a lease without a time to live. -/
def leaseStep (h : Host) : LeaseEvent → Option Host
  | .acquire sessionId generation ttl =>
    if ttl = 0 then some h
    else
      match h.acquireResidencyLease sessionId generation ttl with
      | .ok h' => some h'
      | .error _ => some h
  | .renew token => if token < h.leases.next then some (h.renewLease token) else none
  | .release token => if token < h.leases.next then some (h.releaseLease token) else none

/-! ## The machine -/

inductive HostEvent where
  | turn (event : TurnEvent)
  | lifecycle (event : LifecycleEvent)
  | lease (event : LeaseEvent)
  deriving DecidableEq

def hostStep (h : Host) : HostEvent → Option Host
  | .turn event => turnStep h event
  | .lifecycle event => lifecycleStep h event
  | .lease event => leaseStep h event

end PiDaemon.Multiplexer
