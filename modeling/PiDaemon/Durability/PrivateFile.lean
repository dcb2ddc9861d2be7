import PiDaemon.Lib.Json

/-!
# Private files

Writing and removing a file of the state directory: how a call ends, and how large
the file of a value is.
-/

namespace PiDaemon.Durability

open Lib

/-- How a write or a removal ends: `failed` throws, and `landed` says that the file has
been changed all the same. -/
inductive FileOutcome where
  | done
  | failed (landed : Bool)
  deriving DecidableEq

def FileOutcome.lands : FileOutcome → Bool
  | .done => true
  | .failed landed => landed

/-- The size of the file that `atomicWritePrivateJson` writes. -/
def privateJsonBytes {N : Type} (format : NumberFormat N) (value : JsValue N) : Nat :=
  byteLength ((stringifyIndented format value).getD [] ++ [0x0a])

end PiDaemon.Durability
