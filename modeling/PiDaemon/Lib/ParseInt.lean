import Mathlib.Algebra.GroupWithZero.Nat
import PiDaemon.Lib.JsString

/-!
# `Number.parseInt(value, 10)`
-/

namespace PiDaemon.Lib

/-- The white space that `parseInt` skips. -/
def isStrWhiteSpace (u : UInt16) : Bool :=
  (9 ≤ u.toNat && u.toNat ≤ 13) || u = 0x20 || u = 0xa0 || u = 0x1680 ||
    (0x2000 ≤ u.toNat && u.toNat ≤ 0x200a) || u = 0x2028 || u = 0x2029 || u = 0x202f ||
    u = 0x205f || u = 0x3000 || u = 0xfeff

def isDecimalDigit (u : UInt16) : Bool := 0x30 ≤ u.toNat && u.toNat ≤ 0x39

/-- The digits that a text begins with; `none` is `NaN`. -/
def parseDigits (value : JsString) : Option Nat :=
  match value.takeWhile isDecimalDigit with
  | [] => none
  | digits => some (digits.foldl (fun n u => n * 10 + (u.toNat - 0x30)) 0)

/-- `Number.parseInt(value, 10)` up to the precision of a number; `none` is `NaN`. -/
def parseInt (value : JsString) : Option Int :=
  match value.dropWhile isStrWhiteSpace with
  | 0x2d :: rest => (parseDigits rest).map fun n => -(n : Int)
  | 0x2b :: rest => (parseDigits rest).map Int.ofNat
  | rest => (parseDigits rest).map Int.ofNat

/-- The numbers from which on a number is an infinity. -/
def infinityBound : Nat := 2 ^ 1024 - 2 ^ 970

/-- `parseInt`, where a number that is not finite counts as 0. -/
def parseFinite (value : JsString) : Int :=
  match parseInt value with
  | none => 0
  | some n => if n.natAbs < infinityBound then n else 0

end PiDaemon.Lib
