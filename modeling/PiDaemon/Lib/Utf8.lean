import Mathlib.Data.List.Basic
import PiDaemon.Lib.JsString

/-!
# UTF-8 of JavaScript strings

A high surrogate followed by a low one is one code point; a lone surrogate is
encoded as the replacement character.

* `byteLength_append`: the length of an encoding is additive where no surrogate
  pair is cut;
* `Ascii.byteLength`: a string of ASCII code units has one byte for each;
* `Ascii.utf8Encode_inj`: such strings with the same bytes are equal.
-/

namespace PiDaemon.Lib

open List

def isHighSurrogate (u : UInt16) : Bool := 0xd800 ≤ u.toNat && u.toNat ≤ 0xdbff

def isLowSurrogate (u : UInt16) : Bool := 0xdc00 ≤ u.toNat && u.toNat ≤ 0xdfff

def isSurrogate (u : UInt16) : Bool := isHighSurrogate u || isLowSurrogate u

/-- The code point of a unit that is not part of a pair. -/
def unitCodePoint (u : UInt16) : Nat := if isSurrogate u then 0xfffd else u.toNat

def pairCodePoint (high low : UInt16) : Nat :=
  0x10000 + (high.toNat - 0xd800) * 0x400 + (low.toNat - 0xdc00)

def codePoints : JsString → List Nat
  | [] => []
  | [u] => [unitCodePoint u]
  | u :: v :: rest =>
    if isHighSurrogate u && isLowSurrogate v then pairCodePoint u v :: codePoints rest
    else unitCodePoint u :: codePoints (v :: rest)

def encodeCodePoint (c : Nat) : List UInt8 :=
  if c < 0x80 then [c.toUInt8]
  else if c < 0x800 then [(0xc0 + c / 0x40).toUInt8, (0x80 + c % 0x40).toUInt8]
  else if c < 0x10000 then
    [(0xe0 + c / 0x1000).toUInt8, (0x80 + c / 0x40 % 0x40).toUInt8, (0x80 + c % 0x40).toUInt8]
  else
    [(0xf0 + c / 0x40000).toUInt8, (0x80 + c / 0x1000 % 0x40).toUInt8,
      (0x80 + c / 0x40 % 0x40).toUInt8, (0x80 + c % 0x40).toUInt8]

/-- `Buffer.from(s, "utf8")` -/
def utf8Encode (s : JsString) : List UInt8 := (codePoints s).flatMap encodeCodePoint

/-- `Buffer.byteLength(s, "utf8")` -/
def byteLength (s : JsString) : Nat := (utf8Encode s).length

/-! ## Lengths -/

def codePointBytes (c : Nat) : Nat :=
  if c < 0x80 then 1 else if c < 0x800 then 2 else if c < 0x10000 then 3 else 4

theorem length_encodeCodePoint (c : Nat) : (encodeCodePoint c).length = codePointBytes c := by
  unfold encodeCodePoint codePointBytes
  repeat' split
  all_goals rfl

@[simp] theorem byteLength_nil : byteLength [] = 0 := rfl

theorem byteLength_unit (u : UInt16) : byteLength [u] = codePointBytes (unitCodePoint u) := by
  simp [byteLength, utf8Encode, codePoints, length_encodeCodePoint]

theorem byteLength_pair {u v : UInt16} (rest : JsString)
    (h : (isHighSurrogate u && isLowSurrogate v) = true) :
    byteLength (u :: v :: rest) = 4 + byteLength rest := by
  have hlt : ¬ pairCodePoint u v < 0x10000 := by
    unfold pairCodePoint
    omega
  have hbytes : codePointBytes (pairCodePoint u v) = 4 := by
    unfold codePointBytes
    rw [if_neg (by omega), if_neg (by omega), if_neg hlt]
  simp [byteLength, utf8Encode, codePoints, h, length_encodeCodePoint, hbytes]

/-- The string begins with a low surrogate. -/
def startsLow : JsString → Bool
  | [] => false
  | u :: _ => isLowSurrogate u

theorem codePoints_append (a b : JsString) (h : startsLow b = false) :
    codePoints (a ++ b) = codePoints a ++ codePoints b := by
  induction a using codePoints.induct with
  | case1 => rfl
  | case2 u =>
    cases b with
    | nil => rfl
    | cons v b =>
      have hpair : (isHighSurrogate u && isLowSurrogate v) = false := by
        rw [show isLowSurrogate v = false from h, Bool.and_false]
      simp [codePoints, hpair]
  | case3 u v rest hpair ih => simp only [cons_append, codePoints, hpair, if_true, ih]
  | case4 u v rest hpair ih =>
    rw [cons_append, cons_append, codePoints, if_neg hpair, codePoints, if_neg hpair,
      ← cons_append, ih]
    rfl

/-- The length is additive where no surrogate pair is cut. -/
theorem byteLength_append (a b : JsString) (h : startsLow b = false) :
    byteLength (a ++ b) = byteLength a + byteLength b := by
  simp [byteLength, utf8Encode, codePoints_append a b h]

/-- Every code unit is ASCII. -/
def Ascii (s : JsString) : Prop := ∀ u ∈ s, u.toNat < 0x80

instance (s : JsString) : Decidable (Ascii s) := inferInstanceAs (Decidable (∀ u ∈ s, _))

theorem ascii_append {s t : JsString} : Ascii (s ++ t) ↔ Ascii s ∧ Ascii t := forall_mem_append

theorem not_surrogate_of_ascii {u : UInt16} (h : u.toNat < 0x80) :
    isHighSurrogate u = false ∧ isLowSurrogate u = false := by
  simp only [isHighSurrogate, isLowSurrogate, Bool.and_eq_false_iff, decide_eq_false_iff_not]
  omega

variable {s : JsString}

theorem Ascii.startsLow (h : Ascii s) : startsLow s = false := by
  cases s with
  | nil => rfl
  | cons u s => exact (not_surrogate_of_ascii (h u (by simp))).2

theorem Ascii.codePoints (h : Ascii s) : codePoints s = s.map UInt16.toNat := by
  induction s with
  | nil => rfl
  | cons u s ih =>
    have hu := not_surrogate_of_ascii (h u (by simp))
    have hs : Ascii s := fun v hv => h v (by simp [hv])
    have hone : Lib.codePoints [u] = [u.toNat] := by
      simp [Lib.codePoints, unitCodePoint, isSurrogate, hu]
    rw [show u :: s = [u] ++ s from rfl, codePoints_append _ _ hs.startsLow, hone, ih hs]
    rfl

theorem Ascii.utf8Encode (h : Ascii s) : utf8Encode s = s.map fun u => u.toNat.toUInt8 := by
  rw [Lib.utf8Encode, h.codePoints, flatMap_map, map_eq_flatMap]
  refine flatMap_congr fun u hu => ?_
  simp only [encodeCodePoint, h u hu, if_true]

theorem Ascii.decode (h : Ascii s) : (Lib.utf8Encode s).map (fun b => b.toNat.toUInt16) = s := by
  rw [h.utf8Encode, map_map]
  refine (map_congr_left fun u hu => ?_).trans (map_id s)
  have hlt : u.toNat < 256 := Nat.lt_trans (h u hu) (by decide)
  simp [← UInt16.toNat_inj, hlt, Nat.mod_eq_of_lt hlt]

theorem Ascii.utf8Encode_inj {s t : JsString} (hs : Ascii s) (ht : Ascii t)
    (h : Lib.utf8Encode s = Lib.utf8Encode t) : s = t :=
  hs.decode.symm.trans ((congrArg _ h).trans ht.decode)

theorem Ascii.byteLength (h : Ascii s) : byteLength s = s.length := by
  induction s with
  | nil => rfl
  | cons u s ih =>
    have hu : u.toNat < 0x80 := h u (by simp)
    have hs : Ascii s := fun v hv => h v (by simp [hv])
    have hone : Lib.byteLength [u] = 1 := by
      have hn := not_surrogate_of_ascii hu
      simp [byteLength_unit, unitCodePoint, isSurrogate, hn, codePointBytes, hu]
    rw [show u :: s = [u] ++ s from rfl, byteLength_append _ _ hs.startsLow, hone, ih hs]
    simp [Nat.add_comm]

end PiDaemon.Lib
