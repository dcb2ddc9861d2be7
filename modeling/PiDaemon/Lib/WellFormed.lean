import PiDaemon.Lib.Utf8

/-!
# Well-formed strings

UTF-8 cannot tell a lone surrogate from the replacement character, and nothing else.

* `utf8Encode_eq_iff`: two strings have the same bytes exactly when they are the same once every
  lone surrogate has been replaced.
-/

namespace PiDaemon.Lib

open List

def wellFormedUnit (u : UInt16) : UInt16 := if isSurrogate u then 0xfffd else u

/-- `s.toWellFormed()` -/
def toWellFormed : JsString → JsString
  | [] => []
  | [u] => [wellFormedUnit u]
  | u :: v :: rest =>
    if isHighSurrogate u && isLowSurrogate v then u :: v :: toWellFormed rest
    else wellFormedUnit u :: toWellFormed (v :: rest)

/-! ## Code points -/

/-- The units of a code point. -/
def codePointUnits (c : Nat) : JsString :=
  if c < 0x10000 then [c.toUInt16]
  else [(0xd800 + (c - 0x10000) / 0x400).toUInt16, (0xdc00 + (c - 0x10000) % 0x400).toUInt16]

theorem codePointUnits_unit (u : UInt16) : codePointUnits (unitCodePoint u) = [wellFormedUnit u] := by
  have hu : u.toNat < 0x10000 := u.toNat_lt
  unfold unitCodePoint wellFormedUnit
  split
  · rfl
  · rw [codePointUnits, if_pos hu]
    simp

theorem codePointUnits_pair {u v : UInt16} (hu : isHighSurrogate u = true) (hv : isLowSurrogate v = true) :
    codePointUnits (pairCodePoint u v) = [u, v] := by
  simp only [isHighSurrogate, isLowSurrogate, Bool.and_eq_true, decide_eq_true_eq] at hu hv
  unfold codePointUnits pairCodePoint
  rw [if_neg (by omega)]
  have hhigh : 0xd800 + (0x10000 + (u.toNat - 0xd800) * 0x400 + (v.toNat - 0xdc00) - 0x10000) / 0x400 =
      u.toNat := by omega
  have hlow : 0xdc00 + (0x10000 + (u.toNat - 0xd800) * 0x400 + (v.toNat - 0xdc00) - 0x10000) % 0x400 =
      v.toNat := by omega
  rw [hhigh, hlow]
  simp

theorem flatMap_codePointUnits (s : JsString) : (codePoints s).flatMap codePointUnits = toWellFormed s := by
  induction s using codePoints.induct with
  | case1 => rfl
  | case2 => simp [codePoints, toWellFormed, codePointUnits_unit]
  | case3 u v rest hpair ih =>
    obtain ⟨hu, hv⟩ := Bool.and_eq_true_iff.mp hpair
    simp [codePoints, toWellFormed, hpair, codePointUnits_pair hu hv, ih]
  | case4 u v rest hpair ih =>
    rw [codePoints, if_neg hpair, toWellFormed, if_neg hpair, flatMap_cons, codePointUnits_unit, ih]
    rfl

theorem wellFormedUnit_not_surrogate (u : UInt16) : isSurrogate (wellFormedUnit u) = false := by
  unfold wellFormedUnit
  split
  · decide
  · rename_i hu
    exact Bool.eq_false_iff.mpr hu

theorem unitCodePoint_wellFormedUnit (u : UInt16) : unitCodePoint (wellFormedUnit u) = unitCodePoint u := by
  unfold wellFormedUnit
  split
  · rename_i hu
    rw [unitCodePoint, unitCodePoint, if_pos hu]
    decide
  · rfl

theorem codePoints_cons_of_not_high {u : UInt16} (hu : isHighSurrogate u = false) (rest : JsString) :
    codePoints (u :: rest) = unitCodePoint u :: codePoints rest := by
  cases rest with
  | nil => rfl
  | cons => rw [codePoints, hu, Bool.false_and, if_neg Bool.false_ne_true]

theorem codePoints_toWellFormed (s : JsString) : codePoints (toWellFormed s) = codePoints s := by
  have hhigh (u : UInt16) : isHighSurrogate (wellFormedUnit u) = false :=
    (Bool.or_eq_false_iff.mp (wellFormedUnit_not_surrogate u)).1
  induction s using codePoints.induct with
  | case1 => rfl
  | case2 => simp [codePoints, toWellFormed, unitCodePoint_wellFormedUnit]
  | case3 u v rest hpair ih => simp [codePoints, toWellFormed, hpair, ih]
  | case4 u v rest hpair ih =>
    rw [toWellFormed, if_neg hpair, codePoints_cons_of_not_high (hhigh u), unitCodePoint_wellFormedUnit, ih,
      codePoints, if_neg hpair]

/-- Two strings have the same code points when they are the same once lone surrogates are replaced. -/
theorem codePoints_eq_iff {s t : JsString} : codePoints s = codePoints t ↔ toWellFormed s = toWellFormed t := by
  constructor
  · intro h
    rw [← flatMap_codePointUnits, h, flatMap_codePointUnits]
  · intro h
    rw [← codePoints_toWellFormed, h, codePoints_toWellFormed]

theorem toWellFormed_cons_of_not_high {u : UInt16} (hu : isHighSurrogate u = false) (rest : JsString) :
    toWellFormed (u :: rest) = wellFormedUnit u :: toWellFormed rest := by
  cases rest with
  | nil => rfl
  | cons => rw [toWellFormed, hu, Bool.false_and, if_neg Bool.false_ne_true]

theorem toWellFormed_append (a : JsString) {b : JsString} (h : startsLow b = false) :
    toWellFormed (a ++ b) = toWellFormed a ++ toWellFormed b := by
  rw [← flatMap_codePointUnits, codePoints_append a b h, flatMap_append, flatMap_codePointUnits,
    flatMap_codePointUnits]

theorem Ascii.toWellFormed_append {a : JsString} (ha : Ascii a) (b : JsString) :
    toWellFormed (a ++ b) = a ++ toWellFormed b := by
  induction a with
  | nil => rfl
  | cons u a ih =>
    have hu := not_surrogate_of_ascii (ha u mem_cons_self)
    have hself : wellFormedUnit u = u := by
      rw [wellFormedUnit, isSurrogate, hu.1, hu.2]
      rfl
    rw [cons_append, toWellFormed_cons_of_not_high hu.1, hself,
      ih fun v hv => ha v (mem_cons_of_mem _ hv)]
    rfl

/-! ## Bytes -/

theorem unitCodePoint_lt (u : UInt16) : unitCodePoint u < 0x110000 := by
  have hu := u.toNat_lt
  unfold unitCodePoint
  split <;> omega

theorem pairCodePoint_lt {u v : UInt16} (h : (isHighSurrogate u && isLowSurrogate v) = true) :
    pairCodePoint u v < 0x110000 := by
  simp only [isHighSurrogate, isLowSurrogate, Bool.and_eq_true, decide_eq_true_eq] at h
  unfold pairCodePoint
  omega

theorem codePoints_lt (s : JsString) : ∀ c ∈ codePoints s, c < 0x110000 := by
  induction s using codePoints.induct with
  | case1 => simp [codePoints]
  | case2 => simp [codePoints, unitCodePoint_lt]
  | case3 u v rest hpair ih => simpa [codePoints, hpair, pairCodePoint_lt] using ih
  | case4 u v rest hpair ih =>
    rw [codePoints, if_neg hpair]
    simpa [unitCodePoint_lt] using ih

theorem toNat_byte {n : Nat} (h : n < 256) : n.toUInt8.toNat = n := by
  rw [UInt8.toNat_ofNat', Nat.mod_eq_of_lt h]

/-- The first code point of the bytes, and the bytes that are left: the first byte tells how many
belong to it. -/
def takeCodePoint : List UInt8 → Nat × List UInt8
  | [] => (0, [])
  | a :: rest =>
    let tail (i : Nat) : Nat := (rest.getD i 0).toNat - 0x80
    if a.toNat < 0x80 then (a.toNat, rest)
    else if a.toNat < 0xe0 then ((a.toNat - 0xc0) * 0x40 + tail 0, rest.drop 1)
    else if a.toNat < 0xf0 then ((a.toNat - 0xe0) * 0x1000 + tail 0 * 0x40 + tail 1, rest.drop 2)
    else ((a.toNat - 0xf0) * 0x40000 + tail 0 * 0x1000 + tail 1 * 0x40 + tail 2, rest.drop 3)

theorem takeCodePoint_encode {c : Nat} (hc : c < 0x110000) (rest : List UInt8) :
    takeCodePoint (encodeCodePoint c ++ rest) = (c, rest) := by
  unfold encodeCodePoint
  split
  · rename_i h1
    have hbyte : c.toUInt8.toNat = c := toNat_byte (by omega)
    simp only [cons_append, nil_append, takeCodePoint, hbyte, if_pos h1]
  · split
    · have hfirst : (0xc0 + c / 0x40).toUInt8.toNat = 0xc0 + c / 0x40 := toNat_byte (by omega)
      have hsecond : (0x80 + c % 0x40).toUInt8.toNat = 0x80 + c % 0x40 := toNat_byte (by omega)
      simp only [cons_append, nil_append, takeCodePoint, hfirst]
      rw [if_neg (by omega), if_pos (by omega)]
      simp only [getD_cons_zero, hsecond, drop_succ_cons, drop_zero, Prod.mk.injEq, and_true]
      omega
    · split
      · have hfirst : (0xe0 + c / 0x1000).toUInt8.toNat = 0xe0 + c / 0x1000 := toNat_byte (by omega)
        have hsecond : (0x80 + c / 0x40 % 0x40).toUInt8.toNat = 0x80 + c / 0x40 % 0x40 := toNat_byte (by omega)
        have hthird : (0x80 + c % 0x40).toUInt8.toNat = 0x80 + c % 0x40 := toNat_byte (by omega)
        simp only [cons_append, nil_append, takeCodePoint, hfirst]
        rw [if_neg (by omega), if_neg (by omega), if_pos (by omega)]
        simp only [getD_cons_zero, getD_cons_succ, hsecond, hthird, drop_succ_cons,
          drop_zero, Prod.mk.injEq, and_true]
        omega
      · have hfirst : (0xf0 + c / 0x40000).toUInt8.toNat = 0xf0 + c / 0x40000 := toNat_byte (by omega)
        have hsecond : (0x80 + c / 0x1000 % 0x40).toUInt8.toNat = 0x80 + c / 0x1000 % 0x40 :=
          toNat_byte (by omega)
        have hthird : (0x80 + c / 0x40 % 0x40).toUInt8.toNat = 0x80 + c / 0x40 % 0x40 := toNat_byte (by omega)
        have hfourth : (0x80 + c % 0x40).toUInt8.toNat = 0x80 + c % 0x40 := toNat_byte (by omega)
        simp only [cons_append, nil_append, takeCodePoint, hfirst]
        rw [if_neg (by omega), if_neg (by omega), if_neg (by omega)]
        simp only [getD_cons_zero, getD_cons_succ, hsecond, hthird, hfourth,
          drop_succ_cons, drop_zero, Prod.mk.injEq, and_true]
        omega

theorem encodeCodePoint_append_inj {c d : Nat} {x y : List UInt8} (hc : c < 0x110000) (hd : d < 0x110000)
    (h : encodeCodePoint c ++ x = encodeCodePoint d ++ y) : c = d ∧ x = y := by
  have htake := congrArg takeCodePoint h
  rw [takeCodePoint_encode hc, takeCodePoint_encode hd] at htake
  exact Prod.mk.inj htake

theorem encodeCodePoint_ne_nil (c : Nat) : encodeCodePoint c ≠ [] := by
  unfold encodeCodePoint
  repeat' split
  all_goals exact cons_ne_nil _ _

theorem flatMap_encodeCodePoint_inj {cs ds : List Nat} (hcs : ∀ c ∈ cs, c < 0x110000)
    (hds : ∀ d ∈ ds, d < 0x110000) (h : cs.flatMap encodeCodePoint = ds.flatMap encodeCodePoint) : cs = ds := by
  induction cs generalizing ds with
  | nil =>
    cases ds with
    | nil => rfl
    | cons d => exact absurd (append_eq_nil_iff.mp h.symm).1 (encodeCodePoint_ne_nil d)
  | cons c cs ih =>
    cases ds with
    | nil => exact absurd (append_eq_nil_iff.mp h).1 (encodeCodePoint_ne_nil c)
    | cons d =>
      obtain ⟨rfl, hrest⟩ := encodeCodePoint_append_inj (hcs c mem_cons_self) (hds d mem_cons_self) h
      rw [ih (fun c hc => hcs c (mem_cons_of_mem _ hc)) (fun d hd => hds d (mem_cons_of_mem _ hd)) hrest]

theorem utf8Encode_eq_iff {s t : JsString} : utf8Encode s = utf8Encode t ↔ toWellFormed s = toWellFormed t := by
  rw [← codePoints_eq_iff]
  constructor
  · exact flatMap_encodeCodePoint_inj (codePoints_lt s) (codePoints_lt t)
  · intro h
    rw [utf8Encode, h, utf8Encode]

end PiDaemon.Lib
