import PiDaemon.Lib.WellFormed

/-!
# Reading UTF-8

The two readers of bytes: `TextDecoder` with `fatal`, which refuses what is not UTF-8, and
`toString`, which puts the replacement character for it.  Bytes begin with a code point when its
encoding is what they begin with.

* `decodeUtf8_utf8Encode`, `utf8ToString_utf8Encode`: what was encoded is read back, once every lone
  surrogate has been replaced.
-/

namespace PiDaemon.Lib

open List

/-- The first code point of the bytes, and the bytes that are left. -/
def readCodePoint (bytes : List UInt8) : Option (Nat × List UInt8) :=
  let (c, rest) := takeCodePoint bytes
  if c < 0x110000 ∧ ¬ (0xd800 ≤ c ∧ c ≤ 0xdfff) ∧ encodeCodePoint c ++ rest = bytes then some (c, rest) else none

/-- The code points of bytes; the fuel is the number of these. -/
def readCodePoints : Nat → List UInt8 → Option (List Nat)
  | _, [] => some []
  | 0, _ :: _ => none
  | fuel + 1, byte :: bytes =>
    (readCodePoint (byte :: bytes)).bind fun (c, rest) => (readCodePoints fuel rest).map fun cs => c :: cs

/-- `new TextDecoder("utf-8", { fatal: true }).decode(bytes)`; a byte order mark is left out. -/
def decodeUtf8 (bytes : List UInt8) : Option JsString :=
  (readCodePoints bytes.length bytes).map fun cs =>
    (if cs.head? = some 0xfeff then cs.tail else cs).flatMap codePointUnits

/-- The second byte can follow the first. -/
def followsByte (a b : UInt8) : Bool :=
  let lower := if a = 0xe0 then 0xa0 else if a = 0xf0 then 0x90 else 0x80
  let upper := if a = 0xed then 0x9f else if a = 0xf4 then 0x8f else 0xbf
  0xc2 ≤ a.toNat && a.toNat ≤ 0xf4 && lower ≤ b.toNat && b.toNat ≤ upper

/-- How many bytes one replacement character stands for, where they begin with no code point. -/
def brokenBytes : List UInt8 → Nat
  | a :: b :: c :: _ =>
    if followsByte a b then if 0xf0 ≤ a.toNat ∧ 0x80 ≤ c.toNat ∧ c.toNat ≤ 0xbf then 3 else 2 else 1
  | [a, b] => if followsByte a b then 2 else 1
  | _ => 1

/-- The code points of bytes, with replacement characters. -/
def replacedCodePoints : Nat → List UInt8 → List Nat
  | _, [] => []
  | 0, _ :: _ => []
  | fuel + 1, byte :: bytes =>
    match readCodePoint (byte :: bytes) with
    | some (c, rest) => c :: replacedCodePoints fuel rest
    | none => 0xfffd :: replacedCodePoints fuel ((byte :: bytes).drop (brokenBytes (byte :: bytes)))

/-- `buffer.toString("utf8")` -/
def utf8ToString (bytes : List UInt8) : JsString :=
  (replacedCodePoints bytes.length bytes).flatMap codePointUnits

/-! ## What was encoded -/

/-- A code point that is no surrogate. -/
def IsScalar (c : Nat) : Prop := c < 0x110000 ∧ ¬ (0xd800 ≤ c ∧ c ≤ 0xdfff)

theorem isScalar_unitCodePoint (u : UInt16) : IsScalar (unitCodePoint u) := by
  have hu := u.toNat_lt
  unfold unitCodePoint IsScalar
  split
  · decide
  rename_i hsurrogate
  simp only [isSurrogate, isHighSurrogate, isLowSurrogate, Bool.or_eq_true, Bool.and_eq_true,
    decide_eq_true_eq] at hsurrogate
  omega

theorem isScalar_codePoints (s : JsString) : ∀ c ∈ codePoints s, IsScalar c := by
  induction s using codePoints.induct with
  | case1 => simp [codePoints]
  | case2 u => simp [codePoints, isScalar_unitCodePoint]
  | case3 u v rest hpair ih =>
    have hpoint : IsScalar (pairCodePoint u v) := by
      refine ⟨pairCodePoint_lt hpair, fun h => ?_⟩
      have hlarge : 0x10000 ≤ pairCodePoint u v := by
        unfold pairCodePoint
        omega
      omega
    simpa [codePoints, hpair, hpoint] using ih
  | case4 u v rest hpair ih =>
    rw [codePoints, if_neg hpair]
    simpa [isScalar_unitCodePoint] using ih

theorem readCodePoint_encode {c : Nat} (hc : IsScalar c) (rest : List UInt8) :
    readCodePoint (encodeCodePoint c ++ rest) = some (c, rest) := by
  unfold readCodePoint
  rw [takeCodePoint_encode hc.1]
  exact if_pos ⟨hc.1, hc.2, rfl⟩

theorem encodeCodePoint_cons (c : Nat) : ∃ byte bytes, encodeCodePoint c = byte :: bytes := by
  unfold encodeCodePoint
  repeat' split
  all_goals exact ⟨_, _, rfl⟩

theorem readCodePoints_encode {cs : List Nat} (hcs : ∀ c ∈ cs, IsScalar c) {fuel : Nat}
    (hfuel : (cs.flatMap encodeCodePoint).length ≤ fuel) :
    readCodePoints fuel (cs.flatMap encodeCodePoint) = some cs ∧
      replacedCodePoints fuel (cs.flatMap encodeCodePoint) = cs := by
  induction cs generalizing fuel with
  | nil => exact ⟨by simp [readCodePoints], by simp [replacedCodePoints]⟩
  | cons c cs ih =>
    rw [forall_mem_cons] at hcs
    obtain ⟨_, _, hc⟩ := encodeCodePoint_cons c
    have hread := readCodePoint_encode hcs.1 (cs.flatMap encodeCodePoint)
    rw [flatMap_cons] at hfuel ⊢
    rw [hc, cons_append] at hread hfuel ⊢
    cases fuel with
    | zero => simp at hfuel
    | succ fuel =>
      rw [length_cons, length_append] at hfuel
      have hfits : (cs.flatMap encodeCodePoint).length ≤ fuel := by omega
      obtain ⟨hrest, hreplaced⟩ := ih hcs.2 hfits
      rw [readCodePoints, replacedCodePoints, hread]
      simp [hrest, hreplaced]

variable {s : JsString}

theorem head?_codePoints (h : s.head? ≠ some 0xfeff) : (codePoints s).head? ≠ some 0xfeff := by
  cases s with
  | nil => simp [codePoints]
  | cons u s =>
    have hu : unitCodePoint u ≠ 0xfeff := by
      unfold unitCodePoint
      split
      · decide
      intro heq
      refine h ?_
      rw [List.head?_cons, ← UInt16.toNat_inj.mp (show u.toNat = (0xfeff : UInt16).toNat from heq)]
    cases s with
    | nil => simpa [codePoints] using hu
    | cons v s =>
      rw [codePoints]
      split
      · have hlarge : 0x10000 ≤ pairCodePoint u v := by
          unfold pairCodePoint
          omega
        rw [List.head?_cons, ne_eq, Option.some.injEq]
        omega
      · simpa using hu

theorem decodeUtf8_utf8Encode (h : s.head? ≠ some 0xfeff) : decodeUtf8 (utf8Encode s) = some (toWellFormed s) := by
  rw [decodeUtf8, utf8Encode, (readCodePoints_encode (isScalar_codePoints s) (Nat.le_refl _)).1, Option.map_some,
    if_neg (head?_codePoints h), flatMap_codePointUnits]

theorem utf8ToString_utf8Encode (s : JsString) : utf8ToString (utf8Encode s) = toWellFormed s := by
  rw [utf8ToString, utf8Encode, (readCodePoints_encode (isScalar_codePoints s) (Nat.le_refl _)).2,
    flatMap_codePointUnits]

/-! ## Well-formed strings -/

/-- There is no lone surrogate. -/
def WellFormed (s : JsString) : Prop := toWellFormed s = s

theorem WellFormed.append {a b : JsString} (ha : WellFormed a) (hb : WellFormed b) (hlow : startsLow b = false) :
    WellFormed (a ++ b) := by
  rw [WellFormed, toWellFormed_append a hlow, ha, hb]

theorem Ascii.wellFormed (h : Ascii s) : WellFormed s := by
  have happend := h.toWellFormed_append []
  rwa [toWellFormed, append_nil] at happend

/-! ## Bytes of units -/

theorem le_encodeCodePoint {bound c : Nat} (hbound : bound ≤ 0x80) (hc : bound ≤ c) (hlt : c < 0x110000) :
    ∀ byte ∈ encodeCodePoint c, bound ≤ byte.toNat := by
  intro byte hbyte
  unfold encodeCodePoint at hbyte
  split at hbyte
  · rw [mem_singleton.mp hbyte, toNat_byte (by omega)]
    exact hc
  split at hbyte
  · simp only [mem_cons, not_mem_nil, or_false] at hbyte
    rcases hbyte with rfl | rfl <;> rw [toNat_byte (by omega)] <;> omega
  split at hbyte
  · simp only [mem_cons, not_mem_nil, or_false] at hbyte
    rcases hbyte with rfl | rfl | rfl <;> rw [toNat_byte (by omega)] <;> omega
  · simp only [mem_cons, not_mem_nil, or_false] at hbyte
    rcases hbyte with rfl | rfl | rfl | rfl <;> rw [toNat_byte (by omega)] <;> omega

theorem le_codePoints {bound : Nat} (hbound : bound ≤ 0x80) (hs : ∀ u ∈ s, bound ≤ u.toNat) :
    ∀ c ∈ codePoints s, bound ≤ c := by
  have hunit (u : UInt16) (hu : bound ≤ u.toNat) : bound ≤ unitCodePoint u := by
    unfold unitCodePoint
    split <;> omega
  induction s using codePoints.induct with
  | case1 => simp [codePoints]
  | case2 u => simpa [codePoints] using hunit u (hs u mem_cons_self)
  | case3 u v rest hpair ih =>
    have hpoint : bound ≤ pairCodePoint u v := by
      unfold pairCodePoint
      omega
    simp only [codePoints, hpair, if_true, mem_cons, forall_eq_or_imp]
    exact ⟨hpoint, ih fun w hw => hs w (mem_cons_of_mem _ (mem_cons_of_mem _ hw))⟩
  | case4 u v rest hpair ih =>
    rw [codePoints, if_neg hpair, forall_mem_cons]
    exact ⟨hunit u (hs u mem_cons_self), ih fun w hw => hs w (mem_cons_of_mem _ hw)⟩

theorem le_utf8Encode {bound : Nat} (hbound : bound ≤ 0x80) (hs : ∀ u ∈ s, bound ≤ u.toNat) :
    ∀ byte ∈ utf8Encode s, bound ≤ byte.toNat := by
  intro byte hbyte
  obtain ⟨c, hc, hbyte⟩ := mem_flatMap.mp hbyte
  exact le_encodeCodePoint hbound (le_codePoints hbound hs c hc) (codePoints_lt s c hc) byte hbyte

end PiDaemon.Lib
