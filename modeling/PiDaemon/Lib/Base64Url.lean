import PiDaemon.Lib.Utf8

/-!
# Base64url

Bytes in groups of three, six bits to a digit, without padding.

* `length_base64Url`, `isBase64Url_base64Url`: how many units there are, and that all of them are
  digits;
* `base64Url_inj`: different bytes have different texts.
-/

namespace PiDaemon.Lib

def base64Digit (n : Nat) : UInt16 :=
  if n < 26 then (0x41 + n).toUInt16
  else if n < 52 then (0x61 + (n - 26)).toUInt16
  else if n < 62 then (0x30 + (n - 52)).toUInt16
  else if n = 62 then 0x2d
  else 0x5f

/-- `buffer.toString("base64url")` -/
def base64Url : List UInt8 → JsString
  | [] => []
  | [a] => [base64Digit (a.toNat / 4), base64Digit (a.toNat % 4 * 16)]
  | [a, b] =>
    [base64Digit (a.toNat / 4), base64Digit (a.toNat % 4 * 16 + b.toNat / 16),
      base64Digit (b.toNat % 16 * 4)]
  | a :: b :: c :: rest =>
    base64Digit (a.toNat / 4) :: base64Digit (a.toNat % 4 * 16 + b.toNat / 16) ::
      base64Digit (b.toNat % 16 * 4 + c.toNat / 64) :: base64Digit (c.toNat % 64) :: base64Url rest

/-- `[A-Za-z0-9_-]` -/
def isBase64UrlUnit (u : UInt16) : Bool :=
  (0x30 ≤ u.toNat && u.toNat ≤ 0x39) || (0x41 ≤ u.toNat && u.toNat ≤ 0x5a) ||
    (0x61 ≤ u.toNat && u.toNat ≤ 0x7a) || u = 0x5f || u = 0x2d

theorem isBase64UrlUnit_digit (n : Nat) : isBase64UrlUnit (base64Digit n) = true := by
  unfold base64Digit isBase64UrlUnit
  repeat' split
  all_goals simp
  all_goals omega

theorem isBase64UrlUnit_ascii {u : UInt16} (h : isBase64UrlUnit u = true) : u.toNat < 0x80 := by
  simp only [isBase64UrlUnit, Bool.or_eq_true, Bool.and_eq_true, decide_eq_true_eq] at h
  rcases h with (((h | h) | h) | rfl) | rfl
  · omega
  · omega
  · omega
  · decide
  · decide

/-- Every unit is a digit. -/
def IsBase64Url (s : JsString) : Prop := ∀ u ∈ s, isBase64UrlUnit u = true

variable (bytes : List UInt8)

theorem isBase64Url_base64Url : IsBase64Url (base64Url bytes) := by
  induction bytes using base64Url.induct with
  | case1 => simp [base64Url, IsBase64Url]
  | case2 | case3 => simp [base64Url, IsBase64Url, isBase64UrlUnit_digit]
  | case4 a b c rest ih =>
    simp only [IsBase64Url, base64Url, List.mem_cons, forall_eq_or_imp, isBase64UrlUnit_digit,
      true_and]
    exact ih

theorem length_base64Url : (base64Url bytes).length = (4 * bytes.length + 2) / 3 := by
  induction bytes using base64Url.induct with
  | case1 => rfl
  | case2 | case3 => simp [base64Url]
  | case4 a b c rest ih =>
    simp only [base64Url, List.length_cons, ih]
    omega

/-! ## Decoding -/

def base64Value (u : UInt16) : Nat :=
  if u.toNat = 0x2d then 62
  else if u.toNat < 0x40 then u.toNat - 0x30 + 52
  else if u.toNat < 0x5b then u.toNat - 0x41
  else if u.toNat = 0x5f then 63
  else u.toNat - 0x61 + 26

theorem base64Value_digit {n : Nat} (h : n < 64) : base64Value (base64Digit n) = n := by
  revert n
  decide

/-- `Buffer.from(text, "base64url")`, of a text that `base64Url` gives. -/
def fromBase64Url : JsString → List UInt8
  | a :: b :: c :: d :: rest =>
    (base64Value a * 4 + base64Value b / 16).toUInt8 ::
      (base64Value b % 16 * 16 + base64Value c / 4).toUInt8 ::
      (base64Value c % 4 * 64 + base64Value d).toUInt8 :: fromBase64Url rest
  | [a, b, c] =>
    [(base64Value a * 4 + base64Value b / 16).toUInt8,
      (base64Value b % 16 * 16 + base64Value c / 4).toUInt8]
  | [a, b] => [(base64Value a * 4 + base64Value b / 16).toUInt8]
  | _ => []

theorem fromBase64Url_base64Url : fromBase64Url (base64Url bytes) = bytes := by
  have hbyte {n : Nat} {a : UInt8} (h : n = a.toNat) : n.toUInt8 = a := by
    rw [h]
    exact UInt8.ofNat_toNat
  induction bytes using base64Url.induct with
  | case1 => rfl
  | case2 a =>
    have ha := a.toNat_lt
    simp only [base64Url, fromBase64Url, List.cons.injEq, and_true]
    rw [base64Value_digit (by omega), base64Value_digit (by omega)]
    exact hbyte (by omega)
  | case3 a b =>
    have ha := a.toNat_lt
    have hb := b.toNat_lt
    simp only [base64Url, fromBase64Url, List.cons.injEq, and_true]
    rw [base64Value_digit (by omega), base64Value_digit (by omega), base64Value_digit (by omega)]
    exact ⟨hbyte (by omega), hbyte (by omega)⟩
  | case4 a b c rest ih =>
    have ha := a.toNat_lt
    have hb := b.toNat_lt
    have hc := c.toNat_lt
    simp only [base64Url, fromBase64Url, List.cons.injEq]
    rw [base64Value_digit (by omega), base64Value_digit (by omega), base64Value_digit (by omega),
      base64Value_digit (by omega)]
    exact ⟨hbyte (by omega), hbyte (by omega), hbyte (by omega), ih⟩

/-- The digit of a unit of either alphabet. -/
def base64UrlUnit? (u : UInt16) : Option UInt16 :=
  if isBase64UrlUnit u then some u else if u = 0x2b then some 0x2d else if u = 0x2f then some 0x5f else none

/-- `Buffer.from(text, "base64url")`, of any text: what is no digit is left out. -/
def decodeBase64Url (s : JsString) : List UInt8 := fromBase64Url (s.filterMap base64UrlUnit?)

theorem decodeBase64Url_base64Url : decodeBase64Url (base64Url bytes) = bytes := by
  have hall : (base64Url bytes).filterMap base64UrlUnit? = base64Url bytes := by
    refine (List.filterMap_congr fun u hu => ?_).trans (List.filterMap_some)
    rw [base64UrlUnit?, if_pos (isBase64Url_base64Url bytes u hu)]
  rw [decodeBase64Url, hall, fromBase64Url_base64Url]

theorem base64Url_inj {x y : List UInt8} (h : base64Url x = base64Url y) : x = y := by
  rw [← fromBase64Url_base64Url x, h, fromBase64Url_base64Url]

end PiDaemon.Lib
