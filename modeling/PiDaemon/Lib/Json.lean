import PiDaemon.Lib.Utf8

/-!
# JSON.stringify

JavaScript data and its serialization: nested arrays and objects of strings,
numbers, booleans and null, with the members and slots that a serializer leaves
out.  An array is given by its slots, an object by its members in the order of
their enumeration.  How a finite number is written is a parameter.

* `byteLength_quote`: the length of a quoted string, unit by unit;
* `startsLow_serialize`: a serialization never begins with a low surrogate.
-/

namespace PiDaemon.Lib

open List

/-- How finite numbers are written. -/
structure NumberFormat (N : Type) where
  format : N → JsString
  ascii : ∀ n, Ascii (format n)

mutual

/-- A value; `N` are the finite numbers. -/
inductive JsValue (N : Type) where
  | undefined
  | function
  | symbol
  | null
  | boolean (b : Bool)
  | number (n : N)
  /-- `NaN` and the infinities. -/
  | nonFinite
  | string (s : JsString)
  | array (slots : JsSlots N)
  | object (members : JsMembers N)

inductive JsSlots (N : Type) where
  | nil
  /-- A slot without a value. -/
  | hole (rest : JsSlots N)
  | cons (value : JsValue N) (rest : JsSlots N)

inductive JsMembers (N : Type) where
  | nil
  | cons (key : JsString) (value : JsValue N) (rest : JsMembers N)

end

section
variable {N : Type}

/-- A member that is left out when it has no value. -/
def optionMember (key : String) (value : Option (JsValue N)) (rest : JsMembers N) : JsMembers N :=
  match value with
  | none => rest
  | some value => .cons (text key) value rest

def jsSlots : List (JsValue N) → JsSlots N
  | [] => .nil
  | value :: rest => .cons value (jsSlots rest)

/-- The member of a record with a key; what is not a record has no members. -/
def JsMembers.get (key : JsString) : JsMembers N → JsValue N
  | .nil => .undefined
  | .cons other value rest => if other = key then value else rest.get key

def JsValue.member (key : String) : JsValue N → JsValue N
  | .object members => members.get (text key)
  | _ => .undefined

end

/-! ## Strings -/

def hexDigit (n : Nat) : UInt16 := if n < 10 then (0x30 + n).toUInt16 else (0x61 + (n - 10)).toUInt16

/-- `\uXXXX` -/
def unicodeEscape (u : UInt16) : JsString :=
  [0x5c, 0x75, hexDigit (u.toNat / 0x1000), hexDigit (u.toNat / 0x100 % 0x10),
    hexDigit (u.toNat / 0x10 % 0x10), hexDigit (u.toNat % 0x10)]

/-- `QuoteJSONString` at a unit that is not part of a surrogate pair. -/
def quoteUnit (u : UInt16) : JsString :=
  if u = 0x08 then [0x5c, 0x62]
  else if u = 0x09 then [0x5c, 0x74]
  else if u = 0x0a then [0x5c, 0x6e]
  else if u = 0x0c then [0x5c, 0x66]
  else if u = 0x0d then [0x5c, 0x72]
  else if u = 0x22 then [0x5c, 0x22]
  else if u = 0x5c then [0x5c, 0x5c]
  else if u.toNat < 0x20 ∨ isSurrogate u then unicodeEscape u
  else [u]

def quoteUnits : JsString → JsString
  | [] => []
  | [u] => quoteUnit u
  | u :: v :: rest =>
    if isHighSurrogate u && isLowSurrogate v then u :: v :: quoteUnits rest
    else quoteUnit u ++ quoteUnits (v :: rest)

/-- `QuoteJSONString` -/
def quote (s : JsString) : JsString := [0x22] ++ (quoteUnits s ++ [0x22])

/-! ## Values -/

/-- The pieces with a separator between them. -/
def joinWith (separator : JsString) : List JsString → JsString
  | [] => []
  | [s] => s
  | s :: t :: rest => s ++ (separator ++ joinWith separator (t :: rest))

def nullText : JsString := [0x6e, 0x75, 0x6c, 0x6c]

def booleanText : Bool → JsString
  | true => [0x74, 0x72, 0x75, 0x65]
  | false => [0x66, 0x61, 0x6c, 0x73, 0x65]

/-- The brackets of an array or an object around its items. -/
def bracket (opening closing : UInt16) (gap indent : JsString) (items : List JsString) : JsString :=
  if items.isEmpty then [opening] ++ [closing]
  else if gap.isEmpty then [opening] ++ (joinWith [0x2c] items ++ [closing])
  else
    [opening] ++ ([0x0a] ++ indent ++ gap ++ joinWith ([0x2c, 0x0a] ++ indent ++ gap) items ++
      ([0x0a] ++ indent ++ [closing]))

section
variable {N : Type} (format : NumberFormat N) (gap : JsString)

mutual

/-- `SerializeJSONProperty`: `none` for the values that have no serialization. -/
def serialize (indent : JsString) : JsValue N → Option JsString
  | .undefined => none
  | .function => none
  | .symbol => none
  | .null => some nullText
  | .boolean b => some (booleanText b)
  | .number n => some (format.format n)
  | .nonFinite => some nullText
  | .string s => some (quote s)
  | .array slots => some (bracket 0x5b 0x5d gap indent (serializeSlots (indent ++ gap) slots))
  | .object members =>
    some (bracket 0x7b 0x7d gap indent (serializeMembers (indent ++ gap) members))

def serializeSlots (indent : JsString) : JsSlots N → List JsString
  | .nil => []
  | .hole rest => nullText :: serializeSlots indent rest
  | .cons value rest => (serialize indent value).getD nullText :: serializeSlots indent rest

def serializeMembers (indent : JsString) : JsMembers N → List JsString
  | .nil => []
  | .cons key value rest =>
    match serialize indent value with
    | none => serializeMembers indent rest
    | some text =>
      (quote key ++ ([0x3a] ++ (if gap.isEmpty then [] else [0x20]) ++ text)) ::
        serializeMembers indent rest

end

end

/-- `JSON.stringify(value)` -/
def stringify {N : Type} (format : NumberFormat N) (value : JsValue N) : Option JsString :=
  serialize format [] [] value

/-- `JSON.stringify(value, null, 2)` -/
def stringifyIndented {N : Type} (format : NumberFormat N) (value : JsValue N) : Option JsString :=
  serialize format [0x20, 0x20] [] value

/-! ## Natural numbers -/

/-- The decimal digits of a number, at most `fuel` of them. -/
def decimalDigits : Nat → Nat → JsString
  | 0, _ => []
  | fuel + 1, n =>
    (if n < 10 then [] else decimalDigits fuel (n / 10)) ++ [(0x30 + n % 10).toUInt16]

theorem decimalDigits_ascii (fuel n : Nat) : Ascii (decimalDigits fuel n) := by
  induction fuel generalizing n with
  | zero => simp [decimalDigits, Ascii]
  | succ fuel ih =>
    intro u hu
    rw [decimalDigits, mem_append] at hu
    rcases hu with hu | hu
    · split at hu
      · cases hu
      · exact ih _ u hu
    · obtain rfl := mem_singleton.mp hu
      rw [UInt16.toNat_ofNat']
      omega

def decimal : NumberFormat Nat := ⟨fun n => decimalDigits (n + 1) n, fun n => decimalDigits_ascii _ n⟩

/-- Rational numbers by their numerators, which is right for the natural ones. -/
def wholeNumbers : NumberFormat Rat := ⟨fun q => decimal.format q.num.toNat, fun _ => decimal.ascii _⟩

/-! ## Lengths -/

theorem hexDigit_ascii (n : Nat) (h : n < 16) : (hexDigit n).toNat < 0x80 := by
  revert n
  decide

theorem unicodeEscape_ascii (u : UInt16) : Ascii (unicodeEscape u) := by
  have hu : u.toNat < 0x10000 := u.toNat_lt
  intro v hv
  simp only [unicodeEscape, mem_cons, not_mem_nil, or_false] at hv
  rcases hv with rfl | rfl | rfl | rfl | rfl | rfl
  · decide
  · decide
  · exact hexDigit_ascii _ (by omega)
  · exact hexDigit_ascii _ (Nat.mod_lt _ (by decide))
  · exact hexDigit_ascii _ (Nat.mod_lt _ (by decide))
  · exact hexDigit_ascii _ (Nat.mod_lt _ (by decide))

theorem startsLow_quoteUnit (u : UInt16) : startsLow (quoteUnit u) = false := by
  unfold quoteUnit
  repeat' split
  all_goals try rfl
  rename_i h
  rw [not_or, isSurrogate, Bool.or_eq_true, not_or] at h
  simpa [startsLow] using h.2.2

theorem startsLow_append {a b : JsString} (ha : startsLow a = false) (hb : startsLow b = false) :
    startsLow (a ++ b) = false := by
  cases a with
  | nil => exact hb
  | cons u a => exact ha

theorem not_low_of_high {u : UInt16} (h : isHighSurrogate u = true) : isLowSurrogate u = false := by
  simp only [isHighSurrogate, isLowSurrogate, Bool.and_eq_true, Bool.and_eq_false_iff,
    decide_eq_true_eq, decide_eq_false_iff_not] at h ⊢
  omega

theorem startsLow_quoteUnits (s : JsString) : startsLow (quoteUnits s) = false := by
  induction s using quoteUnits.induct with
  | case1 => rfl
  | case2 u => exact startsLow_quoteUnit u
  | case3 u v rest hpair ih =>
    rw [quoteUnits, if_pos hpair]
    exact not_low_of_high (Bool.and_eq_true_iff.mp hpair).1
  | case4 u v rest hpair ih =>
    rw [quoteUnits, if_neg hpair]
    exact startsLow_append (startsLow_quoteUnit u) ih

theorem byteLength_quote (s : JsString) : byteLength (quote s) = byteLength (quoteUnits s) + 2 := by
  rw [quote, byteLength_append _ _ (startsLow_append (startsLow_quoteUnits s) rfl),
    byteLength_append _ _ rfl]
  have h : byteLength [0x22] = 1 := by decide
  omega

/-- The bytes of items with a comma before each but the first. -/
def itemsBytes (first : Bool) : List JsString → Nat
  | [] => 0
  | s :: rest => (if first then 0 else 1) + byteLength s + itemsBytes false rest

theorem startsLow_joinWith {separator : JsString} {items : List JsString}
    (hs : startsLow separator = false) (hi : ∀ s ∈ items, startsLow s = false) :
    startsLow (joinWith separator items) = false := by
  induction items with
  | nil => rfl
  | cons s items ih =>
    cases items with
    | nil => exact hi s (by simp)
    | cons t rest =>
      refine startsLow_append (hi s (by simp)) (startsLow_append hs ?_)
      exact ih fun u hu => hi u (by simp [hu])

theorem byteLength_joinWith {items : List JsString} (hi : ∀ s ∈ items, startsLow s = false) :
    byteLength (joinWith [0x2c] items) = itemsBytes true items := by
  induction items with
  | nil => rfl
  | cons s items ih =>
    have hrest := ih fun u hu => hi u (by simp [hu])
    cases items with
    | nil => simp [joinWith, itemsBytes]
    | cons t rest =>
      have hlow : startsLow (joinWith [0x2c] (t :: rest)) = false :=
        startsLow_joinWith rfl fun u hu => hi u (by simp [hu])
      have hcomma : byteLength [0x2c] = 1 := by decide
      rw [joinWith, byteLength_append _ _ (startsLow_append rfl hlow), byteLength_append _ _ hlow,
        hrest]
      simp [itemsBytes]
      omega

theorem byteLength_bracket {opening closing : UInt16} {items : List JsString}
    (ho : opening.toNat < 0x80) (hc : closing.toNat < 0x80)
    (hi : ∀ s ∈ items, startsLow s = false) :
    byteLength (bracket opening closing [] [] items) = 2 + itemsBytes true items := by
  have hone : ∀ u : UInt16, u.toNat < 0x80 → byteLength [u] = 1 := fun u hu =>
    Ascii.byteLength (s := [u]) (by simpa [Ascii] using hu)
  have hclosing : startsLow [closing] = false := (not_surrogate_of_ascii hc).2
  unfold bracket
  cases items with
  | nil =>
    rw [if_pos isEmpty_nil, byteLength_append _ _ hclosing, hone _ ho, hone _ hc]
    rfl
  | cons s items =>
    have hlow : startsLow (joinWith [0x2c] (s :: items)) = false := startsLow_joinWith rfl hi
    rw [if_neg (by simp), if_pos isEmpty_nil, byteLength_append _ _ (startsLow_append hlow hclosing),
      byteLength_append _ _ hclosing, byteLength_joinWith hi, hone _ ho, hone _ hc]
    omega

section
variable {N : Type} (format : NumberFormat N)

theorem startsLow_bracket {opening closing : UInt16} {gap indent : JsString}
    {items : List JsString} (ho : opening.toNat < 0x80) :
    startsLow (bracket opening closing gap indent items) = false := by
  unfold bracket
  repeat' split
  all_goals exact (not_surrogate_of_ascii ho).2

theorem startsLow_serialize {gap indent : JsString} {value : JsValue N} {text : JsString}
    (h : serialize format gap indent value = some text) : startsLow text = false := by
  cases value <;> rw [serialize] at h <;> cases h
  · rfl
  · rename_i b
    cases b <;> rfl
  · exact (format.ascii _).startsLow
  · rfl
  · rfl
  · exact startsLow_bracket (by decide)
  · exact startsLow_bracket (by decide)

end

end PiDaemon.Lib
