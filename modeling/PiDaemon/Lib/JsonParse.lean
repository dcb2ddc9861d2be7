import Mathlib.Data.List.Forall2
import Mathlib.Data.List.TakeWhile
import PiDaemon.Lib.Json
import PiDaemon.Lib.TextDecoder

/-!
# JSON.parse

The reader of JSON texts, by descent: white space, literals, numbers, strings with their escapes,
arrays and objects.  A member that comes again replaces the one before.  The order of the members of
an object, which no access to a member sees, is the one of the text.  How a number is read is a
parameter; the fuel is twice the length of the text.

* `reads_serialize`: what was serialized is read back, whatever follows it;
* `jsonParse_stringify`: `JSON.parse(JSON.stringify(value))` is `jsonValue value`.
-/

namespace PiDaemon.Lib

open List Option

/-! ## Tokens -/

def isJsonSpace (u : UInt16) : Bool := u = 0x20 || u = 0x09 || u = 0x0a || u = 0x0d

/-- The next unit that is not white space, and what is after it. -/
def nextUnit (s : JsString) : Option (UInt16 × JsString) :=
  match s.dropWhile isJsonSpace with
  | [] => none
  | u :: rest => some (u, rest)

def isJsonDigit (u : UInt16) : Bool := 0x30 ≤ u.toNat && u.toNat ≤ 0x39

/-- `[0-9]+` -/
def isJsonDigits (s : JsString) : Bool := !s.isEmpty && s.all isJsonDigit

/-- `([eE][+-]?[0-9]+)?` -/
def isJsonExponent : JsString → Bool
  | [] => true
  | [_] => false
  | e :: u :: rest =>
    (e = 0x65 || e = 0x45) && (if u = 0x2b ∨ u = 0x2d then isJsonDigits rest else isJsonDigits (u :: rest))

/-- `(\.[0-9]+)?([eE][+-]?[0-9]+)?` -/
def isJsonFraction : JsString → Bool
  | [] => true
  | u :: rest =>
    if u = 0x2e then isJsonDigits (rest.takeWhile isJsonDigit) && isJsonExponent (rest.dropWhile isJsonDigit)
    else isJsonExponent (u :: rest)

/-- `(0|[1-9][0-9]*)(\.[0-9]+)?([eE][+-]?[0-9]+)?` -/
def isUnsignedJsonNumber (s : JsString) : Bool :=
  let integer := s.takeWhile isJsonDigit
  !integer.isEmpty && (integer.length = 1 || integer.head? ≠ some 0x30) && isJsonFraction (s.dropWhile isJsonDigit)

def isJsonNumber : JsString → Bool
  | [] => false
  | u :: rest => if u = 0x2d then isUnsignedJsonNumber rest else isUnsignedJsonNumber (u :: rest)

/-- A unit of a number. -/
def isNumberUnit (u : UInt16) : Bool :=
  isJsonDigit u || u = 0x2b || u = 0x2d || u = 0x2e || u = 0x45 || u = 0x65

/-- How numbers are written and read. -/
structure NumberSyntax (N : Type) extends NumberFormat N where
  number : ∀ n, isJsonNumber (format n) = true
  /-- `none` for what is not finite. -/
  read : JsString → Option N

/-! ## Strings -/

def escapedUnit (u : UInt16) : Option UInt16 :=
  if u = 0x22 ∨ u = 0x5c ∨ u = 0x2f then some u
  else if u = 0x62 then some 0x08
  else if u = 0x66 then some 0x0c
  else if u = 0x6e then some 0x0a
  else if u = 0x72 then some 0x0d
  else if u = 0x74 then some 0x09
  else none

def hexValue (u : UInt16) : Option Nat :=
  if 0x30 ≤ u.toNat ∧ u.toNat ≤ 0x39 then some (u.toNat - 0x30)
  else if 0x41 ≤ u.toNat ∧ u.toNat ≤ 0x46 then some (u.toNat - 0x41 + 10)
  else if 0x61 ≤ u.toNat ∧ u.toNat ≤ 0x66 then some (u.toNat - 0x61 + 10)
  else none

/-- The unit of four hexadecimal digits. -/
def hexUnit (a b c d : UInt16) : Option UInt16 := do
  let a ← hexValue a
  let b ← hexValue b
  let c ← hexValue c
  let d ← hexValue d
  return (a * 0x1000 + b * 0x100 + c * 0x10 + d).toUInt16

/-- The string up to the closing quote, and what is after it. -/
def readString : JsString → Option (JsString × JsString)
  | [] => none
  | u :: rest =>
    if u = 0x22 then some ([], rest)
    else if u = 0x5c then
      match rest with
      | 0x75 :: a :: b :: c :: d :: rest => do
        let unit ← hexUnit a b c d
        (readString rest).map fun (s, after) => (unit :: s, after)
      | e :: rest => do
        let unit ← escapedUnit e
        (readString rest).map fun (s, after) => (unit :: s, after)
      | [] => none
    else if u.toNat < 0x20 then none
    else (readString rest).map fun (s, after) => (u :: s, after)

/-! ## Values -/

section
variable {N : Type}

/-- The member is defined, or defined again. -/
def JsMembers.set (key : JsString) (value : JsValue N) : JsMembers N → JsMembers N
  | .nil => .cons key value .nil
  | .cons other old rest => if other = key then .cons key value rest else .cons other old (rest.set key value)

/-- A literal at the beginning of the text. -/
def readLiteral (literal : JsString) (value : JsValue N) (s : JsString) : Option (JsValue N × JsString) :=
  if literal.isPrefixOf s then some (value, s.drop literal.length) else none

variable (numbers : NumberSyntax N)

def readNumber (lexeme : JsString) : JsValue N :=
  match numbers.read lexeme with
  | some n => .number n
  | none => .nonFinite

/-- A value that is no string, array or object. -/
def readScalar (s : JsString) : Option (JsValue N × JsString) :=
  match s with
  | 0x74 :: _ => readLiteral (booleanText true) (.boolean true) s
  | 0x66 :: _ => readLiteral (booleanText false) (.boolean false) s
  | 0x6e :: _ => readLiteral nullText .null s
  | _ =>
    let lexeme := s.takeWhile isNumberUnit
    if isJsonNumber lexeme then some (readNumber numbers lexeme, s.dropWhile isNumberUnit) else none

mutual

/-- The value at the beginning of the text, and what is after it. -/
def parseValue : Nat → JsString → Option (JsValue N × JsString)
  | 0, _ => none
  | fuel + 1, s => do
    let (u, rest) ← nextUnit s
    if u = 0x22 then
      let (value, rest) ← readString rest
      return (.string value, rest)
    else if u = 0x5b then
      let (v, after) ← nextUnit rest
      if v = 0x5d then return (.array .nil, after)
      let (slots, rest) ← parseSlots fuel rest
      return (.array slots, rest)
    else if u = 0x7b then
      let (v, after) ← nextUnit rest
      if v = 0x7d then return (.object .nil, after)
      let (members, rest) ← parseMembers fuel .nil rest
      return (.object members, rest)
    else readScalar numbers (u :: rest)

/-- The slots up to the closing bracket. -/
def parseSlots : Nat → JsString → Option (JsSlots N × JsString)
  | 0, _ => none
  | fuel + 1, s => do
    let (value, rest) ← parseValue fuel s
    let (u, rest) ← nextUnit rest
    if u = 0x5d then return (.cons value .nil, rest)
    else if u = 0x2c then
      let (slots, rest) ← parseSlots fuel rest
      return (.cons value slots, rest)
    else none

/-- The members up to the closing brace, after some of them. -/
def parseMembers : Nat → JsMembers N → JsString → Option (JsMembers N × JsString)
  | 0, _, _ => none
  | fuel + 1, members, s => do
    let (q, rest) ← nextUnit s
    if q ≠ 0x22 then none
    else
      let (key, rest) ← readString rest
      let (c, rest) ← nextUnit rest
      if c ≠ 0x3a then none
      else
        let (value, rest) ← parseValue fuel rest
        let (u, rest) ← nextUnit rest
        if u = 0x7d then return (members.set key value, rest)
        else if u = 0x2c then parseMembers fuel (members.set key value) rest
        else none

end

/-- `JSON.parse(text)`; `none` for a `SyntaxError`. -/
def jsonParse (s : JsString) : Option (JsValue N) := do
  let (value, rest) ← parseValue numbers (2 * s.length) s
  if rest.all isJsonSpace then some value else none

/-! ## What is left of a value -/

mutual

/-- What a value is in its text: `none` when it has no text. -/
def jsonValue : JsValue N → Option (JsValue N)
  | .undefined => none
  | .function => none
  | .symbol => none
  | .null => some .null
  | .boolean b => some (.boolean b)
  | .number n => some (readNumber numbers (numbers.format n))
  | .nonFinite => some .null
  | .string s => some (.string s)
  | .array slots => some (.array (jsonSlots slots))
  | .object members => some (.object (jsonMembers .nil members))

def jsonSlots : JsSlots N → JsSlots N
  | .nil => .nil
  | .hole rest => .cons .null (jsonSlots rest)
  | .cons value rest => .cons ((jsonValue value).getD .null) (jsonSlots rest)

/-- The members, defined one after the other. -/
def jsonMembers (defined : JsMembers N) : JsMembers N → JsMembers N
  | .nil => defined
  | .cons key value rest =>
    match jsonValue value with
    | none => jsonMembers defined rest
    | some value => jsonMembers (defined.set key value) rest

end

end

/-! ## Reading strings -/

theorem hexValue_hexDigit {n : Nat} (h : n < 16) : hexValue (hexDigit n) = some n := by
  revert n
  decide

theorem hexUnit_digits (u : UInt16) :
    hexUnit (hexDigit (u.toNat / 0x1000)) (hexDigit (u.toNat / 0x100 % 0x10)) (hexDigit (u.toNat / 0x10 % 0x10))
      (hexDigit (u.toNat % 0x10)) = some u := by
  have hu := u.toNat_lt
  have hsum : u.toNat / 0x1000 * 0x1000 + u.toNat / 0x100 % 0x10 * 0x100 + u.toNat / 0x10 % 0x10 * 0x10 +
      u.toNat % 0x10 = u.toNat := by omega
  rw [hexUnit, hexValue_hexDigit (by omega), hexValue_hexDigit (by omega), hexValue_hexDigit (by omega),
    hexValue_hexDigit (by omega)]
  simp only [bind_eq_bind, bind_some, Option.pure_def, hsum]
  simp

variable {s : JsString} {u : UInt16}

theorem readString_plain (hquote : u ≠ 0x22) (hslash : u ≠ 0x5c) (hcontrol : ¬ u.toNat < 0x20) (rest : JsString) :
    readString (u :: rest) = (readString rest).map fun (s, after) => (u :: s, after) := by
  rw [readString.eq_def]
  simp only
  rw [if_neg hquote, if_neg hslash, if_neg hcontrol]

theorem readString_quote (rest : JsString) : readString (0x22 :: rest) = some ([], rest) := by
  rw [readString.eq_def]
  rfl

theorem readString_unicodeEscape (u : UInt16) (rest : JsString) :
    readString (unicodeEscape u ++ rest) = (readString rest).map fun (s, after) => (u :: s, after) := by
  simp [unicodeEscape, readString, hexUnit_digits]

theorem readString_quoteUnit (u : UInt16) (rest : JsString) :
    readString (quoteUnit u ++ rest) = (readString rest).map fun (s, after) => (u :: s, after) := by
  by_cases hshort : u = 0x08 ∨ u = 0x09 ∨ u = 0x0a ∨ u = 0x0c ∨ u = 0x0d ∨ u = 0x22 ∨ u = 0x5c
  · rcases hshort with rfl | rfl | rfl | rfl | rfl | rfl | rfl <;> simp [quoteUnit, readString, escapedUnit]
  simp only [not_or] at hshort
  obtain ⟨h1, h2, h3, h4, h5, hquote, hslash⟩ := hshort
  rw [quoteUnit, if_neg h1, if_neg h2, if_neg h3, if_neg h4, if_neg h5, if_neg hquote, if_neg hslash]
  split
  · exact readString_unicodeEscape u rest
  · rename_i hplain
    exact readString_plain hquote hslash (fun h => hplain (.inl h)) rest

theorem readString_quoteUnits (s rest : JsString) :
    readString (quoteUnits s ++ 0x22 :: rest) = some (s, rest) := by
  induction s using quoteUnits.induct with
  | case1 => exact readString_quote rest
  | case2 => rw [quoteUnits, readString_quoteUnit, readString_quote]; rfl
  | case3 u v s hpair ih =>
    -- a surrogate is neither a quote nor a backslash
    have hplain (w : UInt16) (hw : 0xd800 ≤ w.toNat) (rest : JsString) :
        readString (w :: rest) = (readString rest).map fun (s, after) => (w :: s, after) :=
      readString_plain (by rintro rfl; simp at hw) (by rintro rfl; simp at hw) (by omega) rest
    simp only [isHighSurrogate, isLowSurrogate, Bool.and_eq_true, decide_eq_true_eq] at hpair
    rw [quoteUnits, if_pos (by simp [isHighSurrogate, isLowSurrogate, hpair]), cons_append, cons_append,
      hplain u (by omega), hplain v (by omega), ih]
    rfl
  | case4 u v s hpair ih =>
    rw [quoteUnits, if_neg hpair, append_assoc, readString_quoteUnit, ih]
    rfl

/-! ## Reading numbers -/

theorem isNumberUnit_digit (h : isJsonDigit u = true) : isNumberUnit u = true := by
  simp [isNumberUnit, h]

theorem all_takeWhile_digits (s : JsString) : (s.takeWhile isJsonDigit).all isNumberUnit = true := by
  rw [List.all_eq_true]
  intro u hu
  exact isNumberUnit_digit (mem_takeWhile_imp hu)

theorem isJsonDigits_units (h : isJsonDigits s = true) : s.all isNumberUnit = true := by
  rw [isJsonDigits, Bool.and_eq_true, List.all_eq_true] at h
  rw [List.all_eq_true]
  exact fun u hu => isNumberUnit_digit (h.2 u hu)

theorem isJsonExponent_units (h : isJsonExponent s = true) : s.all isNumberUnit = true := by
  match s with
  | [] => rfl
  | [_] => cases h
  | e :: u :: rest =>
    simp only [isJsonExponent, Bool.and_eq_true, Bool.or_eq_true, decide_eq_true_eq] at h
    obtain ⟨he, hrest⟩ := h
    have hletter : isNumberUnit e = true := by
      rcases he with rfl | rfl <;> decide
    split at hrest
    · rename_i hsign
      have hu : isNumberUnit u = true := by
        rcases hsign with rfl | rfl <;> decide
      simpa [hletter, hu] using isJsonDigits_units hrest
    · rw [all_cons, hletter]
      exact isJsonDigits_units hrest

theorem isJsonFraction_units (h : isJsonFraction s = true) : s.all isNumberUnit = true := by
  match s with
  | [] => rfl
  | u :: rest =>
    rw [isJsonFraction] at h
    split at h
    · rename_i hpoint
      subst hpoint
      rw [Bool.and_eq_true] at h
      rw [all_cons, ← takeWhile_append_dropWhile (p := isJsonDigit) (l := rest), all_append,
        all_takeWhile_digits, isJsonExponent_units h.2]
      decide
    · exact isJsonExponent_units h

theorem isUnsignedJsonNumber_units (h : isUnsignedJsonNumber s = true) : s.all isNumberUnit = true := by
  simp only [isUnsignedJsonNumber, Bool.and_eq_true] at h
  rw [← takeWhile_append_dropWhile (p := isJsonDigit) (l := s), all_append, all_takeWhile_digits,
    isJsonFraction_units h.2]
  rfl

theorem isJsonNumber_units (h : isJsonNumber s = true) : s ≠ [] ∧ s.all isNumberUnit = true := by
  match s with
  | [] => cases h
  | u :: rest =>
    refine ⟨cons_ne_nil _ _, ?_⟩
    rw [isJsonNumber] at h
    split at h
    · rename_i hsign
      subst hsign
      rw [all_cons, isUnsignedJsonNumber_units h]
      decide
    · exact isUnsignedJsonNumber_units h

/-! ## Reading values -/

def Spaces (s : JsString) : Prop := ∀ u ∈ s, isJsonSpace u = true

/-- No number goes on with the text. -/
def Stops (rest : JsString) : Prop := ∀ u ∈ rest.head?, isNumberUnit u = false

theorem nextUnit_spaces {pad : JsString} (h : Spaces pad) (s : JsString) : nextUnit (pad ++ s) = nextUnit s := by
  unfold nextUnit
  rw [dropWhile_append_of_pos h]

theorem nextUnit_cons (h : isJsonSpace u = false) (rest : JsString) : nextUnit (u :: rest) = some (u, rest) := by
  simp [nextUnit, h]

theorem not_number_of_space (h : isJsonSpace u = true) : isNumberUnit u = false := by
  simp only [isJsonSpace, Bool.or_eq_true, decide_eq_true_eq] at h
  rcases h with ((rfl | rfl) | rfl) | rfl <;> decide

theorem not_space_of_number (h : isNumberUnit u = true) : isJsonSpace u = false := by
  rw [← Bool.not_eq_true]
  intro hspace
  rw [not_number_of_space hspace] at h
  cases h

theorem stops_cons (hu : isNumberUnit u = false) (rest : JsString) : Stops (u :: rest) := by
  simpa [Stops] using hu

theorem stops_spaces {pad rest : JsString} (hpad : Spaces pad) (hu : isNumberUnit u = false) :
    Stops (pad ++ u :: rest) := by
  cases pad with
  | nil => simpa [Stops] using hu
  | cons v => simpa [Stops] using not_number_of_space (hpad v mem_cons_self)

section
variable {N : Type} {numbers : NumberSyntax N}

theorem parseValue_spaces {pad : JsString} (h : Spaces pad) (fuel : Nat) (s : JsString) :
    parseValue numbers fuel (pad ++ s) = parseValue numbers fuel s := by
  cases fuel with
  | zero => rfl
  | succ => rw [parseValue, parseValue, nextUnit_spaces h]

theorem readScalar_number {s rest : JsString} (h : isJsonNumber s = true) (hrest : Stops rest) :
    readScalar numbers (s ++ rest) = some (readNumber numbers s, rest) := by
  obtain ⟨hne, hunits⟩ := isJsonNumber_units h
  rw [List.all_eq_true] at hunits
  have hstop : rest.takeWhile isNumberUnit = [] ∧ rest.dropWhile isNumberUnit = rest := by
    cases rest with
    | nil => exact ⟨rfl, rfl⟩
    | cons u =>
      have hu := hrest u rfl
      simp [hu]
  have hlexeme : (s ++ rest).takeWhile isNumberUnit = s := by
    rw [takeWhile_append_of_pos hunits, hstop.1, append_nil]
  have hafter : (s ++ rest).dropWhile isNumberUnit = rest := by
    rw [dropWhile_append_of_pos hunits, hstop.2]
  cases s with
  | nil => exact absurd rfl hne
  | cons u =>
    have hu : isNumberUnit u = true := hunits u mem_cons_self
    unfold readScalar
    split
    · rename_i heq
      rw [(List.cons.inj heq).1] at hu
      exact absurd hu (by decide)
    · rename_i heq
      rw [(List.cons.inj heq).1] at hu
      exact absurd hu (by decide)
    · rename_i heq
      rw [(List.cons.inj heq).1] at hu
      exact absurd hu (by decide)
    · simp only [hlexeme, hafter, h, if_true]

/-- The text is read as the value, whatever follows it. -/
def Reads (numbers : NumberSyntax N) (t : JsString) (value : JsValue N) : Prop :=
  ∀ fuel rest, 2 * t.length ≤ fuel → Stops rest → parseValue numbers fuel (t ++ rest) = some (value, rest)

/-- The text begins a value. -/
def Begins (t : JsString) : Prop := ∃ u rest, t = u :: rest ∧ isJsonSpace u = false ∧ u ≠ 0x5d

variable {value : JsValue N} {t : JsString} {items : List JsString}

theorem reads_scalar {u : UInt16} (hspace : isJsonSpace u = false) (hopen : u ≠ 0x22 ∧ u ≠ 0x5b ∧ u ≠ 0x7b)
    (h : ∀ rest, Stops rest → readScalar numbers (u :: t ++ rest) = some (value, rest)) :
    Reads numbers (u :: t) value := by
  intro fuel rest hfuel hrest
  cases fuel with
  | zero => simp at hfuel
  | succ =>
    have hscalar := h rest hrest
    rw [cons_append] at hscalar ⊢
    rw [parseValue, nextUnit_cons hspace]
    simp only [bind_eq_bind, bind_some]
    rw [if_neg hopen.1, if_neg hopen.2.1, if_neg hopen.2.2]
    exact hscalar

theorem reads_null : Reads numbers nullText .null :=
  reads_scalar (by decide) (by decide) fun rest _ => by simp [nullText, readScalar, readLiteral]

theorem reads_boolean (b : Bool) : Reads numbers (booleanText b) (.boolean b) := by
  cases b with
  | true | false =>
    exact reads_scalar (by decide) (by decide) fun rest _ => by simp [booleanText, readScalar, readLiteral]

theorem reads_number (n : N) : Reads numbers (numbers.format n) (readNumber numbers (numbers.format n)) := by
  have hnumber := numbers.number n
  obtain ⟨hne, hunits⟩ := isJsonNumber_units hnumber
  cases hformat : numbers.format n with
  | nil => exact absurd hformat hne
  | cons u =>
    rw [hformat] at hnumber hunits
    rw [all_cons, Bool.and_eq_true] at hunits
    have hopen : u ≠ 0x22 ∧ u ≠ 0x5b ∧ u ≠ 0x7b := by
      refine ⟨?_, ?_, ?_⟩ <;> rintro rfl <;> exact absurd hunits.1 (by decide)
    exact reads_scalar (not_space_of_number hunits.1) hopen fun rest hrest => readScalar_number hnumber hrest

theorem reads_quote (s : JsString) : Reads numbers (quote s) (.string s) := by
  intro fuel rest hfuel _
  cases fuel with
  | zero => simp [quote] at hfuel
  | succ =>
    have htext : quote s ++ rest = 0x22 :: (quoteUnits s ++ 0x22 :: rest) := by simp [quote]
    rw [htext, parseValue, nextUnit_cons (by decide)]
    simp [readString_quoteUnits]

/-! ### Items -/

theorem parseSlots_items {values : List (JsValue N)}
    (h : List.Forall₂ (fun t value => Begins t ∧ Reads numbers t value) items values) (hne : items ≠ [])
    {pad padding : JsString} (hpad : Spaces pad) (hpadding : Spaces padding) {fuel : Nat}
    (hfuel : 2 * (joinWith (0x2c :: pad) items).length + 1 ≤ fuel) (rest : JsString) :
    parseSlots numbers fuel (pad ++ (joinWith (0x2c :: pad) items ++ (padding ++ 0x5d :: rest))) =
      some (jsSlots values, rest) := by
  induction h generalizing fuel with
  | nil => exact absurd rfl hne
  | @cons t value items values hitem hrest ih =>
    obtain ⟨fuel, rfl⟩ : ∃ k, fuel = k + 1 := ⟨fuel - 1, by omega⟩
    rw [parseSlots, parseValue_spaces hpad]
    cases hrest with
    | nil =>
      rw [joinWith] at hfuel ⊢
      rw [hitem.2 fuel _ (by omega) (stops_spaces hpadding (by decide))]
      simp [nextUnit_spaces hpadding, nextUnit_cons, isJsonSpace, jsSlots]
    | @cons t' value' items =>
      rw [joinWith] at hfuel ⊢
      simp only [length_append, length_cons] at hfuel
      have hstops : Stops (0x2c :: (pad ++ (joinWith (0x2c :: pad) (t' :: items) ++ (padding ++ 0x5d :: rest)))) :=
        stops_cons (by decide) _
      have hcomma : (0x2c : UInt16) ≠ 0x5d := by decide
      have hfits : 2 * (joinWith (0x2c :: pad) (t' :: items)).length + 1 ≤ fuel := by omega
      have htail := ih (cons_ne_nil _ _) hfits
      rw [append_assoc, append_assoc, cons_append, hitem.2 fuel _ (by omega) hstops]
      simp only [bind_eq_bind, bind_some]
      rw [nextUnit_cons (by decide), bind_some]
      rw [htail]
      rfl

/-- The text of a member. -/
def IsMember (numbers : NumberSyntax N) (spacing t : JsString) (entry : JsString × JsValue N) : Prop :=
  ∃ value, t = quote entry.1 ++ ([0x3a] ++ spacing ++ value) ∧ Reads numbers value entry.2

theorem parseMembers_member {spacing t : JsString} (hspacing : Spaces spacing) {entry : JsString × JsValue N}
    (h : IsMember numbers spacing t entry) {pad : JsString} (hpad : Spaces pad) {fuel : Nat}
    (hfuel : 2 * t.length ≤ fuel) {rest : JsString} (hrest : Stops rest) (members : JsMembers N) :
    parseMembers numbers (fuel + 1) members (pad ++ (t ++ rest)) =
      (nextUnit rest).bind fun (u, rest) =>
        if u = 0x7d then some (members.set entry.1 entry.2, rest)
        else if u = 0x2c then parseMembers numbers fuel (members.set entry.1 entry.2) rest
        else none := by
  obtain ⟨value, rfl, hvalue⟩ := h
  have hlength : 2 * value.length ≤ fuel := by
    simp only [quote, length_append, length_cons] at hfuel
    omega
  have htext : quote entry.1 ++ ([0x3a] ++ spacing ++ value) ++ rest =
      0x22 :: (quoteUnits entry.1 ++ 0x22 :: (0x3a :: (spacing ++ (value ++ rest)))) := by
    simp [quote]
  rw [parseMembers, nextUnit_spaces hpad, htext, nextUnit_cons (by decide)]
  simp only [bind_eq_bind, bind_some, ne_eq, not_true, if_false, readString_quoteUnits,
    nextUnit_cons (show isJsonSpace 0x3a = false by decide), parseValue_spaces hspacing, hvalue fuel rest hlength hrest]
  rfl

theorem parseMembers_items {spacing : JsString} (hspacing : Spaces spacing) {entries : List (JsString × JsValue N)}
    (h : List.Forall₂ (IsMember numbers spacing) items entries) (hne : items ≠ []) {pad padding : JsString}
    (hpad : Spaces pad) (hpadding : Spaces padding) {fuel : Nat}
    (hfuel : 2 * (joinWith (0x2c :: pad) items).length + 1 ≤ fuel) (members : JsMembers N) (rest : JsString) :
    parseMembers numbers fuel members (pad ++ (joinWith (0x2c :: pad) items ++ (padding ++ 0x7d :: rest))) =
      some (entries.foldl (fun members entry => members.set entry.1 entry.2) members, rest) := by
  induction h generalizing fuel members with
  | nil => exact absurd rfl hne
  | @cons t entry items entries hitem hrest ih =>
    obtain ⟨fuel, rfl⟩ : ∃ k, fuel = k + 1 := ⟨fuel - 1, by omega⟩
    cases hrest with
    | nil =>
      rw [joinWith] at hfuel ⊢
      rw [parseMembers_member hspacing hitem hpad (by omega) (stops_spaces hpadding (by decide)),
        nextUnit_spaces hpadding]
      rfl
    | @cons t' entry' items =>
      rw [joinWith] at hfuel ⊢
      simp only [length_append, length_cons] at hfuel
      have hstops : Stops (0x2c :: (pad ++ (joinWith (0x2c :: pad) (t' :: items) ++ (padding ++ 0x7d :: rest)))) :=
        stops_cons (by decide) _
      have hcomma : (0x2c : UInt16) ≠ 0x7d := by decide
      have hfits : 2 * (joinWith (0x2c :: pad) (t' :: items)).length + 1 ≤ fuel := by omega
      have htail := ih (cons_ne_nil _ _) hfits (members.set entry.1 entry.2)
      rw [append_assoc, append_assoc, cons_append,
        parseMembers_member hspacing hitem hpad (by omega) hstops, nextUnit_cons (by decide), bind_some]
      dsimp only
      rw [htail]
      rfl

/-! ### Arrays and objects -/

theorem Spaces.append {a b : JsString} (ha : Spaces a) (hb : Spaces b) : Spaces (a ++ b) := by
  intro u hu
  rcases mem_append.mp hu with hu | hu
  · exact ha u hu
  · exact hb u hu

/-- The brackets of an array or an object with items. -/
theorem bracket_eq (opening closing : UInt16) {gap indent : JsString} (hgap : Spaces gap) (hindent : Spaces indent)
    (hne : items ≠ []) :
    ∃ pad padding, Spaces pad ∧ Spaces padding ∧ bracket opening closing gap indent items =
      opening :: (pad ++ (joinWith (0x2c :: pad) items ++ (padding ++ [closing]))) := by
  have hitems : items.isEmpty = false := by simpa using hne
  have hnil : Spaces [] := fun u hu => by cases hu
  have hline : Spaces [0x0a] := fun u hu => by
    rw [mem_singleton.mp hu]
    decide
  unfold bracket
  rw [hitems, if_neg Bool.false_ne_true]
  split
  · exact ⟨[], [], hnil, hnil, by simp⟩
  · exact ⟨[0x0a] ++ indent ++ gap, [0x0a] ++ indent, (hline.append hindent).append hgap, hline.append hindent,
      by simp⟩

theorem begins_head {u : UInt16} (hspace : isJsonSpace u = false) (hu : u ≠ 0x5d) (rest : JsString) :
    Begins (u :: rest) := ⟨u, rest, rfl, hspace, hu⟩

theorem begins_bracket {opening closing : UInt16} (hspace : isJsonSpace opening = false) (hu : opening ≠ 0x5d)
    (gap indent : JsString) (items : List JsString) : Begins (bracket opening closing gap indent items) := by
  unfold bracket
  repeat' split
  all_goals exact begins_head hspace hu _

theorem begins_serialize {gap indent : JsString} (h : serialize numbers.toNumberFormat gap indent value = some t) :
    Begins t := by
  cases value <;> rw [serialize] at h <;> cases h
  · exact begins_head (by decide) (by decide) _
  · rename_i b
    cases b <;> exact begins_head (by decide) (by decide) _
  · rename_i n
    obtain ⟨hne, hunits⟩ := isJsonNumber_units (numbers.number n)
    cases hformat : numbers.format n with
    | nil => exact absurd hformat hne
    | cons u t =>
      rw [hformat, all_cons, Bool.and_eq_true] at hunits
      refine begins_head (not_space_of_number hunits.1) ?_ t
      rintro rfl
      exact absurd hunits.1 (by decide)
  · exact begins_head (by decide) (by decide) _
  · exact begins_head (by decide) (by decide) _
  · exact begins_bracket (by decide) (by decide) _ _ _
  · exact begins_bracket (by decide) (by decide) _ _ _

theorem reads_array {gap indent : JsString} (hgap : Spaces gap) (hindent : Spaces indent) {values : List (JsValue N)}
    (h : List.Forall₂ (fun t value => Begins t ∧ Reads numbers t value) items values) :
    Reads numbers (bracket 0x5b 0x5d gap indent items) (.array (jsSlots values)) := by
  intro fuel rest hfuel _
  by_cases hne : items = []
  · subst hne
    cases h
    cases fuel with
    | zero => simp [bracket] at hfuel
    | succ => simp [bracket, parseValue, nextUnit_cons, isJsonSpace, jsSlots]
  · obtain ⟨pad, padding, hpad, hpadding, hbracket⟩ := bracket_eq 0x5b 0x5d hgap hindent hne
    rw [hbracket] at hfuel ⊢
    simp only [length_cons, length_append] at hfuel
    obtain ⟨fuel, rfl⟩ : ∃ k, fuel = k + 1 := ⟨fuel - 1, by omega⟩
    have hfits : 2 * (joinWith (0x2c :: pad) items).length + 1 ≤ fuel := by omega
    have hslots := parseSlots_items h hne hpad hpadding hfits rest
    obtain ⟨v, after, hnext, hv⟩ : ∃ v after, nextUnit (pad ++ (joinWith (0x2c :: pad) items ++
        (padding ++ 0x5d :: rest))) = some (v, after) ∧ v ≠ 0x5d := by
      rw [nextUnit_spaces hpad]
      cases h with
      | nil => exact absurd rfl hne
      | @cons t value items values hitem =>
        obtain ⟨u, t, rfl, hspace, hu⟩ := hitem.1
        cases items with
        | nil | cons => exact ⟨u, _, nextUnit_cons hspace _, hu⟩
    have htext : 0x5b :: (pad ++ (joinWith (0x2c :: pad) items ++ (padding ++ [0x5d]))) ++ rest =
        0x5b :: (pad ++ (joinWith (0x2c :: pad) items ++ (padding ++ 0x5d :: rest))) := by simp
    rw [htext, parseValue, nextUnit_cons (by decide)]
    simp only [bind_eq_bind, bind_some, hnext, hslots]
    rw [if_neg hv]
    rfl

theorem reads_object {gap indent spacing : JsString} (hgap : Spaces gap) (hindent : Spaces indent)
    (hspacing : Spaces spacing) {entries : List (JsString × JsValue N)}
    (h : List.Forall₂ (IsMember numbers spacing) items entries) :
    Reads numbers (bracket 0x7b 0x7d gap indent items)
      (.object (entries.foldl (fun members entry => members.set entry.1 entry.2) .nil)) := by
  intro fuel rest hfuel _
  by_cases hne : items = []
  · subst hne
    cases h
    cases fuel with
    | zero => simp [bracket] at hfuel
    | succ => simp [bracket, parseValue, nextUnit_cons, isJsonSpace]
  · obtain ⟨pad, padding, hpad, hpadding, hbracket⟩ := bracket_eq 0x7b 0x7d hgap hindent hne
    rw [hbracket] at hfuel ⊢
    simp only [length_cons, length_append] at hfuel
    obtain ⟨fuel, rfl⟩ : ∃ k, fuel = k + 1 := ⟨fuel - 1, by omega⟩
    have hfits : 2 * (joinWith (0x2c :: pad) items).length + 1 ≤ fuel := by omega
    have hmembers := parseMembers_items hspacing h hne hpad hpadding hfits .nil rest
    obtain ⟨after, hnext⟩ : ∃ after, nextUnit (pad ++ (joinWith (0x2c :: pad) items ++
        (padding ++ 0x7d :: rest))) = some (0x22, after) := by
      rw [nextUnit_spaces hpad]
      cases h with
      | nil => exact absurd rfl hne
      | @cons t entry items entries hitem =>
        obtain ⟨_, rfl, -⟩ := hitem
        cases items with
        | nil | cons => exact ⟨_, nextUnit_cons (by decide) _⟩
    have htext : 0x7b :: (pad ++ (joinWith (0x2c :: pad) items ++ (padding ++ [0x7d]))) ++ rest =
        0x7b :: (pad ++ (joinWith (0x2c :: pad) items ++ (padding ++ 0x7d :: rest))) := by simp
    rw [htext, parseValue, nextUnit_cons (by decide)]
    simp only [bind_eq_bind, bind_some, hnext, hmembers]
    rfl

theorem jsonValue_none {gap indent : JsString} (h : serialize numbers.toNumberFormat gap indent value = none) :
    jsonValue numbers value = none := by
  cases value <;> rw [serialize] at h <;> cases h <;> rfl

section
variable {gap : JsString} (hgap : Spaces gap)
include hgap

mutual

theorem reads_serialize (value : JsValue N) {indent : JsString} (hindent : Spaces indent) {t : JsString}
    (h : serialize numbers.toNumberFormat gap indent value = some t) :
    ∃ read, jsonValue numbers value = some read ∧ Reads numbers t read := by
  cases value with
  | undefined | function | symbol => rw [serialize] at h; cases h
  | null | nonFinite =>
    rw [serialize] at h
    cases h
    exact ⟨.null, rfl, reads_null⟩
  | boolean b =>
    rw [serialize] at h
    cases h
    exact ⟨.boolean b, rfl, reads_boolean b⟩
  | number n =>
    rw [serialize] at h
    cases h
    exact ⟨_, rfl, reads_number n⟩
  | string s =>
    rw [serialize] at h
    cases h
    exact ⟨.string s, rfl, reads_quote s⟩
  | array slots =>
    rw [serialize] at h
    cases h
    obtain ⟨_, hvalues, hitems⟩ := reads_serializeSlots slots (hindent.append hgap)
    refine ⟨.array (jsonSlots numbers slots), rfl, ?_⟩
    rw [hvalues]
    exact reads_array hgap hindent hitems
  | object members =>
    rw [serialize] at h
    cases h
    obtain ⟨_, hentries, hitems⟩ := reads_serializeMembers members (hindent.append hgap)
    refine ⟨.object (jsonMembers numbers .nil members), rfl, ?_⟩
    rw [hentries]
    refine reads_object hgap hindent ?_ hitems
    intro u hu
    split at hu
    · cases hu
    · rw [mem_singleton.mp hu]
      decide

theorem reads_serializeSlots (slots : JsSlots N) {indent : JsString} (hindent : Spaces indent) :
    ∃ values, jsonSlots numbers slots = jsSlots values ∧
      List.Forall₂ (fun t value => Begins t ∧ Reads numbers t value)
        (serializeSlots numbers.toNumberFormat gap indent slots) values := by
  have hnull : Begins nullText := begins_head (by decide) (by decide) _
  cases slots with
  | nil => exact ⟨[], rfl, .nil⟩
  | hole rest =>
    obtain ⟨values, hvalues, hitems⟩ := reads_serializeSlots rest hindent
    refine ⟨.null :: values, ?_, ?_⟩
    · rw [jsonSlots, hvalues, jsSlots]
    · rw [serializeSlots]
      exact .cons ⟨hnull, reads_null⟩ hitems
  | cons value rest =>
    obtain ⟨values, hvalues, hitems⟩ := reads_serializeSlots rest hindent
    refine ⟨(jsonValue numbers value).getD .null :: values, ?_, ?_⟩
    · rw [jsonSlots, hvalues, jsSlots]
    rw [serializeSlots]
    refine .cons ?_ hitems
    cases hvalue : serialize numbers.toNumberFormat gap indent value with
    | none =>
      rw [jsonValue_none hvalue]
      exact ⟨hnull, reads_null⟩
    | some =>
      obtain ⟨_, hread, hreads⟩ := reads_serialize value hindent hvalue
      rw [hread]
      exact ⟨begins_serialize hvalue, hreads⟩

theorem reads_serializeMembers (members : JsMembers N) {indent : JsString} (hindent : Spaces indent) :
    ∃ entries : List (JsString × JsValue N),
      (∀ defined, jsonMembers numbers defined members =
        entries.foldl (fun members entry => members.set entry.1 entry.2) defined) ∧
      List.Forall₂ (IsMember numbers (if gap.isEmpty then [] else [0x20]))
        (serializeMembers numbers.toNumberFormat gap indent members) entries := by
  cases members with
  | nil => exact ⟨[], fun _ => rfl, .nil⟩
  | cons key value rest =>
    obtain ⟨entries, hentries, hitems⟩ := reads_serializeMembers rest hindent
    cases hvalue : serialize numbers.toNumberFormat gap indent value with
    | none =>
      refine ⟨entries, fun defined => ?_, ?_⟩
      · rw [jsonMembers, jsonValue_none hvalue]
        exact hentries defined
      · rw [serializeMembers, hvalue]
        exact hitems
    | some t =>
      obtain ⟨read, hread, hreads⟩ := reads_serialize value hindent hvalue
      refine ⟨(key, read) :: entries, fun defined => ?_, ?_⟩
      · rw [jsonMembers, hread]
        exact hentries _
      · rw [serializeMembers, hvalue]
        exact .cons ⟨t, rfl, hreads⟩ hitems

end

end

/-- **What was serialized is read back**, with or without indentation. -/
theorem jsonParse_serialize {gap : JsString} (hgap : Spaces gap)
    (h : serialize numbers.toNumberFormat gap [] value = some t) : jsonParse numbers t = jsonValue numbers value := by
  have hnil : Spaces [] := fun u hu => by cases hu
  obtain ⟨_, hread, hreads⟩ := reads_serialize hgap value hnil h
  have hparse := hreads (2 * t.length) [] (Nat.le_refl _) (fun u hu => by cases hu)
  rw [append_nil] at hparse
  rw [jsonParse, hparse, hread]
  rfl

theorem jsonParse_stringify (h : stringify numbers.toNumberFormat value = some t) :
    jsonParse numbers t = jsonValue numbers value :=
  jsonParse_serialize (fun u hu => by cases hu) h

end

end PiDaemon.Lib
