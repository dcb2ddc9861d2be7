import PiDaemon.Lib.Json

/-!
# The bounded line encoder

`encodeBoundedLine` measures a record structurally, with a budget that shrinks on
the way down, before it serializes it.

* `prepareJsonValue_spec`: the measure is the number of bytes of the
  serialization, and the prepared value has the same serialization;
* `encodeBoundedLine_exact`: a line is encoded exactly when it fits, and it is
  the serialization followed by LF.
-/

namespace PiDaemon.Protocol

open Lib

/-- `Number.MAX_SAFE_INTEGER` -/
def MAX_SAFE_INTEGER : Nat := 9007199254740991

inductive EncodeError where
  /-- `maxBytes must be a positive safe integer` -/
  | invalidMaxBytes
  /-- `outbound_record_too_large`, with the details. -/
  | recordTooLarge (maxBytes : Nat) (recordBytes : Option Nat)
  /-- `outbound_not_serializable` -/
  | notSerializable (message : String)
  deriving DecidableEq

/-! ## The measure -/

def boundedCount (value : JsString) (budget : Nat) : Except EncodeError Nat :=
  let bytes := byteLength value
  if bytes > budget then .error (.recordTooLarge (budget + 1) (some (bytes + 1))) else .ok bytes

def boundedAdd (current addition budget : Nat) : Except EncodeError Nat :=
  let total := current + addition
  if total > MAX_SAFE_INTEGER ∨ total > budget then
    .error (.recordTooLarge (budget + 1)
      (if total ≤ MAX_SAFE_INTEGER then some (total + 1) else none))
  else .ok total

/-- The addition for a code unit that does not begin a surrogate pair. -/
def unitAddition (code : UInt16) : Nat :=
  if code = 0x22 ∨ code = 0x5c ∨ code ∈ [0x08, 0x09, 0x0a, 0x0c, 0x0d] then 2
  else if code.toNat ≤ 0x1f then 6
  else if code.toNat ≤ 0x7f then 1
  else if code.toNat ≤ 0x7ff then 2
  else if isHighSurrogate code then 6
  else if isLowSurrogate code then 6
  else 3

/-- The loop of `measureJsonStringBytes`. -/
def measureUnits (budget bytes : Nat) : JsString → Except EncodeError Nat
  | [] => .ok bytes
  | [u] => boundedAdd bytes (unitAddition u) budget
  | u :: v :: rest =>
    if isHighSurrogate u && isLowSurrogate v then do
      let bytes ← boundedAdd bytes 4 budget
      measureUnits budget bytes rest
    else do
      let bytes ← boundedAdd bytes (unitAddition u) budget
      measureUnits budget bytes (v :: rest)

def measureJsonStringBytes (value : JsString) (budget : Nat) : Except EncodeError Nat := do
  let bytes ← boundedAdd 0 2 budget
  measureUnits budget bytes value

section
variable {N : Type}

/-- `["undefined", "function", "symbol"].includes(typeof value)` -/
def isOmitted : JsValue N → Bool
  | .undefined => true
  | .function => true
  | .symbol => true
  | _ => false

/-- `toJSON` -/
def toJsonKey : JsString := [0x74, 0x6f, 0x4a, 0x53, 0x4f, 0x4e]

/-- The object has a method `toJSON`. -/
def customToJson : JsMembers N → Bool
  | .nil => false
  | .cons key .function rest => key = toJsonKey || customToJson rest
  | .cons _ _ rest => customToJson rest

/-- `if (emitted > 0) bytes = boundedAdd(bytes, 1, budget)` -/
def addComma (first : Bool) (bytes budget : Nat) : Except EncodeError Nat :=
  if first then .ok bytes else boundedAdd bytes 1 budget

variable (format : NumberFormat N)

mutual

def prepareJsonValue (budget : Nat) : JsValue N → Except EncodeError (Nat × JsValue N)
  | .string s => do
    let bytes ← measureJsonStringBytes s budget
    .ok (bytes, .string s)
  | .number n => do
    let bytes ← boundedCount (format.format n) budget
    .ok (bytes, .number n)
  | .nonFinite => do
    let bytes ← boundedCount nullText budget
    .ok (bytes, .nonFinite)
  | .boolean b => do
    let bytes ← boundedCount (booleanText b) budget
    .ok (bytes, .boolean b)
  | .null => do
    let bytes ← boundedCount nullText budget
    .ok (bytes, .null)
  | .array slots => do
    let bytes ← boundedAdd 0 2 budget
    let prepared ← prepareSlots budget true bytes slots
    .ok (prepared.1, .array prepared.2)
  | .object members =>
    if customToJson members then
      .error (.notSerializable "outbound record contains custom JSON serialization")
    else do
      let bytes ← boundedAdd 0 2 budget
      let prepared ← prepareMembers budget true bytes members
      .ok (prepared.1, .object prepared.2)
  | .undefined => .error (.notSerializable "outbound record has no JSON representation")
  | .function => .error (.notSerializable "outbound record has no JSON representation")
  | .symbol => .error (.notSerializable "outbound record has no JSON representation")

def prepareSlots (budget : Nat) (first : Bool) (bytes : Nat) :
    JsSlots N → Except EncodeError (Nat × JsSlots N)
  | .nil => .ok (bytes, .nil)
  | .hole rest => do
    let bytes ← addComma first bytes budget
    let bytes ← boundedAdd bytes 4 budget
    let normalized ← prepareSlots budget false bytes rest
    .ok (normalized.1, .cons .null normalized.2)
  | .cons value rest => do
    let bytes ← addComma first bytes budget
    if isOmitted value then
      let bytes ← boundedAdd bytes 4 budget
      let normalized ← prepareSlots budget false bytes rest
      .ok (normalized.1, .cons .null normalized.2)
    else
      let prepared ← prepareJsonValue (budget - bytes) value
      let bytes ← boundedAdd bytes prepared.1 budget
      let normalized ← prepareSlots budget false bytes rest
      .ok (normalized.1, .cons prepared.2 normalized.2)

def prepareMembers (budget : Nat) (first : Bool) (bytes : Nat) :
    JsMembers N → Except EncodeError (Nat × JsMembers N)
  | .nil => .ok (bytes, .nil)
  | .cons key child rest =>
    if isOmitted child then prepareMembers budget first bytes rest
    else do
      let bytes ← addComma first bytes budget
      let keyBytes ← measureJsonStringBytes key (budget - bytes)
      let bytes ← boundedAdd bytes keyBytes budget
      let bytes ← boundedAdd bytes 1 budget
      let prepared ← prepareJsonValue (budget - bytes) child
      let bytes ← boundedAdd bytes prepared.1 budget
      let normalized ← prepareMembers budget false bytes rest
      .ok (normalized.1, .cons key prepared.2 normalized.2)

end

def encodeBoundedLine (value : JsValue N) (maxBytes : Nat) : Except EncodeError (List UInt8) :=
  if ¬ (1 ≤ maxBytes ∧ maxBytes ≤ MAX_SAFE_INTEGER) then .error .invalidMaxBytes
  else do
    let prepared ← prepareJsonValue format (maxBytes - 1) value
    let recordBytes := prepared.1 + 1
    if recordBytes > maxBytes then .error (.recordTooLarge maxBytes (some recordBytes))
    else
      match stringify format prepared.2 with
      | none => .error (.notSerializable "outbound record has no JSON representation")
      | some encoded =>
        let actualBytes := byteLength encoded + 1
        -- the guard against a drift of the estimate
        if actualBytes > maxBytes ∨ actualBytes ≠ recordBytes then
          .error (.recordTooLarge maxBytes (some actualBytes))
        else .ok (utf8Encode (encoded ++ [0x0a]))

end

/-! ## The measure is exact -/

/-- A measurement against a budget: it gives the total when this fits, and fails when it
does not. -/
def Adds (r : Except EncodeError Nat) (total budget : Nat) : Prop :=
  (total ≤ budget ∧ r = .ok total) ∨ (budget < total ∧ ∃ e, r = .error e)

/-- The same for a measurement that also gives a value. -/
def Prepares {α : Type} (r : Except EncodeError (Nat × α)) (total budget : Nat) (good : α → Prop) :
    Prop :=
  (total ≤ budget ∧ ∃ a, r = .ok (total, a) ∧ good a) ∨ (budget < total ∧ ∃ e, r = .error e)

variable {r : Except EncodeError Nat}

theorem Adds.bind {f : Nat → Except EncodeError Nat} {first total budget : Nat} (hr : Adds r first budget)
    (hf : first ≤ budget → Adds (f first) total budget) (hle : first ≤ total) : Adds (r >>= f) total budget := by
  rcases hr with ⟨hfit, rfl⟩ | ⟨_, e, rfl⟩
  · exact hf hfit
  · exact Or.inr ⟨by omega, e, rfl⟩

theorem Adds.prepares {α : Type} {f : Nat → Except EncodeError (Nat × α)} {first total budget : Nat} {good : α → Prop}
    (hr : Adds r first budget) (hf : first ≤ budget → Prepares (f first) total budget good) (hle : first ≤ total) :
    Prepares (r >>= f) total budget good := by
  rcases hr with ⟨hfit, rfl⟩ | ⟨_, e, rfl⟩
  · exact hf hfit
  · exact Or.inr ⟨by omega, e, rfl⟩

/-- A part measured with the rest of the budget. -/
theorem Adds.part {α : Type} {f : Nat → Except EncodeError (Nat × α)} {bytes part total budget : Nat}
    {good : α → Prop} (hb : bytes ≤ budget) (hr : Adds r part (budget - bytes))
    (hf : bytes + part ≤ budget → Prepares (f part) total budget good) (hle : bytes + part ≤ total) :
    Prepares (r >>= f) total budget good := by
  rcases hr with ⟨_, rfl⟩ | ⟨_, e, rfl⟩
  · exact hf (by omega)
  · exact Or.inr ⟨by omega, e, rfl⟩

/-- A part with a value, measured with the rest of the budget. -/
theorem Prepares.bind {α β : Type} {r : Except EncodeError (Nat × α)}
    {f : Nat × α → Except EncodeError (Nat × β)} {bytes part total budget : Nat}
    {goodPart : α → Prop} {good : β → Prop} (hb : bytes ≤ budget)
    (hr : Prepares r part (budget - bytes) goodPart)
    (hf : ∀ a, goodPart a → bytes + part ≤ budget → Prepares (f (part, a)) total budget good)
    (hle : bytes + part ≤ total) : Prepares (r >>= f) total budget good := by
  rcases hr with ⟨_, a, rfl, ha⟩ | ⟨_, e, rfl⟩
  · exact hf a ha (by omega)
  · exact Or.inr ⟨by omega, e, rfl⟩

theorem Prepares.map {α β : Type} {r : Except EncodeError (Nat × α)} {total budget : Nat}
    {good : α → Prop} {good' : β → Prop} (g : α → β) (hr : Prepares r total budget good)
    (hg : ∀ a, good a → good' (g a)) :
    Prepares (r >>= fun p => .ok (p.1, g p.2)) total budget good' := by
  rcases hr with ⟨hfit, a, rfl, ha⟩ | ⟨hover, e, rfl⟩
  · exact Or.inl ⟨hfit, g a, rfl, hg a ha⟩
  · exact Or.inr ⟨hover, e, rfl⟩

theorem boundedAdd_adds {current addition budget : Nat} (hsafe : budget ≤ MAX_SAFE_INTEGER) :
    Adds (boundedAdd current addition budget) (current + addition) budget := by
  by_cases h : current + addition ≤ budget
  · exact Or.inl ⟨h, if_neg (by omega)⟩
  · exact Or.inr ⟨by omega, _, if_pos (by omega)⟩

theorem boundedCount_adds (value : JsString) (budget : Nat) :
    Adds (boundedCount value budget) (byteLength value) budget := by
  by_cases h : byteLength value ≤ budget
  · exact Or.inl ⟨h, if_neg (by omega)⟩
  · exact Or.inr ⟨by omega, _, if_pos (by omega)⟩

theorem addComma_adds {first : Bool} {bytes budget : Nat} (hsafe : budget ≤ MAX_SAFE_INTEGER)
    (hb : bytes ≤ budget) :
    Adds (addComma first bytes budget) (bytes + if first then 0 else 1) budget := by
  cases first with
  | true => exact Or.inl ⟨hb, rfl⟩
  | false => exact boundedAdd_adds hsafe

theorem surrogate_bounds {u : UInt16} (h : isSurrogate u = true) :
    0xd800 ≤ u.toNat ∧ (isHighSurrogate u = true ∨ isLowSurrogate u = true) := by
  rw [isSurrogate, Bool.or_eq_true] at h
  refine ⟨?_, h⟩
  rcases h with h | h
  · simp only [isHighSurrogate, Bool.and_eq_true, decide_eq_true_eq] at h
    exact h.1
  · simp only [isLowSurrogate, Bool.and_eq_true, decide_eq_true_eq] at h
    omega

theorem unitAddition_escape {u : UInt16}
    (hu : ¬ (u = 0x22 ∨ u = 0x5c ∨ u ∈ [0x08, 0x09, 0x0a, 0x0c, 0x0d]))
    (h : u.toNat < 0x20 ∨ isSurrogate u = true) : unitAddition u = 6 := by
  unfold unitAddition
  rw [if_neg hu]
  rcases h with h | h
  · rw [if_pos (by omega)]
  obtain ⟨_, hkind⟩ := surrogate_bounds h
  rw [if_neg (by omega), if_neg (by omega), if_neg (by omega)]
  rcases hkind with hk | hk
  · rw [if_pos hk]
  · rw [if_pos hk, ite_self]

theorem unitAddition_plain {u : UInt16}
    (hu : ¬ (u = 0x22 ∨ u = 0x5c ∨ u ∈ [0x08, 0x09, 0x0a, 0x0c, 0x0d]))
    (h : ¬ (u.toNat < 0x20 ∨ isSurrogate u = true)) :
    unitAddition u = codePointBytes u.toNat := by
  have hlt : u.toNat < 0x10000 := u.toNat_lt
  rw [not_or, isSurrogate, Bool.or_eq_true, not_or] at h
  unfold unitAddition codePointBytes
  rw [if_neg hu, if_neg (by omega), if_neg h.2.1, if_neg h.2.2, if_pos hlt]
  by_cases h1 : u.toNat < 0x80
  · rw [if_pos (by omega), if_pos h1]
  rw [if_neg (by omega), if_neg h1]
  by_cases h2 : u.toNat < 0x800
  · rw [if_pos (by omega), if_pos h2]
  · rw [if_neg (by omega), if_neg h2]

theorem byteLength_quoteUnit (u : UInt16) : byteLength (quoteUnit u) = unitAddition u := by
  by_cases hshort : u = 0x22 ∨ u = 0x5c ∨ u ∈ [0x08, 0x09, 0x0a, 0x0c, 0x0d]
  · simp only [List.mem_cons, List.not_mem_nil, or_false] at hshort
    rcases hshort with rfl | rfl | rfl | rfl | rfl | rfl | rfl <;> decide
  have hall := hshort
  simp only [List.mem_cons, List.not_mem_nil, or_false, not_or] at hall
  obtain ⟨h1, h2, h3, h4, h5, h6, h7⟩ := hall
  unfold quoteUnit
  rw [if_neg h3, if_neg h4, if_neg h5, if_neg h6, if_neg h7, if_neg h1, if_neg h2]
  split
  · rename_i h
    rw [(unicodeEscape_ascii u).byteLength, unitAddition_escape hshort h]
    rfl
  · rename_i h
    rw [unitAddition_plain hshort h, byteLength_unit, unitCodePoint, if_neg fun hs => h (Or.inr hs)]

theorem measureUnits_adds {budget : Nat} (hsafe : budget ≤ MAX_SAFE_INTEGER) (s : JsString)
    (bytes : Nat) (hb : bytes ≤ budget) :
    Adds (measureUnits budget bytes s) (bytes + byteLength (quoteUnits s)) budget := by
  induction s using quoteUnits.induct generalizing bytes with
  | case1 => exact Or.inl ⟨hb, rfl⟩
  | case2 u =>
    rw [quoteUnits, byteLength_quoteUnit]
    exact boundedAdd_adds hsafe
  | case3 u v rest hpair ih =>
    rw [measureUnits, if_pos hpair, quoteUnits, if_pos hpair, byteLength_pair _ hpair,
      ← Nat.add_assoc]
    exact (boundedAdd_adds hsafe).bind (ih _) (by omega)
  | case4 u v rest hpair ih =>
    rw [measureUnits, if_neg hpair, quoteUnits, if_neg hpair,
      byteLength_append _ _ (startsLow_quoteUnits _), byteLength_quoteUnit, ← Nat.add_assoc]
    exact (boundedAdd_adds hsafe).bind (ih _) (by omega)

theorem measureJsonStringBytes_adds {budget : Nat} (hsafe : budget ≤ MAX_SAFE_INTEGER)
    (s : JsString) : Adds (measureJsonStringBytes s budget) (byteLength (quote s)) budget := by
  rw [byteLength_quote, Nat.add_comm]
  exact (boundedAdd_adds hsafe).bind (measureUnits_adds hsafe s _) (by omega)

/-! ### Values -/

mutual

/-- No object in the value has a method `toJSON`. -/
def plain {N : Type} : JsValue N → Bool
  | .array slots => plainSlots slots
  | .object members => !customToJson members && plainMembers members
  | _ => true

def plainSlots {N : Type} : JsSlots N → Bool
  | .nil => true
  | .hole rest => plainSlots rest
  | .cons value rest => plain value && plainSlots rest

def plainMembers {N : Type} : JsMembers N → Bool
  | .nil => true
  | .cons _ value rest => plain value && plainMembers rest

end

section
variable {N : Type} (format : NumberFormat N)

variable {value : JsValue N}

theorem stringify_omitted (h : isOmitted value = true) : stringify format value = none := by
  cases value <;> first | rfl | cases h

theorem stringify_of_not_omitted (h : isOmitted value = false) : ∃ text, stringify format value = some text := by
  cases value <;> first | exact ⟨_, rfl⟩ | cases h

theorem serializeSlots_low : (slots : JsSlots N) →
    ∀ s ∈ serializeSlots format [] [] slots, startsLow s = false
  | .nil => by simp [serializeSlots]
  | .hole rest => by
    have hrest := serializeSlots_low rest
    intro s hs
    rw [serializeSlots, List.mem_cons] at hs
    rcases hs with rfl | hs
    · rfl
    · exact hrest s hs
  | .cons value rest => by
    have hrest := serializeSlots_low rest
    intro s hs
    rw [serializeSlots, List.mem_cons] at hs
    rcases hs with rfl | hs
    · cases ht : serialize format [] [] value with
      | none => rfl
      | some text => exact startsLow_serialize format ht
    · exact hrest s hs

theorem startsLow_member {key text : JsString} :
    startsLow (quote key ++ ([0x3a] ++ (if ([] : JsString).isEmpty then [] else [0x20]) ++ text)) =
      false := rfl

theorem serializeMembers_low : (members : JsMembers N) →
    ∀ s ∈ serializeMembers format [] [] members, startsLow s = false
  | .nil => by simp [serializeMembers]
  | .cons key value rest => by
    have hrest := serializeMembers_low rest
    intro s hs
    rw [serializeMembers] at hs
    cases ht : serialize format [] [] value with
    | none =>
      rw [ht] at hs
      exact hrest s hs
    | some text =>
      rw [ht] at hs
      rcases List.mem_cons.mp hs with rfl | hs
      · exact startsLow_member
      · exact hrest s hs

theorem byteLength_member {key text : JsString} (ht : startsLow text = false) :
    byteLength (quote key ++ ([0x3a] ++ (if ([] : JsString).isEmpty then [] else [0x20]) ++ text)) =
      byteLength (quote key) + 1 + byteLength text := by
  have hcolon : byteLength [0x3a] = 1 := by decide
  rw [if_pos List.isEmpty_nil, List.append_nil,
    byteLength_append _ _ (startsLow_append rfl ht), byteLength_append _ _ ht]
  omega

theorem byteLength_null : byteLength nullText = 4 := by decide

mutual

/-- The measure of a value is the length of its serialization, which its prepared value keeps. -/
theorem prepareJsonValue_spec (budget : Nat) (hsafe : budget ≤ MAX_SAFE_INTEGER) :
    (value : JsValue N) → plain value = true → (text : JsString) →
    stringify format value = some text →
    Prepares (prepareJsonValue format budget value) (byteLength text) budget
      fun prepared => stringify format prepared = some text
  | .undefined, _, _, ht => by cases ht
  | .function, _, _, ht => by cases ht
  | .symbol, _, _, ht => by cases ht
  | .null, _, _, ht => by
    cases ht
    exact (boundedCount_adds _ _).prepares (fun hb => Or.inl ⟨hb, _, rfl, rfl⟩) (Nat.le_refl _)
  | .boolean b, _, _, ht => by
    cases ht
    exact (boundedCount_adds _ _).prepares (fun hb => Or.inl ⟨hb, _, rfl, rfl⟩) (Nat.le_refl _)
  | .number n, _, _, ht => by
    cases ht
    exact (boundedCount_adds _ _).prepares (fun hb => Or.inl ⟨hb, _, rfl, rfl⟩) (Nat.le_refl _)
  | .nonFinite, _, _, ht => by
    cases ht
    exact (boundedCount_adds _ _).prepares (fun hb => Or.inl ⟨hb, _, rfl, rfl⟩) (Nat.le_refl _)
  | .string s, _, _, ht => by
    cases ht
    exact (measureJsonStringBytes_adds hsafe s).prepares (fun hb => Or.inl ⟨hb, _, rfl, rfl⟩) (Nat.le_refl _)
  | .array slots, hp, _, ht => by
    cases ht
    have hslots := prepareSlots_spec budget hsafe slots hp true 2
    rw [List.append_nil,
      byteLength_bracket (by decide) (by decide) (serializeSlots_low format slots)]
    refine (boundedAdd_adds hsafe).prepares (fun hb => ?_) (by omega)
    exact (hslots hb).map _ fun normalized hn => by
      rw [stringify, serialize, List.append_nil, hn]
  | .object members, hp, _, ht => by
    cases ht
    rw [plain, Bool.and_eq_true, Bool.not_eq_true'] at hp
    have hmembers := prepareMembers_spec budget hsafe members hp.2 true 2
    rw [List.append_nil,
      byteLength_bracket (by decide) (by decide) (serializeMembers_low format members),
      prepareJsonValue, if_neg (by rw [hp.1]; decide)]
    refine (boundedAdd_adds hsafe).prepares (fun hb => ?_) (by omega)
    exact (hmembers hb).map _ fun normalized hn => by
      rw [stringify, serialize, List.append_nil, hn]

theorem prepareSlots_spec (budget : Nat) (hsafe : budget ≤ MAX_SAFE_INTEGER) :
    (slots : JsSlots N) → plainSlots slots = true → (first : Bool) → (bytes : Nat) →
    bytes ≤ budget →
    Prepares (prepareSlots format budget first bytes slots)
      (bytes + itemsBytes first (serializeSlots format [] [] slots)) budget
      fun normalized => serializeSlots format [] [] normalized = serializeSlots format [] [] slots
  | .nil, _, _, _, hb => Or.inl ⟨hb, _, rfl, rfl⟩
  | .hole rest, hp, first, bytes, hb => by
    rw [prepareSlots, serializeSlots, itemsBytes, byteLength_null]
    refine (addComma_adds hsafe hb).prepares (fun _ => ?_) (by omega)
    refine (boundedAdd_adds hsafe).prepares (fun hb' => ?_) (by omega)
    have hrest := prepareSlots_spec budget hsafe rest hp false _ hb'
    rw [show bytes + ((if first then 0 else 1) + 4 +
        itemsBytes false (serializeSlots format [] [] rest)) =
      bytes + (if first then 0 else 1) + 4 + itemsBytes false (serializeSlots format [] [] rest)
      by omega]
    exact hrest.map _ fun normalized hn => by rw [serializeSlots, hn]; rfl
  | .cons value rest, hp, first, bytes, hb => by
    rw [plainSlots, Bool.and_eq_true] at hp
    rw [prepareSlots, serializeSlots, itemsBytes]
    refine (addComma_adds hsafe hb).prepares (fun hcomma => ?_) (by omega)
    cases hom : isOmitted value with
    | true =>
      have hnone : serialize format [] [] value = none := stringify_omitted format hom
      rw [if_pos rfl, hnone, Option.getD_none, byteLength_null]
      refine (boundedAdd_adds hsafe).prepares (fun hb' => ?_) (by omega)
      have hrest := prepareSlots_spec budget hsafe rest hp.2 false _ hb'
      rw [show bytes + ((if first then 0 else 1) + 4 +
          itemsBytes false (serializeSlots format [] [] rest)) =
        bytes + (if first then 0 else 1) + 4 + itemsBytes false (serializeSlots format [] [] rest)
        by omega]
      exact hrest.map _ fun normalized hn => by rw [serializeSlots, hn]; rfl
    | false =>
      obtain ⟨text, ht⟩ := stringify_of_not_omitted format hom
      have hserialize : serialize format [] [] value = some text := ht
      rw [if_neg (by simp), hserialize, Option.getD_some]
      have hvalue := prepareJsonValue_spec (budget - (bytes + if first then 0 else 1))
        (by omega) value hp.1 text ht
      refine hvalue.bind hcomma (fun prepared hprepared hfit => ?_) (by omega)
      refine (boundedAdd_adds hsafe).prepares (fun hb' => ?_) (by omega)
      have hrest := prepareSlots_spec budget hsafe rest hp.2 false _ hb'
      rw [show bytes + ((if first then 0 else 1) + byteLength text +
          itemsBytes false (serializeSlots format [] [] rest)) =
        bytes + (if first then 0 else 1) + byteLength text +
          itemsBytes false (serializeSlots format [] [] rest) by omega]
      exact hrest.map _ fun normalized hn => by
        have hsame : serialize format [] [] prepared = some text := hprepared
        rw [serializeSlots, hn, hsame]
        rfl

theorem prepareMembers_spec (budget : Nat) (hsafe : budget ≤ MAX_SAFE_INTEGER) :
    (members : JsMembers N) → plainMembers members = true → (first : Bool) → (bytes : Nat) →
    bytes ≤ budget →
    Prepares (prepareMembers format budget first bytes members)
      (bytes + itemsBytes first (serializeMembers format [] [] members)) budget
      fun normalized =>
        serializeMembers format [] [] normalized = serializeMembers format [] [] members
  | .nil, _, _, _, hb => Or.inl ⟨hb, _, rfl, rfl⟩
  | .cons key child rest, hp, first, bytes, hb => by
    rw [plainMembers, Bool.and_eq_true] at hp
    rw [prepareMembers, serializeMembers]
    cases hom : isOmitted child with
    | true =>
      have hnone : serialize format [] [] child = none := stringify_omitted format hom
      rw [if_pos rfl, hnone]
      exact prepareMembers_spec budget hsafe rest hp.2 first bytes hb
    | false =>
      obtain ⟨text, ht⟩ := stringify_of_not_omitted format hom
      have hserialize : serialize format [] [] child = some text := ht
      rw [if_neg (by simp), hserialize]
      simp only
      rw [itemsBytes, byteLength_member (startsLow_serialize format hserialize)]
      refine (addComma_adds hsafe hb).prepares (fun hcomma => ?_) (by omega)
      have hkey : Adds (measureJsonStringBytes key (budget - (bytes + if first then 0 else 1))) _ _ :=
        measureJsonStringBytes_adds (by omega) key
      refine hkey.part hcomma (fun _ => ?_) (by omega)
      refine (boundedAdd_adds hsafe).prepares (fun _ => ?_) (by omega)
      refine (boundedAdd_adds hsafe).prepares (fun hcolon => ?_) (by omega)
      have hvalue := prepareJsonValue_spec
        (budget - (bytes + (if first then 0 else 1) + byteLength (quote key) + 1))
        (by omega) child hp.1 text ht
      refine hvalue.bind hcolon (fun prepared hprepared hfit => ?_) (by omega)
      refine (boundedAdd_adds hsafe).prepares (fun hb' => ?_) (by omega)
      have hrest := prepareMembers_spec budget hsafe rest hp.2 false _ hb'
      rw [show bytes + ((if first then 0 else 1) + (byteLength (quote key) + 1 + byteLength text) +
          itemsBytes false (serializeMembers format [] [] rest)) =
        bytes + (if first then 0 else 1) + byteLength (quote key) + 1 + byteLength text +
          itemsBytes false (serializeMembers format [] [] rest) by omega]
      exact hrest.map _ fun normalized hn => by
        have hsame : serialize format [] [] prepared = some text := hprepared
        rw [serializeMembers, hn, hsame]

end

/-- The measure of the whole record is the length of what is serialized after it. -/
theorem measured_length {budget : Nat} {prepared : Nat × JsValue N} (hsafe : budget ≤ MAX_SAFE_INTEGER)
    (hp : plain value = true) (h : prepareJsonValue format budget value = .ok prepared) :
    ∃ text, stringify format value = some text ∧ stringify format prepared.2 = some text ∧
      prepared.1 = byteLength text ∧ byteLength text ≤ budget := by
  cases hom : isOmitted value with
  | true => cases value <;> first | cases h | cases hom
  | false =>
    obtain ⟨text, ht⟩ := stringify_of_not_omitted format hom
    rcases prepareJsonValue_spec format budget hsafe value hp text ht with
      ⟨hfit, a, hok, ha⟩ | ⟨-, e, he⟩
    · rw [h] at hok
      cases hok
      exact ⟨text, ht, ha, rfl, hfit⟩
    · rw [h] at he
      cases he

theorem byteLength_fits {budget : Nat} {text : JsString} (hsafe : budget ≤ MAX_SAFE_INTEGER) (hp : plain value = true)
    (ht : stringify format value = some text) (hfit : byteLength text ≤ budget) :
    ∃ prepared, prepareJsonValue format budget value = .ok (byteLength text, prepared) ∧
      stringify format prepared = some text := by
  rcases prepareJsonValue_spec format budget hsafe value hp text ht with ⟨-, a, hok, ha⟩ | ⟨_, -⟩
  · exact ⟨a, hok, ha⟩
  · omega

/-- A line is encoded exactly when the serialization and its LF fit, and then it is these; the
measure is always the length of what is serialized, so that the guard against a drift of the
estimate never fires. -/
theorem encodeBoundedLine_exact (value : JsValue N) (maxBytes : Nat) (hp : plain value = true)
    (hm : maxBytes ≤ MAX_SAFE_INTEGER) :
    (∀ line, encodeBoundedLine format value maxBytes = .ok line ↔
      ∃ text, stringify format value = some text ∧ byteLength text + 1 ≤ maxBytes ∧
        line = utf8Encode (text ++ [0x0a])) ∧
    ∀ prepared, prepareJsonValue format (maxBytes - 1) value = .ok prepared →
      ∃ text, stringify format prepared.2 = some text ∧ stringify format value = some text ∧
        prepared.1 = byteLength text ∧ prepared.1 ≤ maxBytes - 1 := by
  have hsafe : maxBytes - 1 ≤ MAX_SAFE_INTEGER := by omega
  refine ⟨fun line => ⟨fun h => ?_, ?_⟩, fun prepared h => ?_⟩
  · unfold encodeBoundedLine at h
    split at h
    · cases h
    rename_i hmax
    cases hprep : prepareJsonValue format (maxBytes - 1) value with
    | error e =>
      rw [hprep] at h
      cases h
    | ok prepared =>
      obtain ⟨text, ht, hsame, hbytes, hfit⟩ := measured_length format hsafe hp hprep
      rw [hprep] at h
      simp only [bind, Except.bind, hsame] at h
      rw [if_neg (by omega), if_neg (by omega)] at h
      cases h
      exact ⟨text, ht, by omega, rfl⟩
  · rintro ⟨text, ht, hfit, rfl⟩
    obtain ⟨prepared, hprep, hsame⟩ :=
      byteLength_fits format hsafe hp ht (show byteLength text ≤ maxBytes - 1 by omega)
    unfold encodeBoundedLine
    rw [if_neg (by omega), hprep]
    simp only [bind, Except.bind, hsame]
    rw [if_neg (by omega), if_neg (by omega)]
  · obtain ⟨text, ht, hsame, hbytes, hfit⟩ := measured_length format hsafe hp h
    exact ⟨text, hsame, ht, hbytes, hbytes ▸ hfit⟩

end

/-- The numbers of a record with a single one. -/
def zeroFormat : NumberFormat Unit := ⟨fun _ => [0x30], fun _ => by simp [Ascii]⟩

/-- A record with a surrogate pair, a lone surrogate and an omitted slot. -/
theorem encodeBoundedLine_exact_surrogates :
    encodeBoundedLine zeroFormat
        (.array (.cons (.string [0xd83d, 0xde00, 0xd83d]) (.cons .undefined (.hole .nil)))) 25 =
      .ok (utf8Encode ([0x5b, 0x22, 0xd83d, 0xde00, 0x5c, 0x75, 0x64, 0x38, 0x33, 0x64, 0x22, 0x2c,
        0x6e, 0x75, 0x6c, 0x6c, 0x2c, 0x6e, 0x75, 0x6c, 0x6c, 0x5d] ++ [0x0a])) :=
  ((encodeBoundedLine_exact zeroFormat _ 25 (by decide) (by decide)).1 _).mpr
    ⟨_, rfl, by decide, rfl⟩

end PiDaemon.Protocol
