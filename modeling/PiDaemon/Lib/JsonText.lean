import Mathlib.Algebra.Group.Nat.Defs
import PiDaemon.Lib.JsonParse

/-!
# JSON texts

* `clean_stringify`: a text without indentation is one line without lone surrogates, so that its
  bytes are read back as the text;
* `naturals`: natural numbers in their decimal digits, as numbers that are written and read.
-/

namespace PiDaemon.Lib

open List Nat

section
variable {N : Type} {numbers : NumberSyntax N}

/-! ## Texts -/

/-- A part of a text: no lone surrogate, and no control character. -/
structure Clean (t : JsString) : Prop where
  wellFormed : WellFormed t
  startsLow : startsLow t = false
  printable : ∀ u ∈ t, 0x20 ≤ u.toNat

theorem Clean.append {a b : JsString} (ha : Clean a) (hb : Clean b) : Clean (a ++ b) := by
  refine ⟨ha.wellFormed.append hb.wellFormed hb.startsLow, startsLow_append ha.startsLow hb.startsLow, fun u hu => ?_⟩
  rcases mem_append.mp hu with hu | hu
  · exact ha.printable u hu
  · exact hb.printable u hu

theorem clean_ascii {t : JsString} (h : Ascii t) (hprintable : ∀ u ∈ t, 0x20 ≤ u.toNat) : Clean t :=
  ⟨h.wellFormed, h.startsLow, hprintable⟩

theorem clean_nil : Clean [] := ⟨rfl, rfl, fun u hu => by cases hu⟩

theorem hexDigit_printable {n : Nat} (h : n < 16) : 0x20 ≤ (hexDigit n).toNat := by
  revert n
  decide

theorem clean_unicodeEscape (u : UInt16) : Clean (unicodeEscape u) := by
  have hu := u.toNat_lt
  refine clean_ascii (unicodeEscape_ascii u) fun v hv => ?_
  simp only [unicodeEscape, mem_cons, not_mem_nil, or_false] at hv
  rcases hv with rfl | rfl | rfl | rfl | rfl | rfl
  · decide
  · decide
  · exact hexDigit_printable (by omega)
  · exact hexDigit_printable (mod_lt _ (by decide))
  · exact hexDigit_printable (mod_lt _ (by decide))
  · exact hexDigit_printable (mod_lt _ (by decide))

theorem clean_quoteUnit (u : UInt16) : Clean (quoteUnit u) := by
  by_cases hshort : u = 0x08 ∨ u = 0x09 ∨ u = 0x0a ∨ u = 0x0c ∨ u = 0x0d ∨ u = 0x22 ∨ u = 0x5c
  · rcases hshort with rfl | rfl | rfl | rfl | rfl | rfl | rfl <;> exact clean_ascii (by decide) (by decide)
  simp only [not_or] at hshort
  obtain ⟨h1, h2, h3, h4, h5, hquote, hslash⟩ := hshort
  rw [quoteUnit, if_neg h1, if_neg h2, if_neg h3, if_neg h4, if_neg h5, if_neg hquote, if_neg hslash]
  split
  · exact clean_unicodeEscape u
  rename_i hplain
  rw [not_or, Bool.not_eq_true] at hplain
  refine ⟨?_, ?_, ?_⟩
  · simp [WellFormed, toWellFormed, wellFormedUnit, hplain.2]
  · exact (Bool.or_eq_false_iff.mp hplain.2).2
  · simpa using hplain.1

theorem clean_quoteUnits (s : JsString) : Clean (quoteUnits s) := by
  induction s using quoteUnits.induct with
  | case1 => exact clean_nil
  | case2 u => exact clean_quoteUnit u
  | case3 u v s hpair ih =>
    obtain ⟨hu, hv⟩ := Bool.and_eq_true_iff.mp hpair
    rw [quoteUnits, if_pos hpair]
    refine ⟨?_, not_low_of_high hu, fun w hw => ?_⟩
    · rw [WellFormed, toWellFormed, if_pos hpair, ih.wellFormed]
    simp only [isHighSurrogate, isLowSurrogate, Bool.and_eq_true, decide_eq_true_eq] at hu hv
    rcases mem_cons.mp hw with rfl | hw
    · omega
    rcases mem_cons.mp hw with rfl | hw
    · omega
    · exact ih.printable w hw
  | case4 u v s hpair ih =>
    rw [quoteUnits, if_neg hpair]
    exact (clean_quoteUnit u).append ih

theorem clean_quote (s : JsString) : Clean (quote s) :=
  (clean_ascii (by decide) (by decide)).append
    ((clean_quoteUnits s).append (clean_ascii (by decide) (by decide)))

theorem clean_joinWith {items : List JsString} (h : ∀ t ∈ items, Clean t) : Clean (joinWith [0x2c] items) := by
  induction items with
  | nil => exact clean_nil
  | cons t items ih =>
    rw [forall_mem_cons] at h
    cases items with
    | nil => exact h.1
    | cons t' items =>
      exact h.1.append ((clean_ascii (by decide) (by decide)).append (ih h.2))

theorem clean_bracket {opening closing : UInt16} {indent : JsString} (hopening : Clean [opening])
    (hclosing : Clean [closing]) {items : List JsString} (h : ∀ t ∈ items, Clean t) :
    Clean (bracket opening closing [] indent items) := by
  unfold bracket
  split
  · exact hopening.append hclosing
  · exact hopening.append ((clean_joinWith h).append hclosing)

theorem clean_nullText : Clean nullText := clean_ascii (by decide) (by decide)

theorem clean_number (n : N) : Clean (numbers.format n) := by
  refine clean_ascii (numbers.ascii n) fun u hu => ?_
  have hunit := all_eq_true.mp (isJsonNumber_units (numbers.number n)).2 u hu
  simp only [isNumberUnit, isJsonDigit, Bool.or_eq_true, Bool.and_eq_true, decide_eq_true_eq] at hunit
  rcases hunit with ((((hunit | rfl) | rfl) | rfl) | rfl) | rfl
  · omega
  all_goals decide

mutual

theorem clean_serialize (value : JsValue N) {indent t : JsString}
    (h : serialize numbers.toNumberFormat [] indent value = some t) : Clean t := by
  cases value with
  | undefined | function | symbol => rw [serialize] at h; cases h
  | null | nonFinite =>
    rw [serialize] at h
    cases h
    exact clean_nullText
  | boolean b =>
    rw [serialize] at h
    cases h
    cases b <;> exact clean_ascii (by decide) (by decide)
  | number n =>
    rw [serialize] at h
    cases h
    exact clean_number n
  | string s =>
    rw [serialize] at h
    cases h
    exact clean_quote s
  | array slots =>
    rw [serialize] at h
    cases h
    exact clean_bracket (clean_ascii (by decide) (by decide)) (clean_ascii (by decide) (by decide))
      (clean_serializeSlots slots _)
  | object members =>
    rw [serialize] at h
    cases h
    exact clean_bracket (clean_ascii (by decide) (by decide)) (clean_ascii (by decide) (by decide))
      (clean_serializeMembers members _)

theorem clean_serializeSlots (slots : JsSlots N) (indent : JsString) :
    ∀ t ∈ serializeSlots numbers.toNumberFormat [] indent slots, Clean t := by
  cases slots with
  | nil => simp [serializeSlots]
  | hole rest =>
    rw [serializeSlots, forall_mem_cons]
    exact ⟨clean_nullText, clean_serializeSlots rest indent⟩
  | cons value rest =>
    rw [serializeSlots, forall_mem_cons]
    refine ⟨?_, clean_serializeSlots rest indent⟩
    cases hvalue : serialize numbers.toNumberFormat [] indent value with
    | none => exact clean_nullText
    | some t => exact clean_serialize value hvalue

theorem clean_serializeMembers (members : JsMembers N) (indent : JsString) :
    ∀ t ∈ serializeMembers numbers.toNumberFormat [] indent members, Clean t := by
  cases members with
  | nil => simp [serializeMembers]
  | cons key value rest =>
    rw [serializeMembers]
    cases hvalue : serialize numbers.toNumberFormat [] indent value with
    | none => exact clean_serializeMembers rest indent
    | some t =>
      rw [forall_mem_cons]
      exact ⟨(clean_quote key).append
        ((clean_ascii (by decide) (by decide)).append (clean_serialize value hvalue)),
        clean_serializeMembers rest indent⟩

end

theorem clean_stringify {value : JsValue N} {t : JsString}
    (h : stringify numbers.toNumberFormat value = some t) : Clean t ∧ Begins t :=
  ⟨clean_serialize value h, begins_serialize h⟩

theorem head?_bracket (opening closing : UInt16) (gap indent : JsString) (items : List JsString) :
    (bracket opening closing gap indent items).head? = some opening := by
  unfold bracket
  repeat' split
  all_goals rfl

/-- A text begins with no byte order mark. -/
theorem head?_serialize {gap indent : JsString} {value : JsValue N} {t : JsString}
    (h : serialize numbers.toNumberFormat gap indent value = some t) : t.head? ≠ some 0xfeff := by
  cases value <;> rw [serialize] at h <;> cases h
  · decide
  · rename_i b
    cases b <;> decide
  · rename_i n
    cases hformat : numbers.format n with
    | nil => exact (Option.some_ne_none _).symm
    | cons u t =>
      have hu : u.toNat < 0x80 := numbers.ascii n u (by rw [hformat]; exact mem_cons_self)
      rw [List.head?_cons, ne_eq, Option.some.injEq]
      rintro rfl
      exact absurd hu (by decide)
  · decide
  · exact fun h => by simp [quote] at h
  · rw [head?_bracket]
    decide
  · rw [head?_bracket]
    decide

theorem jsonParse_utf8ToString {value : JsValue N} {t : JsString}
    (h : stringify numbers.toNumberFormat value = some t) :
    jsonParse numbers (utf8ToString (utf8Encode t)) = jsonValue numbers value := by
  rw [utf8ToString_utf8Encode, (clean_stringify h).1.wellFormed, jsonParse_stringify h]

end

/-! ## Natural numbers -/

theorem decimalDigits_digits {fuel n : Nat} (h : n < fuel) :
    decimalDigits fuel n ≠ [] ∧ (decimalDigits fuel n).all isJsonDigit = true ∧
      ((decimalDigits fuel n).length = 1 ∨ (decimalDigits fuel n).head? ≠ some 0x30) ∧
      (0 < n → (decimalDigits fuel n).head? ≠ some 0x30) := by
  induction fuel generalizing n with
  | zero => omega
  | succ fuel ih =>
    have hdigit : isJsonDigit (0x30 + n % 10).toUInt16 = true := by
      have hmod : n % 10 < 10 := mod_lt _ (by decide)
      revert hmod
      generalize n % 10 = d
      revert d
      decide
    rw [decimalDigits]
    by_cases hn : n < 10
    · rw [if_pos hn]
      refine ⟨cons_ne_nil _ _, by simpa using hdigit, .inl rfl, fun hpos => ?_⟩
      have hhead (d : Nat) (hd : d < 10) (hpos : 0 < d) : ((0x30 + d % 10).toUInt16 : UInt16) ≠ 0x30 := by
        revert d
        decide
      simpa using hhead n hn hpos
    · rw [if_neg hn]
      obtain ⟨hne, hall, -, hhead⟩ := ih (show n / 10 < fuel by omega)
      have hfirst : (decimalDigits fuel (n / 10) ++ [(0x30 + n % 10).toUInt16]).head? ≠ some 0x30 := by
        rw [List.head?_append_of_ne_nil _ hne]
        exact hhead (by omega)
      refine ⟨by simp, ?_, .inr hfirst, fun _ => hfirst⟩
      rw [all_append, hall, all_cons, hdigit]
      rfl

theorem isJsonNumber_decimal (n : Nat) : isJsonNumber (decimal.format n) = true := by
  obtain ⟨hne, hall, hzero, -⟩ := decimalDigits_digits (lt_succ_self n)
  change isJsonNumber (decimalDigits (n + 1) n) = true
  revert hne hall hzero
  generalize decimalDigits (n + 1) n = s
  intro hne hall hzero
  have htake : s.takeWhile isJsonDigit = s := takeWhile_eq_self_iff.mpr (all_eq_true.mp hall)
  have hdrop : s.dropWhile isJsonDigit = [] := dropWhile_eq_nil_iff.mpr (all_eq_true.mp hall)
  have hunsigned : isUnsignedJsonNumber s = true := by
    simp only [isUnsignedJsonNumber, htake, hdrop, isJsonFraction, Bool.and_true, Bool.and_eq_true,
      Bool.or_eq_true, decide_eq_true_eq, Bool.not_eq_true', isEmpty_eq_false_iff]
    exact ⟨hne, hzero⟩
  cases s with
  | nil => exact absurd rfl hne
  | cons u s =>
    have hu : isJsonDigit u = true := by
      rw [all_cons, Bool.and_eq_true] at hall
      exact hall.1
    rw [isJsonNumber, if_neg]
    · exact hunsigned
    · rintro rfl
      exact absurd hu (by decide)

/-- The value of digits. -/
def digitsValue (s : JsString) : Nat := s.foldl (fun n u => n * 10 + (u.toNat - 0x30)) 0

/-- Natural numbers, for texts that hold no others. -/
def naturals : NumberSyntax Nat where
  toNumberFormat := decimal
  number := isJsonNumber_decimal
  read s := if s.all isJsonDigit then some (digitsValue s) else none

theorem digitsValue_decimal (n : Nat) : digitsValue (decimal.format n) = n := by
  have hgeneral (fuel n : Nat) (h : n < fuel) : digitsValue (decimalDigits fuel n) = n := by
    induction fuel generalizing n with
    | zero => omega
    | succ fuel ih =>
      have hunit : ((0x30 + n % 10).toUInt16).toNat = 0x30 + n % 10 := by
        rw [UInt16.toNat_ofNat']
        omega
      rw [decimalDigits, digitsValue, foldl_append, foldl_cons, foldl_nil]
      by_cases hn : n < 10
      · rw [if_pos hn, foldl_nil]
        omega
      have hrest := ih (n / 10) (by omega)
      rw [digitsValue] at hrest
      rw [if_neg hn]
      omega
  exact hgeneral (n + 1) n (lt_succ_self n)

theorem readNumber_naturals (n : Nat) : readNumber naturals (naturals.format n) = .number n := by
  have hall : (decimal.format n).all isJsonDigit = true := (decimalDigits_digits (lt_succ_self n)).2.1
  have hread : naturals.read (decimal.format n) = some n := by
    change (if (decimal.format n).all isJsonDigit then some (digitsValue (decimal.format n)) else none) = some n
    rw [if_pos hall, digitsValue_decimal]
  rw [readNumber, show naturals.format n = decimal.format n from rfl, hread]

theorem length_decimal {n k : Nat} (hk : 0 < k) (h : n < 10 ^ k) : (decimal.format n).length ≤ k := by
  have hgeneral (fuel n k : Nat) (hk : 0 < k) (h : n < 10 ^ k) : (decimalDigits fuel n).length ≤ k := by
    induction fuel generalizing n k with
    | zero => exact Nat.zero_le k
    | succ fuel ih =>
      rw [decimalDigits, length_append]
      split
      · exact hk
      obtain ⟨k, rfl⟩ : ∃ m, k = m + 1 := ⟨k - 1, by omega⟩
      have hless : n / 10 < 10 ^ k := by
        omega
      have hpos : 0 < k := by
        refine Nat.pos_of_ne_zero fun hzero => ?_
        rw [hzero] at hless
        omega
      exact succ_le_succ (ih (n / 10) k hpos hless)
  exact hgeneral (n + 1) n k hk h

/-- Numbers of which the indexes are written in their decimal digits. -/
structure IndexSyntax (N : Type) extends NumberSyntax N where
  ofIndex : Nat → N
  /-- A safe integer that is not negative. -/
  toIndex : N → Option Nat
  format_ofIndex : ∀ n < 2 ^ 53, format (ofIndex n) = decimal.format n
  readNumber_format : ∀ n < 2 ^ 53, readNumber toNumberSyntax (decimal.format n) = .number (ofIndex n)
  toIndex_ofIndex : ∀ n < 2 ^ 53, toIndex (ofIndex n) = some n

def naturalIndexes : IndexSyntax Nat where
  toNumberSyntax := naturals
  ofIndex := id
  toIndex n := if n < 2 ^ 53 then some n else none
  format_ofIndex _ _ := rfl
  readNumber_format n _ := readNumber_naturals n
  toIndex_ofIndex _ h := if_pos h

/-! ## Plain texts -/

/-- A unit that is written as itself. -/
def isPlainUnit (u : UInt16) : Bool :=
  0x20 ≤ u.toNat && u.toNat < 0x80 && u ≠ 0x22 && u ≠ 0x5c

theorem quoteUnits_plain {s : JsString} (h : ∀ u ∈ s, isPlainUnit u = true) : quoteUnits s = s := by
  have hunit (u : UInt16) (hu : isPlainUnit u = true) : quoteUnit u = [u] := by
    simp only [isPlainUnit, Bool.and_eq_true, decide_eq_true_eq, ne_eq] at hu
    obtain ⟨⟨⟨hlow, hascii⟩, hquote⟩, hslash⟩ := hu
    have hsurrogate := not_surrogate_of_ascii hascii
    have hcontrol (v : UInt16) (hv : v.toNat < 0x20) : u ≠ v := by
      rintro rfl
      omega
    rw [quoteUnit, if_neg (hcontrol 0x08 (by decide)), if_neg (hcontrol 0x09 (by decide)),
      if_neg (hcontrol 0x0a (by decide)), if_neg (hcontrol 0x0c (by decide)), if_neg (hcontrol 0x0d (by decide)),
      if_neg hquote, if_neg hslash, if_neg]
    rw [not_or, isSurrogate, hsurrogate.1, hsurrogate.2]
    exact ⟨Nat.not_lt.mpr hlow, Bool.false_ne_true⟩
  induction s using quoteUnits.induct with
  | case1 => rfl
  | case2 u => exact hunit u (h u mem_cons_self)
  | case3 u v rest hpair ih =>
    have hu := h u mem_cons_self
    simp only [isPlainUnit, Bool.and_eq_true, decide_eq_true_eq] at hu
    rw [(not_surrogate_of_ascii hu.1.1.2).1] at hpair
    cases hpair
  | case4 u v rest hpair ih =>
    rw [quoteUnits, if_neg hpair, hunit u (h u mem_cons_self), ih fun w hw => h w (mem_cons_of_mem u hw)]
    rfl

end PiDaemon.Lib
