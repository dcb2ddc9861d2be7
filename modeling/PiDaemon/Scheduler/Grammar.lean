import Mathlib.Data.List.Forall2
import PiDaemon.Lib.Splitting
import PiDaemon.Scheduler.Cron

/-!
# The grammar of cron expressions

What an expression is and what it means, apart from the functions that read it.  An item is a
range of values in steps, a field a list of items, an expression five fields.

* `validateCronField_iff`: the validation of a field accepts the lists of items, where the
  endpoints of a range may be missing;
* `mem_parseCronField`: the parsed values are those of the items;
* `validateCronExpression_grammar`: what is accepted, and that it has values in every field.
-/

namespace PiDaemon.Scheduler

open Lib List

/-- The values from `first` to `last` in steps. -/
structure CronItem where
  first : Nat
  last : Nat
  step : Nat
  deriving DecidableEq

def CronItem.Has (item : CronItem) (value : Nat) : Prop :=
  ∃ k, value = item.first + k * item.step ∧ value ≤ item.last

/-! ## Texts -/

section
variable (Endpoint : JsString → Prop) (min max : Nat)

/-- `*`, `n` or `n-m`; `Endpoint` says which texts may stand beside a hyphen. -/
inductive CronBaseText : JsString → Nat → Nat → Prop
  | every : CronBaseText star min max
  | value {digits : JsString} {n : Nat} :
    digits ≠ [] → numberOf digits = some n → min ≤ n → n ≤ max → CronBaseText digits n n
  | range {low high : JsString} {first last : Nat} :
    Endpoint low → Endpoint high → numberOf low = some first → numberOf high = some last →
      min ≤ first → last ≤ max → first ≤ last → CronBaseText (low ++ 0x2d :: high) first last

inductive CronItemText : JsString → CronItem → Prop
  | plain {base : JsString} {first last : Nat} :
    CronBaseText Endpoint min max base first last → CronItemText base ⟨first, last, 1⟩
  | stepped {base digits : JsString} {first last step : Nat} :
    CronBaseText Endpoint min max base first last → digits ≠ [] → numberOf digits = some step →
      1 ≤ step → step ≤ max - min + 1 → CronItemText (base ++ 0x2f :: digits) ⟨first, last, step⟩

/-- A comma list. -/
inductive CronListText : JsString → List CronItem → Prop
  | last {text : JsString} {item : CronItem} :
    CronItemText Endpoint min max text item → CronListText text [item]
  | cons {text rest : JsString} {item : CronItem} {items : List CronItem} :
    CronItemText Endpoint min max text item → CronListText rest items →
      CronListText (text ++ 0x2c :: rest) (item :: items)

end

structure CronExpression where
  minute : List CronItem
  hour : List CronItem
  dayOfMonth : List CronItem
  month : List CronItem
  dayOfWeek : List CronItem
  /-- The fields of the days that begin with `*`. -/
  everyDayOfMonth : Bool
  everyDayOfWeek : Bool
  deriving DecidableEq

/-- Five fields with spaces between them. -/
inductive CronText (Endpoint : JsString → Prop) (value : JsString) : CronExpression → Prop
  | fields {minute hour dayOfMonth month dayOfWeek : JsString} {e : CronExpression} :
    Separated 0x20 (trim value) [minute, hour, dayOfMonth, month, dayOfWeek] →
      CronListText Endpoint 0 59 minute e.minute → CronListText Endpoint 0 23 hour e.hour →
      CronListText Endpoint 1 31 dayOfMonth e.dayOfMonth → CronListText Endpoint 1 12 month e.month →
      CronListText Endpoint 0 7 dayOfWeek e.dayOfWeek →
      e.everyDayOfMonth = decide (dayOfMonth.head? = some 0x2a) →
      e.everyDayOfWeek = decide (dayOfWeek.head? = some 0x2a) → CronText Endpoint value e

/-- Any text, also none. -/
def AnyEndpoint (_ : JsString) : Prop := True

def GivenEndpoint (endpoint : JsString) : Prop := endpoint ≠ []

/-! ## Units -/

theorem isDigit_of_numberOf {digits : JsString} {n : Nat} (h : numberOf digits = some n) :
    ∀ u ∈ digits, isDigit u = true := by
  unfold numberOf at h
  split at h
  · rename_i hall
    exact all_eq_true.mp hall
  · cases h

/-- The units of a base. -/
def isBaseUnit (u : UInt16) : Bool := isDigit u || u = 0x2a || u = 0x2d

theorem not_mem_of_numberOf {digits : JsString} {n : Nat} {u : UInt16} (h : numberOf digits = some n)
    (hu : isDigit u = false) : u ∉ digits := by
  intro hmem
  rw [isDigit_of_numberOf h u hmem] at hu
  cases hu

section
variable {Endpoint : JsString → Prop} {min max first last : Nat}

variable {base : JsString}

section
variable (h : CronBaseText Endpoint min max base first last)
include h

theorem CronBaseText.units :
    ∀ u ∈ base, isBaseUnit u = true := by
  have hdigit : ∀ u, isDigit u = true → isBaseUnit u = true := by
    intro u hu
    rw [isBaseUnit, hu]
    rfl
  cases h with
  | every => decide
  | value hne hdigits => exact fun u hu => hdigit u (isDigit_of_numberOf hdigits u hu)
  | range hlow hhigh hfirst hlast =>
    intro u hu
    rcases mem_append.mp hu with hu | hu
    · exact hdigit u (isDigit_of_numberOf hfirst u hu)
    rcases mem_cons.mp hu with rfl | hu
    · decide
    · exact hdigit u (isDigit_of_numberOf hlast u hu)

theorem CronBaseText.not_mem {u : UInt16}
    (hu : isBaseUnit u = false) : u ∉ base := by
  intro hmem
  rw [h.units u hmem] at hu
  cases hu

theorem CronBaseText.ne_nil : base ≠ [] := by
  cases h with
  | every => decide
  | value hne => exact hne
  | range => simp

theorem CronBaseText.bounds (hrange : min ≤ max) :
    min ≤ first ∧ last ≤ max ∧ first ≤ last := by
  cases h with
  | every => omega
  | value => omega
  | range => omega

end

end

/-! ## Bases and items -/

section
variable {min max : Nat}

theorem validCronBase_iff {base : JsString} (hne : base ≠ []) :
    validCronBase min max base = true ↔
      ∃ first last, CronBaseText AnyEndpoint min max base first last := by
  unfold validCronBase
  rw [Bool.or_eq_true, decide_eq_true_eq]
  constructor
  · rintro (rfl | hvalid)
    · exact ⟨min, max, .every⟩
    rcases splitOn_cases 0x2d base with ⟨hno, hsplit⟩ | ⟨low, rest, hlow, rfl, hsplit⟩
    · rw [hsplit] at hvalid
      cases hnumber : numberOf base with
      | none => simp [hnumber] at hvalid
      | some n =>
        simp [hnumber] at hvalid
        exact ⟨n, n, .value hne hnumber hvalid.1 hvalid.2⟩
    · rcases splitOn_cases 0x2d rest with ⟨hno, hrest⟩ | ⟨_, more, hhigh, rfl, hrest⟩
      · rw [hsplit, hrest] at hvalid
        cases hfirst : numberOf low with
        | none => simp [hfirst] at hvalid
        | some first =>
          cases hlast : numberOf rest with
          | none => simp [hfirst, hlast] at hvalid
          | some last =>
            simp [hfirst, hlast] at hvalid
            exact ⟨first, last, .range trivial trivial hfirst hlast hvalid.1.1 hvalid.1.2 hvalid.2⟩
      · rw [hsplit, hrest] at hvalid
        obtain ⟨_, _, hpieces⟩ := exists_cons_of_ne_nil (splitOn_ne_nil 0x2d more)
        simp [hpieces] at hvalid
  · rintro ⟨first, last, h⟩
    cases h with
    | every => exact .inl rfl
    | value hne hdigits hmin hmax =>
      right
      rw [splitOn_eq_singleton (not_mem_of_numberOf hdigits (by decide))]
      simp [hdigits, hmin, hmax]
    | range hlow hhigh hfirst hlast hmin hmax hle =>
      right
      rw [splitOn_append_cons_self_of_not_mem (not_mem_of_numberOf hfirst (by decide)),
        splitOn_eq_singleton (not_mem_of_numberOf hlast (by decide))]
      simp [hfirst, hlast, hmin, hmax, hle]

theorem validCronStep_iff {digits : JsString} :
    validCronStep min max digits = true ↔
      ∃ step, numberOf digits = some step ∧ 1 ≤ step ∧ step ≤ max - min + 1 := by
  unfold validCronStep
  cases numberOf digits with
  | none => simp
  | some step => simp

theorem validCronItem_iff {text : JsString} :
    validCronItem min max text = true ↔ ∃ item, CronItemText AnyEndpoint min max text item := by
  unfold validCronItem
  constructor
  · intro hvalid
    rcases splitOn_cases 0x2f text with ⟨hno, hsplit⟩ | ⟨_, rest, hbase, rfl, hsplit⟩
    · rw [hsplit] at hvalid
      simp only [Bool.and_eq_true, decide_eq_true_eq] at hvalid
      obtain ⟨first, last, h⟩ := (validCronBase_iff hvalid.1).mp hvalid.2
      exact ⟨_, .plain h⟩
    · rcases splitOn_cases 0x2f rest with ⟨hno, hrest⟩ | ⟨_, more, hhigh, rfl, hrest⟩
      · rw [hsplit, hrest] at hvalid
        simp only [Bool.and_eq_true, decide_eq_true_eq] at hvalid
        obtain ⟨⟨⟨hne, hdigits⟩, hstep⟩, hbase⟩ := hvalid
        obtain ⟨first, last, h⟩ := (validCronBase_iff hne).mp hbase
        obtain ⟨_, hnumber, hlow, hhigh⟩ := validCronStep_iff.mp hstep
        exact ⟨_, .stepped h hdigits hnumber hlow hhigh⟩
      · rw [hsplit, hrest] at hvalid
        obtain ⟨_, _, hpieces⟩ := exists_cons_of_ne_nil (splitOn_ne_nil 0x2f more)
        simp [hpieces] at hvalid
  · rintro ⟨item, h⟩
    cases h with
    | plain h =>
      rw [splitOn_eq_singleton (h.not_mem (by decide))]
      simp only [Bool.and_eq_true, decide_eq_true_eq]
      exact ⟨h.ne_nil, (validCronBase_iff h.ne_nil).mpr ⟨_, _, h⟩⟩
    | stepped h hne hdigits hlow hhigh =>
      rw [splitOn_append_cons_self_of_not_mem (h.not_mem (by decide)),
        splitOn_eq_singleton (not_mem_of_numberOf hdigits (by decide))]
      simp only [Bool.and_eq_true, decide_eq_true_eq]
      exact ⟨⟨⟨h.ne_nil, hne⟩, validCronStep_iff.mpr ⟨_, hdigits, hlow, hhigh⟩⟩,
        (validCronBase_iff h.ne_nil).mpr ⟨_, _, h⟩⟩

end

/-! ## Fields -/

section
variable {Endpoint : JsString → Prop} {min max : Nat}

theorem isCronUnit_of_base {u : UInt16} (h : isBaseUnit u = true) : isCronUnit u = true := by
  simp only [isBaseUnit, Bool.or_eq_true, decide_eq_true_eq] at h
  simp only [isCronUnit, Bool.or_eq_true, decide_eq_true_eq]
  rcases h with (h | h) | h
  · exact .inl (.inl (.inl (.inl h)))
  · exact .inl (.inl (.inl (.inr h)))
  · exact .inr h

theorem isCronUnit_of_digit {u : UInt16} (h : isDigit u = true) : isCronUnit u = true := by
  rw [isCronUnit, h]
  rfl

variable {field : JsString} {text : JsString} {items : List CronItem} {item : CronItem}

section
variable (h : CronItemText Endpoint min max text item)
include h

theorem CronItemText.units :
    ∀ u ∈ text, isCronUnit u = true ∧ u ≠ 0x2c := by
  have hbase : ∀ u, isBaseUnit u = true → isCronUnit u = true ∧ u ≠ 0x2c := by
    intro u hu
    refine ⟨isCronUnit_of_base hu, ?_⟩
    rintro rfl
    cases hu
  cases h with
  | plain h => exact fun u hu => hbase u (h.units u hu)
  | stepped h hne hdigits =>
    intro u hu
    rcases mem_append.mp hu with hu | hu
    · exact hbase u (h.units u hu)
    rcases mem_cons.mp hu with rfl | hu
    · decide
    have hdigit := isDigit_of_numberOf hdigits u hu
    refine ⟨isCronUnit_of_digit hdigit, ?_⟩
    rintro rfl
    cases hdigit

theorem CronItemText.ne_nil : text ≠ [] := by
  cases h with
  | plain h => exact h.ne_nil
  | stepped => simp

theorem CronItemText.not_comma :
    (0x2c : UInt16) ∉ text :=
  fun hmem => (h.units _ hmem).2 rfl

end

theorem CronListText.units (h : CronListText Endpoint min max field items) :
    ∀ u ∈ field, isCronUnit u = true := by
  induction h with
  | last h => exact fun u hu => (h.units u hu).1
  | cons h hrest ih =>
    intro u hu
    rcases mem_append.mp hu with hu | hu
    · exact (h.units u hu).1
    rcases mem_cons.mp hu with rfl | hu
    · decide
    · exact ih u hu

theorem CronListText.ne_nil (h : CronListText Endpoint min max field items) : field ≠ [] := by
  cases h with
  | last h => exact h.ne_nil
  | cons => simp

/-- The pieces between the commas are the items. -/
theorem cronListText_iff :
    CronListText Endpoint min max field items ↔
      List.Forall₂ (CronItemText Endpoint min max) (field.splitOn 0x2c) items := by
  constructor
  · intro h
    induction h with
    | last h =>
      rw [splitOn_eq_singleton h.not_comma]
      exact .cons h .nil
    | cons h hrest ih =>
      rw [splitOn_append_cons_self_of_not_mem h.not_comma]
      exact .cons h ih
  · intro h
    induction items generalizing field with
    | nil => exact absurd (forall₂_nil_right_iff.mp h) (splitOn_ne_nil _ _)
    | cons item items ih =>
      rcases splitOn_cases 0x2c field with ⟨_, hsplit⟩ | ⟨_, _, _, rfl, hsplit⟩
      · rw [hsplit] at h
        obtain ⟨hitem, hnil⟩ := forall₂_cons.mp h
        rw [forall₂_nil_left_iff.mp hnil]
        exact .last hitem
      · rw [hsplit] at h
        obtain ⟨hitem, hrest⟩ := forall₂_cons.mp h
        exact .cons hitem (ih hrest)

theorem exists_forall₂ {α β : Type} {R : α → β → Prop} {l : List α} :
    (∃ r, List.Forall₂ R l r) ↔ ∀ a ∈ l, ∃ b, R a b := by
  induction l with
  | nil => simp
  | cons a l ih =>
    constructor
    · rintro ⟨_, hr⟩
      cases hr with
      | cons hb hr => exact forall_mem_cons.mpr ⟨⟨_, hb⟩, ih.mp ⟨_, hr⟩⟩
    · intro h
      obtain ⟨⟨b, hb⟩, hl⟩ := forall_mem_cons.mp h
      obtain ⟨r, hr⟩ := ih.mpr hl
      exact ⟨b :: r, .cons hb hr⟩

theorem validateCronField_iff :
    validateCronField field min max = true ↔ ∃ items, CronListText AnyEndpoint min max field items := by
  simp only [cronListText_iff, exists_forall₂, ← validCronItem_iff]
  unfold validateCronField
  simp only [Bool.and_eq_true, decide_eq_true_eq, all_eq_true]
  constructor
  · exact fun h => h.2
  intro h
  have hitems : ∃ items, CronListText AnyEndpoint min max field items := by
    simp only [cronListText_iff, exists_forall₂, ← validCronItem_iff]
    exact h
  obtain ⟨items, hlist⟩ := hitems
  exact ⟨⟨hlist.ne_nil, hlist.units⟩, h⟩

/-! ## Parsed values -/

theorem mem_cronValues {first last step value : Nat} (hstep : 1 ≤ step) :
    value ∈ cronValues (some first) (some last) (some step) ↔ CronItem.Has ⟨first, last, step⟩ value := by
  unfold cronValues CronItem.Has
  simp only [mem_filter, mem_range, Bool.and_eq_true, decide_eq_true_eq]
  constructor
  · rintro ⟨hlast, _, hmod⟩
    obtain ⟨k, hk⟩ := Nat.dvd_of_mod_eq_zero hmod
    refine ⟨k, ?_, by omega⟩
    rw [Nat.mul_comm]
    omega
  · rintro ⟨k, rfl, hlast⟩
    refine ⟨by omega, by omega, ?_⟩
    rw [Nat.add_sub_cancel_left, Nat.mul_mod_left]

theorem CronBaseText.parse {base : JsString} {first last : Nat}
    (h : CronBaseText Endpoint min max base first last) (step : Option Nat) :
    (if base = star then cronValues (some min) (some max) step
      else if base.contains 0x2d then
        let endpoints := base.splitOn 0x2d
        cronValues ((endpoints[0]?).bind numberOf) ((endpoints[1]?).bind numberOf) step
      else cronValues (numberOf base) (numberOf base) step) =
      cronValues (some first) (some last) step := by
  have hstar : (0x2a : UInt16) ∈ star := by decide
  cases h with
  | every => rw [if_pos rfl]
  | value hne hdigits =>
    have hother : base ≠ star := by
      rintro rfl
      exact not_mem_of_numberOf hdigits (by decide) hstar
    have hplain : ¬ base.contains 0x2d = true := by
      rw [contains_iff_mem]
      exact not_mem_of_numberOf hdigits (by decide)
    rw [if_neg hother, if_neg hplain, hdigits]
  | @range low high first last hlow hhigh hfirst hlast =>
    have hother : low ++ 0x2d :: high ≠ star := by
      intro heq
      have hmem : (0x2d : UInt16) ∈ star := heq ▸ mem_append_right _ mem_cons_self
      exact absurd hmem (by decide)
    have hhyphen : (low ++ 0x2d :: high).contains 0x2d = true := by simp
    rw [if_neg hother, splitOn_append_cons_self_of_not_mem (not_mem_of_numberOf hfirst (by decide)),
      splitOn_eq_singleton (not_mem_of_numberOf hlast (by decide))]
    simp [hfirst, hlast]

theorem mem_parseCronItem (h : CronItemText Endpoint min max text item) (value : Nat) :
    value ∈ parseCronItem min max text ↔ item.Has value := by
  unfold parseCronItem
  cases h with
  | plain h =>
    rw [splitOn_eq_singleton (h.not_mem (by decide))]
    exact (iff_of_eq (congrArg (value ∈ ·) (h.parse (some 1)))).trans (mem_cronValues (by decide))
  | stepped h hne hdigits hlow =>
    rename_i base digits first last step hhigh
    rw [splitOn_append_cons_self_of_not_mem (h.not_mem (by decide)),
      splitOn_eq_singleton (not_mem_of_numberOf hdigits (by decide))]
    simp only [List.getElem?_cons_succ, List.getElem?_cons_zero, Option.elim_some, hdigits]
    exact (iff_of_eq (congrArg (value ∈ ·) (h.parse (some step)))).trans (mem_cronValues hlow)

theorem mem_parseCronField (h : CronListText Endpoint min max field items) (value : Nat) :
    value ∈ (parseCronField field min max).values ↔ ∃ item ∈ items, item.Has value := by
  have hlist := cronListText_iff.mp h
  simp only [parseCronField]
  generalize field.splitOn 0x2c = texts at hlist ⊢
  clear h
  induction hlist with
  | nil => simp
  | cons hitem hrest ih =>
    rw [flatMap_cons, mem_append, exists_mem_cons_iff]
    exact or_congr (mem_parseCronItem hitem value) ih

end

/-! ## Expressions -/

theorem splitSpaces_eq (value : JsString) :
    splitSpaces value = if (pieces 0x20 value).isEmpty then [[]] else pieces 0x20 value := rfl

variable {Endpoint : JsString → Prop} {value : JsString} {e : CronExpression}

theorem separated_trim (hpieces : pieces 0x20 (trim value) ≠ []) :
    Separated 0x20 (trim value) (pieces 0x20 (trim value)) := by
  refine separated_pieces ?_ ?_ ?_
  · intro hnil
    rw [hnil] at hpieces
    exact hpieces rfl
  · intro hhead
    exact absurd (head?_trim value _ hhead) (by decide)
  · intro hlast
    exact absurd (getLast?_trim value _ hlast) (by decide)

section
variable {Endpoint : JsString → Prop}

theorem CronListText.piece {min max : Nat} {field : JsString} {items : List CronItem}
    (h : CronListText Endpoint min max field items) : field ≠ [] ∧ (0x20 : UInt16) ∉ field := by
  refine ⟨h.ne_nil, fun hmem => ?_⟩
  have hunit := h.units _ hmem
  cases hunit

theorem CronText.split {value : JsString} {e : CronExpression} (h : CronText Endpoint value e) :
    ∃ minute hour dayOfMonth month dayOfWeek,
      splitSpaces (trim value) = [minute, hour, dayOfMonth, month, dayOfWeek] ∧
      Separated 0x20 (trim value) [minute, hour, dayOfMonth, month, dayOfWeek] ∧
      CronListText Endpoint 0 59 minute e.minute ∧ CronListText Endpoint 0 23 hour e.hour ∧
      CronListText Endpoint 1 31 dayOfMonth e.dayOfMonth ∧
      CronListText Endpoint 1 12 month e.month ∧ CronListText Endpoint 0 7 dayOfWeek e.dayOfWeek ∧
      e.everyDayOfMonth = decide (dayOfMonth.head? = some 0x2a) ∧
      e.everyDayOfWeek = decide (dayOfWeek.head? = some 0x2a) := by
  cases h with
  | @fields minute hour dayOfMonth month dayOfWeek _ hsep h0 h1 h2 h3 h4 hdom hdow =>
    have hpieces := hsep.pieces (by
      simp only [forall_mem_cons, not_mem_nil, false_implies, implies_true, and_true]
      exact ⟨h0.piece, h1.piece, h2.piece, h3.piece, h4.piece⟩)
    refine ⟨minute, hour, dayOfMonth, month, dayOfWeek, ?_, hsep, h0, h1, h2, h3, h4, hdom, hdow⟩
    rw [splitSpaces_eq, hpieces]
    rfl

theorem exists_cronText_iff {value : JsString} :
    (∃ e, CronText AnyEndpoint value e) ↔ (splitSpaces (trim value)).length = 5 ∧
      (((splitSpaces (trim value)).zip cronRanges).all fun entry =>
        validateCronField entry.1 entry.2.1 entry.2.2) = true := by
  constructor
  · rintro ⟨e, h⟩
    obtain ⟨minute, hour, dayOfMonth, month, dayOfWeek, hsplit, -, h0, h1, h2, h3, h4, -, -⟩ := h.split
    rw [hsplit]
    refine ⟨rfl, ?_⟩
    simp [cronRanges, validateCronField_iff.mpr ⟨_, h0⟩, validateCronField_iff.mpr ⟨_, h1⟩,
      validateCronField_iff.mpr ⟨_, h2⟩, validateCronField_iff.mpr ⟨_, h3⟩,
      validateCronField_iff.mpr ⟨_, h4⟩]
  · rintro ⟨hlength, hvalid⟩
    have hpieces : pieces 0x20 (trim value) ≠ [] := by
      intro hnil
      rw [splitSpaces_eq, hnil] at hlength
      cases hlength
    have hsplit : splitSpaces (trim value) = pieces 0x20 (trim value) := by
      rw [splitSpaces_eq, if_neg (by simpa using hpieces)]
    have hsep := separated_trim hpieces
    rw [← hsplit] at hsep
    obtain ⟨minute, hour, dayOfMonth, month, dayOfWeek, hfields⟩ : ∃ minute hour dayOfMonth month dayOfWeek,
        splitSpaces (trim value) = [minute, hour, dayOfMonth, month, dayOfWeek] := by
      generalize splitSpaces (trim value) = fields at hlength ⊢
      rcases fields with _ | ⟨a, _ | ⟨b, _ | ⟨c, _ | ⟨d, _ | ⟨e, _ | _⟩⟩⟩⟩⟩
      iterate 5 cases hlength
      · exact ⟨a, b, c, d, e, rfl⟩
      · cases hlength
    rw [hfields] at hvalid hsep
    simp only [cronRanges, zip_cons_cons, zip_nil_left, all_cons, all_nil,
      Bool.and_true, Bool.and_eq_true, validateCronField_iff] at hvalid
    obtain ⟨⟨m0, h0⟩, ⟨m1, h1⟩, ⟨m2, h2⟩, ⟨m3, h3⟩, ⟨m4, h4⟩⟩ := hvalid
    exact ⟨⟨m0, m1, m2, m3, m4, _, _⟩, .fields hsep h0 h1 h2 h3 h4 rfl rfl⟩

end

/-! ## Acceptance -/

/-- At most 256 units, and none that begins a line or is a tab. -/
def BoundedText (value : JsString) : Prop :=
  value.length ≤ 256 ∧ ∀ u ∈ value, ¬ (u = 0x0d ∨ u = 0x0a ∨ u = 0x09)

theorem length_separated {separator : UInt16} {texts : List JsString}
    (h : Separated separator value texts) (hne : ∀ text ∈ texts, text ≠ []) :
    2 * texts.length ≤ value.length + 1 := by
  induction h with
  | single =>
    have := length_pos_iff.mpr (hne _ mem_cons_self)
    simp only [length_cons, length_nil]
    omega
  | cons gap h ih =>
    have := length_pos_iff.mpr (hne _ mem_cons_self)
    have hrest := ih fun text htext => hne text (mem_cons_of_mem _ htext)
    simp only [length_append, length_replicate, length_cons]
    omega

theorem CronText.length (h : CronText Endpoint value e) : 9 ≤ value.length := by
  obtain ⟨_, _, _, _, _, -, hsep, h0, h1, h2, h3, h4, -, -⟩ := h.split
  have hlength := length_separated hsep (by
    simp only [forall_mem_cons, not_mem_nil, false_implies, implies_true, and_true]
    exact ⟨h0.ne_nil, h1.ne_nil, h2.ne_nil, h3.ne_nil, h4.ne_nil⟩)
  have htrim := length_trim_le value
  simp only [length_cons, length_nil] at hlength
  omega

theorem validateCronExpression_isSome :
    (validateCronExpression value).isSome = true ↔
      BoundedText value ∧ ∃ e, CronText AnyEndpoint value e := by
  have hclean : (value.any fun u => u = 0x0d || u = 0x0a || u = 0x09) = true ↔
      ∃ u ∈ value, u = 0x0d ∨ u = 0x0a ∨ u = 0x09 := by
    simp [or_assoc]
  constructor
  · intro h
    obtain ⟨_, hcron⟩ := Option.isSome_iff_exists.mp h
    obtain ⟨_, -, rfl, hlength, hfive, hvalid⟩ := validateCronExpression_some hcron
    refine ⟨⟨hlength, fun u hu hline => ?_⟩, exists_cronText_iff.mpr ⟨hfive, hvalid⟩⟩
    rw [validateCronExpression, if_pos (.inr (.inr (hclean.mpr ⟨u, hu, hline⟩)))] at h
    cases h
  · rintro ⟨⟨hlength, hlines⟩, h⟩
    have hlow := (h.choose_spec).length
    obtain ⟨hfive, hvalid⟩ := exists_cronText_iff.mp h
    unfold validateCronExpression
    rw [if_neg, if_neg (by simpa using hfive), if_pos hvalid]
    · rfl
    rintro (hshort | hlong | hline)
    · omega
    · omega
    · obtain ⟨u, hu, hu'⟩ := hclean.mp hline
      exact hlines u hu hu'

/-! ## Missing endpoints -/

/-- The part of an item before its step. -/
def itemBase (item : JsString) : JsString := (item.splitOn 0x2f).headD []

/-- A hyphen without an endpoint before it or after it. -/
def lacksEndpoint (item : JsString) : Bool :=
  (itemBase item).head? = some 0x2d || (itemBase item).getLast? = some 0x2d

/-- A range of some field lacks an endpoint. -/
def missesEndpoint (value : JsString) : Bool :=
  (splitSpaces (trim value)).any fun field => (field.splitOn 0x2c).any lacksEndpoint

section
variable {min max first last : Nat}

theorem isDigit_of_head {digits : JsString} {n : Nat} (h : numberOf digits = some n) :
    digits.head? ≠ some 0x2d := by
  intro hhead
  have hdigit := isDigit_of_numberOf h _ (List.mem_of_mem_head? hhead)
  cases hdigit

theorem isDigit_of_last {digits : JsString} {n : Nat} (h : numberOf digits = some n) :
    digits.getLast? ≠ some 0x2d := by
  intro hlast
  have hdigit := isDigit_of_numberOf h _ (List.mem_of_mem_getLast? hlast)
  cases hdigit

/-- The ends of a base are no hyphens exactly when its endpoints are given. -/
theorem CronBaseText.given_iff {base : JsString} (h : CronBaseText AnyEndpoint min max base first last) :
    (base.head? ≠ some 0x2d ∧ base.getLast? ≠ some 0x2d) ↔
      CronBaseText GivenEndpoint min max base first last := by
  constructor
  · rintro ⟨hhead, hlast⟩
    cases h with
    | every => exact .every
    | value hne hdigits hmin hmax => exact .value hne hdigits hmin hmax
    | @range low high _ _ _ _ hlow hhigh hmin hmax hle =>
      refine .range ?_ ?_ hlow hhigh hmin hmax hle
      · rintro rfl
        exact hhead rfl
      rintro rfl
      rw [List.getLast?_append] at hlast
      exact hlast rfl
  · intro h
    cases h with
    | every => decide
    | value hne hdigits => exact ⟨isDigit_of_head hdigits, isDigit_of_last hdigits⟩
    | @range low high _ _ hgiven hgiven' hlow hhigh =>
      have hlowNe : low ≠ [] := hgiven
      have hhighNe : high ≠ [] := hgiven'
      constructor
      · rw [List.head?_append, Option.or_of_isSome (by simpa using hlowNe)]
        exact isDigit_of_head hlow
      rw [List.getLast?_append, List.getLast?_cons_of_ne_nil hhighNe,
        Option.or_of_isSome (by simpa using hhighNe)]
      exact isDigit_of_last hhigh

theorem CronBaseText.any {base : JsString} (h : CronBaseText GivenEndpoint min max base first last) :
    CronBaseText AnyEndpoint min max base first last := by
  cases h with
  | every => exact .every
  | value hne hdigits hmin hmax => exact .value hne hdigits hmin hmax
  | range hlow hhigh hfirst hlast hmin hmax hle =>
    exact .range trivial trivial hfirst hlast hmin hmax hle

theorem CronItemText.base {text : JsString} {item : CronItem} {Endpoint : JsString → Prop}
    (h : CronItemText Endpoint min max text item) :
    CronBaseText Endpoint min max (itemBase text) item.first item.last := by
  cases h with
  | plain h =>
    rw [itemBase, splitOn_eq_singleton (h.not_mem (by decide))]
    exact h
  | stepped h =>
    rw [itemBase, splitOn_append_cons_self_of_not_mem (h.not_mem (by decide))]
    exact h

theorem CronItemText.given_iff {text : JsString} {item : CronItem}
    (h : CronItemText AnyEndpoint min max text item) :
    lacksEndpoint text = false ↔ CronItemText GivenEndpoint min max text item := by
  have hbase := h.base
  rw [lacksEndpoint, Bool.or_eq_false_iff, decide_eq_false_iff_not, decide_eq_false_iff_not,
    hbase.given_iff]
  constructor
  · intro hgiven
    cases h with
    | plain h =>
      rw [itemBase, splitOn_eq_singleton (h.not_mem (by decide))] at hgiven
      exact .plain hgiven
    | stepped h hne hdigits hlow hhigh =>
      rw [itemBase, splitOn_append_cons_self_of_not_mem (h.not_mem (by decide))] at hgiven
      exact .stepped hgiven hne hdigits hlow hhigh
  · exact CronItemText.base

theorem CronItemText.any {text : JsString} {item : CronItem}
    (h : CronItemText GivenEndpoint min max text item) : CronItemText AnyEndpoint min max text item := by
  cases h with
  | plain h => exact .plain h.any
  | stepped h hne hdigits hlow hhigh => exact .stepped h.any hne hdigits hlow hhigh

theorem CronListText.given_iff {field : JsString} {items : List CronItem}
    (h : CronListText AnyEndpoint min max field items) :
    (field.splitOn 0x2c).any lacksEndpoint = false ↔ CronListText GivenEndpoint min max field items := by
  rw [cronListText_iff] at h ⊢
  generalize field.splitOn 0x2c = texts at h ⊢
  induction h with
  | nil => exact iff_of_true rfl .nil
  | cons hitem hrest ih =>
    rw [any_cons, Bool.or_eq_false_iff, forall₂_cons, ih, hitem.given_iff]

theorem CronListText.any {field : JsString} {items : List CronItem}
    (h : CronListText GivenEndpoint min max field items) : CronListText AnyEndpoint min max field items :=
  cronListText_iff.mpr ((cronListText_iff.mp h).imp fun _ _ => CronItemText.any)

end

/-- An expression has all its endpoints exactly when no range of its text lacks one. -/
theorem CronText.given_iff (h : CronText AnyEndpoint value e) :
    missesEndpoint value = false ↔ CronText GivenEndpoint value e := by
  obtain ⟨_, _, _, _, _, hsplit, hsep, h0, h1, h2, h3, h4, hdom, hdow⟩ :=
    h.split
  rw [missesEndpoint, hsplit]
  simp only [any_cons, any_nil, Bool.or_false, Bool.or_eq_false_iff]
  rw [h0.given_iff, h1.given_iff, h2.given_iff, h3.given_iff, h4.given_iff]
  constructor
  · rintro ⟨g0, g1, g2, g3, g4⟩
    exact .fields hsep g0 g1 g2 g3 g4 hdom hdow
  intro hgiven
  obtain ⟨_, _, _, _, _, hsplit', -, g0, g1, g2, g3, g4, -, -⟩ := hgiven.split
  rw [hsplit] at hsplit'
  cases hsplit'
  exact ⟨g0, g1, g2, g3, g4⟩

theorem CronText.any (h : CronText GivenEndpoint value e) : CronText AnyEndpoint value e := by
  cases h with
  | fields hsep h0 h1 h2 h3 h4 hdom hdow =>
    exact .fields hsep h0.any h1.any h2.any h3.any h4.any hdom hdow

/-! ## Values -/

theorem CronListText.bounds {min max : Nat} {field : JsString} {items : List CronItem}
    (h : CronListText Endpoint min max field items) (hrange : min ≤ max) :
    ∀ item ∈ items, min ≤ item.first ∧ item.last ≤ max ∧ item.first ≤ item.last := by
  induction h with
  | last h => exact forall_mem_singleton.mpr (h.base.bounds hrange)
  | cons h hrest ih => exact forall_mem_cons.mpr ⟨h.base.bounds hrange, ih⟩

theorem CronListText.items_ne_nil {min max : Nat} {field : JsString} {items : List CronItem}
    (h : CronListText Endpoint min max field items) : items ≠ [] := by
  cases h <;> exact cons_ne_nil _ _

theorem CronListText.values {min max : Nat} {field : JsString} {items : List CronItem}
    (h : CronListText Endpoint min max field items) (hrange : min ≤ max) :
    (parseCronField field min max).values ≠ [] ∧
      ∀ v ∈ (parseCronField field min max).values, min ≤ v ∧ v ≤ max := by
  constructor
  · obtain ⟨item, hitem⟩ := exists_mem_of_ne_nil items h.items_ne_nil
    refine ne_nil_of_mem ((mem_parseCronField h item.first).mpr ⟨item, hitem, 0, by simp, ?_⟩)
    exact (h.bounds hrange item hitem).2.2
  · intro v hv
    obtain ⟨item, hitem, k, _⟩ := (mem_parseCronField h v).mp hv
    obtain ⟨_, _, -⟩ := h.bounds hrange item hitem
    omega

theorem CronText.parse (h : CronText Endpoint value e) :
    ∃ minute hour dayOfMonth month dayOfWeek,
      parseCron value = [parseCronField minute 0 59, parseCronField hour 0 23,
        parseCronField dayOfMonth 1 31, parseCronField month 1 12, parseCronField dayOfWeek 0 7] ∧
      CronListText Endpoint 0 59 minute e.minute ∧ CronListText Endpoint 0 23 hour e.hour ∧
      CronListText Endpoint 1 31 dayOfMonth e.dayOfMonth ∧
      CronListText Endpoint 1 12 month e.month ∧ CronListText Endpoint 0 7 dayOfWeek e.dayOfWeek ∧
      e.everyDayOfMonth = (parseCronField dayOfMonth 1 31).wildcard ∧
      e.everyDayOfWeek = (parseCronField dayOfWeek 0 7).wildcard := by
  obtain ⟨minute, hour, dayOfMonth, month, dayOfWeek, hsplit, -, h0, h1, h2, h3, h4, hdom, hdow⟩ :=
    h.split
  refine ⟨minute, hour, dayOfMonth, month, dayOfWeek, ?_, h0, h1, h2, h3, h4, hdom, hdow⟩
  rw [parseCron, hsplit]
  rfl

/-- What has no range without an endpoint is accepted when it is bounded and in the grammar, and
every field of an accepted expression has values, all of them in range. -/
theorem validateCronExpression_grammar (value : JsString) :
    (missesEndpoint value = false →
      ((validateCronExpression value).isSome = true ↔
        BoundedText value ∧ ∃ e, CronText GivenEndpoint value e)) ∧
    ((validateCronExpression value).isSome = true →
      (parseCron value).length = 5 ∧ ∀ entry ∈ (parseCron value).zip cronRanges,
        entry.1.values ≠ [] ∧ ∀ v ∈ entry.1.values, entry.2.1 ≤ v ∧ v ≤ entry.2.2) := by
  constructor
  · intro hgiven
    rw [validateCronExpression_isSome]
    refine and_congr_right fun _ => exists_congr fun e => ?_
    exact ⟨fun h => h.given_iff.mp hgiven, CronText.any⟩
  · intro haccepted
    obtain ⟨-, e, h⟩ := validateCronExpression_isSome.mp haccepted
    obtain ⟨_, _, _, _, _, hparse, h0, h1, h2, h3, h4, -, -⟩ := h.parse
    rw [hparse]
    refine ⟨rfl, ?_⟩
    simp only [cronRanges, zip_cons_cons, zip_nil_left, forall_mem_cons]
    exact ⟨h0.values (by decide), h1.values (by decide), h2.values (by decide), h3.values (by decide),
      h4.values (by decide), fun _ h => by cases h⟩

/-- `30 1 * * 1-5` -/
def weekdays : JsString := text "30 1 * * 1-5"

theorem validateCronExpression_grammar_weekdays :
    (∃ e, CronText GivenEndpoint weekdays e) ∧ (parseCron weekdays).length = 5 :=
  ⟨(((validateCronExpression_grammar weekdays).1 (by decide)).mp (by decide)).2,
    ((validateCronExpression_grammar weekdays).2 (by decide)).1⟩

/-- An expression for each minute with spaces before it. -/
def indentedCron : JsString := List.replicate 256 0x20 ++ text "* * * * *"

def everyMinute : CronExpression :=
  ⟨[⟨0, 59, 1⟩], [⟨0, 23, 1⟩], [⟨1, 31, 1⟩], [⟨1, 12, 1⟩], [⟨0, 7, 1⟩], true, true⟩

/-- A long expression is rejected, and one whose range has no first endpoint is accepted. -/
theorem validateCronExpression_not_grammar :
    (CronText GivenEndpoint indentedCron everyMinute ∧ validateCronExpression indentedCron = none) ∧
      ((validateCronExpression (text "-5 * * * *")).isSome = true ∧
        ¬ ∃ e, CronText GivenEndpoint (text "-5 * * * *") e) := by
  refine ⟨⟨?_, by decide +kernel⟩, by decide, ?_⟩
  · have hsep : Separated (0x20 : UInt16) (star ++ (List.replicate 1 0x20 ++ (star ++
        (List.replicate 1 0x20 ++ (star ++ (List.replicate 1 0x20 ++ (star ++
        (List.replicate 1 0x20 ++ star)))))))) [star, star, star, star, star] :=
      .cons 0 (.cons 0 (.cons 0 (.cons 0 .single)))
    have htrim : trim indentedCron = star ++ (List.replicate 1 0x20 ++ (star ++
        (List.replicate 1 0x20 ++ (star ++ (List.replicate 1 0x20 ++ (star ++
        (List.replicate 1 0x20 ++ star))))))) := by decide +kernel
    exact .fields hsep (.last (.plain .every)) (.last (.plain .every)) (.last (.plain .every))
      (.last (.plain .every)) (.last (.plain .every)) rfl rfl
  · rintro ⟨e, h⟩
    have hgiven := h.any.given_iff.mpr h
    revert hgiven
    decide

end PiDaemon.Scheduler
