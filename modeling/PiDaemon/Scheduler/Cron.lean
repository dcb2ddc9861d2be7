import Mathlib.Algebra.GroupWithZero.Nat
import PiDaemon.Lib.Calendar

/-!
# Cron expressions

The validation of an expression, its parsed fields and the search for the next or
the previous minute that matches them.  What the minute of an instant is called in
a time zone is given.

* `validateCronExpression_idem`: what has been accepted is accepted as it is;
* `nextCronOccurrence_gt`: the next occurrence is after its boundary;
* `nextCronOccurrence_none`: fields that match no minute have none.
-/

namespace PiDaemon.Scheduler

open Lib List

/-- The parts of `formatToParts` that a search reads; weekdays from Sunday as 0. -/
structure CronParts where
  minute : Nat
  hour : Nat
  day : Nat
  month : Nat
  weekday : Nat
  deriving DecidableEq

/-- What an instant is called in a time zone; `none` when the formatter throws. -/
abbrev Zones := JsString → Int → Option CronParts

/-- The zone `UTC`. -/
def utcParts (ms : Int) : CronParts :=
  let date := utcDate ms
  ⟨date.minute, date.hour, date.day, date.month, date.weekday⟩

/-! ## Texts -/

/-- `value.split(/ +/u)` of a trimmed string. -/
def splitSpaces (value : JsString) : List JsString :=
  let pieces := (value.splitOn 0x20).filter (· ≠ [])
  if pieces.isEmpty then [[]] else pieces

def isDigit (u : UInt16) : Bool := 0x30 ≤ u.toNat && u.toNat ≤ 0x39

/-- `Number(text)` of digits; `none` for what is not a number.  The empty text is 0. -/
def numberOf (value : JsString) : Option Nat :=
  if value.all isDigit then some (value.foldl (fun n u => n * 10 + (u.toNat - 0x30)) 0) else none

def star : JsString := text "*"

def cronRanges : List (Nat × Nat) := [(0, 59), (0, 23), (1, 31), (1, 12), (0, 7)]

/-! ## Validation -/

/-- The units of `/^[0-9*/,-]+$/u`. -/
def isCronUnit (u : UInt16) : Bool := isDigit u || u = 0x2a || u = 0x2f || u = 0x2c || u = 0x2d

def validCronStep (min max : Nat) (step : JsString) : Bool :=
  (numberOf step).any fun step => 1 ≤ step && step ≤ max - min + 1

/-- One or two numbers in range, in order. -/
def validCronBase (min max : Nat) (base : JsString) : Bool :=
  base = star ||
    match (base.splitOn 0x2d).map numberOf with
    | [some value] => min ≤ value && value ≤ max
    | [some first, some last] => min ≤ first && last ≤ max && first ≤ last
    | _ => false

def validCronItem (min max : Nat) (item : JsString) : Bool :=
  match item.splitOn 0x2f with
  | [base] => base ≠ [] && validCronBase min max base
  | [base, step] => base ≠ [] && step ≠ [] && validCronStep min max step && validCronBase min max base
  | _ => false

def validateCronField (field : JsString) (min max : Nat) : Bool :=
  field ≠ [] && field.all isCronUnit && (field.splitOn 0x2c).all (validCronItem min max)

/-- `fields.join(" ")` -/
def joinSpaces (fields : List JsString) : JsString := [0x20].intercalate fields

/-- `validateCronExpression`; `none` is a throw. -/
def validateCronExpression (value : JsString) : Option JsString :=
  let fields := splitSpaces (trim value)
  if value.length < 9 ∨ value.length > 256 ∨ value.any (fun u => u = 0x0d || u = 0x0a || u = 0x09) then
    none
  else if fields.length ≠ 5 then none
  else if (fields.zip cronRanges).all fun entry => validateCronField entry.1 entry.2.1 entry.2.2 then
    some (joinSpaces fields)
  else none

/-! ## The canonical spelling -/

theorem length_joinSpaces (fields : List JsString) :
    (joinSpaces fields).length = (fields.map List.length).sum + (fields.length - 1) := by
  unfold joinSpaces
  induction fields with
  | nil => rfl
  | cons field rest ih =>
    cases rest with
    | nil => simp
    | cons =>
      rw [intercalate_cons_cons]
      simp only [length_append, length_cons, length_nil, map_cons, sum_cons] at ih ⊢
      omega

variable {fields : List JsString}

theorem mem_joinSpaces {u : UInt16} (h : u ∈ joinSpaces fields) : u = 0x20 ∨ ∃ field ∈ fields, u ∈ field := by
  unfold joinSpaces at h
  induction fields with
  | nil => cases h
  | cons field rest ih =>
    cases rest with
    | nil =>
      rw [intercalate_singleton] at h
      exact Or.inr ⟨field, mem_cons_self, h⟩
    | cons =>
      rw [intercalate_cons_cons] at h
      simp only [append_assoc, mem_append, mem_singleton] at h
      rcases h with h | h | h
      · exact Or.inr ⟨field, mem_cons_self, h⟩
      · exact Or.inl h
      · rcases ih h with h | ⟨piece, hpiece, h⟩
        · exact Or.inl h
        · exact Or.inr ⟨piece, mem_cons_of_mem _ hpiece, h⟩

theorem length_joinSpaces_sublist {left right : List JsString} (h : left.Sublist right) :
    (joinSpaces left).length ≤ (joinSpaces right).length := by
  rw [length_joinSpaces, length_joinSpaces]
  induction h with
  | slnil => exact Nat.le_refl _
  | cons =>
    simp only [map_cons, sum_cons, length_cons]
    omega
  | cons_cons field h =>
    have := h.length_le
    simp only [map_cons, sum_cons, length_cons]
    omega

theorem not_trimmed_of_unit {u : UInt16} (h : isCronUnit u = true) : isTrimmed u = false := by
  simp only [isCronUnit, isDigit, Bool.or_eq_true, Bool.and_eq_true, decide_eq_true_eq] at h
  rcases h with (((⟨_, _⟩ | rfl) | rfl) | rfl) | rfl
  · simp [isTrimmed, ← UInt16.toNat_inj]
    omega
  · decide
  · decide
  · decide
  · decide

theorem validateCronExpression_some {value cron : JsString}
    (h : validateCronExpression value = some cron) :
    ∃ fields : List JsString, cron = joinSpaces fields ∧ fields = splitSpaces (trim value) ∧
      value.length ≤ 256 ∧ fields.length = 5 ∧
      ((fields.zip cronRanges).all fun entry =>
        validateCronField entry.1 entry.2.1 entry.2.2) = true := by
  unfold validateCronExpression at h
  simp only at h
  split at h
  · cases h
  split at h
  · cases h
  rename_i hlength
  split at h
  · rename_i hvalid
    cases h
    exact ⟨_, rfl, rfl, by omega, Decidable.not_not.mp hlength, hvalid⟩
  · cases h

theorem field_of_validateCronField {field : JsString} {min max : Nat}
    (h : validateCronField field min max = true) :
    field ≠ [] ∧ ∀ u ∈ field, isCronUnit u = true := by
  simp only [validateCronField, Bool.and_eq_true, decide_eq_true_eq, all_eq_true] at h
  exact ⟨h.1.1, h.1.2⟩

theorem units_of_fields (hlength : fields.length = 5)
    (hvalid : ((fields.zip cronRanges).all fun entry => validateCronField entry.1 entry.2.1 entry.2.2) = true) :
    ∀ field ∈ fields, field ≠ [] ∧ ∀ u ∈ field, isCronUnit u = true := by
  intro field hfield
  obtain ⟨index, _, rfl⟩ := mem_iff_getElem.mp hfield
  have hzip : index < (fields.zip cronRanges).length := by
    simp [cronRanges]
    omega
  have hentry := all_eq_true.mp hvalid _ (getElem_mem hzip)
  rw [getElem_zip] at hentry
  exact field_of_validateCronField hentry

theorem joinSpaces_ne_nil {field : JsString} {rest : List JsString} (h : field ≠ []) :
    joinSpaces (field :: rest) ≠ [] := by
  intro heq
  have hlength := length_joinSpaces (field :: rest)
  rw [heq] at hlength
  have := length_pos_iff.mpr h
  simp only [length_nil, map_cons, sum_cons] at hlength
  omega

theorem head?_joinSpaces (h : ∀ field ∈ fields, field ≠ []) {u : UInt16} (hu : u ∈ (joinSpaces fields).head?) :
    ∃ field ∈ fields, u ∈ field := by
  cases fields with
  | nil => cases hu
  | cons field rest =>
    refine ⟨field, mem_cons_self, ?_⟩
    have hfield := h field mem_cons_self
    cases rest with
    | nil =>
      rw [joinSpaces, intercalate_singleton] at hu
      exact List.mem_of_mem_head? hu
    | cons =>
      obtain ⟨_, _, rfl⟩ := exists_cons_of_ne_nil hfield
      cases hu
      exact mem_cons_self

theorem getLast?_joinSpaces (h : ∀ field ∈ fields, field ≠ []) {u : UInt16} (hu : u ∈ (joinSpaces fields).getLast?) :
    ∃ field ∈ fields, u ∈ field := by
  induction fields with
  | nil => cases hu
  | cons field rest ih =>
    cases rest with
    | nil =>
      rw [joinSpaces, intercalate_singleton] at hu
      exact ⟨field, mem_cons_self, List.mem_of_getLast? hu⟩
    | cons next rest =>
      have hrest : ∀ piece ∈ next :: rest, piece ≠ [] :=
        fun piece hpiece => h piece (mem_cons_of_mem _ hpiece)
      have hne : joinSpaces (next :: rest) ≠ [] := joinSpaces_ne_nil (hrest next mem_cons_self)
      obtain ⟨_, hlast⟩ := Option.isSome_iff_exists.mp (List.getLast?_isSome.mpr hne)
      rw [joinSpaces, intercalate_cons_cons, List.getLast?_append, ← joinSpaces, hlast,
        Option.some_or, ← hlast] at hu
      obtain ⟨piece, hpiece, hmem⟩ := ih hrest hu
      exact ⟨piece, mem_cons_of_mem _ hpiece, hmem⟩

theorem length_le_sum (h : ∀ field ∈ fields, field ≠ []) : fields.length ≤ (fields.map List.length).sum := by
  induction fields with
  | nil => exact Nat.le_refl _
  | cons field rest ih =>
    have hfield := length_pos_iff.mpr (h field mem_cons_self)
    have := ih fun piece hpiece => h piece (mem_cons_of_mem _ hpiece)
    simp only [length_cons, map_cons, sum_cons]
    omega

/-- An accepted expression in its canonical spelling is accepted as it is. -/
theorem validateCronExpression_idem {value cron : JsString}
    (h : validateCronExpression value = some cron) : validateCronExpression cron = some cron := by
  obtain ⟨fields, rfl, hfields, _, hlength, hvalid⟩ := validateCronExpression_some h
  have hunits := units_of_fields hlength hvalid
  have hsplit : (joinSpaces fields).splitOn 0x20 = fields := by
    apply splitOn_intercalate
    · intro field hfield hspace
      have := (hunits field hfield).2 _ hspace
      cases this
    · rintro rfl
      cases hlength
  have hnonempty : fields.filter (fun field => decide (field ≠ [])) = fields := by
    apply filter_eq_self.mpr
    intro field hfield
    simpa using (hunits field hfield).1
  have hends : ∀ u, (∃ field ∈ fields, u ∈ field) → isTrimmed u = false := by
    rintro u ⟨field, hfield, hu⟩
    exact not_trimmed_of_unit ((hunits field hfield).2 u hu)
  have hpieces : ∀ field ∈ fields, field ≠ [] := fun field hfield => (hunits field hfield).1
  have htrim : trim (joinSpaces fields) = joinSpaces fields :=
    trim_of_ends (fun u hu => hends u (head?_joinSpaces hpieces hu))
      (fun u hu => hends u (getLast?_joinSpaces hpieces hu))
  have hspaces : splitSpaces (trim (joinSpaces fields)) = fields := by
    rw [htrim]
    unfold splitSpaces
    simp only [hsplit, hnonempty]
    rw [if_neg]
    rw [List.isEmpty_iff]
    rintro rfl
    cases hlength
  have hlow : 9 ≤ (joinSpaces fields).length := by
    have := length_le_sum hpieces
    rw [length_joinSpaces]
    omega
  have hhigh : (joinSpaces fields).length ≤ 256 := by
    have hsublist : fields.Sublist ((trim value).splitOn 0x20) := by
      unfold splitSpaces at hfields
      simp only at hfields
      split at hfields
      · rw [hfields] at hlength
        cases hlength
      · rw [hfields]
        exact filter_sublist
    have hle := length_joinSpaces_sublist hsublist
    have htrimmed := length_trim_le value
    rw [joinSpaces, joinSpaces, intercalate_splitOn] at hle
    rw [joinSpaces]
    omega
  have hclean : ((joinSpaces fields).any fun u => u = 0x0d || u = 0x0a || u = 0x09) = false := by
    rw [any_eq_false]
    intro u hu hline
    rcases mem_joinSpaces hu with rfl | ⟨field, hfield, hmem⟩
    · revert hline
      decide
    have hunit := (hunits field hfield).2 u hmem
    simp only [Bool.or_eq_true, decide_eq_true_eq] at hline
    rcases hline with (rfl | rfl) | rfl <;> cases hunit
  unfold validateCronExpression
  simp only [hspaces]
  rw [if_neg, if_neg, if_pos hvalid]
  · exact Decidable.not_not.mpr hlength
  rw [hclean]
  simp
  omega

/-! ## Fields -/

structure CronField where
  wildcard : Bool
  values : List Nat
  deriving DecidableEq

/-- The values of the loop from `first` to `last`; a step is at least 1. -/
def cronValues (first last : Option Nat) (step : Option Nat) : List Nat :=
  match first, last, step with
  | some first, some last, some step =>
    (List.range (last + 1)).filter fun value => first ≤ value && (value - first) % step = 0
  | some first, some last, none => if first ≤ last then [first] else []
  | _, _, _ => []

def parseCronItem (min max : Nat) (item : JsString) : List Nat :=
  let pieces := item.splitOn 0x2f
  let base := pieces.headD []
  let step := (pieces[1]?).elim (some 1) numberOf
  if base = star then cronValues (some min) (some max) step
  else if base.contains 0x2d then
    let endpoints := base.splitOn 0x2d
    cronValues ((endpoints[0]?).bind numberOf) ((endpoints[1]?).bind numberOf) step
  else cronValues (numberOf base) (numberOf base) step

def parseCronField (field : JsString) (min max : Nat) : CronField :=
  { wildcard := field.head? = some 0x2a
    values := (field.splitOn 0x2c).flatMap (parseCronItem min max) }

def parseCron (cron : JsString) : List CronField :=
  (splitSpaces (trim cron)).zipWith (fun field range => parseCronField field range.1 range.2) cronRanges

def cronField (fields : List CronField) (index : Nat) : CronField := fields.getD index ⟨false, []⟩

def CronField.has (field : CronField) (value : Nat) : Bool := field.values.contains value

/-- The test of a minute in `seekCron`. -/
def matchesCron (fields : List CronField) (parts : CronParts) : Bool :=
  let dayOfMonth := cronField fields 2
  let dayOfWeek := cronField fields 4
  let domMatch := dayOfMonth.has parts.day
  let dowMatch := dayOfWeek.has parts.weekday || (parts.weekday = 0 && dayOfWeek.has 7)
  let dayMatch :=
    if dayOfMonth.wildcard || dayOfWeek.wildcard then domMatch && dowMatch else domMatch || dowMatch
  (cronField fields 0).has parts.minute && (cronField fields 1).has parts.hour && dayMatch &&
    (cronField fields 3).has parts.month

/-! ## Search -/

def maxCronSearchMinutes : Nat := 5 * 366 * 24 * 60

def minuteMs : Int := 60000

/-- The loop of `seekCron`; `none` is a throw. -/
def seekFrom (zones : Zones) (timezone : JsString) (fields : List CronField) (step : Int) :
    Nat → Int → Option Int
  | 0, _ => none
  | scans + 1, cursor =>
    match zones timezone cursor with
    | none => none
    | some parts =>
      if matchesCron fields parts then some cursor
      else seekFrom zones timezone fields step scans (cursor + step)

def nextCronOccurrence (zones : Zones) (cron timezone : JsString) (afterMs : Int) : Option Int :=
  seekFrom zones timezone (parseCron cron) minuteMs maxCronSearchMinutes
    (afterMs / minuteMs * minuteMs + minuteMs)

/-- `Math.ceil(boundaryMs / 60_000)` -/
def ceilMinutes (ms : Int) : Int := -(-ms / minuteMs)

def previousCronOccurrence (zones : Zones) (cron timezone : JsString) (beforeMs : Int) : Option Int :=
  seekFrom zones timezone (parseCron cron) (-minuteMs) maxCronSearchMinutes
    (ceilMinutes beforeMs * minuteMs - minuteMs)

section
variable {zones : Zones} {timezone cron : JsString} {fields : List CronField}

theorem seekFrom_ge {scans : Nat} {cursor t : Int}
    (h : seekFrom zones timezone fields minuteMs scans cursor = some t) : cursor ≤ t := by
  induction scans generalizing cursor with
  | zero => cases h
  | succ scans ih =>
    rw [seekFrom] at h
    cases hz : zones timezone cursor with
    | none =>
      rw [hz] at h
      cases h
    | some =>
      rw [hz] at h
      simp only at h
      split at h
      · cases h
        omega
      have := ih h
      unfold minuteMs at this
      omega

theorem nextCronOccurrence_gt {afterMs t : Int}
    (h : nextCronOccurrence zones cron timezone afterMs = some t) : afterMs < t := by
  have := seekFrom_ge h
  unfold minuteMs at this
  omega

theorem seekFrom_none (hnone : ∀ ms parts, zones timezone ms = some parts →
    matchesCron fields parts = false) (step : Int) (scans : Nat) (cursor : Int) :
    seekFrom zones timezone fields step scans cursor = none := by
  induction scans generalizing cursor with
  | zero => rfl
  | succ scans ih =>
    rw [seekFrom]
    cases hz : zones timezone cursor with
    | none => rfl
    | some parts =>
      simp only
      rw [hnone cursor parts hz]
      exact ih _

theorem nextCronOccurrence_none (hnone : ∀ ms parts, zones timezone ms = some parts →
    matchesCron (parseCron cron) parts = false) (afterMs : Int) :
    nextCronOccurrence zones cron timezone afterMs = none :=
  seekFrom_none hnone _ _ _

end

end PiDaemon.Scheduler
