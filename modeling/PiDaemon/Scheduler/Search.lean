import Mathlib.Algebra.Order.Floor.Ring
import Mathlib.Data.Rat.Floor
import Mathlib.Tactic.Linarith
import Mathlib.Tactic.Ring
import PiDaemon.Scheduler.Grammar

/-!
# The cron search

The search from any finite boundary, which need not be a whole number of milliseconds, against the
instants of an expression.

* `matchesCron_iff`: the test of a minute is the rule of the days of a month and of a week;
* `seekFrom_eq_some`: what a search returns, and what it has passed over;
* `cronSearch_exact`: the next occurrence is the least one after the boundary, the previous one the
  greatest before it.
-/

namespace PiDaemon.Scheduler

open Lib Bool

/-! ## The rule -/

def Contains (items : List CronItem) (value : Nat) : Prop := ∃ item ∈ items, item.Has value

/-- A day of the week; Sunday is also 7. -/
def ContainsWeekday (items : List CronItem) (weekday : Nat) : Prop :=
  Contains items weekday ∨ (weekday = 0 ∧ Contains items 7)

/-- A day satisfies both fields, or one of them when neither begins with `*`. -/
def CronExpression.SatisfiedDay (e : CronExpression) (parts : CronParts) : Prop :=
  if e.everyDayOfMonth ∨ e.everyDayOfWeek then
    Contains e.dayOfMonth parts.day ∧ ContainsWeekday e.dayOfWeek parts.weekday
  else Contains e.dayOfMonth parts.day ∨ ContainsWeekday e.dayOfWeek parts.weekday

structure CronExpression.Satisfied (e : CronExpression) (parts : CronParts) : Prop where
  minute : Contains e.minute parts.minute
  hour : Contains e.hour parts.hour
  day : e.SatisfiedDay parts
  month : Contains e.month parts.month

theorem has_iff {Endpoint : JsString → Prop} {min max : Nat} {field : JsString} {items : List CronItem}
    (h : CronListText Endpoint min max field items) (value : Nat) :
    (parseCronField field min max).has value = true ↔ Contains items value := by
  rw [CronField.has, List.contains_iff_mem, mem_parseCronField h, Contains]

theorem matchesCron_iff {Endpoint : JsString → Prop} {value : JsString} {e : CronExpression}
    (h : CronText Endpoint value e) (parts : CronParts) :
    matchesCron (parseCron value) parts = true ↔ e.Satisfied parts := by
  obtain ⟨_, _, _, _, dayOfWeek, hparse, h0, h1, h2, h3, h4, hdom, hdow⟩ := h.parse
  have hweekday : ((parseCronField dayOfWeek 0 7).has parts.weekday ||
      (decide (parts.weekday = 0) && (parseCronField dayOfWeek 0 7).has 7)) = true ↔
      ContainsWeekday e.dayOfWeek parts.weekday := by
    rw [or_eq_true, and_eq_true, decide_eq_true_eq, has_iff h4, has_iff h4, ContainsWeekday]
  rw [hparse, matchesCron]
  simp only [cronField, List.getD_cons_zero, List.getD_cons_succ, and_eq_true, has_iff h0, has_iff h1,
    has_iff h3]
  rw [← hdom, ← hdow]
  constructor
  · rintro ⟨⟨⟨hminute, hhour⟩, hday⟩, hmonth⟩
    refine ⟨hminute, hhour, ?_, hmonth⟩
    unfold CronExpression.SatisfiedDay
    split
    · rename_i hevery
      rw [if_pos (by simpa using hevery), and_eq_true, has_iff h2, hweekday] at hday
      exact hday
    · rename_i hevery
      rw [if_neg (by simpa using hevery), or_eq_true, has_iff h2, hweekday] at hday
      exact hday
  · rintro ⟨hminute, hhour, hday, hmonth⟩
    refine ⟨⟨⟨hminute, hhour⟩, ?_⟩, hmonth⟩
    unfold CronExpression.SatisfiedDay at hday
    split at hday
    · rename_i hevery
      rw [if_pos (by simpa using hevery), and_eq_true, has_iff h2, hweekday]
      exact hday
    · rename_i hevery
      rw [if_neg (by simpa using hevery), or_eq_true, has_iff h2, hweekday]
      exact hday

/-! ## The loop -/

section
variable (zones : Zones) (timezone : JsString) (fields : List CronField)

/-- The minute of an instant passes the test. -/
def MatchesParts (ms : Int) : Prop :=
  ∃ parts, zones timezone ms = some parts ∧ matchesCron fields parts = true

/-- The minute of an instant fails the test. -/
def PassedAt (ms : Int) : Prop :=
  ∃ parts, zones timezone ms = some parts ∧ matchesCron fields parts = false

variable {zones timezone fields}

theorem PassedAt.not_matches {ms : Int} (h : PassedAt zones timezone fields ms) :
    ¬ MatchesParts zones timezone fields ms := by
  rintro ⟨_, hparts, hmatches⟩
  obtain ⟨_, hother, hpassed⟩ := h
  rw [hparts] at hother
  cases hother
  rw [hmatches] at hpassed
  cases hpassed

/-- A search returns the first instant that passes the test, when it can read all before it. -/
theorem seekFrom_eq_some {step cursor t : Int} {scans : Nat} :
    seekFrom zones timezone fields step scans cursor = some t ↔
      ∃ i : Nat, i < scans ∧ t = cursor + i * step ∧ MatchesParts zones timezone fields t ∧
        ∀ j : Nat, j < i → PassedAt zones timezone fields (cursor + j * step) := by
  induction scans generalizing cursor with
  | zero => simp [seekFrom]
  | succ scans ih =>
    rw [seekFrom]
    constructor
    · intro h
      cases hparts : zones timezone cursor with
      | none => simp [hparts] at h
      | some parts =>
        simp only [hparts] at h
        split at h
        · rename_i hmatches
          cases h
          exact ⟨0, by omega, by simp, ⟨parts, hparts, hmatches⟩, fun j hj => by omega⟩
        · rename_i hpassed
          obtain ⟨i, hi, rfl, hmatches, hbefore⟩ := ih.mp h
          refine ⟨i + 1, by omega, by push_cast; ring, hmatches, ?_⟩
          rintro (_ | j) hj
          · simpa using ⟨parts, hparts, eq_false_iff.mpr hpassed⟩
          have hat := hbefore j (by omega)
          rwa [show cursor + step + (j : Int) * step = cursor + ((j + 1 : Nat) : Int) * step by
            push_cast; ring] at hat
    · rintro ⟨i, hi, rfl, hmatches, hbefore⟩
      cases i with
      | zero =>
        simp only [Nat.cast_zero, zero_mul, add_zero] at hmatches ⊢
        obtain ⟨parts, hparts, hmatches⟩ := hmatches
        simp only [hparts]
        rw [if_pos hmatches]
      | succ i =>
        obtain ⟨parts, hparts, hpassed⟩ := hbefore 0 (by omega)
        simp only [Nat.cast_zero, zero_mul, add_zero] at hparts
        simp only [hparts]
        rw [if_neg (by rw [hpassed]; decide), ih]
        refine ⟨i, by omega, by push_cast; ring, hmatches, fun j hj => ?_⟩
        have hat := hbefore (j + 1) (by omega)
        rwa [show cursor + ((j + 1 : Nat) : Int) * step = cursor + step + (j : Int) * step by
          push_cast; ring] at hat

end

/-! ## Boundaries -/

/-- `seekCron`, from a boundary that is any finite number. -/
def seekCron (zones : Zones) (cron timezone : JsString) (boundaryMs : Rat) (forward : Bool) : Option Int :=
  if forward then
    seekFrom zones timezone (parseCron cron) minuteMs maxCronSearchMinutes
      (⌊boundaryMs / 60000⌋ * minuteMs + minuteMs)
  else
    seekFrom zones timezone (parseCron cron) (-minuteMs) maxCronSearchMinutes
      (⌈boundaryMs / 60000⌉ * minuteMs - minuteMs)

/-- What a search looks at, in milliseconds. -/
def cronHorizonMs : Int := maxCronSearchMinutes * minuteMs

theorem mem_forward {boundary : Rat} {t : Int} (ht : minuteMs ∣ t) :
    (boundary < t ∧ (t : Rat) ≤ boundary + cronHorizonMs) ↔
      ∃ i : Nat, i < maxCronSearchMinutes ∧
        t = ⌊boundary / 60000⌋ * minuteMs + minuteMs + i * minuteMs := by
  obtain ⟨m, rfl⟩ := ht
  have hlow : boundary < ((minuteMs * m : Int) : Rat) ↔ ⌊boundary / 60000⌋ < m := by
    rw [Int.floor_lt, div_lt_iff₀ (by norm_num), minuteMs]
    push_cast
    rw [mul_comm]
  have hhigh : ((minuteMs * m : Int) : Rat) ≤ boundary + cronHorizonMs ↔
      m - maxCronSearchMinutes ≤ ⌊boundary / 60000⌋ := by
    rw [Int.le_floor, cronHorizonMs, minuteMs]
    push_cast
    constructor
    · intro h
      linarith
    · intro h
      linarith
  rw [hlow, hhigh]
  generalize ⌊boundary / 60000⌋ = first
  unfold minuteMs maxCronSearchMinutes
  constructor
  · rintro ⟨h, _⟩
    exact ⟨(m - first - 1).toNat, by omega, by omega⟩
  · rintro ⟨i, _, h⟩
    omega

theorem mem_backward {boundary : Rat} {t : Int} (ht : minuteMs ∣ t) :
    ((t : Rat) < boundary ∧ boundary - cronHorizonMs ≤ t) ↔
      ∃ i : Nat, i < maxCronSearchMinutes ∧
        t = ⌈boundary / 60000⌉ * minuteMs - minuteMs + i * -minuteMs := by
  obtain ⟨m, rfl⟩ := ht
  have hhigh : ((minuteMs * m : Int) : Rat) < boundary ↔ m < ⌈boundary / 60000⌉ := by
    rw [Int.lt_ceil, lt_div_iff₀ (by norm_num), minuteMs]
    push_cast
    rw [mul_comm]
  have hlow : boundary - cronHorizonMs ≤ ((minuteMs * m : Int) : Rat) ↔
      ⌈boundary / 60000⌉ ≤ m + maxCronSearchMinutes := by
    rw [Int.ceil_le, cronHorizonMs, minuteMs]
    push_cast
    constructor
    · intro h
      linarith
    · intro h
      linarith
  rw [hhigh, hlow]
  generalize ⌈boundary / 60000⌉ = first
  unfold minuteMs maxCronSearchMinutes
  constructor
  · rintro ⟨h, _⟩
    exact ⟨(first - m - 1).toNat, by omega, by omega⟩
  · rintro ⟨i, _, h⟩
    omega

/-! ## Exactness -/

/-- A minute whose local time satisfies the expression. -/
def IsOccurrence (zone : Int → CronParts) (e : CronExpression) (t : Int) : Prop :=
  minuteMs ∣ t ∧ e.Satisfied (zone t)

section
variable {zone : Int → CronParts} {value : JsString} {e : CronExpression} {timezone : JsString}

/-- The zones of a formatter that never throws. -/
def zonesOf (zone : Int → CronParts) : Zones := fun _ ms => some (zone ms)

variable {Endpoint : JsString → Prop}

section
variable (he : CronText Endpoint value e)
include he

theorem matchesAt_iff (t : Int) :
    MatchesParts (zonesOf zone) timezone (parseCron value) t ↔ e.Satisfied (zone t) := by
  rw [← matchesCron_iff he]
  constructor
  · rintro ⟨_, ⟨⟩, hmatches⟩
    exact hmatches
  · exact fun hmatches => ⟨_, rfl, hmatches⟩

theorem passedAt_iff (t : Int) :
    PassedAt (zonesOf zone) timezone (parseCron value) t ↔ ¬ e.Satisfied (zone t) := by
  rw [← matchesCron_iff he, not_eq_true]
  constructor
  · rintro ⟨_, ⟨⟩, hpassed⟩
    exact hpassed
  · exact fun hpassed => ⟨_, rfl, hpassed⟩

/-- A search in steps of one minute, up or down, finds the first occurrence among the minutes it
looks at. -/
theorem seekFrom_total {step cursor : Int} (hstep : minuteMs ∣ step)
    (hcursor : minuteMs ∣ cursor) {scans : Nat} {t : Int} :
    seekFrom (zonesOf zone) timezone (parseCron value) step scans cursor = some t ↔
      ∃ i : Nat, i < scans ∧ t = cursor + i * step ∧ IsOccurrence zone e t ∧
        ∀ j : Nat, j < i → ¬ IsOccurrence zone e (cursor + j * step) := by
  have haligned (j : Nat) : minuteMs ∣ cursor + j * step :=
    Int.dvd_add hcursor (Int.dvd_mul_of_dvd_right hstep)
  rw [seekFrom_eq_some]
  refine exists_congr fun i => and_congr_right fun hi => and_congr_right fun ht => ?_
  refine and_congr ?_ (forall_congr' fun j => imp_congr_right fun hj => ?_)
  · rw [matchesAt_iff he, ht]
    exact (and_iff_right (haligned i)).symm
  · rw [passedAt_iff he]
    exact not_congr (and_iff_right (haligned j)).symm

theorem seekFrom_total_none {step cursor : Int} (hstep : minuteMs ∣ step)
    (hcursor : minuteMs ∣ cursor) {scans : Nat} :
    seekFrom (zonesOf zone) timezone (parseCron value) step scans cursor = none ↔
      ∀ i : Nat, i < scans → ¬ IsOccurrence zone e (cursor + i * step) := by
  rw [Option.eq_none_iff_forall_ne_some]
  constructor
  · intro hnone i
    induction i using Nat.strongRecOn with
    | ind i ih =>
      intro hi hoccurs
      exact hnone _ ((seekFrom_total he hstep hcursor).mpr
        ⟨i, hi, rfl, hoccurs, fun j hj => ih j hj (by omega)⟩)
  · intro hpassed t ht
    obtain ⟨i, hi, rfl, hoccurs, -⟩ := (seekFrom_total he hstep hcursor).mp ht
    exact hpassed i hi hoccurs

/-- The minute that a search returns is the first of the occurrences it can reach. -/
theorem seekFrom_first {step cursor : Int} (hstep : minuteMs ∣ step) (hne : step ≠ 0)
    (hcursor : minuteMs ∣ cursor) {scans : Nat} {t : Int} :
    seekFrom (zonesOf zone) timezone (parseCron value) step scans cursor = some t ↔
      (IsOccurrence zone e t ∧ ∃ i : Nat, i < scans ∧ t = cursor + i * step) ∧
        ∀ other, IsOccurrence zone e other → (∃ i : Nat, i < scans ∧ other = cursor + i * step) →
          0 ≤ (other - t) * step := by
  have hpos : 0 < step * step := mul_self_pos.mpr hne
  rw [seekFrom_total he hstep hcursor]
  constructor
  · rintro ⟨i, hi, rfl, hoccurs, hbefore⟩
    refine ⟨⟨hoccurs, i, hi, rfl⟩, ?_⟩
    rintro _ hother ⟨j, hj, rfl⟩
    have hle : i ≤ j := by
      by_contra hlt
      exact hbefore j (by omega) hother
    have hdiff : (cursor + j * step - (cursor + i * step)) * step = ((j - i : Nat) : Int) * (step * step) := by
      rw [Nat.cast_sub hle]
      ring
    rw [hdiff]
    positivity
  · rintro ⟨⟨hoccurs, i, hi, rfl⟩, hfirst⟩
    refine ⟨i, hi, rfl, hoccurs, fun j hj hother => ?_⟩
    have hle := hfirst _ hother ⟨j, by omega, rfl⟩
    have hdiff : (cursor + j * step - (cursor + i * step)) * step =
        -(((i - j : Nat) : Int) * (step * step)) := by
      rw [Nat.cast_sub hj.le]
      ring
    have hmore : 0 < ((i - j : Nat) : Int) * (step * step) :=
      mul_pos (by exact_mod_cast Nat.sub_pos_of_lt hj) hpos
    omega

end

variable {boundary : Rat}

section
variable (he : CronText Endpoint value e)
include he

theorem seekCron_forward {t : Int} :
    seekCron (zonesOf zone) value timezone boundary true = some t ↔
      IsLeast {t : Int | IsOccurrence zone e t ∧ boundary < t ∧ (t : Rat) ≤ boundary + cronHorizonMs} t := by
  rw [seekCron, if_pos rfl, seekFrom_first he (Int.dvd_refl _) (by decide)
    (Int.dvd_add (Int.dvd_mul_left _ _) (Int.dvd_refl _))]
  refine and_congr (and_congr_right fun hoccurs => (mem_forward hoccurs.1).symm) ?_
  constructor
  · rintro hfirst other ⟨hoccurs, hwindow⟩
    have := hfirst other hoccurs ((mem_forward hoccurs.1).mp hwindow)
    unfold minuteMs at this
    omega
  · intro hleast other hoccurs hreached
    have : t ≤ other := hleast ⟨hoccurs, (mem_forward hoccurs.1).mpr hreached⟩
    unfold minuteMs
    omega

theorem seekCron_backward {t : Int} :
    seekCron (zonesOf zone) value timezone boundary false = some t ↔
      IsGreatest {t : Int | IsOccurrence zone e t ∧ (t : Rat) < boundary ∧ boundary - cronHorizonMs ≤ t} t := by
  rw [seekCron, if_neg (by decide), seekFrom_first he (Int.dvd_neg.mpr (Int.dvd_refl _)) (by decide)
    (Int.dvd_sub (Int.dvd_mul_left _ _) (Int.dvd_refl _))]
  refine and_congr (and_congr_right fun hoccurs => (mem_backward hoccurs.1).symm) ?_
  constructor
  · rintro hfirst other ⟨hoccurs, hwindow⟩
    have := hfirst other hoccurs ((mem_backward hoccurs.1).mp hwindow)
    unfold minuteMs at this
    omega
  · intro hgreatest other hoccurs hreached
    have : other ≤ t := hgreatest ⟨hoccurs, (mem_backward hoccurs.1).mpr hreached⟩
    unfold minuteMs
    omega

theorem seekCron_forward_none :
    seekCron (zonesOf zone) value timezone boundary true = none ↔
      ∀ t, IsOccurrence zone e t → boundary < t → boundary + cronHorizonMs < t := by
  rw [seekCron, if_pos rfl, seekFrom_total_none he (Int.dvd_refl _)
    (Int.dvd_add (Int.dvd_mul_left _ _) (Int.dvd_refl _))]
  constructor
  · intro hnone t hoccurs hafter
    by_contra hle
    obtain ⟨i, hi, rfl⟩ := (mem_forward hoccurs.1).mp ⟨hafter, not_lt.mp hle⟩
    exact hnone i hi hoccurs
  · intro hbeyond i hi hoccurs
    obtain ⟨hafter, hle⟩ := (mem_forward hoccurs.1).mpr ⟨i, hi, rfl⟩
    exact not_lt.mpr hle (hbeyond _ hoccurs hafter)

theorem seekCron_backward_none :
    seekCron (zonesOf zone) value timezone boundary false = none ↔
      ∀ t, IsOccurrence zone e t → (t : Rat) < boundary → (t : Rat) < boundary - cronHorizonMs := by
  rw [seekCron, if_neg (by decide), seekFrom_total_none he (Int.dvd_neg.mpr (Int.dvd_refl _))
    (Int.dvd_sub (Int.dvd_mul_left _ _) (Int.dvd_refl _))]
  constructor
  · intro hnone t hoccurs hbefore
    by_contra hle
    obtain ⟨i, hi, rfl⟩ := (mem_backward hoccurs.1).mp ⟨hbefore, not_lt.mp hle⟩
    exact hnone i hi hoccurs
  · intro hbeyond i hi hoccurs
    obtain ⟨hbefore, hle⟩ := (mem_backward hoccurs.1).mpr ⟨i, hi, rfl⟩
    exact not_lt.mpr hle (hbeyond _ hoccurs hbefore)

end

end

/-- In every zone and from every finite boundary, `nextCronOccurrence` of an accepted expression
returns the least occurrence after it that the search can reach, `previousCronOccurrence` the
greatest one before it, each throws when there is none, and the one is the neighbour of the other. -/
theorem cronSearch_exact (value : JsString) (haccepted : (validateCronExpression value).isSome = true) :
    ∃ e, CronText AnyEndpoint value e ∧
      ∀ (zone : Int → CronParts) (timezone : JsString) (boundary : Rat),
        (∀ t, seekCron (zonesOf zone) value timezone boundary true = some t ↔
          IsLeast {t : Int | IsOccurrence zone e t ∧ boundary < t ∧ (t : Rat) ≤ boundary + cronHorizonMs} t) ∧
        (seekCron (zonesOf zone) value timezone boundary true = none ↔
          ∀ t, IsOccurrence zone e t → boundary < t → boundary + cronHorizonMs < t) ∧
        (∀ t, seekCron (zonesOf zone) value timezone boundary false = some t ↔
          IsGreatest {t : Int | IsOccurrence zone e t ∧ (t : Rat) < boundary ∧ boundary - cronHorizonMs ≤ t} t) ∧
        (seekCron (zonesOf zone) value timezone boundary false = none ↔
          ∀ t, IsOccurrence zone e t → (t : Rat) < boundary → (t : Rat) < boundary - cronHorizonMs) ∧
        ∀ t, seekCron (zonesOf zone) value timezone boundary true = some t →
          seekCron (zonesOf zone) value timezone ((t : Rat) + 1) false = some t := by
  obtain ⟨-, e, he⟩ := validateCronExpression_isSome.mp haccepted
  refine ⟨e, he, fun zone timezone boundary => ⟨fun t => seekCron_forward he, seekCron_forward_none he,
    fun t => seekCron_backward he, seekCron_backward_none he, fun t hnext => ?_⟩⟩
  obtain ⟨⟨hoccurs, -, -⟩, -⟩ := (seekCron_forward he).mp hnext
  refine (seekCron_backward he).mpr ⟨⟨hoccurs, by linarith, ?_⟩, fun other hother => ?_⟩
  · have hhorizon : (1 : Rat) ≤ cronHorizonMs := by
      rw [cronHorizonMs, maxCronSearchMinutes, minuteMs]
      norm_num
    linarith
  · have hlt : (other : Rat) < ((t + 1 : Int) : Rat) := by
      push_cast
      exact hother.2.1
    have := Int.cast_lt.mp hlt
    omega

theorem cronSearch_exact_weekdays : ∃ e, CronText AnyEndpoint weekdays e :=
  (cronSearch_exact weekdays (by decide)).imp fun _ h => h.1

end PiDaemon.Scheduler
