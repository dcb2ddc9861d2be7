import PiDaemon.Scheduler.Recompute
import PiDaemon.Scheduler.Search

/-!
# The selection of due occurrences

What `#selectDue` chooses for a schedule whose trigger has come, at any instant.

* `selectDue_early_iff`: when all that is chosen are occurrences that have come;
* `selectDue_jittered_iff`: when a trigger is chosen at the end of its jitter.
-/

namespace PiDaemon.Scheduler

open Lib List Option

section
variable (platform : SchedulePlatform) (schedule : ScheduleResource)

/-- An instant that the cron expression of a schedule matches. -/
def OccursAt (t : Int) : Prop :=
  minuteMs ∣ t ∧ MatchesParts platform.zones schedule.timezone (parseCron schedule.cron) t

variable {platform schedule}

/-! ## Searches -/

theorem nextOf_occursAt {afterMs t : Int} (h : nextOf platform schedule afterMs = some t) :
    OccursAt platform schedule t := by
  obtain ⟨_, -, rfl, hmatches, -⟩ := seekFrom_eq_some.mp h
  refine ⟨?_, hmatches⟩
  exact Int.dvd_add (Int.dvd_add (Int.dvd_mul_left _ _) (Int.dvd_refl _)) (Int.dvd_mul_left _ _)

/-- The first minute boundary that is not before an instant. -/
def minuteFrom (ms : Int) : Int := ceilMinutes ms * minuteMs

theorem minuteFrom_bounds (ms : Int) : ms ≤ minuteFrom ms ∧ minuteFrom ms < ms + minuteMs := by
  unfold minuteFrom ceilMinutes minuteMs
  omega

theorem minuteFrom_dvd (ms : Int) : minuteMs ∣ minuteFrom ms := Int.dvd_mul_left _ _

theorem minuteFrom_eq_iff {ms : Int} : minuteFrom ms = ms ↔ minuteMs ∣ ms := by
  constructor
  · intro h
    rw [← h]
    exact minuteFrom_dvd ms
  · rintro ⟨_, rfl⟩
    unfold minuteFrom ceilMinutes minuteMs
    omega

theorem minuteFrom_cursor (ms : Int) :
    ceilMinutes (ms + minuteMs) * minuteMs - minuteMs = minuteFrom ms := by
  unfold minuteFrom ceilMinutes minuteMs
  omega

/-- The occurrence that a run-once catch-up looks for. -/
theorem previous_eq_some {now t : Int} :
    previousCronOccurrence platform.zones schedule.cron schedule.timezone (now + minuteMs) = some t ↔
      OccursAt platform schedule t ∧ t ≤ minuteFrom now ∧ minuteFrom now < t + cronHorizonMs ∧
        ∀ other, minuteMs ∣ other → t < other → other ≤ minuteFrom now →
          PassedAt platform.zones schedule.timezone (parseCron schedule.cron) other := by
  rw [previousCronOccurrence, minuteFrom_cursor, seekFrom_eq_some]
  obtain ⟨first, hfirst⟩ := minuteFrom_dvd now
  rw [hfirst]
  constructor
  · rintro ⟨i, _, rfl, hmatches, hpassed⟩
    refine ⟨⟨⟨first - i, by ring⟩, hmatches⟩, ?_, ?_, ?_⟩
    · unfold minuteMs
      omega
    · unfold cronHorizonMs minuteMs
      omega
    · rintro _ ⟨m, rfl⟩ hlt hle
      have hat := hpassed (first - m).toNat (by unfold minuteMs at hlt hle; omega)
      rwa [show minuteMs * first + ((first - m).toNat : Int) * -minuteMs = minuteMs * m by
        unfold minuteMs at hlt hle ⊢; omega] at hat
  · rintro ⟨⟨⟨m, rfl⟩, hmatches⟩, hle, hhorizon, hpassed⟩
    refine ⟨(first - m).toNat, ?_, ?_, hmatches, fun j hj => ?_⟩
    · unfold cronHorizonMs maxCronSearchMinutes minuteMs at hhorizon
      unfold maxCronSearchMinutes
      omega
    · unfold minuteMs at hle ⊢
      omega
    · refine hpassed _ ⟨first - j, by ring⟩ ?_ ?_
      · unfold minuteMs
        omega
      · unfold minuteMs
        omega

/-! ## Catch-up -/

theorem catchUp_spec {now occurrence : Int} {count : Nat} {run : List Int}
    (h : catchUp platform schedule now count occurrence = some run) :
    ∀ o ∈ run, o ≤ now ∧ (o = occurrence ∨ OccursAt platform schedule o) := by
  induction count generalizing occurrence run with
  | zero =>
    cases h
    exact fun o ho => by cases ho
  | succ count ih =>
    rw [catchUp] at h
    split at h
    · rename_i hle
      cases hnext : nextOf platform schedule occurrence with
      | none => simp [hnext] at h
      | some =>
        simp only [hnext, map_eq_some_iff] at h
        obtain ⟨_, hlater, rfl⟩ := h
        refine forall_mem_cons.mpr ⟨⟨hle, .inl rfl⟩, fun o ho => ?_⟩
        obtain ⟨hcome, rfl | hoccurs⟩ := ih hlater o ho
        · exact ⟨hcome, .inr (nextOf_occursAt hnext)⟩
        · exact ⟨hcome, .inr hoccurs⟩
    · cases h
      exact fun o ho => by cases ho

theorem mem_catchUp {now occurrence : Int} {count : Nat} {run : List Int} (hle : occurrence ≤ now)
    (h : catchUp platform schedule now (count + 1) occurrence = some run) : occurrence ∈ run := by
  rw [catchUp, if_pos hle] at h
  cases hnext : nextOf platform schedule occurrence with
  | none => simp [hnext] at h
  | some =>
    simp only [hnext, map_eq_some_iff] at h
    obtain ⟨_, -, rfl⟩ := h
    exact mem_cons_self

theorem dueTrigger_le {now first : Int} (h : dueTrigger platform now schedule = some first) :
    first ≤ now := by
  unfold dueTrigger at h
  split at h
  · cases h
  split at h
  · rename_i hdue
    cases h
    exact hdue.2.1
  · cases h

end

/-! ## No early firing -/

section
variable (platform : SchedulePlatform) (schedule : ScheduleResource)

/-- An occurrence that has come and, for a run-once catch-up, the latest of them. -/
def HasCome (now o : Int) : Prop :=
  OccursAt platform schedule o ∧ o ≤ now ∧
    (schedule.missedWakePolicy = .runOnce → ∀ t, OccursAt platform schedule t → t ≤ now → t ≤ o)

/-- A trigger that is not missed is an occurrence, under run-once the latest one; a run-once catch-up
happens on a minute boundary, or the next boundary is no occurrence; a bounded one begins with a
trigger that is an occurrence. -/
def SelectsInTime (first now : Int) : Prop :=
  if now - first ≤ schedule.maxAdmissionDelayMs then
    OccursAt platform schedule first ∧
      (schedule.missedWakePolicy = .runOnce →
        ∀ t, OccursAt platform schedule t → first < t → now < t)
  else
    match schedule.missedWakePolicy with
    | .skip => True
    | .runOnce => minuteMs ∣ now ∨ ¬ OccursAt platform schedule (minuteFrom now)
    | .boundedCatchUp maxRuns => maxRuns = 0 ∨ OccursAt platform schedule first

variable {platform schedule}

theorem runOnce_iff {now o : Int}
    (h : previousCronOccurrence platform.zones schedule.cron schedule.timezone (now + minuteMs) = some o) :
    HasCome platform schedule now o ↔ minuteMs ∣ now ∨ ¬ OccursAt platform schedule (minuteFrom now) := by
  obtain ⟨hoccurs, hle, -, hpassed⟩ := previous_eq_some.mp h
  obtain ⟨_, hhigh⟩ := minuteFrom_bounds now
  constructor
  · rintro ⟨-, hcome, -⟩
    by_cases haligned : minuteMs ∣ now
    · exact .inl haligned
    refine .inr fun hboundary => ?_
    have hne := mt minuteFrom_eq_iff.mp haligned
    exact (hpassed _ (minuteFrom_dvd now) (by omega) (le_refl _)).not_matches hboundary.2
  · intro hboundary
    have hcome : o ≤ now := by
      rcases hboundary with haligned | hboundary
      · rwa [minuteFrom_eq_iff.mpr haligned] at hle
      by_contra hlt
      obtain ⟨_, hm⟩ := hoccurs.1
      obtain ⟨_, hc⟩ := minuteFrom_dvd now
      have heq : o = minuteFrom now := by
        unfold minuteMs at hm hc hhigh
        omega
      exact hboundary (heq ▸ hoccurs)
    refine ⟨hoccurs, hcome, fun _ t ht htle => ?_⟩
    by_contra hlt
    exact (hpassed t ht.1 (by omega) (by omega)).not_matches ht.2

/-- What is chosen has come exactly under that condition. -/
theorem selectDue_early_iff (platform : SchedulePlatform) (schedule : ScheduleResource)
    {first now : Int} {run : List Int} (hdue : dueTrigger platform now schedule = some first)
    (hrun : selectDue platform schedule first now = some run) :
    (∀ o ∈ run, HasCome platform schedule now o) ↔ SelectsInTime platform schedule first now := by
  have hcome := dueTrigger_le hdue
  unfold SelectsInTime
  unfold selectDue at hrun
  split at hrun
  · rename_i hdelay
    cases hrun
    rw [if_pos hdelay, forall_mem_singleton]
    constructor
    · rintro ⟨hoccurs, -, hlatest⟩
      refine ⟨hoccurs, fun hpolicy t ht hlt => ?_⟩
      by_contra hle
      have := hlatest hpolicy t ht (by omega)
      omega
    · rintro ⟨hoccurs, hlatest⟩
      refine ⟨hoccurs, hcome, fun hpolicy t ht hle => ?_⟩
      by_contra hlt
      have := hlatest hpolicy t ht (by omega)
      omega
  · rename_i hdelay
    rw [if_neg hdelay]
    cases hpolicy : schedule.missedWakePolicy with
    | skip =>
      simp only [hpolicy] at hrun
      cases hrun
      exact iff_of_true (fun o ho => by cases ho) trivial
    | runOnce =>
      simp only [hpolicy, map_eq_some_iff] at hrun
      obtain ⟨o, ho, rfl⟩ := hrun
      rw [forall_mem_singleton]
      exact runOnce_iff ho
    | boundedCatchUp maxRuns =>
      simp only [hpolicy] at hrun
      constructor
      · intro hall
        cases maxRuns with
        | zero => exact .inl rfl
        | succ => exact .inr (hall first (mem_catchUp hcome hrun)).1
      · intro hfirst o ho
        have hno : schedule.missedWakePolicy ≠ .runOnce := by
          rw [hpolicy]
          intro h
          cases h
        obtain ⟨hle, rfl | hoccurs⟩ := catchUp_spec hrun o ho
        · rcases hfirst with rfl | hfirst
          · cases hrun
            cases ho
          · exact ⟨hfirst, hle, fun h => absurd h hno⟩
        · exact ⟨hoccurs, hle, fun h => absurd h hno⟩

/-- A schedule of every minute that has missed its trigger. -/
def missedSchedule : ScheduleResource :=
  { cronSchedule "a" "* * * * *" with
    missedWakePolicy := .runOnce
    nextTriggerAt := some (isoTimestamp 60000) }

theorem selectDue_early_aligned : dueTrigger utcPlatform 120000 missedSchedule = some 60000 ∧
    ∀ o ∈ [120000], HasCome utcPlatform missedSchedule 120000 o :=
  have hdue : dueTrigger utcPlatform 120000 missedSchedule = some 60000 := by decide +kernel
  ⟨hdue, (selectDue_early_iff utcPlatform missedSchedule hdue (by decide +kernel)).mpr
    (Or.inl ⟨2, rfl⟩)⟩

/-- Half a minute after a missed trigger a run-once catch-up chooses the occurrence to come. -/
theorem selectDue_early :
    validateScheduleResource defaultLimits utcPlatform.known missedSchedule = .ok missedSchedule ∧
      dueTrigger utcPlatform 90000 missedSchedule = some 60000 ∧
      selectDue utcPlatform missedSchedule 60000 90000 = some [120000] ∧
      ¬ ∀ o ∈ [120000], HasCome utcPlatform missedSchedule 90000 o := by
  refine ⟨by decide +kernel, by decide +kernel, by decide +kernel, fun h => ?_⟩
  have hcome := (h 120000 mem_cons_self).2.1
  omega

/-! ## Jitter -/

section
variable (platform : SchedulePlatform) (schedule : ScheduleResource)

/-- The delay of a trigger. -/
def jitterOf (next : Timestamp) : Nat :=
  stableJitter platform schedule.scheduleId next schedule.jitterMs

/-- The occurrence that a catch-up from an instant reaches after some others. -/
def occurrenceAfter : Nat → Int → Option Int
  | 0, occurrence => some occurrence
  | count + 1, occurrence => (nextOf platform schedule occurrence).bind (occurrenceAfter count)

/-- The jitter is within the admission delay, or the policy for missed wakes still chooses the
trigger: a bounded catch-up whose searches all find an occurrence, or a run-once one for which no
minute after the trigger, up to the first boundary from now on, is an occurrence. -/
def SurvivesJitter (first now : Int) : Prop :=
  now - first ≤ schedule.maxAdmissionDelayMs ∨
    match schedule.missedWakePolicy with
    | .skip => False
    | .runOnce =>
      OccursAt platform schedule first ∧ minuteFrom now < first + cronHorizonMs ∧
        ∀ t, minuteMs ∣ t → first < t → t ≤ minuteFrom now →
          PassedAt platform.zones schedule.timezone (parseCron schedule.cron) t
    | .boundedCatchUp maxRuns =>
      1 ≤ maxRuns ∧ ∀ k, k < maxRuns → ∀ o, occurrenceAfter platform schedule k first = some o →
        (∀ j, j ≤ k → ∀ before, occurrenceAfter platform schedule j first = some before → before ≤ now) →
          (nextOf platform schedule o).isSome

variable {platform schedule}

/-- A catch-up ends when each occurrence that it runs has a next one. -/
theorem catchUp_isSome {now occurrence : Int} {count : Nat} :
    (catchUp platform schedule now count occurrence).isSome = true ↔
      ∀ k, k < count → ∀ o, occurrenceAfter platform schedule k occurrence = some o →
        (∀ j, j ≤ k → ∀ before, occurrenceAfter platform schedule j occurrence = some before →
          before ≤ now) → (nextOf platform schedule o).isSome = true := by
  induction count generalizing occurrence with
  | zero => exact iff_of_true rfl fun k hk => by omega
  | succ count ih =>
    rw [catchUp]
    constructor
    · intro h k hk o ho hcome
      have hle : occurrence ≤ now := hcome 0 (by omega) occurrence rfl
      rw [if_pos hle] at h
      cases hnext : nextOf platform schedule occurrence with
      | none => simp [hnext] at h
      | some next =>
        simp only [hnext, isSome_map] at h
        cases k with
        | zero =>
          cases ho
          rw [hnext]
          rfl
        | succ k =>
          have hafter (j : Nat) : occurrenceAfter platform schedule (j + 1) occurrence =
              occurrenceAfter platform schedule j next := by
            rw [occurrenceAfter, hnext, bind_some]
          rw [hafter] at ho
          refine ih.mp h k (by omega) o ho fun j hj before hbefore => ?_
          exact hcome (j + 1) (by omega) before (by rw [hafter]; exact hbefore)
    · intro h
      split
      · rename_i hle
        have hfirst := h 0 (by omega) occurrence rfl fun j hj before hbefore => by
          obtain rfl : j = 0 := by omega
          cases hbefore
          exact hle
        obtain ⟨next, hnext⟩ := isSome_iff_exists.mp hfirst
        have hafter (j : Nat) : occurrenceAfter platform schedule (j + 1) occurrence =
            occurrenceAfter platform schedule j next := by
          rw [occurrenceAfter, hnext, bind_some]
        simp only [hnext, isSome_map]
        refine ih.mpr fun k hk o ho hcome => ?_
        refine h (k + 1) (by omega) o (by rw [hafter]; exact ho) fun j hj before hbefore => ?_
        cases j with
        | zero =>
          cases hbefore
          exact hle
        | succ j => exact hcome j (by omega) before (by rw [← hafter]; exact hbefore)
      · rfl

/-- A trigger is due from the end of its jitter on. -/
theorem dueTrigger_iff (platform : SchedulePlatform) {schedule : ScheduleResource} {next : Timestamp}
    (henabled : schedule.enabled = true) (hnext : schedule.nextTriggerAt = some next) (now : Int) :
    dueTrigger platform now schedule = some next.ms ↔
      next.ms + jitterOf platform schedule next ≤ now := by
  rw [dueTrigger, hnext]
  simp only [henabled, true_and]
  split
  · rename_i hdue
    exact iff_of_true rfl hdue.2
  rename_i hdue
  refine iff_of_false (fun h => by cases h) fun hle => hdue ⟨?_, hle⟩
  omega

/-- At the end of its jitter, the first instant at which it is due, a trigger is chosen exactly
under that condition. -/
theorem selectDue_jittered_iff (platform : SchedulePlatform) (schedule : ScheduleResource)
    {next : Timestamp} (henabled : schedule.enabled = true) (hnext : schedule.nextTriggerAt = some next) :
    (∀ now, dueTrigger platform now schedule = some next.ms ↔
      next.ms + jitterOf platform schedule next ≤ now) ∧
    ((∃ run, selectDue platform schedule next.ms (next.ms + jitterOf platform schedule next) = some run ∧
        next.ms ∈ run) ↔
      SurvivesJitter platform schedule next.ms (next.ms + jitterOf platform schedule next)) := by
  refine ⟨dueTrigger_iff platform henabled hnext, ?_⟩
  have hcome : next.ms ≤ next.ms + jitterOf platform schedule next := by omega
  generalize next.ms + (jitterOf platform schedule next : Int) = now at hcome ⊢
  unfold SurvivesJitter selectDue
  by_cases hdelay : now - next.ms ≤ schedule.maxAdmissionDelayMs
  · rw [if_pos hdelay]
    exact iff_of_true ⟨_, rfl, mem_cons_self⟩ (.inl hdelay)
  rw [if_neg hdelay, or_iff_right hdelay]
  cases hpolicy : schedule.missedWakePolicy with
  | skip =>
    refine iff_of_false ?_ id
    rintro ⟨run, hrun, hmem⟩
    cases hrun
    cases hmem
  | runOnce =>
    constructor
    · rintro ⟨run, hrun, hmem⟩
      obtain ⟨_, ho, rfl⟩ := map_eq_some_iff.mp hrun
      obtain rfl := mem_singleton.mp hmem
      obtain ⟨hoccurs, -, hhorizon, hpassed⟩ := previous_eq_some.mp ho
      exact ⟨hoccurs, hhorizon, hpassed⟩
    · rintro ⟨hoccurs, hhorizon, hpassed⟩
      have hle : next.ms ≤ minuteFrom now := by
        have := (minuteFrom_bounds now).1
        omega
      refine ⟨[next.ms], ?_, mem_cons_self⟩
      rw [previous_eq_some.mpr ⟨hoccurs, hle, hhorizon, hpassed⟩]
      rfl
  | boundedCatchUp maxRuns =>
    simp only
    rw [← catchUp_isSome]
    constructor
    · rintro ⟨run, hrun, hmem⟩
      refine ⟨?_, by rw [hrun]; rfl⟩
      cases maxRuns with
      | zero =>
        cases hrun
        cases hmem
      | succ => omega
    · rintro ⟨_, hsome⟩
      obtain ⟨run, hrun⟩ := isSome_iff_exists.mp hsome
      refine ⟨run, hrun, ?_⟩
      obtain ⟨_, rfl⟩ := Nat.exists_eq_succ_of_ne_zero (by omega : maxRuns ≠ 0)
      exact mem_catchUp hcome hrun

end

/-- A platform with the digest of the ID `a` and the second minute. -/
def lateDigests : SchedulePlatform := { utcPlatform with digest := fun _ _ => 4169504435 }

/-- Up to three seconds of jitter, and one second of delay. -/
def jitteredSchedule : ScheduleResource :=
  { cronSchedule "a" "* * * * *" with
    jitterMs := 3000
    nextTriggerAt := some (isoTimestamp 60000) }

theorem selectDue_jittered_exact :
    ∃ run, selectDue utcPlatform jitteredSchedule 60000 60000 = some run ∧ (60000 : Int) ∈ run :=
  (selectDue_jittered_iff utcPlatform jitteredSchedule rfl
    (show jitteredSchedule.nextTriggerAt = some (isoTimestamp 60000) from rfl)).2.mpr
    (.inl (by decide))

/-- A valid schedule whose jitter makes it skip its occurrence. -/
theorem selectDue_jittered :
    validateScheduleResource defaultLimits lateDigests.known jitteredSchedule = .ok jitteredSchedule ∧
      (∀ now, dueTrigger lateDigests now jitteredSchedule = some 60000 → 62064 ≤ now) ∧
      dueTrigger lateDigests 62064 jitteredSchedule = some 60000 ∧
      selectDue lateDigests jitteredSchedule 60000 62064 = some [] := by
  refine ⟨by decide +kernel, fun now hdue => ?_, by decide +kernel, by decide +kernel⟩
  have hnext : jitteredSchedule.nextTriggerAt = some (isoTimestamp 60000) := rfl
  have hjitter : jitterOf lateDigests jitteredSchedule (isoTimestamp 60000) = 2064 := by decide +kernel
  have hreached := (dueTrigger_iff lateDigests rfl hnext now).mp hdue
  exact hreached

end

end PiDaemon.Scheduler
