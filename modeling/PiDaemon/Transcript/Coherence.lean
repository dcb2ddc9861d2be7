import PiDaemon.Lib.Calendar
import PiDaemon.Transcript.Upserting

/-!
# Coherence of the transcript store

What holds of the store between two actions (`Coherent`).

* `coherent_run`: it holds in every run whose actions are all settled: none brings two new records
  of one identity, and none changes the timestamp of a held record without bringing a new one;
* `incoherent_runs`: a run with two new records of one identity, and one in which a record is
  replaced by a later one.
-/

namespace PiDaemon.Transcript

open Lib Streams List

variable {N : Type} (platform : TranscriptPlatform N)

/-- The facts that the store keeps about its records. -/
structure Coherent (state : TranscriptStoreState N) : Prop where
  distinct : (identities state.records).Nodup
  index : Indexed state.records state.index
  measured : Measured platform state.records state.sizes state.totalBytes
  count : state.records.length ≤ state.limits.maxRecords
  bytes : state.totalBytes ≤ state.limits.maxBytes
  sorted : state.records.Pairwise fun first second => inOrder platform first second = true

/-- No record has been replaced by one of a lower rank. -/
def KeepsRank (before after : List (NormalizedTranscriptRecord N)) : Prop :=
  ∀ held ∈ before, ∀ record ∈ after, transcriptRecordIdentity held = transcriptRecordIdentity record →
    sourceRank held.source ≤ sourceRank record.source

/-- The records bring no identity twice that is new to the store; and when they bring none that is new,
what comes to stand for a held record has its timestamp. -/
def Settles (state : TranscriptStoreState N) (incoming : List (NormalizedTranscriptRecord N)) : Prop :=
  (identities (arrivals platform state.limits state.records incoming)).Nodup ∧
    (arrivals platform state.limits state.records incoming = [] → ∀ held ∈ state.records,
      timestamp platform (standing platform state.limits incoming held) = timestamp platform held)

def Settled (state : TranscriptStoreState N) : TranscriptStoreAction N → Prop
  | .upsert identity records _ => state.identity = identity → Settles platform state records
  | .entryAppended identity record _ =>
    state.identity = identity → Settles platform state [{ record with source := .persisted }]
  | _ => True

instance (state : TranscriptStoreState N) (incoming : List (NormalizedTranscriptRecord N)) :
    Decidable (Settles platform state incoming) := inferInstanceAs (Decidable (_ ∧ _))

instance (state : TranscriptStoreState N) :
    (action : TranscriptStoreAction N) → Decidable (Settled platform state action)
  | .upsert _ _ _ => inferInstanceAs (Decidable (_ → _))
  | .entryAppended _ _ _ => inferInstanceAs (Decidable (_ → _))
  | .snapshot _ _ _ => .isTrue trivial
  | .reconcile _ _ _ => .isTrue trivial
  | .replayGap _ _ _ => .isTrue trivial

/-- The reducer as a step, which every action has. -/
def reduce (state : TranscriptStoreState N) (action : TranscriptStoreAction N) :
    Option (TranscriptStoreState N) := some (transcriptStoreReducer platform state action)

variable {platform} {state : TranscriptStoreState N} {incoming records : List (NormalizedTranscriptRecord N)}

/-! ## The order -/

theorem inOrder_iff {first second : NormalizedTranscriptRecord N} :
    inOrder platform first second = true ↔
      timestamp platform first < timestamp platform second ∨
        timestamp platform first = timestamp platform second ∧
          (platform.localeCompare (transcriptRecordIdentity first)
            (transcriptRecordIdentity second)).isLE = true := by
  rw [inOrder, compareRecords]
  rcases lt_trichotomy (timestamp platform first) (timestamp platform second) with h | h | h
  · simp [compare_lt_iff_lt.mpr h, h]
  · simp [h]
  · simp [compare_gt_iff_gt.mpr h, h.le, h.ne', not_lt_of_gt h]

section
variable [Std.TransCmp platform.localeCompare]

theorem inOrder_trans (first second third : NormalizedTranscriptRecord N)
    (h : inOrder platform first second = true) (h' : inOrder platform second third = true) :
    inOrder platform first third = true := by
  rw [inOrder_iff] at h h' ⊢
  rcases h with h | ⟨h, hle⟩
  · exact .inl (by omega)
  rcases h' with h' | ⟨h', hle'⟩
  · exact .inl (by omega)
  · exact .inr ⟨h.trans h', Std.TransCmp.isLE_trans hle hle'⟩

theorem inOrder_total (first second : NormalizedTranscriptRecord N) :
    (inOrder platform first second || inOrder platform second first) = true := by
  rw [Bool.or_eq_true, inOrder_iff, inOrder_iff]
  rcases lt_trichotomy (timestamp platform first) (timestamp platform second) with h | h | h
  · exact .inl (.inl h)
  · have hswap : platform.localeCompare (transcriptRecordIdentity second) (transcriptRecordIdentity first) =
        (platform.localeCompare (transcriptRecordIdentity first) (transcriptRecordIdentity second)).swap :=
      Std.OrientedCmp.eq_swap
    cases hcompare : platform.localeCompare (transcriptRecordIdentity first)
        (transcriptRecordIdentity second) with
    | lt => exact .inl (.inr ⟨h, by simp⟩)
    | eq => exact .inl (.inr ⟨h, by simp⟩)
    | gt =>
      rw [hcompare] at hswap
      exact .inr (.inr ⟨h.symm, by rw [hswap]; rfl⟩)
  · exact .inr (.inl h)

variable (platform) in
theorem pairwise_sorted (records : List (NormalizedTranscriptRecord N)) :
    (stableSort (inOrder platform) records).Pairwise fun first second => inOrder platform first second = true :=
  pairwise_stableSort inOrder_trans inOrder_total

end

/-! ## Maps of the records -/

theorem indexed_buildIndex (hnodup : (identities records).Nodup) : Indexed records (buildIndex records) := by
  intro key position
  have hkeys : (records.zipIdx.map fun p => (transcriptRecordIdentity p.1, p.2)).map Prod.fst =
      identities records := by
    rw [map_map, identities]
    conv_rhs => rw [← zipIdx_map_fst 0 records, map_map]
    rfl
  have hnodup' : ((records.zipIdx.map fun p => (transcriptRecordIdentity p.1, p.2)).map Prod.fst).Nodup := by
    rwa [hkeys]
  have hget := OrderedMap.get?_ofPairs hnodup' (k := key) (v := position)
  show (OrderedMap.ofPairs _).get? key = some position ↔ _
  rw [hget, identities, List.getElem?_map, Option.map_eq_some_iff, mem_map]
  constructor
  · rintro ⟨⟨record, _⟩, hmem, heq⟩
    cases heq
    exact ⟨record, List.mem_zipIdx_iff_getElem?.mp hmem, rfl⟩
  · rintro ⟨record, hrecord, rfl⟩
    exact ⟨(record, position), List.mem_zipIdx_iff_getElem?.mpr hrecord, rfl⟩

theorem measured_buildSizes (hnodup : (identities records).Nodup) :
    Measured platform records (buildSizes platform records) (bytesOf platform records) where
  sizes key size := by
    refine OrderedMap.get?_ofPairs ?_
    rw [map_map]
    exact hnodup
  total := rfl

/-! ## The actions -/

section
variable [Std.TransCmp platform.localeCompare]

theorem coherent_normalizeSnapshot {limits : TranscriptStoreLimits} (hlimits : limits.Positive)
    (identity : DashboardSessionIdentity) (records : List (NormalizedTranscriptRecord N))
    (cursor : Option JsString) :
    Coherent platform (normalizeSnapshot platform identity records limits cursor) := by
  unfold normalizeSnapshot
  dsimp only
  have hordered : (stableSort (inOrder platform) (deduplicate platform limits records).1.values).Perm
      (deduplicate platform limits records).1.values := perm_stableSort
  have hnodup : (identities (stableSort (inOrder platform) (deduplicate platform limits records).1.values)).Nodup :=
    (hordered.map _).nodup_iff.mpr (nodup_values_of_placed (placed_deduplicate records))
  have hsorted := pairwise_sorted platform (deduplicate platform limits records).1.values
  generalize stableSort (inOrder platform) (deduplicate platform limits records).1.values = ordered at *
  obtain ⟨hslice, hcount⟩ := sliceLast_spec hlimits.maxRecords ordered
  obtain ⟨hsub, htotal, hbytes⟩ := keepRecords_spec platform limits
    ((deduplicate platform limits records).2 + (ordered.length - limits.maxRecords))
    (sliceLast limits.maxRecords ordered)
  have hkept := hsub.trans hslice
  have hdistinct := hnodup.sublist (hkept.map transcriptRecordIdentity)
  exact
    { distinct := hdistinct
      index := indexed_buildIndex hdistinct
      measured := by
        rw [htotal]
        exact measured_buildSizes hdistinct
      count := hsub.length_le.trans hcount
      bytes := hbytes
      sorted := hsorted.sublist hkept }

end

/-- The variables before the loop of an upsert. -/
def TranscriptStoreState.upserting (state : TranscriptStoreState N) : Upserting N :=
  ⟨state.records, state.sizes, state.totalBytes, state.droppedRecords, false⟩

theorem upsertRecords_eq (cursor : Option JsString) :
    upsertRecords platform state incoming cursor =
      finishUpsert platform state cursor
        (loop platform state.limits state.index state.upserting incoming) := rfl

theorem mem_finishUpsert {after : Upserting N} {cursor : Option JsString}
    {record : NormalizedTranscriptRecord N} (h : record ∈ (finishUpsert platform state cursor after).records) :
    record ∈ after.records := by
  unfold finishUpsert at h
  have hmem := (evictRecords_sublist _ _ _ _ _).subset h
  split at hmem
  · exact mem_stableSort.mp hmem
  · exact hmem

/-- A record that is held is not replaced by one of a lower rank. -/
theorem keepsRank_upsertRecords (hcoherent : Coherent platform state)
    (incoming : List (NormalizedTranscriptRecord N)) (cursor : Option JsString) :
    KeepsRank state.records (upsertRecords platform state incoming cursor).records := by
  intro held hheld record hrecord hsame
  rw [upsertRecords_eq] at hrecord
  have hmem := mem_finishUpsert hrecord
  have hrecords := (loop_records platform state.limits hcoherent.index hcoherent.distinct
    (show state.upserting.records = state.records from rfl) rfl incoming).1
  rw [hrecords, mem_append] at hmem
  rcases hmem with hmem | hmem
  · obtain ⟨other, hother, rfl⟩ := mem_map.mp hmem
    rw [identity_standing] at hsame
    rw [inj_on_of_nodup_map hcoherent.distinct hheld hother hsame]
    exact rank_standing other
  · refine absurd (mem_identities.mpr ⟨held, hheld, hsame⟩) ?_
    exact not_mem_identities_of_arrives (mem_identities.mpr ⟨record, hmem, rfl⟩)

section
variable [Std.TransCmp platform.localeCompare]

theorem sorted_loop (hcoherent : Coherent platform state) (hsettles : Settles platform state incoming)
    {after : Upserting N} (hrecords : after.records =
      state.records.map (standing platform state.limits incoming) ++
        arrivals platform state.limits state.records incoming)
    (happended : after.appended = true ↔ arrivals platform state.limits state.records incoming ≠ []) :
    (if after.appended then stableSort (inOrder platform) after.records else after.records).Pairwise
      fun first second => inOrder platform first second = true := by
  split
  · exact pairwise_sorted platform _
  rename_i hnot
  have hnone : arrivals platform state.limits state.records incoming = [] := by
    by_contra hsome
    exact hnot (happended.mpr hsome)
  have htime := hsettles.2 hnone
  rw [hrecords, hnone, append_nil, pairwise_map]
  refine hcoherent.sorted.imp_of_mem fun {first second} hfirst hsecond h => ?_
  -- what stands for a record is compared as the record
  rw [inOrder_iff, htime first hfirst, htime second hsecond, identity_standing, identity_standing]
  exact inOrder_iff.mp h

/-- What is left of the records is coherent, when they are sorted and measured after the loop. -/
theorem coherent_finishUpsert {after : Upserting N} {cursor : Option JsString}
    (hdistinct : (identities after.records).Nodup)
    (hmeasured : Measured platform after.records after.sizes after.totalBytes)
    (hsorted : (if after.appended then stableSort (inOrder platform) after.records
      else after.records).Pairwise fun first second => inOrder platform first second = true)
    (hindex : after.appended = false → Indexed after.records state.index)
    (hdropped : state.droppedRecords ≤ after.droppedRecords) :
    Coherent platform (finishUpsert platform state cursor after) := by
  have hperm : (if after.appended then stableSort (inOrder platform) after.records
      else after.records).Perm after.records := by
    split
    · exact perm_stableSort
    · exact List.Perm.refl _
  have hsame : after.appended = false → (if after.appended then stableSort (inOrder platform) after.records
      else after.records) = after.records := fun happended => by rw [happended]; rfl
  unfold finishUpsert
  dsimp only
  generalize (if after.appended then stableSort (inOrder platform) after.records else after.records) = sorted
    at *
  have hnodup : (identities sorted).Nodup := (hperm.map _).nodup_iff.mpr hdistinct
  have hsub := evictRecords_sublist state.limits sorted after.sizes after.totalBytes
    after.droppedRecords
  obtain ⟨hleft, hcount, hbytes, _⟩ := evictRecords_spec state.limits after.droppedRecords
    (hmeasured.perm hperm) hnodup
  generalize evictRecords state.limits sorted after.sizes after.totalBytes after.droppedRecords = left at *
  have hleftdistinct := hnodup.sublist (hsub.map transcriptRecordIdentity)
  exact
    { distinct := hleftdistinct
      index := by
        split
        · exact indexed_buildIndex hleftdistinct
        rename_i hnot
        rw [not_or, Bool.not_eq_true, not_not] at hnot
        obtain ⟨happended, hnone⟩ := hnot
        -- nothing has gone, so the records are where they were
        have hgone : left.2.2.2 = state.droppedRecords := hnone
        have hlength := hsub.length_le
        have hwhole : left.1 = sorted := hsub.eq_of_length (by omega)
        rw [happended, hwhole, hsame happended]
        exact hindex happended
      measured := hleft
      count := hcount
      bytes := hbytes
      sorted := hsorted.sublist hsub }

theorem coherent_upsertRecords (hcoherent : Coherent platform state)
    (hsettles : Settles platform state incoming) (cursor : Option JsString) :
    Coherent platform (upsertRecords platform state incoming cursor) := by
  obtain ⟨hrecords, happended⟩ := loop_records platform state.limits hcoherent.index
    hcoherent.distinct (show state.upserting.records = state.records from rfl) rfl incoming
  have hall : (identities (state.records ++
      arrivals platform state.limits state.records incoming)).Nodup := by
    rw [identities_append]
    refine nodup_append.mpr ⟨hcoherent.distinct, hsettles.1, ?_⟩
    rintro key hheld _ harrived rfl
    exact not_mem_identities_of_arrives harrived hheld
  have hids : identities (loop platform state.limits state.index state.upserting incoming).records =
      identities (state.records ++ arrivals platform state.limits state.records incoming) := by
    rw [hrecords, identities_append, identities_append, identities_map_standing]
  have hmeasured := measured_loop hcoherent.index (show state.upserting.records = state.records from rfl)
    rfl hcoherent.measured hall
  rw [upsertRecords_eq]
  refine coherent_finishUpsert (by rwa [hids]) hmeasured (sorted_loop hcoherent hsettles hrecords happended)
    (fun hnot => ?_) (droppedRecords_le_loop state.upserting)
  have hnone : arrivals platform state.limits state.records incoming = [] := by
    by_contra hsome
    rw [happended.mpr hsome] at hnot
    cases hnot
  intro key position
  rw [hids, hnone, append_nil]
  exact hcoherent.index key position

/-- An action that is settled keeps the store coherent. -/
theorem Coherent.reduce {action : TranscriptStoreAction N} (h : Coherent platform state)
    (hlimits : state.limits.Positive) (hsettled : Settled platform state action) :
    Coherent platform (transcriptStoreReducer platform state action) ∧
      (transcriptStoreReducer platform state action).limits = state.limits := by
  cases action with
  | snapshot => exact ⟨coherent_normalizeSnapshot hlimits _ _ _, rfl⟩
  | reconcile =>
    simp only [transcriptStoreReducer]
    split
    · exact ⟨h, rfl⟩
    · exact ⟨coherent_normalizeSnapshot hlimits _ _ _, rfl⟩
  | upsert identity records cursor =>
    simp only [transcriptStoreReducer]
    split
    · exact ⟨h, rfl⟩
    · rename_i hidentity
      exact ⟨coherent_upsertRecords h (hsettled (not_not.mp hidentity)) cursor, rfl⟩
  | entryAppended =>
    simp only [transcriptStoreReducer]
    split
    · exact ⟨h, rfl⟩
    rename_i hidentity
    refine ⟨coherent_upsertRecords ?_ ?_ _, rfl⟩
    · exact ⟨h.distinct, h.index, h.measured, h.count, h.bytes, h.sorted⟩
    · exact hsettled (not_not.mp hidentity)
  | replayGap =>
    simp only [transcriptStoreReducer]
    split
    · exact ⟨h, rfl⟩
    · exact ⟨⟨h.distinct, h.index, h.measured, h.count, h.bytes, h.sorted⟩, rfl⟩

/-- In every run whose actions are all settled, the store is coherent, and an upsert or an appended
entry, whatever it brings, replaces no record by one of a lower rank. -/
theorem coherent_run {limits : TranscriptStoreLimits} (hlimits : limits.Positive)
    {identity : DashboardSessionIdentity} {cursor : Option JsString}
    {actions : List (TranscriptStoreAction N)}
    (hrun : run (reduce platform) (createTranscriptStore platform identity records limits cursor) actions =
      some state)
    (hmeets : Meets (reduce platform) (Settled platform)
      (createTranscriptStore platform identity records limits cursor) actions) :
    Coherent platform state ∧ state.limits = limits ∧
      (∀ incoming cursor, KeepsRank state.records
        (transcriptStoreReducer platform state (.upsert state.identity incoming cursor)).records) ∧
      ∀ record cursor, KeepsRank state.records
        (transcriptStoreReducer platform state (.entryAppended state.identity record cursor)).records := by
  have hkeep (s : TranscriptStoreState N) (action : TranscriptStoreAction N) (after : TranscriptStoreState N)
      (h : Coherent platform s ∧ s.limits = limits) (hsettled : Settled platform s action)
      (hstep : reduce platform s action = some after) : Coherent platform after ∧ after.limits = limits := by
    cases hstep
    obtain ⟨hcoherent, hsame⟩ := h.1.reduce (by rw [h.2]; exact hlimits) hsettled
    exact ⟨hcoherent, hsame.trans h.2⟩
  have hstart : Coherent platform (createTranscriptStore platform identity records limits cursor) :=
    coherent_normalizeSnapshot hlimits _ _ _
  obtain ⟨hcoherent, hsame⟩ := run_invariant_of_meets hkeep ⟨hstart, rfl⟩ hmeets hrun
  refine ⟨hcoherent, hsame, fun incoming cursor => ?_, fun record cursor => ?_⟩
  · simp only [transcriptStoreReducer, ne_eq, not_true, if_false]
    exact keepsRank_upsertRecords hcoherent _ _
  simp only [transcriptStoreReducer, ne_eq, not_true, if_false]
  have hresumed : Coherent platform { state with
      highWaterCursor := given state.highWaterCursor
      needsReconcile := false
      replayGap := none } :=
    ⟨hcoherent.distinct, hcoherent.index, hcoherent.measured, hcoherent.count, hcoherent.bytes,
      hcoherent.sorted⟩
  exact keepsRank_upsertRecords hresumed _ _

end

/-! ## Runs over letters -/

/-- Strings by their units, and the first milliseconds. -/
def letterPlatform : TranscriptPlatform Nat where
  format := decimal
  parseDate date := ([0, 1, 2, 3] : List Int).find? fun ms => isoText ms false = date
  localeCompare a b := compare (a.map UInt16.toNat) (b.map UInt16.toNat)

instance : Std.TransCmp letterPlatform.localeCompare :=
  inferInstanceAs (Std.TransCmp (compareOn fun a : JsString => a.map UInt16.toNat))

def letterIdentity : DashboardSessionIdentity := ⟨text "host", text "s", 1⟩

def letterLimits : TranscriptStoreLimits := ⟨2, 1000, 200⟩

theorem letterLimits_positive : letterLimits.Positive := ⟨by decide, by decide, by decide⟩

/-- A message of a time. -/
def letterRecord (messageId : String) (ms : Int) (source : TranscriptRecordSource) :
    NormalizedTranscriptRecord Nat where
  recordId := text messageId
  key := { messageId := some (text messageId) }
  timestamp := some (isoText ms false)
  source := source
  kind := .message

def letterUpsert (records : List (NormalizedTranscriptRecord Nat)) : TranscriptStoreAction Nat :=
  .upsert letterIdentity records none

def letterStart : TranscriptStoreState Nat :=
  createTranscriptStore letterPlatform letterIdentity
    [letterRecord "a" 0 .live, letterRecord "b" 1 .live] letterLimits none

/-- A record is updated in its place, and then a third one evicts it. -/
theorem coherent_run_evicted :
    let actions := [letterUpsert [letterRecord "a" 0 .live],
      .entryAppended letterIdentity (letterRecord "c" 2 .live) (text "1")]
    ∃ state, run (reduce letterPlatform) letterStart actions = some state ∧
      identities state.records = [text "message:b", text "message:c"] ∧ Coherent letterPlatform state := by
  intro actions
  refine exists_some_and (by decide +kernel) fun state hstate _ => ?_
  exact (coherent_run letterLimits_positive hstate (by decide +kernel)).1

/-- Two new records of one identity are both held; and a record that is replaced by a later one stays
in its place. -/
theorem incoherent_runs :
    (∃ state, run (reduce letterPlatform) (createTranscriptStore letterPlatform letterIdentity [] letterLimits none)
        [letterUpsert [letterRecord "a" 0 .live, letterRecord "a" 0 .live]] = some state ∧
      identities state.records = [text "message:a", text "message:a"] ∧ ¬Coherent letterPlatform state) ∧
    ∃ state, run (reduce letterPlatform) letterStart [letterUpsert [letterRecord "a" 2 .live]] = some state ∧
      state.records.map (timestamp letterPlatform) = [2, 1] ∧ ¬Coherent letterPlatform state := by
  constructor
  · refine exists_some_and (by decide +kernel) fun state _ hids hcoherent => ?_
    have hdistinct := hcoherent.distinct
    rw [hids] at hdistinct
    exact absurd hdistinct (by decide)
  · obtain ⟨state, hstate, htimes, hunsorted⟩ :
        ∃ state, run (reduce letterPlatform) letterStart [letterUpsert [letterRecord "a" 2 .live]] =
          some state ∧ state.records.map (timestamp letterPlatform) = [2, 1] ∧
            ¬state.records.Pairwise fun first second => inOrder letterPlatform first second = true := by
      decide +kernel
    exact ⟨state, hstate, htimes, fun hcoherent => hunsorted hcoherent.sorted⟩

end PiDaemon.Transcript
