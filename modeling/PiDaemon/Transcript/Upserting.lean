import Mathlib.Algebra.GroupWithZero.Nat
import PiDaemon.Transcript.Store

/-!
# The loops of the transcript store

* `loop_records`: the records after the loop of `upsertRecords`: the held ones, each with the last
  record that may take its place, and then the arrivals;
* `Measured`: the sizes and their sum, which the loop keeps when no two arrivals share their
  identity (`measured_loop`);
* `evictRecords_spec`, `keepRecords_spec`: what is left is a part of the records, within the limits.
-/

namespace PiDaemon.Transcript

open Lib Streams List OrderedMap

variable {N : Type} (platform : TranscriptPlatform N)

/-- The identities of the records, in their order. -/
def identities (records : List (NormalizedTranscriptRecord N)) : List JsString :=
  records.map transcriptRecordIdentity

/-- The identity of a record, with its size. -/
def measure (record : NormalizedTranscriptRecord N) : JsString × Nat :=
  (transcriptRecordIdentity record, recordBytes platform record)

/-- The record of the two that the store holds after `record` has come. -/
def replaceBy (limits : TranscriptStoreLimits) (held record : NormalizedTranscriptRecord N) :
    NormalizedTranscriptRecord N :=
  if recordBytes platform record ≤ limits.maxRecordBytes ∧
      transcriptRecordIdentity record = transcriptRecordIdentity held ∧
      sourceRank held.source ≤ sourceRank record.source then record
  else held

/-- The last of the incoming records that may take the place of a held one. -/
def standing (limits : TranscriptStoreLimits) (incoming : List (NormalizedTranscriptRecord N))
    (held : NormalizedTranscriptRecord N) : NormalizedTranscriptRecord N :=
  incoming.foldl (replaceBy platform limits) held

/-- A record that is small enough, and whose identity is not held. -/
def arrives (limits : TranscriptStoreLimits) (held : List (NormalizedTranscriptRecord N))
    (record : NormalizedTranscriptRecord N) : Bool :=
  recordBytes platform record ≤ limits.maxRecordBytes && !decide (transcriptRecordIdentity record ∈ identities held)

def arrivals (limits : TranscriptStoreLimits) (held incoming : List (NormalizedTranscriptRecord N)) :
    List (NormalizedTranscriptRecord N) :=
  incoming.filter (arrives platform limits held)

/-- The bytes of all the records. -/
def bytesOf (records : List (NormalizedTranscriptRecord N)) : Nat :=
  (records.map (recordBytes platform)).sum

/-- The sizes are those of the records, and the sum is theirs. -/
structure Measured (records : List (NormalizedTranscriptRecord N)) (sizes : OrderedMap JsString Nat)
    (totalBytes : Int) : Prop where
  sizes : ∀ key size, sizes.get? key = some size ↔ (key, size) ∈ records.map (measure platform)
  total : totalBytes = bytesOf platform records

/-- The index is where the records are. -/
def Indexed (records : List (NormalizedTranscriptRecord N)) (index : OrderedMap JsString Nat) : Prop :=
  ∀ key position, index.get? key = some position ↔ (identities records)[position]? = some key

variable {platform} {limits : TranscriptStoreLimits} {held incoming : List (NormalizedTranscriptRecord N)}
  {record : NormalizedTranscriptRecord N}

/-! ## What stands for a held record -/

section
variable (h : NormalizedTranscriptRecord N)
include h

theorem standing_concat :
    standing platform limits (incoming ++ [record]) h =
      replaceBy platform limits (standing platform limits incoming h) record := by
  simp only [standing, foldl_append, foldl_cons, foldl_nil]

theorem identity_replaceBy :
    transcriptRecordIdentity (replaceBy platform limits h record) = transcriptRecordIdentity h := by
  unfold replaceBy
  split
  · rename_i hall
    exact hall.2.1
  · rfl

theorem rank_replaceBy :
    sourceRank h.source ≤ sourceRank (replaceBy platform limits h record).source := by
  unfold replaceBy
  split
  · rename_i hall
    exact hall.2.2
  · exact Nat.le_refl _

@[simp] theorem identity_standing :
    transcriptRecordIdentity (standing platform limits incoming h) = transcriptRecordIdentity h := by
  induction incoming generalizing h with
  | nil => rfl
  | cons record incoming ih =>
    show transcriptRecordIdentity (standing platform limits incoming (replaceBy platform limits h record)) = _
    rw [ih, identity_replaceBy]

theorem rank_standing :
    sourceRank h.source ≤ sourceRank (standing platform limits incoming h).source := by
  induction incoming generalizing h with
  | nil => exact Nat.le_refl _
  | cons record incoming ih => exact Nat.le_trans (rank_replaceBy h) (ih _)

end

theorem replaceBy_of_identity_ne {h : NormalizedTranscriptRecord N}
    (hne : transcriptRecordIdentity h ≠ transcriptRecordIdentity record) :
    replaceBy platform limits h record = h :=
  if_neg fun hall => hne hall.2.1.symm

@[simp] theorem identities_map_standing :
    identities (held.map (standing platform limits incoming)) = identities held := by
  simp only [identities, map_map, Function.comp_def, identity_standing]

theorem identities_append (first second : List (NormalizedTranscriptRecord N)) :
    identities (first ++ second) = identities first ++ identities second := map_append

theorem mem_identities {key : JsString} {records : List (NormalizedTranscriptRecord N)} :
    key ∈ identities records ↔ ∃ record ∈ records, transcriptRecordIdentity record = key := mem_map

theorem arrivals_concat :
    arrivals platform limits held (incoming ++ [record]) =
      arrivals platform limits held incoming ++
        if arrives platform limits held record then [record] else [] := by
  rw [arrivals, filter_append, filter_cons, filter_nil, arrivals]

/-- What arrives has an identity that is not held. -/
theorem not_mem_identities_of_arrives {key : JsString}
    (hkey : key ∈ identities (arrivals platform limits held incoming)) : key ∉ identities held := by
  obtain ⟨_, hrecord, rfl⟩ := mem_identities.mp hkey
  have harrives := (mem_filter.mp hrecord).2
  simp only [arrives, Bool.and_eq_true, Bool.not_eq_true', decide_eq_false_iff_not] at harrives
  exact harrives.2

/-! ## The loop of `upsertRecords` -/

section
variable {index : OrderedMap JsString Nat}

/-- The variables after the loop. -/
def loop (platform : TranscriptPlatform N) (limits : TranscriptStoreLimits) (index : OrderedMap JsString Nat)
    (start : Upserting N) (incoming : List (NormalizedTranscriptRecord N)) : Upserting N :=
  incoming.foldl (upsertRecord platform limits index) start

theorem loop_concat (start : Upserting N) :
    loop platform limits index start (incoming ++ [record]) =
      upsertRecord platform limits index (loop platform limits index start incoming) record := by
  simp only [loop, foldl_append, foldl_cons, foldl_nil]

theorem droppedRecords_le_loop (start : Upserting N) :
    start.droppedRecords ≤ (loop platform limits index start incoming).droppedRecords := by
  induction incoming using List.reverseRecOn with
  | nil => exact Nat.le_refl _
  | append_singleton incoming record ih =>
    rw [loop_concat]
    refine Nat.le_trans ih ?_
    unfold upsertRecord
    dsimp only
    split
    · exact Nat.le_succ _
    split
    · split
      · exact Nat.le_refl _
      · split <;> exact Nat.le_refl _
    · exact Nat.le_refl _

/-- The records, one of which takes the place of the one with its identity. -/
theorem map_replaceBy_eq_set {records : List (NormalizedTranscriptRecord N)} {i : Nat}
    {existing : NormalizedTranscriptRecord N} (hnodup : (identities records).Nodup)
    (hi : records[i]? = some existing) (hfits : recordBytes platform record ≤ limits.maxRecordBytes)
    (hsame : transcriptRecordIdentity record = transcriptRecordIdentity existing)
    (hrank : sourceRank existing.source ≤ sourceRank record.source) :
    records.map (fun h => replaceBy platform limits h record) = records.set i record := by
  obtain ⟨hlt, rfl⟩ := List.getElem?_eq_some_iff.mp hi
  refine ext_getElem (by simp) fun j hj _ => ?_
  have hj' : j < records.length := by simpa using hj
  rw [getElem_map, getElem_set]
  split
  · rename_i hij
    subst hij
    exact if_pos ⟨hfits, hsame, hrank⟩
  · rename_i hij
    refine replaceBy_of_identity_ne fun hident => hij ?_
    rw [hsame] at hident
    have hjn : j < (identities records).length := by simpa [identities] using hj'
    have hin : i < (identities records).length := by simpa [identities] using hlt
    have hget : (identities records)[j] = (identities records)[i] := by
      simpa [identities] using hident
    exact ((List.Nodup.getElem_inj_iff hnodup).mp hget).symm

theorem map_replaceBy_eq_self {records : List (NormalizedTranscriptRecord N)}
    (hnone : ∀ h ∈ records, replaceBy platform limits h record = h) :
    records.map (fun h => replaceBy platform limits h record) = records :=
  (map_congr_left hnone).trans (map_id _)

variable (platform limits) in
/-- The loop keeps the held records in their places, with what stands for each, and appends the
arrivals. -/
theorem loop_records (hindex : Indexed held index) (hnodup : (identities held).Nodup)
    {start : Upserting N} (hstart : start.records = held) (happended : start.appended = false)
    (incoming : List (NormalizedTranscriptRecord N)) :
    (loop platform limits index start incoming).records =
        held.map (standing platform limits incoming) ++ arrivals platform limits held incoming ∧
      ((loop platform limits index start incoming).appended = true ↔
        arrivals platform limits held incoming ≠ []) := by
  induction incoming using List.reverseRecOn with
  | nil =>
    have hmap : held.map (standing platform limits []) = held := map_id _
    rw [hmap]
    simp [loop, arrivals, hstart, happended]
  | append_singleton incoming record ih =>
    obtain ⟨hrecords, hflag⟩ := ih
    have hmap : held.map (standing platform limits (incoming ++ [record])) =
        (held.map (standing platform limits incoming)).map fun h => replaceBy platform limits h record := by
      rw [map_map]
      exact map_congr_left fun h _ => standing_concat h
    rw [loop_concat, arrivals_concat, hmap]
    have hids : (identities (held.map (standing platform limits incoming))).Nodup := by
      rwa [identities_map_standing]
    unfold upsertRecord
    dsimp only
    by_cases hfits : limits.maxRecordBytes < recordBytes platform record
    · have hstay : ∀ h ∈ held.map (standing platform limits incoming),
          replaceBy platform limits h record = h := fun h _ => if_neg fun hall => by omega
      have hnot : arrives platform limits held record = false := by
        simp only [arrives, Bool.and_eq_false_iff, decide_eq_false_iff_not]
        exact .inl (by omega)
      rw [if_pos hfits, map_replaceBy_eq_self hstay, hnot]
      simpa using ⟨hrecords, hflag⟩
    · rw [if_neg hfits]
      cases hposition : index.get? (transcriptRecordIdentity record) with
      | none =>
        have hfresh : transcriptRecordIdentity record ∉ identities held := fun hmem => by
          obtain ⟨i, hi⟩ := mem_iff_getElem?.mp hmem
          rw [(hindex _ _).mpr hi] at hposition
          cases hposition
        have hstay : ∀ h ∈ held.map (standing platform limits incoming),
            replaceBy platform limits h record = h := by
          intro h hh
          obtain ⟨g, hg, rfl⟩ := mem_map.mp hh
          refine replaceBy_of_identity_ne fun heq => hfresh ?_
          rw [identity_standing] at heq
          exact mem_identities.mpr ⟨g, hg, heq⟩
        have harrives : arrives platform limits held record = true := by
          simp only [arrives, Bool.and_eq_true, decide_eq_true_eq, Bool.not_eq_true',
            decide_eq_false_iff_not]
          exact ⟨by omega, hfresh⟩
        rw [map_replaceBy_eq_self hstay, harrives, if_pos rfl]
        refine ⟨by dsimp only; rw [hrecords, append_assoc], ?_⟩
        simp
      | some i =>
        have hplace := (hindex _ _).mp hposition
        have hnot : arrives platform limits held record = false := by
          simp only [arrives, Bool.and_eq_false_iff, Bool.not_eq_false', decide_eq_true_eq]
          exact .inr (mem_of_getElem? hplace)
        -- the record in the place has the identity of the record that has come
        obtain ⟨existing, hexisting, hsame⟩ : ∃ existing,
            (held.map (standing platform limits incoming))[i]? = some existing ∧
              transcriptRecordIdentity record = transcriptRecordIdentity existing := by
          have hids : identities (held.map (standing platform limits incoming)) = identities held :=
            identities_map_standing
          rw [← hids, identities, List.getElem?_map, Option.map_eq_some_iff] at hplace
          obtain ⟨existing, hexisting, hident⟩ := hplace
          exact ⟨existing, hexisting, hident.symm⟩
        have hi : i < (held.map (standing platform limits incoming)).length :=
          (List.getElem?_eq_some_iff.mp hexisting).1
        have hread : (loop platform limits index start incoming).records[i]? = some existing := by
          rw [hrecords, List.getElem?_append_left hi, hexisting]
        rw [hnot, if_neg Bool.false_ne_true, append_nil]
        dsimp only
        rw [hread]
        dsimp only
        split
        · rename_i hlow
          have hstay : ∀ h ∈ held.map (standing platform limits incoming),
              replaceBy platform limits h record = h := by
            intro h hh
            by_cases hident : transcriptRecordIdentity h = transcriptRecordIdentity record
            · have heq : h = existing :=
                inj_on_of_nodup_map hids hh (mem_of_getElem? hexisting) (hident.trans hsame)
              rw [heq]
              exact if_neg fun hall => by omega
            · exact replaceBy_of_identity_ne hident
          rw [map_replaceBy_eq_self hstay]
          exact ⟨hrecords, hflag⟩
        · rename_i hrank
          refine ⟨?_, hflag⟩
          dsimp only
          rw [map_replaceBy_eq_set hids hexisting (by omega) hsame (by omega), hrecords,
            set_append_left _ _ hi]

end

/-! ## Sizes -/

@[simp] theorem bytesOf_nil : bytesOf platform [] = 0 := rfl

variable (records : List (NormalizedTranscriptRecord N))

theorem bytesOf_cons :
    bytesOf platform (record :: records) = recordBytes platform record + bytesOf platform records :=
  sum_cons

theorem bytesOf_concat :
    bytesOf platform (records ++ [record]) = bytesOf platform records + recordBytes platform record := by
  simp [bytesOf, sum_append]

theorem bytesOf_perm {first second : List (NormalizedTranscriptRecord N)} (h : first.Perm second) :
    bytesOf platform first = bytesOf platform second := (h.map _).sum_nat

section
variable {records : List (NormalizedTranscriptRecord N)} {sizes : OrderedMap JsString Nat} {totalBytes : Int}

theorem key_mem_of_measure {key : JsString} {size : Nat} (h : (key, size) ∈ records.map (measure platform)) :
    key ∈ identities records := by
  obtain ⟨record, hrecord, heq⟩ := mem_map.mp h
  exact mem_identities.mpr ⟨record, hrecord, congrArg Prod.fst heq⟩

theorem Measured.perm {other : List (NormalizedTranscriptRecord N)}
    (h : Measured platform records sizes totalBytes) (hperm : other.Perm records) :
    Measured platform other sizes totalBytes where
  sizes key size := by rw [h.sizes, (hperm.map _).mem_iff]
  total := by rw [h.total, bytesOf_perm hperm]

theorem Measured.push (h : Measured platform records sizes totalBytes)
    (hfresh : transcriptRecordIdentity record ∉ identities records) :
    Measured platform (records ++ [record])
      (sizes.set (transcriptRecordIdentity record) (recordBytes platform record))
      (totalBytes + recordBytes platform record) where
  sizes key size := by
    rw [get?_set, map_append, mem_append, map_singleton, mem_singleton]
    by_cases hkey : transcriptRecordIdentity record = key
    · subst hkey
      rw [if_pos rfl]
      constructor
      · intro hsize
        exact .inr (Prod.ext rfl (Option.some.inj hsize).symm)
      rintro (hmem | heq)
      · exact absurd (key_mem_of_measure hmem) hfresh
      · exact congrArg some (congrArg Prod.snd heq).symm
    · rw [if_neg hkey, h.sizes]
      constructor
      · exact .inl
      rintro (hmem | heq)
      · exact hmem
      · exact absurd (congrArg Prod.fst heq).symm hkey
  total := by
    rw [h.total, bytesOf_concat]
    omega

theorem Measured.shift (h : Measured platform (record :: records) sizes totalBytes)
    (hnodup : (identities (record :: records)).Nodup) :
    Measured platform records (sizes.delete (transcriptRecordIdentity record))
      (totalBytes - ((sizes.get? (transcriptRecordIdentity record)).getD 0 : Nat)) where
  sizes key size := by
    have hfresh := (nodup_cons.mp hnodup).1
    rw [get?_delete]
    by_cases hkey : transcriptRecordIdentity record = key
    · subst hkey
      rw [if_pos rfl]
      constructor
      · intro hnone
        cases hnone
      · intro hmem
        exact absurd (key_mem_of_measure hmem) hfresh
    · rw [if_neg hkey, h.sizes, map_cons, mem_cons]
      constructor
      · rintro (heq | hmem)
        · exact absurd (congrArg Prod.fst heq).symm hkey
        · exact hmem
      · exact .inr
  total := by
    have hsize : sizes.get? (transcriptRecordIdentity record) = some (recordBytes platform record) :=
      (h.sizes _ _).mpr (mem_cons_self ..)
    have htotal := h.total
    rw [bytesOf_cons] at htotal
    rw [hsize, Option.getD_some]
    omega

theorem Measured.replace {i : Nat} {existing : NormalizedTranscriptRecord N}
    (h : Measured platform records sizes totalBytes) (hnodup : (identities records).Nodup)
    (hi : records[i]? = some existing)
    (hsame : transcriptRecordIdentity record = transcriptRecordIdentity existing) :
    Measured platform (records.set i record)
      (sizes.set (transcriptRecordIdentity record) (recordBytes platform record))
      (totalBytes - ((sizes.get? (transcriptRecordIdentity record)).getD 0 : Nat) +
        recordBytes platform record) := by
  obtain ⟨hlt, rfl⟩ := List.getElem?_eq_some_iff.mp hi
  have hset : ∃ before after, records = before ++ records[i] :: after ∧ before.length = i ∧
      records.set i record = before ++ record :: after := exists_of_set hlt
  obtain ⟨before, after, hsplit, _, hset⟩ := hset
  have hnew : (records.set i record).Perm ((before ++ after) ++ [record]) := by
    rw [hset]
    exact perm_middle.trans (perm_append_singleton _ _).symm
  have hold : (records[i] :: (before ++ after)).Perm records := by
    refine perm_middle.symm.trans (List.Perm.of_eq ?_)
    exact hsplit.symm
  have hnodup' : (identities (records[i] :: (before ++ after))).Nodup := (hold.map _).nodup_iff.mpr hnodup
  have hfresh : transcriptRecordIdentity record ∉ identities (before ++ after) := by
    rw [hsame]
    exact (nodup_cons.mp hnodup').1
  -- the old record goes, and the new one comes
  have hshifted := ((h.perm hold).shift hnodup').push hfresh
  rw [← hsame] at hshifted
  refine Measured.perm ?_ hnew
  refine ⟨fun key size => ?_, hshifted.total⟩
  rw [← hshifted.sizes, get?_set, get?_set, get?_delete]
  split
  · rfl
  · rfl

/-- A turn of the loop keeps the sizes, when the index is right about the record that comes. -/
theorem Measured.upsertRecord {index : OrderedMap JsString Nat} {state : Upserting N}
    (h : Measured platform state.records state.sizes state.totalBytes)
    (hnodup : (identities state.records).Nodup)
    (hheld : ∀ i existing, index.get? (transcriptRecordIdentity record) = some i →
      state.records[i]? = some existing → transcriptRecordIdentity record = transcriptRecordIdentity existing)
    (hfresh : recordBytes platform record ≤ limits.maxRecordBytes →
      index.get? (transcriptRecordIdentity record) = none →
      transcriptRecordIdentity record ∉ identities state.records) :
    Measured platform (upsertRecord platform limits index state record).records
      (upsertRecord platform limits index state record).sizes
      (upsertRecord platform limits index state record).totalBytes := by
  unfold Transcript.upsertRecord
  by_cases hfits : limits.maxRecordBytes < recordBytes platform record
  · rw [if_pos hfits]
    exact h
  rw [if_neg hfits]
  cases hposition : index.get? (transcriptRecordIdentity record) with
  | none => exact h.push (hfresh (by omega) hposition)
  | some i =>
    dsimp only
    cases hexisting : state.records[i]? with
    | none => exact h
    | some existing =>
      dsimp only
      split
      · exact h
      · exact h.replace hnodup hexisting (hheld i existing hposition hexisting)

theorem measured_loop {index : OrderedMap JsString Nat} {start : Upserting N}
    (hindex : Indexed held index) (hstart : start.records = held) (happended : start.appended = false)
    (hmeasured : Measured platform held start.sizes start.totalBytes)
    (hnodup : (identities (held ++ arrivals platform limits held incoming)).Nodup) :
    Measured platform (loop platform limits index start incoming).records
      (loop platform limits index start incoming).sizes
      (loop platform limits index start incoming).totalBytes := by
  induction incoming using List.reverseRecOn with
  | nil =>
    show Measured platform start.records start.sizes start.totalBytes
    rwa [hstart]
  | append_singleton incoming record ih =>
    rw [arrivals_concat, ← append_assoc, identities_append] at hnodup
    obtain ⟨hbefore, -, hapart⟩ := nodup_append.mp hnodup
    have hheld : (identities held).Nodup := by
      rw [identities_append] at hbefore
      exact (nodup_append.mp hbefore).1
    have hrecords := (loop_records platform limits hindex hheld hstart happended incoming).1
    have hids : identities (loop platform limits index start incoming).records =
        identities (held ++ arrivals platform limits held incoming) := by
      rw [hrecords, identities_append, identities_append, identities_map_standing]
    rw [loop_concat]
    refine (ih hbefore).upsertRecord (by rwa [hids]) (fun i existing hposition hexisting => ?_)
      (fun hfits hposition => ?_)
    · have hplace := (hindex _ _).mp hposition
      have hlt : i < (identities held).length := (List.getElem?_eq_some_iff.mp hplace).1
      have hread : (identities (loop platform limits index start incoming).records)[i]? =
          some (transcriptRecordIdentity existing) := by
        rw [identities, List.getElem?_map, hexisting]
        rfl
      rw [hids, identities_append, List.getElem?_append_left hlt, hplace] at hread
      exact Option.some.inj hread
    · have hnot : transcriptRecordIdentity record ∉ identities held := fun hmem => by
        obtain ⟨i, hi⟩ := mem_iff_getElem?.mp hmem
        rw [(hindex _ _).mpr hi] at hposition
        cases hposition
      have harrives : arrives platform limits held record = true := by
        simp only [arrives, Bool.and_eq_true, decide_eq_true_eq, Bool.not_eq_true', decide_eq_false_iff_not]
        exact ⟨hfits, hnot⟩
      rw [hids]
      intro hmem
      rw [if_pos harrives] at hapart
      exact hapart _ hmem _ (mem_singleton_self _) rfl

/-! ## Evictions -/

variable (limits) in
theorem evictRecords_sublist (records : List (NormalizedTranscriptRecord N)) (sizes : OrderedMap JsString Nat)
    (totalBytes : Int) (dropped : Nat) :
    (evictRecords limits records sizes totalBytes dropped).1.Sublist records := by
  induction records generalizing sizes totalBytes dropped with
  | nil => exact List.Sublist.refl _
  | cons removed records ih =>
    rw [evictRecords]
    split
    · exact (ih _ _ _).cons _
    · exact List.Sublist.refl _

variable (limits) in
/-- The first records go until the limits are met, with their sizes. -/
theorem evictRecords_spec (dropped : Nat) (h : Measured platform records sizes totalBytes)
    (hnodup : (identities records).Nodup) :
    let left := evictRecords limits records sizes totalBytes dropped
    Measured platform left.1 left.2.1 left.2.2.1 ∧ left.1.length ≤ limits.maxRecords ∧
      left.2.2.1 ≤ limits.maxBytes ∧ left.2.2.2 + left.1.length = dropped + records.length := by
  induction records generalizing sizes totalBytes dropped with
  | nil =>
    have htotal := h.total
    refine ⟨h, Nat.zero_le _, ?_, rfl⟩
    show totalBytes ≤ limits.maxBytes
    rw [bytesOf_nil] at htotal
    omega
  | cons removed records ih =>
    rw [evictRecords]
    dsimp only
    split
    · obtain ⟨hmeasured, hcount, hbytes, _⟩ :=
        ih (dropped + 1) (h.shift hnodup) (nodup_cons.mp hnodup).2
      refine ⟨hmeasured, hcount, hbytes, ?_⟩
      rw [length_cons]
      omega
    · rename_i hlimits
      rw [not_or] at hlimits
      refine ⟨h, ?_, ?_, rfl⟩
      · rw [length_cons]
        omega
      · show totalBytes ≤ limits.maxBytes
        omega

end

/-! ## Snapshots -/

/-- The records are under their identities. -/
def Placed (map : OrderedMap JsString (NormalizedTranscriptRecord N)) : Prop :=
  ∀ key record, map.get? key = some record → transcriptRecordIdentity record = key

theorem Placed.set {map : OrderedMap JsString (NormalizedTranscriptRecord N)} (h : Placed map)
    (record : NormalizedTranscriptRecord N) : Placed (map.set (transcriptRecordIdentity record) record) := by
  intro key other hget
  rw [get?_set] at hget
  split at hget
  · rename_i hkey
    rw [← Option.some.inj hget, hkey]
  · exact h key other hget

theorem placed_deduplicate : Placed (deduplicate platform limits records).1 := by
  induction records using List.reverseRecOn with
  | nil =>
    intro key record hget
    cases hget
  | append_singleton records record ih =>
    simp only [deduplicate, foldl_append, foldl_cons, foldl_nil]
    split
    · exact ih
    split
    · exact ih.set record
    · exact ih

theorem nodup_values_of_placed {map : OrderedMap JsString (NormalizedTranscriptRecord N)} (h : Placed map) :
    (identities map.values).Nodup := by
  have hkeys : identities map.values = map.keys := by
    rw [identities, OrderedMap.values, map_map]
    exact map_congr_left fun entry hentry => h _ _ (mem_entries.mp hentry)
  rw [hkeys]
  exact map.nodup

theorem sliceLast_spec {A : Type} {count : Nat} (hcount : 0 < count) (items : List A) :
    (sliceLast count items).Sublist items ∧ (sliceLast count items).length ≤ count := by
  rw [sliceLast, if_neg (by omega)]
  refine ⟨drop_sublist _ _, ?_⟩
  rw [length_drop]
  omega

theorem makeRoom_spec (maxBytes size dropped : Nat) {totalBytes : Int}
    {kept : List (NormalizedTranscriptRecord N)} (htotal : totalBytes = bytesOf platform kept) :
    let room := makeRoom platform maxBytes size kept totalBytes dropped
    room.kept.Sublist kept ∧ room.totalBytes = bytesOf platform room.kept ∧
      (room.kept = [] ∨ room.totalBytes + size ≤ maxBytes) := by
  induction kept generalizing totalBytes dropped with
  | nil => exact ⟨List.Sublist.refl _, htotal, .inl rfl⟩
  | cons removed kept ih =>
    rw [makeRoom]
    split
    · have hless : totalBytes - recordBytes platform removed = bytesOf platform kept := by
        rw [htotal, bytesOf_cons]
        omega
      obtain ⟨hsub, hsum, hroom⟩ := ih (dropped + 1) hless
      exact ⟨hsub.cons _, hsum, hroom⟩
    · exact ⟨List.Sublist.refl _, htotal, .inr (by dsimp only; omega)⟩

variable (record) in
theorem keepRecord_spec {state : Kept N} (htotal : state.totalBytes = bytesOf platform state.kept) :
    let left := keepRecord platform limits state record
    left.kept.Sublist (state.kept ++ [record]) ∧ left.totalBytes = bytesOf platform left.kept ∧
      left.totalBytes ≤ limits.maxBytes := by
  obtain ⟨hsub, hroom, hfits⟩ := makeRoom_spec limits.maxBytes (recordBytes platform record)
    state.droppedRecords htotal
  unfold keepRecord
  dsimp only
  generalize makeRoom platform limits.maxBytes (recordBytes platform record) state.kept state.totalBytes
    state.droppedRecords = room at hsub hroom hfits ⊢
  split
  · refine ⟨hsub.append (List.Sublist.refl _), ?_, ?_⟩
    · dsimp only
      rw [bytesOf_concat, hroom]
      rfl
    · dsimp only
      rcases hfits with hnil | hfits
      · rw [hnil] at hroom
        have hzero : room.totalBytes = 0 := hroom
        omega
      · exact hfits
  · refine ⟨hsub.trans (sublist_append_left _ _), hroom, ?_⟩
    dsimp only
    rcases hfits with hnil | hfits
    · rw [hnil] at hroom
      have hzero : room.totalBytes = 0 := hroom
      omega
    · omega

variable (platform limits) in
/-- The second loop of `normalizeSnapshot` keeps a part of the records, within the bytes. -/
theorem keepRecords_spec (dropped : Nat) (records : List (NormalizedTranscriptRecord N)) :
    let state := records.foldl (keepRecord platform limits) ⟨[], 0, dropped⟩
    state.kept.Sublist records ∧ state.totalBytes = bytesOf platform state.kept ∧
      state.totalBytes ≤ limits.maxBytes := by
  induction records using List.reverseRecOn with
  | nil => exact ⟨List.Sublist.refl _, rfl, Int.natCast_nonneg _⟩
  | append_singleton records record ih =>
    obtain ⟨hsub, htotal, -⟩ := ih
    rw [foldl_append, foldl_cons, foldl_nil]
    obtain ⟨hleft, hrest⟩ := keepRecord_spec record htotal
    exact ⟨hleft.trans (hsub.append (List.Sublist.refl _)), hrest⟩

end PiDaemon.Transcript
