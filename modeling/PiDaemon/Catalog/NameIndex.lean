import PiDaemon.Catalog.Store

/-!
# The index of names

Names and session IDs are looked up in one namespace.  In every state of a catalog
the index has exactly the names that the records carry, and no name is carried
twice or is the ID of another session.

* `NameIndex`: the invariant;
* `NameIndex.insert`, `NameIndex.remove`, `NameIndex.replaceIndexes`: what the
  operations do to the memory keeps it;
* `catalogStep_nameIndex`: so does every call, also one that fails.
-/

namespace PiDaemon.Catalog

open Lib Durability OrderedMap

section
variable {N : Type}

/-- The records are filed under their IDs, and the index says who carries which name. -/
structure NameIndex (s : FileSessionCatalog N) : Prop where
  keyed : ∀ id record, s.records.get? id = some record → record.sessionId = id
  indexed : ∀ name id, s.names.get? name = some id ↔
    ∃ record, s.records.get? id = some record ∧ record.name = some name
  apart : ∀ id record name, s.records.get? id = some record → record.name = some name →
    s.records.has name = true → name = id

/-- A name that a session may carry: no other session has it for a name or an ID. -/
structure Available (s : FileSessionCatalog N) (name id : JsString) : Prop where
  unclaimed : ∀ owner, s.names.get? name = some owner → owner = id
  noId : s.records.has name = true → name = id

namespace NameIndex

variable {s t : FileSessionCatalog N}

theorem new (directory : OrderedMap JsString (RecordFile N)) :
    NameIndex (FileSessionCatalog.new directory) := by
  constructor
  · intro id record h
    cases h
  · intro name id
    constructor
    · intro h
      cases h
    · rintro ⟨record, h, -⟩
      cases h
  · intro id record name h
    cases h

section
variable (h : NameIndex s)
include h

theorem congr (hr : ∀ id, t.records.get? id = s.records.get? id)
    (hn : ∀ name, t.names.get? name = s.names.get? name) : NameIndex t := by
  constructor
  · intro id record hget
    rw [hr] at hget
    exact h.keyed id record hget
  · intro name id
    rw [hn, hr]
    exact h.indexed name id
  · intro id record name hget hname hhas
    rw [hr] at hget
    rw [OrderedMap.has, hr] at hhas
    exact h.apart id record name hget hname hhas

theorem names_of_record {id name : JsString} {record : SessionCatalogRecord N}
    (hget : s.records.get? id = some record) (hname : record.name = some name) :
    s.names.get? name = some id :=
  (h.indexed name id).mpr ⟨record, hget, hname⟩

theorem name_unique {id id' name : JsString}
    {record record' : SessionCatalogRecord N} (hget : s.records.get? id = some record)
    (hname : record.name = some name) (hget' : s.records.get? id' = some record')
    (hname' : record'.name = some name) : id = id' := by
  have hid := h.names_of_record hget hname
  rw [h.names_of_record hget' hname'] at hid
  exact (Option.some.inj hid).symm

theorem insert {record : SessionCatalogRecord N}
    (hnew : s.records.get? record.sessionId = none)
    (hid : ∀ owner, s.names.get? record.sessionId = some owner → owner = record.sessionId)
    (hname : ∀ name, record.name = some name → Available s name record.sessionId) :
    NameIndex (s.insert record) := by
  have hrecords : ∀ id, (s.insert record).records.get? id =
      if record.sessionId = id then some record else s.records.get? id :=
    fun id => get?_set _ _ _ _
  have hnames : ∀ name, (s.insert record).names.get? name =
      if record.name = some name then some record.sessionId else s.names.get? name := by
    intro name
    unfold FileSessionCatalog.insert
    cases hn : record.name with
    | none => simp
    | some own => simp [get?_set]
  -- The session has no record yet, so nothing in the index points to it.
  have hunowned : ∀ name, s.names.get? name ≠ some record.sessionId := by
    intro name hown
    obtain ⟨old, hold, -⟩ := (h.indexed name _).mp hown
    rw [hnew] at hold
    cases hold
  constructor
  · intro id old hget
    rw [hrecords] at hget
    split at hget
    · rename_i heq
      cases hget
      exact heq
    · exact h.keyed id old hget
  · intro name id
    rw [hnames, hrecords]
    by_cases heq : record.sessionId = id
    · subst heq
      by_cases hown : record.name = some name
      · simp [hown]
      · simp [hown, hunowned name]
    · rw [if_neg heq]
      by_cases hown : record.name = some name
      · rw [if_pos hown]
        constructor
        · intro hsome
          exact absurd (Option.some.inj hsome) heq
        rintro ⟨old, hold, hcarries⟩
        have hclaimed := (hname name hown).unclaimed id (h.names_of_record hold hcarries)
        exact absurd hclaimed.symm heq
      · rw [if_neg hown]
        exact h.indexed name id
  · intro id old name hget hcarries hhas
    have hcases : record.sessionId = name ∨ s.records.has name = true := by
      rw [OrderedMap.has, hrecords] at hhas
      split at hhas
      · rename_i heq
        exact Or.inl heq
      · exact Or.inr hhas
    rw [hrecords] at hget
    split at hget
    · rename_i heq
      cases hget
      subst heq
      rcases hcases with heq | hhad
      · exact heq.symm
      · exact (hname name hcarries).noId hhad
    · rcases hcases with heq | hhad
      · subst heq
        exact (hid id (h.names_of_record hget hcarries)).symm
      · exact h.apart id old name hget hcarries hhad

theorem remove {current : SessionCatalogRecord N}
    (hget : s.records.get? current.sessionId = some current) : NameIndex (s.remove current) := by
  have hrecords : ∀ id, (s.remove current).records.get? id =
      if current.sessionId = id then none else s.records.get? id :=
    fun id => get?_delete _ _ _
  have hnames : ∀ name, (s.remove current).names.get? name =
      if current.name = some name then none else s.names.get? name := by
    intro name
    unfold FileSessionCatalog.remove
    cases hn : current.name with
    | none => simp
    | some own => simp [get?_delete]
  have hkept : ∀ {id record}, (s.remove current).records.get? id = some record →
      current.sessionId ≠ id ∧ s.records.get? id = some record := by
    intro id record hsome
    rw [hrecords] at hsome
    split at hsome
    · cases hsome
    · rename_i hne
      exact ⟨hne, hsome⟩
  constructor
  · intro id record hsome
    exact h.keyed id record (hkept hsome).2
  · intro name id
    rw [hnames, hrecords]
    by_cases heq : current.sessionId = id
    · -- The index has no other name of the removed record.
      subst heq
      by_cases hown : current.name = some name
      · simp [hown]
      have hunowned : s.names.get? name ≠ some current.sessionId := by
        intro hsome
        obtain ⟨record, hrecord, hcarries⟩ := (h.indexed name _).mp hsome
        rw [hget] at hrecord
        cases hrecord
        exact hown hcarries
      simp [hown, hunowned]
    · rw [if_neg heq]
      by_cases hown : current.name = some name
      · rw [if_pos hown]
        constructor
        · intro hsome
          cases hsome
        · rintro ⟨record, hrecord, hcarries⟩
          exact absurd (h.name_unique hget hown hrecord hcarries) heq
      · rw [if_neg hown]
        exact h.indexed name id
  · intro id record name hsome hcarries hhas
    obtain ⟨held, hheld⟩ := has_iff.mp hhas
    exact h.apart id record name (hkept hsome).2 hcarries
      (has_iff.mpr ⟨held, (hkept hheld).2⟩)

/-- To replace a record is to remove it and to insert the next one. -/
theorem replaceIndexes {current next : SessionCatalogRecord N}
    (hget : s.records.get? current.sessionId = some current)
    (hsame : next.sessionId = current.sessionId)
    (hname : ∀ name, next.name = some name → Available s name current.sessionId) :
    NameIndex (s.replaceIndexes current next) := by
  have hremoved := h.remove hget
  have hsub : ∀ {name owner}, (s.remove current).names.get? name = some owner →
      s.names.get? name = some owner := by
    intro name owner hsome
    unfold FileSessionCatalog.remove at hsome
    cases hn : current.name with
    | none =>
      rw [hn] at hsome
      exact hsome
    | some own =>
      rw [hn] at hsome
      exact (get?_of_delete hsome).2
  have hinserted : NameIndex ((s.remove current).insert next) := by
    apply hremoved.insert
    · rw [hsame]
      exact get?_delete_self _ _
    · intro owner howner
      rw [hsame] at howner ⊢
      obtain ⟨record, hrecord, hcarries⟩ := (h.indexed _ owner).mp (hsub howner)
      have hhas : s.records.has current.sessionId = true := has_iff.mpr ⟨current, hget⟩
      exact (h.apart owner record _ hrecord hcarries hhas).symm
    · intro name hcarries
      have havail := hname name hcarries
      rw [hsame]
      constructor
      · intro owner howner
        exact havail.unclaimed owner (hsub howner)
      intro hhas
      obtain ⟨held, hheld⟩ := has_iff.mp hhas
      exact havail.noId (has_iff.mpr ⟨held, (get?_of_delete hheld).2⟩)
  apply hinserted.congr
  · intro id
    unfold FileSessionCatalog.replaceIndexes FileSessionCatalog.insert FileSessionCatalog.remove
    simp only [get?_set, get?_delete, hsame]
    split <;> rfl
  · intro name
    unfold FileSessionCatalog.replaceIndexes FileSessionCatalog.insert FileSessionCatalog.remove
    cases hc : current.name with
    | none => cases hn : next.name <;> rfl
    | some own =>
      cases hn : next.name with
      | none => simp
      | some own' =>
        by_cases heq : own' = own
        · subst heq
          simp only [if_pos, get?_set, get?_delete]
          split <;> rfl
        · simp only [Option.some.injEq, heq, if_neg, not_false_eq_true]

end

end NameIndex

/-! ## What the checks of a call establish -/

namespace FileSessionCatalog

variable {options : CatalogOptions} {host : CatalogHost N} {s : FileSessionCatalog N}

theorem assertNameAvailable_ok {name sessionId : JsString} {u : Unit} (h : NameIndex s)
    (hok : s.assertNameAvailable name sessionId = .ok u) : Available s name sessionId := by
  simp only [assertNameAvailable, bind_ok, check_ok, Bool.and_eq_true] at hok
  obtain ⟨-, -, hids, hnames⟩ := hok
  constructor
  · intro owner howner
    rw [howner] at hnames
    simpa using hnames
  · intro hhas
    obtain ⟨record, hrecord⟩ := has_iff.mp hhas
    have hkey := h.keyed name record hrecord
    rw [hrecord] at hids
    rw [← hkey]
    simpa using hids

/-- The next record has the ID of the current one, and its name unless the patch has one. -/
theorem next_ok {current record : SessionCatalogRecord N} {patch : SessionCatalogPatch N}
    {now : JsString} (hok : next host current patch now = .ok record) :
    record.sessionId = current.sessionId ∧ record.name = patch.name.getD current.name := by
  simp only [next, bind_ok, Except.ok.injEq] at hok
  obtain ⟨-, -, rfl⟩ := hok
  exact ⟨rfl, rfl⟩

variable {record : SessionCatalogRecord N}

section
variable (h : NameIndex s)
include h

theorem resolve_filed {sessionRef : JsString} (hres : s.resolve sessionRef = some record) :
    s.records.get? record.sessionId = some record ∧
      (record.sessionId = sessionRef ∨ record.name = some sessionRef) := by
  unfold resolve at hres
  split at hres
  · rename_i byId hid
    cases hres
    have hkey := h.keyed sessionRef record hid
    exact ⟨by rw [hkey]; exact hid, Or.inl hkey⟩
  · obtain ⟨id, hname, hrecord⟩ := Option.bind_eq_some_iff.mp hres
    have hkey := h.keyed id record hrecord
    obtain ⟨_, hheld, hcarries⟩ := (h.indexed sessionRef id).mp hname
    rw [hrecord] at hheld
    cases hheld
    exact ⟨by rw [hkey]; exact hrecord, Or.inr hcarries⟩

theorem require_ok {sessionRef : JsString} (hok : s.require sessionRef = .ok record) :
    s.records.get? record.sessionId = some record := by
  unfold require at hok
  split at hok
  · rename_i found hres
    cases hok
    exact (resolve_filed h hres).1
  · cases hok

theorem createRecord_ok {input : SessionCatalogCreateInput N} {now : JsString}
    (hok : s.createRecord options host input now = .ok record) :
    s.records.get? record.sessionId = none ∧
      (∀ owner, s.names.get? record.sessionId = some owner → owner = record.sessionId) ∧
      ∀ name, record.name = some name → Available s name record.sessionId := by
  simp only [createRecord, bind_ok, check_ok, forM_ok, Except.ok.injEq] at hok
  obtain ⟨-, -, -, -, -, -, -, hnew, -, howner, -, -, _, hname, -, -, rfl⟩ := hok
  refine ⟨has_eq_false.mp (by simpa using hnew), ?_, ?_⟩
  · intro owner hown
    rw [hown] at howner
    simpa using howner
  · intro name hcarries
    exact assertNameAvailable_ok h (hname name hcarries)

theorem replaceRecord_ok {sessionRef : JsString} {input : SessionCatalogReplaceInput N}
    {now : JsString} {current record : SessionCatalogRecord N}
    (hok : s.replaceRecord host sessionRef input now = .ok (current, record)) :
    s.records.get? current.sessionId = some current ∧ record.sessionId = current.sessionId ∧
      ∀ name, record.name = some name → Available s name current.sessionId := by
  simp only [replaceRecord, bind_ok, check_ok, forM_ok, Except.ok.injEq, Prod.mk.injEq] at hok
  obtain ⟨_, hfound, -, -, -, -, -, -, -, -, _, hname, _, hnext, rfl, rfl⟩ := hok
  obtain ⟨hid, hcarries⟩ := next_ok hnext
  refine ⟨require_ok h hfound, hid, ?_⟩
  intro name hown
  rw [hcarries] at hown
  exact assertNameAvailable_ok h (hname name hown)

theorem transitionRecord_ok {sessionId : JsString} {generation : Nat}
    {patch : SessionCatalogPatch N} {now : JsString} {current record : SessionCatalogRecord N}
    (hpatch : patch.name = none)
    (hok : s.transitionRecord host sessionId generation patch now = .ok (current, record)) :
    s.records.get? current.sessionId = some current ∧ record.sessionId = current.sessionId ∧
      ∀ name, record.name = some name → Available s name current.sessionId := by
  simp only [transitionRecord, bind_ok, check_ok, Except.ok.injEq, Prod.mk.injEq] at hok
  obtain ⟨found, hfound, -, -, _, hnext, rfl, rfl⟩ := hok
  obtain ⟨hid, hcarries⟩ := next_ok hnext
  have hfiled := require_ok h hfound
  refine ⟨hfiled, hid, ?_⟩
  intro name hown
  rw [hcarries, hpatch] at hown
  constructor
  · intro owner howner
    rw [h.names_of_record hfiled hown] at howner
    exact (Option.some.inj howner).symm
  · intro hhas
    exact h.apart _ found name hfiled hown hhas

theorem register_ok {t : FileSessionCatalog N} (hnew : s.records.has record.sessionId = false)
    (hok : s.register record = .ok t) : t = s.insert record ∧ NameIndex t := by
  simp only [register, bind_ok, check_ok, forM_ok, Except.ok.injEq] at hok
  obtain ⟨-, hid, -, hname, rfl⟩ := hok
  refine ⟨rfl, h.insert (has_eq_false.mp hnew) ?_ ?_⟩
  · intro owner howner
    rw [howner] at hid
    simpa using hid
  · intro name hcarries
    obtain ⟨-, howner, hnoid⟩ := hname name hcarries
    constructor
    · intro owner hown
      rw [hown] at howner
      simpa using howner
    · intro hhas
      simpa [hhas] using hnoid

end

/-! ## Calls -/

theorem write_memory (options : CatalogOptions) (host : CatalogHost N) (s : FileSessionCatalog N)
    (record : SessionCatalogRecord N) (outcome : FileOutcome) :
    (s.write options host record outcome).1.records = s.records ∧
      (s.write options host record outcome).1.names = s.names := by
  unfold write
  repeat' split
  all_goals exact ⟨rfl, rfl⟩

theorem write_nameIndex (options : CatalogOptions) (host : CatalogHost N)
    {s : FileSessionCatalog N} (h : NameIndex s) (record : SessionCatalogRecord N) (outcome : FileOutcome) :
    NameIndex (s.write options host record outcome).1 := by
  obtain ⟨hr, hn⟩ := write_memory options host s record outcome
  exact h.congr (fun _ => by rw [hr]) (fun _ => by rw [hn])

theorem writeNext_nameIndex {current record : SessionCatalogRecord N} {outcome : FileOutcome}
    (h : NameIndex s) (hget : s.records.get? current.sessionId = some current)
    (hsame : record.sessionId = current.sessionId)
    (hname : ∀ name, record.name = some name → Available s name current.sessionId) :
    NameIndex (s.writeNext options host current record outcome).1 := by
  have hwritten := write_nameIndex options host h record outcome
  obtain ⟨hr, hn⟩ := write_memory options host s record outcome
  unfold writeNext
  split
  · rename_i t error heq
    rw [heq] at hwritten
    exact hwritten
  · rename_i t u heq
    rw [heq] at hwritten hr hn
    apply hwritten.replaceIndexes
    · rw [hr]
      exact hget
    · exact hsame
    · intro name hown
      have havail := hname name hown
      exact ⟨by rw [hn]; exact havail.unclaimed, by rw [hr]; exact havail.noId⟩

theorem create_nameIndex (h : NameIndex s) (input : SessionCatalogCreateInput N) (now : JsString)
    (outcome : FileOutcome) : NameIndex (s.create options host input now outcome).1 := by
  unfold create
  split
  · exact h
  rename_i record hok
  obtain ⟨hnew, hid, hname⟩ := createRecord_ok h hok
  have hwritten := write_nameIndex options host h record outcome
  obtain ⟨hr, hn⟩ := write_memory options host s record outcome
  split
  · rename_i t error heq
    rw [heq] at hwritten
    exact hwritten
  · rename_i t u heq
    rw [heq] at hwritten hr hn
    apply hwritten.insert
    · rw [hr]
      exact hnew
    · rw [hn]
      exact hid
    · intro name hown
      have havail := hname name hown
      exact ⟨by rw [hn]; exact havail.unclaimed, by rw [hr]; exact havail.noId⟩

theorem replace_nameIndex (h : NameIndex s) (sessionRef : JsString)
    (input : SessionCatalogReplaceInput N) (now : JsString) (outcome : FileOutcome) :
    NameIndex (s.replace options host sessionRef input now outcome).1 := by
  unfold replace
  split
  · exact h
  rename_i current record hok
  obtain ⟨hget, hsame, hname⟩ := replaceRecord_ok h hok
  exact writeNext_nameIndex h hget hsame hname

theorem transition_nameIndex (h : NameIndex s) (sessionId : JsString) (generation : Nat)
    (patch : SessionCatalogPatch N) (hpatch : patch.name = none) (now : JsString)
    (outcome : FileOutcome) :
    NameIndex (s.transition options host sessionId generation patch now outcome).1 := by
  unfold transition
  split
  · exact h
  rename_i current record hok
  obtain ⟨hget, hsame, hname⟩ := transitionRecord_ok h hpatch hok
  exact writeNext_nameIndex h hget hsame hname

theorem delete_nameIndex (h : NameIndex s) (sessionRef : JsString) (outcome : FileOutcome) :
    NameIndex (s.delete sessionRef outcome).1 := by
  unfold delete
  split
  · exact h
  rename_i current hres
  have hget := (resolve_filed h hres).1
  simp only
  split
  · -- The file is gone, and the memory follows.
    have hremoved := h.remove hget
    exact hremoved.congr (fun _ => by split <;> rfl) (fun _ => by split <;> rfl)
  · exact h.congr (fun _ => by split <;> rfl) (fun _ => by split <;> rfl)

/-! ## Recovery -/

theorem loadFiles_nameIndex (options : CatalogOptions) (host : CatalogHost N)
    {s : FileSessionCatalog N} (files : List JsString) (recoveryBytes : Nat) (h : NameIndex s) :
    NameIndex (s.loadFiles options host recoveryBytes files).1 := by
  induction files generalizing s recoveryBytes with
  | nil => exact h
  | cons name rest ih =>
    unfold loadFiles
    split
    · exact ih _ h
    split
    · exact h
    split
    · exact h
    split
    · exact h
    split
    · exact h
    split
    · exact h
    split
    · exact h
    rename_i hnew
    split
    · exact h
    · rename_i t hok
      exact ih _ (register_ok h (Bool.eq_false_iff.mpr hnew) hok).2

/-- Every record still to be rewritten is filed, if in a later form, with its name. -/
theorem restartRecords_nameIndex (now : JsString → JsString) (outcome : JsString → FileOutcome)
    (records : List (SessionCatalogRecord N)) (h : NameIndex s)
    (hfiled : ∀ record ∈ records, ∃ held, s.records.get? record.sessionId = some held ∧
      held.name = record.name) :
    NameIndex (s.restartRecords options host now outcome records).1 := by
  induction records generalizing s with
  | nil => exact h
  | cons record rest ih =>
    have hrest : ∀ later ∈ rest, ∃ held, s.records.get? later.sessionId = some held ∧
        held.name = later.name := fun later hmem => hfiled later (List.mem_cons_of_mem _ hmem)
    unfold restartRecords
    split
    · exact ih h hrest
    rename_i patch hpatch
    split
    · exact h
    rename_i next hnext
    have hwritten := write_nameIndex options host h next
      (outcome record.sessionId)
    obtain ⟨hr, hn⟩ := write_memory options host s next (outcome record.sessionId)
    split
    · rename_i t error heq
      rw [heq] at hwritten
      exact hwritten
    · rename_i t u heq
      rw [heq] at hwritten hr hn
      obtain ⟨held, hheld, hsame⟩ := hfiled record List.mem_cons_self
      obtain ⟨hid, hcarries⟩ := next_ok hnext
      have hnone : patch.name = none := by
        unfold restartPatch at hpatch
        simp only at hpatch
        split at hpatch
        · cases hpatch
        · cases hpatch
          rfl
      rw [hnone, Option.getD_none] at hcarries
      have hkey := h.keyed _ held hheld
      have hfile : t.records.get? held.sessionId = some held := by
        rw [hr, hkey]
        exact hheld
      have hreplaced : NameIndex (t.replaceIndexes held next) := by
        apply hwritten.replaceIndexes hfile (by rw [hid, hkey])
        intro name hown
        rw [hcarries, ← hsame] at hown
        constructor
        · intro owner howner
          rw [hwritten.names_of_record hfile hown] at howner
          exact (Option.some.inj howner).symm
        · exact hwritten.apart _ held name hfile hown
      apply ih
      · apply hreplaced.congr
        · intro id
          rfl
        intro name
        unfold replaceIndexes
        cases hown : held.name with
        | none =>
          have hnext : next.name = none := by rw [hcarries, ← hsame, hown]
          simp only [hnext]
        | some own =>
          have hnext : next.name = some own := by rw [hcarries, ← hsame, hown]
          have hindex := hwritten.names_of_record hfile hown
          simp only [hnext, if_pos, get?_set]
          split
          · rename_i heq
            rw [← heq, hindex, hid, hkey]
          · rfl
      · intro later hmem
        obtain ⟨other, hother, hname⟩ := hrest later hmem
        rw [← hr] at hother
        simp only [get?_set]
        split
        · rename_i heq
          refine ⟨next, rfl, ?_⟩
          rw [← heq, hid, hr, hheld] at hother
          cases hother
          rw [hcarries, ← hsame, hname]
        · exact ⟨other, hother, hname⟩

theorem load_nameIndex (h : NameIndex s) (now : JsString → JsString)
    (outcome : JsString → FileOutcome) : NameIndex (s.load options host now outcome).1 := by
  have hloaded : NameIndex (s.loadRecords options host now outcome).1 := by
    unfold loadRecords
    split
    · exact h
    have hfiles := loadFiles_nameIndex options host s.catalogFiles 0 h
    split
    · rename_i t error heq
      rw [heq] at hfiles
      exact hfiles
    · rename_i t u heq
      rw [heq] at hfiles
      split
      · exact hfiles
      apply restartRecords_nameIndex now outcome _ hfiles
      intro record hmem
      obtain ⟨entry, hentry, rfl⟩ := List.mem_map.mp hmem
      have hget := mem_entries.mp hentry
      exact ⟨entry.2, by rw [hfiles.keyed _ _ hget]; exact hget, rfl⟩
  unfold load
  split
  · rename_i t error heq
    rw [heq] at hloaded
    exact hloaded.congr (fun _ => rfl) (fun _ => rfl)
  · rename_i t u heq
    rw [heq] at hloaded
    exact hloaded.congr (fun _ => rfl) (fun _ => rfl)

end FileSessionCatalog

/-! ## Runs -/

variable {options : CatalogOptions}

/-- **A step of the catalog** keeps what every method keeps. -/
theorem catalogStep_keeps {host : CatalogHost N} {motive : FileSessionCatalog N → Prop} {s t : FileSessionCatalog N}
    {event : CatalogEvent N} (h : motive s) (load : ∀ now outcome, motive (s.load options host now outcome).1)
    (create : ∀ input now outcome, motive (s.create options host input now outcome).1)
    (replace : ∀ sessionRef input now outcome, motive (s.replace options host sessionRef input now outcome).1)
    (delete : ∀ sessionRef outcome, motive (s.delete sessionRef outcome).1)
    (transition : ∀ sessionId generation patch, patch.name = none → ∀ now outcome,
      motive (s.transition options host sessionId generation patch now outcome).1)
    (hstep : catalogStep options host s event = some t) : motive t := by
  cases hrec : s.recovery with
  | pending =>
    cases event <;> simp only [catalogStep, hrec] at hstep <;> cases hstep
    exact load _ _
  | failed =>
    simp only [catalogStep, hrec] at hstep
    cases hstep
    exact h
  | recovered =>
    cases event <;> simp only [catalogStep, hrec] at hstep <;> cases hstep
    · exact h
    · exact create _ _ _
    · exact replace _ _ _ _
    -- The four state changes are transitions whose patches leave the name.
    iterate 4 exact transition _ _ _ rfl _ _
    exact delete _ _

theorem catalogStep_nameIndex {host : CatalogHost N} {s t : FileSessionCatalog N} {event : CatalogEvent N}
    (h : NameIndex s) (hstep : catalogStep options host s event = some t) : NameIndex t :=
  catalogStep_keeps h (FileSessionCatalog.load_nameIndex h) (FileSessionCatalog.create_nameIndex h)
    (FileSessionCatalog.replace_nameIndex h) (FileSessionCatalog.delete_nameIndex h)
    (FileSessionCatalog.transition_nameIndex h) hstep

theorem run_nameIndex {host : CatalogHost N} {directory : OrderedMap JsString (RecordFile N)}
    {events : List (CatalogEvent N)} {s : FileSessionCatalog N}
    (hrun : run (catalogStep options host) (FileSessionCatalog.new directory) events = some s) : NameIndex s :=
  run_invariant (fun _ _ _ h hstep => catalogStep_nameIndex h hstep) (NameIndex.new directory) hrun

/-- In every state that a catalog reaches over any directory, the index has exactly the
names of the records; no name is carried twice or is another session's ID; and a
reference resolves to the one record that has it for its ID or its name, an ID to its own. -/
theorem catalog_name_index {options : CatalogOptions} {host : CatalogHost N}
    {directory : OrderedMap JsString (RecordFile N)} {events : List (CatalogEvent N)}
    {s : FileSessionCatalog N}
    (hrun : run (catalogStep options host) (FileSessionCatalog.new directory) events = some s) :
    (∀ name id, s.names.get? name = some id ↔
      ∃ record, s.records.get? id = some record ∧ record.name = some name) ∧
    (∀ id id' record record' name, s.records.get? id = some record → record.name = some name →
      s.records.get? id' = some record' → record'.name = some name → id = id') ∧
    (∀ id record name, s.records.get? id = some record → record.name = some name →
      s.records.has name = true → name = id) ∧
    (∀ sessionRef id record, s.records.get? id = some record →
      (id = sessionRef ∨ record.name = some sessionRef ↔ s.resolve sessionRef = some record)) ∧
    ∀ id record, s.records.get? id = some record →
      record.sessionId = id ∧ s.resolve id = some record := by
  have h := run_nameIndex hrun
  have hown : ∀ id record, s.records.get? id = some record → s.resolve id = some record := by
    intro id record hget
    rw [FileSessionCatalog.resolve, hget]
  refine ⟨h.indexed, ?_, h.apart, ?_, ?_⟩
  · intro id id' record record' name hget hname hget' hname'
    exact h.name_unique hget hname hget' hname'
  · intro sessionRef id record hget
    constructor
    · rintro (rfl | hname)
      · exact hown id record hget
      -- No other session is filed under the name.
      rw [FileSessionCatalog.resolve]
      cases hid : s.records.get? sessionRef with
      | some byId =>
        have heq := h.apart id record sessionRef hget hname (has_iff.mpr ⟨byId, hid⟩)
        rw [heq, hget] at hid
        exact hid.symm
      | none =>
        simp only [h.names_of_record hget hname, Option.bind_some]
        exact hget
    · intro hres
      obtain ⟨-, href⟩ := FileSessionCatalog.resolve_filed h hres
      rw [h.keyed id record hget] at href
      exact href
  · intro id record hget
    exact ⟨h.keyed id record hget, hown id record hget⟩

/-- A session created with its ID for a name, renamed, and a second one with the first name. -/
theorem catalog_name_index_renamed :
    ∃ s, run (catalogStep ⟨2, 1000, 1000⟩ memoryHost) (FileSessionCatalog.new .empty)
        [.recover (fun _ => []) fun _ => .done,
          .create (memoryInput (text "a") (some (text "a"))) (text "t") .done,
          .replace (text "a") (renameInput 1 (some (some (text "b")))) (text "t") .done,
          .create (memoryInput (text "c") (some (text "d"))) (text "t") .done] = some s ∧
      s.names.get? (text "b") = some (text "a") ∧
      ∀ id, s.names.get? (text "b") = some id ↔
        ∃ record, s.records.get? id = some record ∧ record.name = some (text "b") := by
  refine exists_some_and (by decide +kernel) fun s hs _ => ?_
  exact (catalog_name_index hs).1 (text "b")

end

end PiDaemon.Catalog
