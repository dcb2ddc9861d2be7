import PiDaemon.Multiplexer.Residency

/-!
# What a lifecycle step does to the generations

The effects of the lifecycle operations on the generations of the catalog records, of
the slots and of the retained tool adapter policies.

* `Effect.retains`: which effects write a record with another generation;
* `Effect.entry`, `Effect.log`: the slots that become resident, the opens that succeed;
* `Effect.policies`, `Effect.adapting`: the tool adapter policy during an open.
-/

namespace PiDaemon.Multiplexer

open Lib LifecycleOp OrderedMap

/-! ## The generation of a record -/

/-- The generation of the catalog record of the session. -/
def Host.retainedGeneration (h : Host) (sessionId : SessionId) : Option Nat :=
  (h.catalog.get? sessionId).map (·.generation)

theorem retainedGeneration_record (h : Host) (sessionId other : SessionId)
    (record : SessionCatalogRecord) :
    (h.recordCatalog sessionId record).retainedGeneration other =
      if sessionId = other then some record.generation else h.retainedGeneration other := by
  unfold Host.retainedGeneration Host.recordCatalog
  rw [get?_set]
  split <;> rfl

theorem catalogMarkDormant_generation {h : Host} {sessionId : SessionId} {generation : Nat}
    {dormant : SessionCatalogRecord}
    (hd : catalogMarkDormant h.catalog sessionId generation = .ok dormant) :
    h.retainedGeneration sessionId = some dormant.generation := by
  unfold catalogMarkDormant at hd
  unfold Host.retainedGeneration
  split at hd
  · cases hd
  rename_i current hget
  split at hd <;> cases hd
  rw [hget]
  rfl

theorem catalogReplace_generation {h : Host} {sessionId : SessionId}
    {input : SessionCatalogReplaceInput} {next : SessionCatalogRecord}
    (hn : catalogReplace h.catalog sessionId input = .ok next) :
    next.generation = input.generation ∧
      ∃ n, h.retainedGeneration sessionId = some n ∧ n ≤ input.generation := by
  unfold catalogReplace at hn
  unfold Host.retainedGeneration
  split at hn
  · cases hn
  rename_i current hget
  split at hn
  · cases hn
  split at hn <;> cases hn
  rename_i hle
  rw [hget]
  exact ⟨rfl, current.generation, rfl, Nat.le_of_not_lt hle⟩

theorem openRecord_generation {h : Host} {command : OpenCommand} {x : LifecycleOp}
    {record : SessionCatalogRecord} (hr : h.openRecord command x = .ok record) :
    record.generation = command.generation ∧
      ∀ n, h.retainedGeneration command.sessionId = some n → n ≤ command.generation := by
  unfold Host.openRecord at hr
  split at hr
  · unfold catalogCreate at hr
    split at hr <;> cases hr
    rename_i hhas
    refine ⟨rfl, fun n hn => ?_⟩
    rw [Bool.not_eq_true, has_eq_false] at hhas
    unfold Host.retainedGeneration at hn
    rw [hhas] at hn
    cases hn
  · obtain ⟨hg, n, hn, hle⟩ := catalogReplace_generation hr
    refine ⟨hg, fun m hm => ?_⟩
    rw [hn] at hm
    cases hm
    exact hle

theorem retainedGeneration_same {h : Host} {sessionId : SessionId} {record : SessionCatalogRecord}
    (hr : h.retainedGeneration sessionId = some record.generation) (other : SessionId) :
    (h.recordCatalog sessionId record).retainedGeneration other = h.retainedGeneration other := by
  rw [retainedGeneration_record]
  split
  · rename_i e
    rw [← e, hr]
  · rfl

/-! ## Effects -/

/-- The awaits of a `close` that deletes a dormant session. -/
def LifecyclePc.deleting : LifecyclePc → Bool
  | .closeRetainedArtifacts | .closeRetainedDelete => true
  | _ => false

/-- The record of `sessionId` is written with a generation that is not lower. -/
structure Writes (h g : Host) (sessionId : SessionId) (generation : Nat) : Prop where
  written : ∀ other, g.retainedGeneration other =
    if sessionId = other then some generation else h.retainedGeneration other
  le : ∀ n, h.retainedGeneration sessionId = some n → n ≤ generation

/-- The generations of the records after an effect. -/
inductive Retains (h : Host) (x : LifecycleOp) (g : Host) (x' : LifecycleOp) : Prop
  | same : (∀ sessionId, g.retainedGeneration sessionId = h.retainedGeneration sessionId) →
      (x'.pc = .openManifest → h.hasCatalog = false) → Retains h x g x'
  | «open» (command) : x.request = .open command → x.pc = .openCatalog →
      Writes h g command.sessionId command.generation → Retains h x g x'
  | replace (sessionId input next) : x.request = .replaceDormant sessionId input →
      x.pc = .replaceCommit → catalogReplace h.catalog sessionId input = .ok next →
      Writes h g sessionId next.generation → x'.pc = .done .replaced → Retains h x g x'

section
variable {h g : Host} {x x' : LifecycleOp}

theorem retainedGeneration_retainToolAdapter (h : Host) (command : OpenCommand)
    (sessionId : SessionId) :
    (h.retainToolAdapter command).retainedGeneration sessionId = h.retainedGeneration sessionId := by
  unfold Host.retainToolAdapter
  split <;> rfl

theorem retainedGeneration_sweepCheck (h : Host) (i : SlotId) (now : Nat) (sessionId : SessionId) :
    (h.sweepCheck i now).1.retainedGeneration sessionId = h.retainedGeneration sessionId := by
  unfold Host.sweepCheck Host.residencyLeaseCount
  split
  · rfl
  simp only
  split
  · rfl
  · split <;> rfl

theorem OpenCommand.firstAwait_ne (command : OpenCommand) :
    command.firstAwait ≠ .openManifest ∧ command.firstAwait ≠ .openChecks ∧
      command.firstAwait ≠ .openDispose ∧ command.firstAwait.deleting = false := by
  rcases command.firstAwait_cases with e | e <;> rw [e] <;>
    exact ⟨LifecyclePc.noConfusion, LifecyclePc.noConfusion, LifecyclePc.noConfusion, rfl⟩

theorem Effect.retains (he : Effect h x g x') (hd : x.request.deletes = false)
    (hp : x.pc.deleting = false) : Retains h x g x' := by
  cases he with
  | go hg => exact .same (fun _ => rfl) fun e => by cases hg <;> cases e
  | finish _ _ hpc => exact .same (fun _ => rfl) fun e => by rw [hpc] at e; cases e
  | create =>
    exact .same (retainedGeneration_retainToolAdapter h _) fun e =>
      absurd e (OpenCommand.firstAwait_ne _).1
  | replaced =>
    exact .same (retainedGeneration_retainToolAdapter (h.removeSession _) _) fun e =>
      absurd e (OpenCommand.firstAwait_ne _).1
  | controller =>
    refine .same (fun _ => rfl) fun e => ?_
    cases hc : h.hasCatalog with
    | false => rfl
    | true =>
      simp only [hc, if_true] at e
      cases e
  | @openCatalog command record hr hpc hrec =>
    obtain ⟨hg, hle⟩ := openRecord_generation hrec
    refine .open command hr hpc ⟨fun other => ?_, hle⟩
    rw [← hg]
    exact retainedGeneration_record h command.sessionId other record
  | @repair command code generation dormant _ _ hm | closeDormant _ _ hm | closeRetained _ _ hm
  | evictDormant _ _ hm =>
    exact .same (retainedGeneration_same (catalogMarkDormant_generation hm)) fun e => by cases e
  | closeDelete hr =>
    rw [hr] at hd
    cases hd
  | closeRetainedDelete _ hpc =>
    rw [hpc] at hp
    cases hp
  | beginCloseCached _ _ hpc =>
    rcases hpc with rfl | ⟨rfl, -⟩ <;> exact .same (fun _ => rfl) fun e => by cases e
  | sweepPass | sweepClose => exact .same (retainedGeneration_sweepCheck h _ _) fun e => by cases e
  | @replaceCommit sessionId input next hr hpc hn =>
    obtain ⟨hg, _, hget, hle⟩ := catalogReplace_generation hn
    refine .replace sessionId input next hr hpc hn
      ⟨fun other => retainedGeneration_record h sessionId other next, fun m hm => ?_⟩ rfl
    rw [hget] at hm
    cases hm
    rw [hg]
    exact hle
  | _ => exact .same (fun _ => rfl) fun e => by cases e

/-- A close that retains the artifacts goes on to retain them. -/
theorem Effect.deleting (he : Effect h x g x') (hd : x.request.deletes = false)
    (hp : x.pc.deleting = false) : x'.pc.deleting = false := by
  have hno : ∀ {p : Prop}, x.request.deletes = true → p := fun h => by
    rw [hd] at h
    cases h
  cases he with
  | go hg =>
    cases hg with
    | closeRetainedArtifacts _ hx => exact hno hx
    | closeRetainedDelete hpc =>
      rw [hpc] at hp
      cases hp
    | _ => rfl
  | finish _ _ hpc => rw [hpc]; rfl
  | create | replaced => exact (OpenCommand.firstAwait_ne _).2.2.2
  | controller => cases h.hasCatalog <;> simp [LifecyclePc.deleting]
  | beginCloseCached _ _ hpc =>
    rcases hpc with rfl | ⟨rfl, hx⟩
    · rfl
    · exact hno hx
  | _ => rfl

theorem Effect.generation (he : Effect h x g x') : h.slots.next ≤ g.slots.next ∧
    ∀ i < h.slots.next, (g.slot i).generation = (h.slot i).generation := by
  have hset : ∀ (i : SlotId) {f : SessionSlot → SessionSlot}, (∀ s, (f s).generation = s.generation) →
      h.slots.next ≤ (h.setSlot i f).slots.next ∧
        ∀ j < h.slots.next, ((h.setSlot i f).slot j).generation = (h.slot j).generation :=
    fun i f hf => ⟨Nat.le_refl _, fun j _ => Host.slot_setSlot (·.generation) h i hf j⟩
  have hsame : ∀ {k : Host}, k.slots = h.slots → h.slots.next ≤ k.slots.next ∧
      ∀ j < h.slots.next, (k.slot j).generation = (h.slot j).generation := by
    intro k hk
    refine ⟨Nat.le_of_eq (congrArg Heap.next hk).symm, fun j _ => ?_⟩
    exact congrArg (fun slots => (slots.cell j).generation) hk
  cases he with
  | create => exact hsame (slots_retainToolAdapter h _).1
  | replaced => exact hsame (slots_retainToolAdapter (h.removeSession _) _).1
  | reuse | replace | dispose | sweepDispose | sweepFailed => exact hset _ fun _ => rfl
  | sweepPass => exact hsame (slots_sweepCheck h _ _).1
  | @sweepClose _ i now =>
    have hs := (slots_sweepCheck h i now).1
    have hnext : (h.sweepCheck i now).1.slots.next = h.slots.next := congrArg Heap.next hs
    refine ⟨Nat.le_of_eq hnext.symm, fun j _ => ?_⟩
    refine (Host.slot_setSlot (f := fun s => { s with state := .closing }) (·.generation)
      (h.sweepCheck i now).1 i (fun _ => rfl) j).trans ?_
    exact congrArg (fun slots => (slots.cell j).generation) hs
  | opened =>
    exact ⟨Nat.le_succ _, fun j hj => congrArg SessionSlot.generation (Heap.cell_alloc_lt h.slots hj _)⟩
  | _ => exact hsame rfl

/-- A slot that an effect makes resident is the new one of an open. -/
theorem Effect.entry (he : Effect h x g x') {sessionId : SessionId} {i : SlotId}
    (hg : g.sessions.get? sessionId = some i) : h.sessions.get? sessionId = some i ∨
      ∃ command, x.request = .open command ∧ x.pc = .openManifest ∧
        command.sessionId = sessionId ∧ g = h.openSlot command x ∧ i < g.slots.next ∧
        (g.slot i).generation = command.generation := by
  cases he with
  | create =>
    rw [(slots_retainToolAdapter h _).2] at hg
    exact Or.inl hg
  | @replaced command =>
    rw [(slots_retainToolAdapter (h.removeSession _) command).2] at hg
    exact Or.inl (get?_of_delete hg).2
  | sweepPass =>
    rw [(slots_sweepCheck h _ _).2] at hg
    exact Or.inl hg
  | @sweepClose _ i now =>
    have hg : (h.sweepCheck i now).1.sessions.get? sessionId = _ := hg
    rw [(slots_sweepCheck h i now).2] at hg
    exact Or.inl hg
  | @opened command hr hpc =>
    have hread : (h.openSlot command x).sessions.get? sessionId =
        if command.sessionId = sessionId then some h.slots.next else h.sessions.get? sessionId :=
      get?_set h.sessions command.sessionId sessionId h.slots.next
    rw [hread] at hg
    split at hg
    · rename_i e
      cases hg
      refine Or.inr ⟨command, hr, hpc, e, rfl, Nat.lt_succ_self _, ?_⟩
      exact congrArg SessionSlot.generation (Heap.cell_alloc_self h.slots _)
    · exact Or.inl hg
  | closed | deleted | evict | evictDormant => exact Or.inl (get?_of_delete hg).2
  | _ => exact Or.inl hg

theorem openLog_sweepCheck (h : Host) (i : SlotId) (now : Nat) :
    (h.sweepCheck i now).1.openLog = h.openLog := by
  unfold Host.sweepCheck Host.residencyLeaseCount
  split
  · rfl
  simp only
  split
  · rfl
  · split <;> rfl

theorem Effect.log (he : Effect h x g x') : g.openLog = h.openLog ∨
    ∃ command, x.request = .open command ∧
      g.openLog = h.openLog ++ [(command.sessionId, command.generation)] ∧
      (x.pc = .openManifest ∨ x.pc = .openChecks ∧
        ∃ i, x.existing = some i ∧ command.generation = (h.slot i).generation) := by
  have hretain : ∀ (k : Host) (command : OpenCommand),
      (k.retainToolAdapter command).openLog = k.openLog := by
    intro k command
    unfold Host.retainToolAdapter
    split <;> rfl
  cases he with
  | create => exact Or.inl (hretain h _)
  | replaced => exact Or.inl (hretain (h.removeSession _) _)
  | sweepPass | sweepClose => exact Or.inl (openLog_sweepCheck h _ _)
  | @reuse command i hr hpc hd =>
    obtain ⟨hx, hgen⟩ := checkResident_reuse (openDecision_eq_ok hd).2.2.2
    exact Or.inr ⟨command, hr, rfl, Or.inr ⟨hpc, i, hx, hgen⟩⟩
  | @opened command hr hpc => exact Or.inr ⟨command, hr, rfl, Or.inl hpc⟩
  | _ => exact Or.inl rfl

/-- An open reads the record before it checks it. -/
theorem Effect.reading (he : Effect h x g x') (hpc : x'.pc = .openChecks) :
    ∃ command, x.request = .open command ∧ x'.retained = h.catalog.get? command.sessionId ∧ g = h := by
  cases he with
  | openGet hr => exact ⟨_, hr, rfl, rfl⟩
  | go hg => cases hg <;> cases hpc
  | finish _ _ hpc' =>
    rw [hpc'] at hpc
    cases hpc
  | create | replaced => exact absurd hpc (OpenCommand.firstAwait_ne _).2.1
  | controller => cases hc : h.hasCatalog <;> simp [hc] at hpc
  | beginCloseCached _ _ hpcs => rcases hpcs with rfl | ⟨rfl, -⟩ <;> cases hpc
  | _ => cases hpc

theorem Effect.replacing (he : Effect h x g x') (hpc : x'.pc = .openDispose) :
    ∃ command i, x.request = .open command ∧ x'.existing = some i ∧
      (g.slot i).generation < command.generation := by
  cases he with
  | @replace command i hr _ hd =>
    obtain ⟨hx, hlt, -, -⟩ := checkResident_replace (openDecision_eq_ok hd).2.2.2
    refine ⟨command, i, hr, hx, ?_⟩
    have : ((h.disposeSlot i).slot i).generation = (h.slot i).generation :=
      Host.slot_setSlot (f := fun s => { s with state := .closing, disposing := true })
        (·.generation) h i (fun _ => rfl) i
    rw [this]
    exact hlt
  | go hg => cases hg <;> cases hpc
  | finish _ _ hpc' =>
    rw [hpc'] at hpc
    cases hpc
  | create | replaced => exact absurd hpc (OpenCommand.firstAwait_ne _).2.2.1
  | controller => cases hc : h.hasCatalog <;> simp [hc] at hpc
  | beginCloseCached _ _ hpcs => rcases hpcs with rfl | ⟨rfl, -⟩ <;> cases hpc
  | _ => cases hpc

/-! ## The tool adapter policies -/

/-- What the retained tool adapter policy of the session is while an open has passed its
checks and has not inserted its slot. -/
def AdapterKept (policies : OrderedMap SessionId ToolAdapterPolicy) (command : OpenCommand)
    (x : LifecycleOp) : Prop :=
  match command.toolAdapter with
  | none => policies.get? command.sessionId = x.retainedToolAdapter ∧
      ∀ policy, x.retainedToolAdapter = some policy → policy.generation < command.generation
  | some summary => x.pc = .openDispose ∨
      policies.get? command.sessionId = some ⟨command.generation, summary⟩

/-- The awaits of an open that has passed its checks. -/
def LifecyclePc.passed : LifecyclePc → Bool
  | .openDispose | .openReprovision | .openFactory | .openController | .openCatalog
  | .openManifest => true
  | _ => false

theorem checkToolAdapter_none {command : OpenCommand} {policy : Option ToolAdapterPolicy}
    (hc : checkToolAdapter command policy = .ok ()) (ha : command.toolAdapter = none) :
    ∀ p, policy = some p → p.generation < command.generation := by
  rintro p rfl
  unfold checkToolAdapter at hc
  rw [ha] at hc
  split at hc
  · cases hc
  · contradiction
  · rename_i e
    cases e
    split at hc
    · cases hc
    split at hc
    · cases hc
    · omega

theorem policies_sweepCheck (h : Host) (i : SlotId) (now : Nat) :
    (h.sweepCheck i now).1.toolAdapterPolicies = h.toolAdapterPolicies := by
  unfold Host.sweepCheck Host.residencyLeaseCount
  split
  · rfl
  simp only
  split
  · rfl
  · split <;> rfl

theorem policies_retainToolAdapter (h : Host) (command : OpenCommand) (sessionId : SessionId) :
    (h.retainToolAdapter command).toolAdapterPolicies.get? sessionId =
      if command.sessionId = sessionId then
        (command.toolAdapter.map (⟨command.generation, ·⟩)).or
          (h.toolAdapterPolicies.get? sessionId)
      else h.toolAdapterPolicies.get? sessionId := by
  unfold Host.retainToolAdapter
  cases command.toolAdapter with
  | none => simp
  | some =>
    simp only [get?_set]
    split <;> simp_all

/-- An effect changes the policy of its session only, and only as an open that knows
that the session is not resident or inserts its slot. -/
theorem Effect.policies (he : Effect h x g x')
    (hk : x.request.locks = true → ∀ r, x.known = some r →
      h.sessions.get? x.request.sessionId = r)
    (hd : x.request.deletes = false) (hp : x.pc.deleting = false) :
    g.toolAdapterPolicies = h.toolAdapterPolicies ∨
      x.request.locks = true ∧ (∃ r, x.known = some r) ∧
        (g.sessions.get? x.request.sessionId = none ∨ x.pc = .openManifest) ∧
        ∀ sessionId ≠ x.request.sessionId,
          g.toolAdapterPolicies.get? sessionId = h.toolAdapterPolicies.get? sessionId := by
  have hnone := fun hl => he.known (hk hl) none
  cases he with
  | @create command hr hpc =>
    refine Or.inr ⟨by rw [hr]; rfl, ⟨_, known_of_pc hpc⟩,
      Or.inl (hnone (by rw [hr]; rfl) (known_firstAwait rfl)), fun other hne => ?_⟩
    rw [hr] at hne
    rw [policies_retainToolAdapter, if_neg fun e => hne e.symm]
  | @replaced command hr hpc =>
    refine Or.inr ⟨by rw [hr]; rfl, ⟨_, known_of_pc hpc⟩,
      Or.inl (hnone (by rw [hr]; rfl) (known_firstAwait rfl)), fun other hne => ?_⟩
    rw [hr] at hne
    rw [policies_retainToolAdapter, if_neg fun e => hne e.symm]
    rfl
  | @opened command hr hpc =>
    refine Or.inr ⟨by rw [hr]; rfl, ⟨_, known_of_pc hpc⟩, Or.inr hpc,
      fun other hne => ?_⟩
    rw [hr] at hne
    unfold Host.openSlot
    split
    · split
      · exact get?_delete_ne _ fun e => hne e.symm
      · rfl
    · rfl
  | deleted hr =>
    rw [hr] at hd
    cases hd
  | closeRetainedDelete _ hpc =>
    rw [hpc] at hp
    cases hp
  | sweepPass | sweepClose => exact Or.inl (policies_sweepCheck h _ _)
  | _ => exact Or.inl rfl

theorem Effect.adapting {command : OpenCommand} (he : Effect h x g x')
    (hr : x.request = .open command)
    (hi : x.pc.passed = true → AdapterKept h.toolAdapterPolicies command x) :
    x'.pc.passed = true → AdapterKept g.toolAdapterPolicies command x' := by
  intro hpc
  have hkeep : ∀ {pc : LifecyclePc} {y : LifecycleOp}, x.pc = pc → pc.passed = true →
      pc ≠ .openDispose → y.retainedToolAdapter = x.retainedToolAdapter →
      AdapterKept h.toolAdapterPolicies command y := by
    intro pc y hx hp hne hy
    have := hi (by rw [hx]; exact hp)
    unfold AdapterKept at this ⊢
    split
    · rename_i ha
      rw [ha] at this
      rw [hy]
      exact this
    · rename_i summary ha
      rw [ha] at this
      rcases this with e | e
      · rw [hx] at e
        exact absurd e hne
      · exact Or.inr e
  cases he with
  | go hg =>
    cases hg with
    | factory hx => exact hkeep hx rfl LifecyclePc.noConfusion rfl
    | controller hx => exact hkeep hx rfl LifecyclePc.noConfusion rfl
    | _ => cases hpc
  | finish _ _ hx =>
    rw [hx] at hpc
    cases hpc
  | controller _ hx | openCatalog _ hx => exact hkeep hx rfl LifecyclePc.noConfusion rfl
  | @replace command' i hr' hx hd =>
    rw [hr] at hr'
    cases hr'
    unfold AdapterKept
    split
    · rename_i ha
      exact ⟨rfl, checkToolAdapter_none (openDecision_eq_ok hd).2.1 ha⟩
    · exact Or.inl rfl
  | @create command' hr' hx hd =>
    rw [hr] at hr'
    cases hr'
    unfold AdapterKept
    rw [policies_retainToolAdapter]
    split
    · rename_i ha
      rw [ha]
      exact ⟨by simp, checkToolAdapter_none (openDecision_eq_ok hd).2.1 ha⟩
    · rename_i summary ha
      rw [ha]
      exact Or.inr (by simp)
  | @replaced command' hr' hx =>
    rw [hr] at hr'
    cases hr'
    have := hi (by rw [hx]; rfl)
    unfold AdapterKept at this ⊢
    rw [policies_retainToolAdapter, if_pos rfl]
    split
    · rename_i ha
      rw [ha] at this ⊢
      exact this
    · rename_i summary ha
      rw [ha]
      exact Or.inr (by simp)
  | beginCloseCached _ _ hpcs => rcases hpcs with rfl | ⟨rfl, -⟩ <;> cases hpc
  | dispose hr' => rw [hr] at hr'; cases hr'
  | _ => cases hpc

/-- The policy of a session that an open inserts has the generation of the slot. -/
theorem openSlot_adapter {command : OpenCommand} {policy : ToolAdapterPolicy}
    (hk : AdapterKept h.toolAdapterPolicies command x) (hpc : x.pc = .openManifest)
    (hg : (h.openSlot command x).toolAdapterPolicies.get? command.sessionId = some policy) :
    policy.generation = command.generation := by
  unfold AdapterKept at hk
  unfold Host.openSlot at hg
  split at hg
  · rename_i p ha hx
    rw [ha] at hk
    rw [if_pos (hk.2 p hx), get?_delete_self] at hg
    cases hg
  · rename_i hno
    cases ha : command.toolAdapter with
    | none =>
      rw [ha] at hk
      rw [hk.1] at hg
      exact absurd hg (hno policy ha)
    | some =>
      rw [ha] at hk
      rcases hk with e | e
      · rw [hpc] at e
        cases e
      rw [e] at hg
      cases hg
      rfl

end

end PiDaemon.Multiplexer
