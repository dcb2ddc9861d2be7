import PiDaemon.Shadow.Host

/-!
# The views that a host retains

A hub ends when its last channel is closed, when its view asks to exit, with a frame that is too
large, when its initialization fails, and when it is invalidated or the host is disposed of.  The
view and the frame do not tell the host.

* `Kept`: the invariant, as long as no hub in the map ends so (`Ends`);
* `host_retains`: then the hubs of an idle host are there and not disposed of;
* `host_strands`: a view that has asked to exit.
-/

namespace PiDaemon.Shadow

open Lib Streams Terminal Heap List OrderedMap

namespace ShadowTuiHost

variable {host host' : ShadowTuiHost}

/-- The host retains the hub. -/
def retains (host : ShadowTuiHost) (h : Nat) : Prop := ∃ key, host.hubs.get? key = some h

/-! ## The invariant -/

/-- What may be said of a hub that the host retains. -/
structure Sound (hub : ShadowTuiHub) : Prop where
  live : hub.stage = .resolved → hub.initialized = true ∧ hub.disposed = false
  caught : hub.caught = false

structure Kept (host : ShadowTuiHost) : Prop where
  keyed : ∀ key h, host.hubs.get? key = some h →
    h < host.created.next ∧ key = identityKey (host.created.cell h).identity
  sound : ∀ h, host.retains h → Sound (host.created.cell h)
  owed : ∀ d < host.disposals.next, (host.disposals.cell d).hub < host.created.next ∧
    ¬ host.retains (host.disposals.cell d).hub

theorem Kept.initial : Kept .initial where
  keyed _ _ h := by cases h
  sound _ h := by
    obtain ⟨_, h⟩ := h
    cases h
  owed _ h := absurd h (Nat.not_lt_zero _)

variable {f : ShadowTuiHub → ShadowTuiHub}

theorem Kept.modify (h : Kept host) {i : Nat} {hubs : OrderedMap JsString Nat}
    (hsub : ∀ key j, hubs.get? key = some j → host.hubs.get? key = some j)
    (hidentity : (f (host.created.cell i)).identity = (host.created.cell i).identity)
    (hsound : (∃ key, hubs.get? key = some i) → Sound (host.created.cell i) →
      Sound (f (host.created.cell i))) :
    Kept { host.modify i f with hubs } where
  keyed key j hj := by
    obtain ⟨hlt, hkey⟩ := h.keyed key j (hsub key j hj)
    refine ⟨hlt, hkey.trans ?_⟩
    show _ = identityKey ((host.created.modify i f).cell j).identity
    rw [cell_modify]
    split
    · rename_i heq
      rw [hidentity, heq]
    · rfl
  sound j hj := by
    obtain ⟨key, hj⟩ := hj
    have hold := h.sound j ⟨key, hsub key j hj⟩
    show Sound ((host.created.modify i f).cell j)
    rw [cell_modify]
    split
    · rename_i heq
      subst heq
      exact hsound ⟨key, hj⟩ hold
    · exact hold
  owed d hd := by
    obtain ⟨hlt, hnot⟩ := h.owed d hd
    exact ⟨hlt, fun ⟨key, hkey⟩ => hnot ⟨key, hsub key _ hkey⟩⟩

theorem Kept.change (h : Kept host) {i : Nat}
    (hidentity : (f (host.created.cell i)).identity = (host.created.cell i).identity)
    (hsound : host.retains i → Sound (host.created.cell i) → Sound (f (host.created.cell i))) :
    Kept (host.modify i f) :=
  h.modify (fun _ _ hj => hj) hidentity hsound

theorem Kept.waiting (h : Kept host) (openings : Heap Opening) : Kept { host with openings } :=
  ⟨h.keyed, h.sound, h.owed⟩

theorem Kept.setDisposal (h : Kept host) (d : Nat) : Kept (host.setDisposal d) := by
  refine ⟨h.keyed, h.sound, fun j hj => ?_⟩
  have hhub : ((host.setDisposal d).disposals.cell j).hub = (host.disposals.cell j).hub := by
    show ((host.disposals.modify d fun disposal => { disposal with done := true }).cell j).hub = _
    rw [cell_modify]
    split
    · rename_i heq
      rw [heq]
    · rfl
  rw [hhub]
  exact h.owed j hj

theorem Kept.disposeLater (h : Kept host) {i : Nat} (hlt : i < host.created.next)
    (hnot : ¬ host.retains i) : Kept (host.disposeLater i) := by
  refine ⟨h.keyed, h.sound, fun d hd => ?_⟩
  show ((host.disposals.alloc ⟨i, false⟩).cell d).hub < _ ∧
    ¬ host.retains ((host.disposals.alloc ⟨i, false⟩).cell d).hub
  rcases Nat.lt_or_eq_of_le (Nat.lt_succ_iff.mp hd) with hd | rfl
  · rw [cell_alloc_lt _ hd]
    exact h.owed d hd
  · rw [cell_alloc_self]
    exact ⟨hlt, hnot⟩

/-! ## Hubs -/

theorem identity_dispose (hub : ShadowTuiHub) : hub.dispose.identity = hub.identity := by
  unfold ShadowTuiHub.dispose
  split <;> rfl

/-- Nothing of a hub changes that its end is about. -/
structure Same (hub hub' : ShadowTuiHub) : Prop where
  identity : hub'.identity = hub.identity
  stage : hub'.stage = hub.stage
  initialized : hub'.initialized = hub.initialized
  disposed : hub'.disposed = hub.disposed
  caught : hub'.caught = hub.caught

variable {hub hub' hub'' : ShadowTuiHub}

theorem Same.refl (hub : ShadowTuiHub) : Same hub hub := ⟨rfl, rfl, rfl, rfl, rfl⟩

theorem Same.trans (h : Same hub hub') (h' : Same hub' hub'') : Same hub hub'' :=
  ⟨h'.identity.trans h.identity, h'.stage.trans h.stage, h'.initialized.trans h.initialized,
    h'.disposed.trans h.disposed, h'.caught.trans h.caught⟩

theorem Same.sound (h : Same hub hub') (hs : Sound hub) : Sound hub' where
  live := by
    rw [h.stage, h.initialized, h.disposed]
    exact hs.live
  caught := h.caught.trans hs.caught

section
variable (hub)

theorem Same.fields (dimensions : TuiDimensions) (channels : List ShadowTuiChannel)
    (controllerChannelId : Option Nat) (publicationScheduled : Bool) :
    Same hub { hub with dimensions, channels, controllerChannelId, publicationScheduled } :=
  ⟨rfl, rfl, rfl, rfl, rfl⟩

theorem schedulePublication_same : Same hub hub.schedulePublication := by
  unfold ShadowTuiHub.schedulePublication
  split
  · exact .refl hub
  · exact ⟨rfl, rfl, rfl, rfl, rfl⟩

theorem resize_same (dimensions : TuiDimensions) : Same hub (hub.resize dimensions) := by
  unfold ShadowTuiHub.resize
  split
  · exact .refl hub
  split
  · exact .refl hub
  · exact (Same.fields hub dimensions _ _ _).trans (schedulePublication_same _)

theorem open_same (limits : ShadowTuiHostLimits) (hub : ShadowTuiHub) (id : Nat)
    (options : TuiChannelOptions) : Same hub (hub.open_ limits id options) := by
  have hgranted : Same hub ({ hub with controllerChannelId := some id }.resize options.dimensions) :=
    (Same.fields hub _ _ (some id) _).trans (resize_same _ _)
  unfold ShadowTuiHub.open_
  split
  · exact .refl hub
  split
  · exact .refl hub
  split
  · exact .refl hub
  dsimp only
  split
  · split
    · exact hgranted
    · exact hgranted.trans ⟨rfl, rfl, rfl, rfl, rfl⟩
  · exact ⟨rfl, rfl, rfl, rfl, rfl⟩

theorem requestControl_same (id : Nat) : Same hub (hub.requestControl id) := by
  unfold ShadowTuiHub.requestControl
  split
  · exact .refl hub
  split
  · exact .refl hub
  · exact (Same.fields hub _ _ (some id) _).trans (resize_same _ _)

theorem releaseControl_same (id : Nat) : Same hub (hub.releaseControl id) := by
  unfold ShadowTuiHub.releaseControl
  split
  · exact ⟨rfl, rfl, rfl, rfl, rfl⟩
  · exact .refl hub

theorem resizeChannel_same (id : Nat) (dimensions : TuiDimensions) :
    Same hub (hub.resizeChannel id dimensions) := by
  unfold ShadowTuiHub.resizeChannel
  split
  · dsimp only
    split
    · exact (Same.fields hub _ _ _ _).trans (resize_same _ _)
    · exact ⟨rfl, rfl, rfl, rfl, rfl⟩
  · exact .refl hub

end

theorem Kept.same (h : Kept host) (i : Nat) (hf : ∀ hub, Same hub (f hub)) :
    Kept (host.modify i f) :=
  h.change (hf _).identity fun _ => (hf _).sound

theorem sound_fail {hub : ShadowTuiHub} (hcaught : hub.caught = false) : Sound (fail hub) :=
  ⟨(fun hstage => by cases hstage), hcaught⟩

theorem Kept.failed (h : Kept host) (i : Nat) : Kept (host.modify i fun hub => fail hub.dispose) := by
  refine h.change (identity_dispose _) fun _ hs => sound_fail ?_
  unfold ShadowTuiHub.dispose
  split <;> exact hs.caught

/-! ## Steps -/

theorem Kept.open_ (h : Kept host) (limits : ShadowTuiHostLimits)
    (identity : DashboardSessionIdentity) (options : TuiChannelOptions) :
    Kept (host.open_ limits identity options) := by
  unfold ShadowTuiHost.open_
  split
  · exact h
  split
  · exact h.waiting _
  split
  · exact h
  have hget : ∀ {key j}, (host.hubs.set (identityKey identity) host.created.next).get? key =
      some j → (key = identityKey identity ∧ j = host.created.next) ∨
        host.hubs.get? key = some j := by
    intro key j hj
    rw [get?_set] at hj
    split at hj
    · rename_i heq
      exact .inl ⟨heq.symm, (Option.some.inj hj).symm⟩
    · exact .inr hj
  refine ⟨fun key j hj => ?_, fun j hj => ?_, fun d hd => ?_⟩
  · rcases hget hj with ⟨rfl, rfl⟩ | hj
    · rw [cell_alloc_self]
      exact ⟨Nat.lt_succ_self _, rfl⟩
    have hkeyed := h.keyed key j hj
    rw [cell_alloc_lt _ hkeyed.1]
    exact ⟨Nat.lt_succ_of_lt hkeyed.1, hkeyed.2⟩
  · obtain ⟨key, hj⟩ := hj
    rcases hget hj with ⟨_, rfl⟩ | hj
    · rw [cell_alloc_self]
      exact ⟨(fun hstage => by cases hstage), rfl⟩
    · rw [cell_alloc_lt _ (h.keyed key j hj).1]
      exact h.sound j ⟨key, hj⟩
  · obtain ⟨hlt, hnot⟩ := h.owed d hd
    refine ⟨Nat.lt_succ_of_lt hlt, ?_⟩
    rintro ⟨key, hkey⟩
    rcases hget hkey with ⟨_, heq⟩ | hkey
    · exact absurd heq (Nat.ne_of_lt hlt)
    · exact hnot ⟨key, hkey⟩

theorem Kept.delete (h : Kept host) (key : JsString) :
    Kept { host with hubs := host.hubs.delete key } where
  keyed key' j hj := h.keyed key' j (get?_of_delete hj).2
  sound j := by
    rintro ⟨key', hj⟩
    exact h.sound j ⟨key', (get?_of_delete hj).2⟩
  owed d hd := by
    obtain ⟨hlt, hnot⟩ := h.owed d hd
    exact ⟨hlt, fun ⟨key', hj⟩ => hnot ⟨key', (get?_of_delete hj).2⟩⟩

theorem Kept.unretained (h : Kept host) {i : Nat} :
    ¬ ({ host with hubs := host.hubs.delete (identityKey (host.created.cell i).identity) } :
      ShadowTuiHost).retains i := by
  rintro ⟨key, hkey⟩
  obtain ⟨hne, hkey⟩ := get?_of_delete hkey
  exact hne (h.keyed key i hkey).2.symm

theorem Kept.invalidate (h : Kept host) (identity : DashboardSessionIdentity) :
    Kept (host.invalidate identity) := by
  unfold ShadowTuiHost.invalidate
  split
  · exact h
  rename_i i hget
  obtain ⟨hlt, hkey⟩ := h.keyed _ i hget
  refine (h.delete _).disposeLater hlt ?_
  rw [hkey]
  exact h.unretained

theorem Kept.dispose (h : Kept host) : Kept host.dispose := by
  have hfold : ∀ (is : List Nat) (host : ShadowTuiHost),
      (is.foldl ShadowTuiHost.disposeLater host).created = host.created ∧
        ∀ d < (is.foldl ShadowTuiHost.disposeLater host).disposals.next,
          ((d < host.disposals.next ∧
            (is.foldl ShadowTuiHost.disposeLater host).disposals.cell d = host.disposals.cell d) ∨
              ((is.foldl ShadowTuiHost.disposeLater host).disposals.cell d).hub ∈ is) := by
    intro is
    induction is with
    | nil => exact fun host => ⟨rfl, fun d hd => .inl ⟨hd, rfl⟩⟩
    | cons i is ih =>
      intro host
      obtain ⟨hcreated, hcell⟩ := ih (host.disposeLater i)
      refine ⟨hcreated, fun d hd => ?_⟩
      rcases hcell d hd with ⟨hlt, heq⟩ | hmem
      · rcases Nat.lt_or_eq_of_le (Nat.lt_succ_iff.mp hlt) with hold | rfl
        · exact .inl ⟨hold, heq.trans (cell_alloc_lt _ hold _)⟩
        refine .inr (mem_cons.mpr (.inl ?_))
        rw [foldl_cons, heq]
        show ((host.disposals.alloc ⟨i, false⟩).cell host.disposals.next).hub = i
        rw [cell_alloc_self]
      · exact .inr (mem_cons_of_mem _ hmem)
  unfold ShadowTuiHost.dispose
  split
  · exact h
  obtain ⟨hcreated, hcell⟩ := hfold host.hubs.values { host with disposed := true }
  refine ⟨(fun _ _ hj => by cases hj), fun _ hj => ?_, fun d hd => ⟨?_, fun hj => ?_⟩⟩
  · obtain ⟨_, hj⟩ := hj
    cases hj
  · rw [hcreated]
    rcases hcell d hd with ⟨hlt, heq⟩ | hmem
    · rw [heq]
      exact (h.owed d hlt).1
    obtain ⟨⟨key, i⟩, hentry, heq⟩ := mem_map.mp hmem
    rw [← heq]
    exact (h.keyed key i (mem_entries.mp hentry)).1
  · obtain ⟨_, hj⟩ := hj
    cases hj

/-- A hub in the map that ends without telling the host: its view asks to exit, or has done so
while the first frame was rendered, or a frame is too large. -/
def Ends (limits : ShadowTuiHostLimits) (host : ShadowTuiHost) : HostEvent → Bool
  | .requestExit h =>
    host.hubs.get? (identityKey (host.created.cell h).identity) = some h &&
      (host.created.cell h).stage = .resolved && !(host.created.cell h).disposed
  | .rendered h taken =>
    host.hubs.get? (identityKey (host.created.cell h).identity) = some h && taken &&
      (host.created.cell h).disposed
  | .publish h frame =>
    host.hubs.get? (identityKey (host.created.cell h).identity) = some h &&
      frame.any fun bytes => limits.maxFrameBytes < bytes
  | _ => false

theorem Kept.get?_identityKey (h : Kept host) {i : Nat} (hretains : host.retains i) :
    host.hubs.get? (identityKey (host.created.cell i).identity) = some i := by
  obtain ⟨key, hkey⟩ := hretains
  rw [← (h.keyed key i hkey).2]
  exact hkey

theorem Kept.remove (h : Kept host) (i id : Nat) : Kept (host.remove i id) := by
  unfold ShadowTuiHost.remove
  dsimp only
  split
  · refine h.modify (f := fun _ => ((host.created.cell i).remove id).dispose)
      (fun key j hj => (get?_of_delete hj).2) (identity_dispose _) fun hkey => ?_
    exact absurd hkey h.unretained
  · exact h.change rfl fun _ hs => ⟨hs.live, hs.caught⟩

theorem Kept.catchHub (h : Kept host) (i : Nat) : Kept (host.catchHub i) := by
  unfold ShadowTuiHost.catchHub
  dsimp only
  split
  · exact h.modify (fun key j hj => (get?_of_delete hj).2) rfl fun hkey =>
      absurd hkey h.unretained
  · rename_i hnot
    exact h.change rfl fun hretains => absurd (h.get?_identityKey hretains) hnot

/-- **Retention**, step by step. -/
theorem Kept.step (h : Kept host) {limits : ShadowTuiHostLimits} {event : HostEvent}
    (hends : host.Ends limits event = false) (hstep : host.step limits event = some host') :
    Kept host' := by
  cases event with
  | open_ identity options =>
    cases hstep
    exact h.open_ limits identity options
  | runtime =>
    obtain ⟨_, hstep⟩ := Option.ite_none_right_eq_some.mp hstep
    split at hstep
    · cases hstep
      exact h.change rfl fun _ hs => ⟨(fun hstage => by cases hstage), hs.caught⟩
    · cases hstep
      exact h.change rfl fun _ hs => ⟨(fun hstage => by cases hstage), hs.caught⟩
  | init i =>
    obtain ⟨_, hstep⟩ := Option.ite_none_right_eq_some.mp hstep
    split at hstep
    · cases hstep
      exact h.change rfl fun _ hs => ⟨(fun hstage => by cases hstage), hs.caught⟩
    · cases hstep
      exact h.failed i
  | rendered i =>
    obtain ⟨_, hstep⟩ := Option.ite_none_right_eq_some.mp hstep
    split at hstep
    · rename_i htaken
      cases hstep
      refine h.change rfl fun hretains hs => ⟨fun _ => ⟨rfl, ?_⟩, hs.caught⟩
      simpa [Ends, h.get?_identityKey hretains, htaken] using hends
    · cases hstep
      exact h.failed i
  | caught i =>
    obtain ⟨_, rfl⟩ := Option.ite_some_none_eq_some.mp hstep
    exact h.catchHub i
  | opened o channel =>
    obtain ⟨_, hstep⟩ := Option.ite_none_right_eq_some.mp hstep
    split at hstep
    · cases hstep
      exact (h.same _ fun hub => open_same limits hub channel _).waiting _
    · cases hstep
      exact h.waiting _
    · cases hstep
  | requestExit i =>
    obtain ⟨_, rfl⟩ := Option.ite_some_none_eq_some.mp hstep
    refine h.change (identity_dispose _) fun hretains hs => ?_
    by_cases hdisposed : (host.created.cell i).disposed = true
    · rw [ShadowTuiHub.dispose, if_pos hdisposed]
      exact hs
    have hstage : (host.created.cell i).stage ≠ .resolved := by
      simpa [Ends, h.get?_identityKey hretains, hdisposed] using hends
    rw [ShadowTuiHub.dispose, if_neg hdisposed]
    exact ⟨fun heq => absurd heq hstage, hs.caught⟩
  | requestControl i id =>
    cases hstep
    exact h.same i fun hub => requestControl_same hub id
  | releaseControl i id =>
    cases hstep
    exact h.same i fun hub => releaseControl_same hub id
  | resize i id dimensions =>
    cases hstep
    exact h.same i fun hub => resizeChannel_same hub id dimensions
  | framePending i =>
    cases hstep
    exact h.same i schedulePublication_same
  | publish i frame =>
    obtain ⟨_, rfl⟩ := Option.ite_some_none_eq_some.mp hstep
    cases frame with
    | none => exact h.change rfl fun _ => (Same.fields _ _ _ _ false).sound
    | some =>
      simp only [ShadowTuiHub.publish]
      split
      · rename_i hlarge
        refine h.change (identity_dispose _) fun hretains _ => ?_
        simp [Ends, h.get?_identityKey hretains, hlarge] at hends
      · exact h.change rfl fun _ => (Same.fields _ _ _ _ false).sound
  | close i id =>
    obtain ⟨_, rfl⟩ := Option.ite_some_none_eq_some.mp hstep
    exact h.remove i id
  | invalidate identity =>
    cases hstep
    exact h.invalidate identity
  | disposal d =>
    obtain ⟨hd, hstep⟩ := Option.ite_none_right_eq_some.mp hstep
    split at hstep
    · cases hstep
      refine Kept.setDisposal (h.change (identity_dispose _) fun hretains => ?_) d
      exact absurd hretains (h.owed d hd.1).2
    · cases hstep
      exact h.setDisposal d
    · cases hstep
  | dispose =>
    cases hstep
    exact h.dispose

/-- Every hub in the map is initialized and not disposed of. -/
def Retains (host : ShadowTuiHost) : Prop :=
  ∀ key h, host.hubs.get? key = some h →
    (host.created.cell h).stage = .resolved ∧ (host.created.cell h).initialized = true ∧
      (host.created.cell h).disposed = false

theorem Kept.retains (h : Kept host) (hidle : host.isIdle) : host.Retains := by
  intro key i hkey
  have hs := h.sound i ⟨key, hkey⟩
  rcases hidle.settled i (h.keyed key i hkey).1 with hstage | ⟨_, hcaught⟩
  · exact ⟨hstage, hs.live hstage⟩
  · rw [hs.caught] at hcaught
    cases hcaught

/-- **Retention**: the hubs that an idle host retains have not ended, unless one has ended without
telling it. -/
theorem host_retains (limits : ShadowTuiHostLimits) (events : List HostEvent) (host : ShadowTuiHost)
    (hmeets : Meets (fun (host : ShadowTuiHost) event => host.step limits event)
      (fun host event => host.Ends limits event = false) .initial events)
    (hrun : run (fun (host : ShadowTuiHost) event => host.step limits event) .initial events =
      some host)
    (hidle : host.isIdle) : host.Retains :=
  have h : Kept host :=
    run_invariant_of_meets (fun _ _ _ hinv hok hstep => Kept.step hinv hok hstep) Kept.initial hmeets
      hrun
  h.retains hidle

/-! ## Examples -/

def plainHostLimits : ShadowTuiHostLimits := ⟨32, 32, 524288⟩

def plainIdentity : DashboardSessionIdentity := ⟨text "host", text "s1", 1⟩

def plainOptions : TuiChannelOptions := ⟨.controller, ⟨24, 80⟩⟩

/-- A view is created, and its first channel opened. -/
def openEvents : List HostEvent :=
  [.open_ plainIdentity plainOptions, .runtime 0 true, .init 0 true, .rendered 0 true, .opened 0 7]

/-- An idle state, decided. -/
def settledUpTo (host : ShadowTuiHost) : Bool :=
  (List.range host.created.next).all (fun h => (host.created.cell h).stage = .resolved) &&
    (List.range host.openings.next).all (fun o => (host.openings.cell o).done) &&
      host.disposals.next = 0

theorem isIdle_of_settledUpTo (h : host.settledUpTo = true) : host.isIdle := by
  simp only [settledUpTo, Bool.and_eq_true, all_eq_true, mem_range,
    decide_eq_true_eq] at h
  obtain ⟨⟨hsettled, hopenings⟩, hdisposals⟩ := h
  exact ⟨fun i hi => .inl (hsettled i hi), hopenings,
    fun d hd => absurd (hdisposals ▸ hd) (Nat.not_lt_zero d)⟩

theorem host_retains_open : ∃ host,
    run (fun (host : ShadowTuiHost) event => host.step plainHostLimits event) .initial openEvents =
      some host ∧ host.hubs.size = 1 ∧ host.Retains := by
  obtain ⟨host, hrun, hsettled, hsize⟩ : ∃ host,
      run (fun (host : ShadowTuiHost) event => host.step plainHostLimits event) .initial openEvents =
        some host ∧ host.settledUpTo = true ∧ host.hubs.size = 1 := by
    decide +kernel
  exact ⟨host, hrun, hsize, host_retains plainHostLimits openEvents host (by decide +kernel) hrun
    (isIdle_of_settledUpTo hsettled)⟩

/-- The view asks to exit: its hub stays in the map, and the session cannot be opened again. -/
theorem host_strands : ∃ host,
    run (fun (host : ShadowTuiHost) event => host.step plainHostLimits event) .initial
      (openEvents ++ [.requestExit 0]) = some host ∧ host.isIdle ∧
        host.hubs.get? (identityKey plainIdentity) = some 0 ∧
          (host.created.cell 0).disposed = true ∧
            (host.created.cell 0).open_ plainHostLimits 8 plainOptions = host.created.cell 0 := by
  have hstrands : ∃ host,
      run (fun (host : ShadowTuiHost) event => host.step plainHostLimits event) .initial
        (openEvents ++ [.requestExit 0]) = some host ∧ host.settledUpTo = true ∧
          host.hubs.get? (identityKey plainIdentity) = some 0 ∧
            (host.created.cell 0).disposed = true ∧
              (host.created.cell 0).open_ plainHostLimits 8 plainOptions = host.created.cell 0 := by
    decide +kernel
  exact hstrands.imp fun _ ⟨hrun, hsettled, hstranded⟩ =>
    ⟨hrun, isIdle_of_settledUpTo hsettled, hstranded⟩

end ShadowTuiHost

end PiDaemon.Shadow
