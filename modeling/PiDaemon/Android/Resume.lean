import PiDaemon.Android.Coordinator
import PiDaemon.Bridge.Resume

/-!
# The coordinator and the daemon that it attaches to

The daemon of the bridge, and the coordinator on the other side.  A cursor stands for the number of
the last event before it.  Only the frames of the active attempt are of the daemon's attachment; the
frames of another attempt can be any.  A process that restarts goes on from the snapshot.

* `Follows`: the events that were applied agree with how far the daemon has come with the attempt;
* `applied_run`: the events that are applied, in every run in which no attempt ends after its
  boundary and before the first event that is owed;
* `applied_run_loses`: a run that loses one there.
-/

namespace PiDaemon.Android

open Lib Bridge

section
variable {K : Type} [DecidableEq K]

structure World (K : Type) where
  coordinator : SessionLifecycleCoordinator K
  published : Nat := 0
  attachment : Attachment := .lost
  /-- The number of the event that is due after the first boundary. -/
  first : Option Nat := none
  /-- The events that were applied, and the points at which a resynchronization was required. -/
  marks : List Mark := []

inductive WorldEvent (K : Type) where
  | publish
  | begin (attemptId : JsString)
  | frame (attemptId : JsString) (frame : SessionRpcFrame)
  | disconnect (attemptId : JsString)
  /-- The snapshot is restored by another process. -/
  | restart (supportedCommands : List K) (maxInFlight maxRememberedIdentities : Nat)
  | requestControl (attemptId : JsString)
  | releaseControl (attemptId : JsString)
  | submit (attemptId : JsString) (kind : K) (correlationId : JsString)
  deriving DecidableEq

/-- What a frame says of the sequence of events. -/
def marksOf : IncomingFrameDisposition → SessionRpcFrame → List Mark
  | .applied, .event _ sequence => [.item sequence]
  | .resyncRequired, _ => [.gap]
  | _, _ => []

variable (position : JsString → Option Nat)

/-- The attachment after a frame; `none` for a frame that the daemon does not send then. -/
def sends (published : Nat) (a : Attachment) : SessionRpcFrame → Option Attachment
  | .replayGap _ =>
    match a with
    | .attaching (some _) since => some (.gapTold since)
    | _ => none
  | .attachReady _ _ _ _ _ highWaterCursor =>
    (position highWaterCursor).bind fun boundary => a.readyAt position published boundary
  | .event cursor sequence =>
    match a with
    | .streaming next =>
      if sequence = next + 1 ∧ next < published ∧ position cursor = some sequence then
        some (.streaming sequence)
      else none
    | _ => none
  | _ => some a

/-- A call that throws changes nothing. -/
def World.calls (w : World K) (call : SessionLifecycleCoordinator K → Except String (SessionLifecycleCoordinator K)) :
    World K :=
  { w with coordinator := ((call w.coordinator).toOption).getD w.coordinator }

def World.step (w : World K) : WorldEvent K → Option (World K)
  | .publish => some { w with published := w.published + 1 }
  | .begin attemptId =>
    match w.coordinator.beginConnection attemptId with
    | .error _ => some w
    | .ok (directive, left) =>
      some { w with coordinator := left, attachment := .attaching directive.cursor w.published }
  | .frame attemptId frame =>
    let (disposition, left) := w.coordinator.onFrame attemptId frame
    if some attemptId ≠ w.coordinator.activeAttempt then some { w with coordinator := left }
    else
      (sends position w.published w.attachment frame).map fun attachment =>
        { w with
          coordinator := left
          attachment
          first := if w.marks.isEmpty then w.first.or ((firstOf w.attachment attachment).map (· + 1)) else w.first
          marks := w.marks ++ marksOf disposition frame }
  | .disconnect attemptId =>
    let (current, left) := w.coordinator.onDisconnect attemptId
    some { w with coordinator := left, attachment := if current then .lost else w.attachment }
  | .restart supportedCommands maxInFlight maxRememberedIdentities =>
    (SessionLifecycleCoordinator.restore w.coordinator.snapshot supportedCommands maxInFlight
      maxRememberedIdentities).toOption.map fun left => { w with coordinator := left, attachment := .lost }
  | .requestControl attemptId => some (w.calls (·.requestControl attemptId))
  | .releaseControl attemptId => some (w.calls (·.releaseControl attemptId))
  | .submit attemptId kind correlationId => some (w.calls (·.submit attemptId kind correlationId))

/-- The next attempt would ask for other events than the attachment owes. -/
def World.Owes (w : World K) : Prop :=
  ∃ next ∈ (match w.attachment with | .streaming next => some next | _ => none),
    ∃ cursor ∈ w.coordinator.replayCursor, position cursor ≠ some next

instance (w : World K) : Decidable (w.Owes position) := inferInstanceAs (Decidable (∃ next ∈ _, _))

/-- The event ends the active attempt. -/
def World.ends (w : World K) : WorldEvent K → Bool
  | .begin attemptId => (w.coordinator.beginConnection attemptId).toOption.isSome
  | .disconnect attemptId => some attemptId = w.coordinator.activeAttempt
  | .restart _ _ _ => true
  | _ => false

/-- No attempt ends while events are owed. -/
def Resumable (w : World K) (e : WorldEvent K) : Prop := w.ends e = true → ¬w.Owes position

instance (w : World K) (e : WorldEvent K) : Decidable (Resumable position w e) :=
  inferInstanceAs (Decidable (_ → _))

/-! ## The invariant -/

/-- A cursor stands for what has been applied; without one, nothing has been attached, or anything can
follow. -/
structure Held (first : Option Nat) (marks : List Mark) (bound : Nat) (cursor : Option JsString) : Prop where
  none : cursor = none → (marks = [] ∧ first = none) ∨ ∀ m, bound ≤ m → Awaits first marks (m + 1)
  some : ∀ c, cursor = some c → ∃ p, position c = some p ∧ p ≤ bound ∧ Awaits first marks (p + 1)

/-- What has been applied agrees with how far the daemon has come with the attempt. -/
def Follows (cursor : Option JsString) (published : Nat) (first : Option Nat) (marks : List Mark) :
    Attachment → Prop
  | .lost => Held position first marks published cursor
  | .attaching requested since =>
    since ≤ published ∧ Held position first marks since requested ∧ cursor = requested
  | .gapTold since =>
    since ≤ published ∧ (∀ m, since ≤ m → Awaits first marks (m + 1)) ∧ cursor = none
  | .streaming next =>
    next ≤ published ∧ Awaits first marks (next + 1) ∧
      (cursor = none → ∀ m, next ≤ m → Awaits first marks (m + 1))

structure Applies (w : World K) : Prop where
  unbroken : Unbroken w.first w.marks
  follows : Follows position w.coordinator.replayCursor w.published w.first w.marks w.attachment
  idle : w.coordinator.activeAttempt = none → w.attachment = .lost

variable {position} {w after : World K} {cursor : Option JsString} {published : Nat} {first : Option Nat}
  {marks : List Mark} {a b : Attachment}

theorem Held.mono {bound more : Nat} (h : Held position first marks bound cursor) (hmore : bound ≤ more) :
    Held position first marks more cursor where
  none hcursor := (h.none hcursor).imp_right fun hall m hm => hall m (Nat.le_trans hmore hm)
  some c hc := by
    obtain ⟨p, hp, hbound, hawaits⟩ := h.some c hc
    exact ⟨p, hp, Nat.le_trans hbound hmore, hawaits⟩

theorem Follows.publish (h : Follows position cursor published first marks a) :
    Follows position cursor (published + 1) first marks a := by
  cases a with
  | lost => exact Held.mono h (Nat.le_succ _)
  | attaching | gapTold | streaming => exact ⟨Nat.le_succ_of_le h.1, h.2⟩

/-- An attempt that ends where nothing is owed leaves a cursor for what has been applied. -/
theorem Applies.held (h : Applies position w) (howes : ¬w.Owes position) :
    Held position w.first w.marks w.published w.coordinator.replayCursor := by
  have hfollows := h.follows
  unfold World.Owes at howes
  cases ha : w.attachment with
  | lost =>
    rw [ha] at hfollows
    exact hfollows
  | attaching =>
    rw [ha] at hfollows
    rw [hfollows.2.2]
    exact hfollows.2.1.mono hfollows.1
  | gapTold =>
    rw [ha] at hfollows
    exact
      { none := fun _ => .inr fun m hm => hfollows.2.1 m (Nat.le_trans hfollows.1 hm)
        some := fun c hc => by
          rw [hfollows.2.2] at hc
          cases hc }
  | streaming next =>
    rw [ha] at hfollows howes
    obtain ⟨hnext, hawaits, hnone⟩ := hfollows
    refine ⟨fun hcursor => .inr fun m hm => hnone hcursor m (Nat.le_trans hnext hm), fun c hc => ?_⟩
    have hposition : position c = some next := by
      by_contra hother
      exact howes ⟨next, rfl, c, hc, hother⟩
    exact ⟨next, hposition, hnext, hawaits⟩

theorem except_toOption_eq_some {E A : Type} {x : Except E A} {value : A} :
    x.toOption = some value ↔ x = .ok value := by
  cases x <;> simp [Except.toOption]

/-! ## Frames -/

/-- The first event that is due after a frame, when nothing had been told. -/
def dueFirst (w : World K) (attachment : Attachment) : Option Nat :=
  if w.marks.isEmpty then w.first.or ((firstOf w.attachment attachment).map (· + 1)) else w.first

theorem dueFirst_of_firstOf {attachment : Attachment} (h : firstOf w.attachment attachment = none) :
    dueFirst w attachment = w.first := by
  unfold dueFirst
  rw [h]
  simp

/-- What a start tells changes nothing for marks that begin with a gap. -/
theorem unbroken_dueFirst (attachment : Attachment) (h : Unbroken w.first w.marks) :
    Unbroken (dueFirst w attachment) w.marks := by
  unfold dueFirst
  split
  · rename_i hempty
    rw [List.isEmpty_iff.mp hempty]
    exact ⟨rfl, .nil⟩
  · exact h

/-- After a boundary, the event after it is due, or the one after the cursor. -/
theorem Follows.ready {boundary : Nat}
    (h : Follows position w.coordinator.replayCursor w.published w.first w.marks w.attachment)
    (hready : w.attachment.readyAt position w.published boundary = some b) :
    ∃ next, b = .streaming next ∧ next ≤ w.published ∧ Awaits (dueFirst w b) w.marks (next + 1) := by
  cases ha : w.attachment with
  | lost | streaming =>
    rw [ha] at hready
    cases hready
  | gapTold =>
    rw [ha] at h hready
    obtain ⟨hbounds, rfl⟩ := Option.ite_some_none_eq_some.mp hready
    refine ⟨boundary, rfl, hbounds.2, ?_⟩
    rw [dueFirst_of_firstOf (by rw [ha]; rfl)]
    exact h.2.1 boundary hbounds.1
  | attaching requested =>
    rw [ha] at h hready
    obtain ⟨hsince, hheld, -⟩ := h
    cases requested with
    | none =>
      obtain ⟨hbounds, rfl⟩ := Option.ite_some_none_eq_some.mp hready
      refine ⟨boundary, rfl, hbounds.2, ?_⟩
      rcases hheld.none rfl with ⟨hmarks, hfirst⟩ | hall
      · unfold dueFirst
        rw [ha, hmarks, hfirst]
        exact awaits_start (boundary + 1)
      · have hawaits := hall boundary hbounds.1
        unfold dueFirst
        split
        · rename_i hempty
          rw [List.isEmpty_iff.mp hempty] at hawaits ⊢
          cases hfirst : w.first with
          | none =>
            rw [ha]
            exact awaits_start (boundary + 1)
          | some =>
            rw [hfirst] at hawaits
            exact hawaits
        · exact hawaits
    | some requested =>
      obtain ⟨_, hready⟩ := Option.ite_none_right_eq_some.mp hready
      obtain ⟨p, hp, hbound, hawaits⟩ := hheld.some requested rfl
      rw [hp] at hready
      cases hready
      refine ⟨p, rfl, Nat.le_trans hbound hsince, ?_⟩
      rw [dueFirst_of_firstOf (by rw [ha]; rfl)]
      exact hawaits

/-- The cursor after a frame that is applied. -/
def cursorAfter (cursor : Option JsString) : SessionRpcFrame → Option JsString
  | .attachReady _ _ _ _ _ highWaterCursor => some highWaterCursor
  | .event cursor _ => some cursor
  | _ => cursor

/-- The frames that can require a resynchronization. -/
def tellsBoundary : SessionRpcFrame → Bool
  | .attachReady _ _ _ _ _ _ => true
  | .replayGap _ => true
  | _ => false

variable {attemptId : JsString}

/-- What the coordinator makes of a frame of the active attempt. -/
theorem onFrame_active {c : SessionLifecycleCoordinator K} (frame : SessionRpcFrame)
    (hactive : some attemptId = c.activeAttempt) :
    (c.onFrame attemptId frame).2.activeAttempt = c.activeAttempt ∧
      ((c.onFrame attemptId frame).1 = .resyncRequired ∧
          (c.onFrame attemptId frame).2.replayCursor = none ∧ tellsBoundary frame = true ∨
        (c.onFrame attemptId frame).1 = .applied ∧
          (c.onFrame attemptId frame).2.replayCursor = cursorAfter c.replayCursor frame ∧
          ∀ cursor, frame ≠ .replayGap cursor) := by
  unfold SessionLifecycleCoordinator.onFrame
  rw [if_neg (not_not.mpr hactive)]
  cases frame with
  | attachReady connectionId role hostInstanceId sessionId generation =>
    dsimp only [InteractiveSessionController.onFrame]
    by_cases hmatches : c.controller.matchesAttachment hostInstanceId sessionId generation = true
    · rw [if_pos hmatches]
      exact ⟨rfl, .inr ⟨rfl, rfl, fun _ h => by cases h⟩⟩
    · rw [if_neg hmatches]
      exact ⟨rfl, .inl ⟨rfl, rfl, rfl⟩⟩
  | replayGap => exact ⟨rfl, .inl ⟨rfl, rfl, rfl⟩⟩
  | response =>
    dsimp only [InteractiveSessionController.onFrame]
    rw [if_neg Bool.false_ne_true]
    unfold SessionLifecycleCoordinator.synchronizeCommand
    split <;> exact ⟨rfl, .inr ⟨rfl, rfl, fun _ h => by cases h⟩⟩
  | event | control | other => exact ⟨rfl, .inr ⟨rfl, rfl, fun _ h => by cases h⟩⟩

section
variable (h : Follows position w.coordinator.replayCursor w.published w.first w.marks w.attachment)
include h

/-- A frame that says nothing of the sequence of events. -/
theorem Follows.inert {frame : SessionRpcFrame} {disposition : IncomingFrameDisposition}
    (hsent : some w.attachment = some b) (hinert : tellsBoundary frame = false)
    (hmarks : marksOf .applied frame = []) (hcursor : cursorAfter w.coordinator.replayCursor frame =
      w.coordinator.replayCursor)
    (htold : disposition = .resyncRequired ∧ cursor = none ∧ tellsBoundary frame = true ∨
      disposition = .applied ∧ cursor = cursorAfter w.coordinator.replayCursor frame ∧
        ∀ c, frame ≠ .replayGap c) :
    Follows position cursor w.published (dueFirst w b) (w.marks ++ marksOf disposition frame) b := by
  cases hsent
  rcases htold with ⟨-, -, hnot⟩ | ⟨rfl, rfl, -⟩
  · rw [hinert] at hnot
    cases hnot
  · rw [hmarks, List.append_nil, hcursor, dueFirst_of_firstOf (firstOf_self _)]
    exact h

theorem Follows.frame {frame : SessionRpcFrame}
    {disposition : IncomingFrameDisposition}
    (hsent : sends position w.published w.attachment frame = some b)
    (htold : disposition = .resyncRequired ∧ cursor = none ∧ tellsBoundary frame = true ∨
      disposition = .applied ∧ cursor = cursorAfter w.coordinator.replayCursor frame ∧
        ∀ c, frame ≠ .replayGap c) :
    Follows position cursor w.published (dueFirst w b) (w.marks ++ marksOf disposition frame) b := by
  cases frame with
  | attachReady =>
    obtain ⟨_, -, hready⟩ := Option.bind_eq_some_iff.mp hsent
    obtain ⟨next, rfl, hnext, hawaits⟩ := h.ready hready
    rcases htold with ⟨rfl, -, -⟩ | ⟨rfl, rfl, -⟩
    · exact ⟨hnext, hawaits.gap (Nat.le_refl _), fun _ m hm => hawaits.gap (Nat.succ_le_succ hm)⟩
    · rw [show marksOf .applied _ = [] from rfl, List.append_nil]
      exact ⟨hnext, hawaits, fun hnone => by cases hnone⟩
  | replayGap highWaterCursor =>
    rcases htold with ⟨rfl, rfl, -⟩ | ⟨-, -, hnot⟩
    · simp only [sends] at hsent
      split at hsent
      · rename_i requested since ha
        cases hsent
        rw [ha] at h
        obtain ⟨hsince, hheld, -⟩ := h
        obtain ⟨_, -, _, hawaits⟩ := hheld.some requested rfl
        rw [dueFirst_of_firstOf (by rw [ha]; rfl)]
        exact ⟨hsince, fun m hm => hawaits.gap (by omega), rfl⟩
      · cases hsent
    · exact absurd rfl (hnot highWaterCursor)
  | event =>
    rcases htold with ⟨-, -, hnot⟩ | ⟨rfl, rfl, -⟩
    · cases hnot
    simp only [sends] at hsent
    split at hsent
    · rename_i next ha
      obtain ⟨hnext, hsent⟩ := Option.ite_none_right_eq_some.mp hsent
      obtain ⟨rfl, hpublished, -⟩ := hnext
      cases hsent
      rw [ha] at h
      rw [dueFirst_of_firstOf (by rw [ha]; rfl)]
      exact ⟨hpublished, h.2.1.item, fun hnone => by cases hnone⟩
    · cases hsent
  | response | control | other => exact h.inert hsent rfl rfl rfl htold

end

theorem Follows.streaming {c : JsString} {sequence : Nat} {m : List Mark} {start : Option Nat}
    (h : Follows position cursor published start m b)
    (hsent : sends position published a (.event c sequence) = some b) : Awaits start m (sequence + 1) := by
  simp only [sends] at hsent
  split at hsent
  · obtain ⟨_, rfl⟩ := Option.ite_some_none_eq_some.mp hsent
    exact h.2.1
  · cases hsent

/-! ## Runs -/

/-- A step that leaves the attempt and the cursor. -/
structure Quiet (c left : SessionLifecycleCoordinator K) : Prop where
  activeAttempt : left.activeAttempt = c.activeAttempt
  replayCursor : left.replayCursor = c.replayCursor

theorem Applies.calls (h : Applies position w)
    {call : SessionLifecycleCoordinator K → Except String (SessionLifecycleCoordinator K)}
    (hquiet : ∀ left, call w.coordinator = .ok left → Quiet w.coordinator left) :
    Applies position (w.calls call) := by
  unfold World.calls
  cases hcall : call w.coordinator with
  | error => exact h
  | ok left =>
    obtain ⟨hactive, hcursor⟩ := hquiet left hcall
    exact
      { unbroken := h.unbroken
        follows := by
          show Follows position left.replayCursor _ _ _ _
          rw [hcursor]
          exact h.follows
        idle := fun hidle => h.idle (hactive.symm.trans hidle) }

theorem quiet_requestControl {c left : SessionLifecycleCoordinator K} (h : c.requestControl attemptId = .ok left) :
    Quiet c left := by
  simp only [SessionLifecycleCoordinator.requestControl, bind_ok, check_ok] at h
  obtain ⟨_, -, _, -, hleft⟩ := h
  cases hleft
  exact ⟨rfl, rfl⟩

theorem quiet_releaseControl {c left : SessionLifecycleCoordinator K} (h : c.releaseControl attemptId = .ok left) :
    Quiet c left := by
  simp only [SessionLifecycleCoordinator.releaseControl, bind_ok, check_ok] at h
  obtain ⟨_, -, _, -, hleft⟩ := h
  cases hleft
  exact ⟨rfl, rfl⟩

theorem quiet_submit {c left : SessionLifecycleCoordinator K} {attemptId correlationId : JsString} {kind : K}
    (h : c.submit attemptId kind correlationId = .ok left) : Quiet c left := by
  simp only [SessionLifecycleCoordinator.submit, bind_ok, check_ok] at h
  obtain ⟨_, -, _, -, _, -, _, -, hleft⟩ := h
  cases hleft
  exact ⟨rfl, rfl⟩

theorem beginConnection_eq_ok {c left : SessionLifecycleCoordinator K} {directive : SessionAttachDirective}
    (h : c.beginConnection attemptId = .ok (directive, left)) :
    directive.cursor = c.replayCursor ∧ left.replayCursor = c.replayCursor ∧
      left.activeAttempt = some attemptId := by
  simp only [SessionLifecycleCoordinator.beginConnection, bind_ok, check_ok] at h
  obtain ⟨_, -, _, -, hleft⟩ := h
  cases hleft
  refine ⟨rfl, ?_, rfl⟩
  split <;> rfl

theorem restore_eq_ok {snapshot : SessionResumeSnapshot K} {left : SessionLifecycleCoordinator K}
    {supportedCommands : List K} {maxInFlight maxRememberedIdentities : Nat}
    (h : SessionLifecycleCoordinator.restore snapshot supportedCommands maxInFlight maxRememberedIdentities =
      .ok left) : left.replayCursor = snapshot.replayCursor ∧ left.activeAttempt = none := by
  simp only [SessionLifecycleCoordinator.restore, SessionLifecycleCoordinator.new, bind_ok, check_ok] at h
  obtain ⟨_, -, _, -, _, -, _, -, _, -, hleft⟩ := h
  cases hleft
  exact ⟨rfl, rfl⟩

theorem Applies.step {e : WorldEvent K} (h : Applies position w) (hmeets : Resumable position w e)
    (hstep : w.step position e = some after) : Applies position after := by
  cases e with
  | publish =>
    cases hstep
    exact ⟨h.unbroken, h.follows.publish, h.idle⟩
  | begin attemptId =>
    simp only [World.step] at hstep
    cases hbegin : w.coordinator.beginConnection attemptId with
    | error =>
      rw [hbegin] at hstep
      cases hstep
      exact h
    | ok result =>
      rw [hbegin] at hstep
      cases hstep
      obtain ⟨hdirective, hcursor, hactive⟩ := beginConnection_eq_ok hbegin
      have hheld := h.held (hmeets (by simp only [World.ends, hbegin]; rfl))
      exact
        { unbroken := h.unbroken
          follows := by
            rw [← hdirective] at hheld
            exact ⟨Nat.le_refl _, hheld, hcursor.trans hdirective.symm⟩
          idle := fun hidle => by
            rw [hactive] at hidle
            cases hidle }
  | frame attemptId frame =>
    simp only [World.step] at hstep
    by_cases hactive : some attemptId = w.coordinator.activeAttempt
    · rw [if_neg (not_not.mpr hactive)] at hstep
      obtain ⟨attachment, hsent, rfl⟩ := Option.map_eq_some_iff.mp hstep
      obtain ⟨hsame, htold⟩ := onFrame_active frame hactive
      have hfollows := h.follows.frame hsent htold
      exact
        { unbroken := by
            have hstart := unbroken_dueFirst attachment h.unbroken
            show Unbroken (dueFirst w attachment) (w.marks ++ marksOf _ frame)
            rcases htold with ⟨hresync, -, -⟩ | ⟨happlied, -, -⟩
            · rw [hresync]
              exact hstart.gap
            rw [happlied] at hfollows ⊢
            cases frame with
            | event => exact (hfollows.streaming hsent).unbroken
            | _ => rwa [show marksOf .applied _ = [] from rfl, List.append_nil]
          follows := hfollows
          idle := fun hidle => by
            cases (hsame.symm.trans hidle).symm.trans hactive.symm }
    · rw [if_pos hactive] at hstep
      cases hstep
      have hstale : (w.coordinator.onFrame attemptId frame).2 = w.coordinator := by
        unfold SessionLifecycleCoordinator.onFrame
        rw [if_pos hactive]
      rw [hstale]
      exact h
  | disconnect attemptId =>
    simp only [World.step] at hstep
    by_cases hactive : some attemptId = w.coordinator.activeAttempt
    · have hheld := h.held (hmeets (by simpa only [World.ends, decide_eq_true_eq] using hactive))
      unfold SessionLifecycleCoordinator.onDisconnect at hstep
      rw [if_neg (not_not.mpr hactive)] at hstep
      cases hstep
      exact ⟨h.unbroken, hheld, fun _ => rfl⟩
    · unfold SessionLifecycleCoordinator.onDisconnect at hstep
      rw [if_pos hactive] at hstep
      cases hstep
      exact h
  | restart =>
    obtain ⟨left, hleft, rfl⟩ := Option.map_eq_some_iff.mp hstep
    obtain ⟨hcursor, -⟩ := restore_eq_ok (except_toOption_eq_some.mp hleft)
    exact
      { unbroken := h.unbroken
        follows := by
          show Held position w.first w.marks w.published left.replayCursor
          rw [hcursor]
          exact h.held (hmeets rfl)
        idle := fun _ => rfl }
  | requestControl =>
    cases hstep
    exact h.calls fun left => quiet_requestControl
  | releaseControl =>
    cases hstep
    exact h.calls fun left => quiet_releaseControl
  | submit =>
    cases hstep
    exact h.calls fun left => quiet_submit

variable (position) in
/-- The events that are applied are the ones from the first boundary on, in their order and each once,
except across the points at which a resynchronization was required: in every run in which no attempt
ends while events are owed. -/
theorem applied_run {hostId : JsString} {session : SessionKey} {supportedCommands : List K}
    {hostInstanceId : Option JsString} {maxInFlight maxRememberedIdentities : Nat}
    {c : SessionLifecycleCoordinator K} {events : List (WorldEvent K)}
    (hcreate : SessionLifecycleCoordinator.create hostId session supportedCommands hostInstanceId maxInFlight
      maxRememberedIdentities = .ok c)
    (hrun : run (World.step position) { coordinator := c } events = some w)
    (hmeets : Meets (World.step position) (Resumable position) { coordinator := c } events) :
    Unbroken w.first w.marks := by
  have hstart : Applies position ({ coordinator := c } : World K) := by
    simp only [SessionLifecycleCoordinator.create, SessionLifecycleCoordinator.new, bind_ok, check_ok] at hcreate
    obtain ⟨_, -, _, -, _, -, _, -, _, -, hleft⟩ := hcreate
    cases hleft
    exact
      { unbroken := ⟨rfl, .nil⟩
        follows :=
          { none := fun _ => .inl ⟨rfl, rfl⟩
            some := fun _ hc => by cases hc }
        idle := fun _ => rfl }
  have hkeep (s : World K) (e : WorldEvent K) (left : World K) (h : Applies position s)
      (hresumable : Resumable position s e) (hstep : s.step position e = some left) :
      Applies position left := h.step hresumable hstep
  exact (run_invariant_of_meets hkeep hstart hmeets hrun).unbroken

end

/-! ## An attempt that ends after the boundary -/

def plainCoordinator : Except String (SessionLifecycleCoordinator Unit) :=
  SessionLifecycleCoordinator.create (text "h") ⟨text "s", 1⟩ [] none 8 8

def readyAt (attemptId : String) (boundary : Nat) : WorldEvent Unit :=
  .frame (text attemptId) (.attachReady (text "c") .observer (text "i") (text "s") 1 (cursorAt boundary))

def eventAt (attemptId : String) (sequence : Nat) : WorldEvent Unit :=
  .frame (text attemptId) (.event (cursorAt sequence) sequence)

/-- One event is applied, the attempt ends, another event is published, and the daemon tells its
boundary on the next attempt. -/
def reattached : List (WorldEvent Unit) :=
  [.begin (text "1"), readyAt "1" 0, .publish, eventAt "1" 1, .disconnect (text "1"), .publish,
    .begin (text "2"), readyAt "2" 2]

/-- The event that is owed arrives, and the process restarts. -/
theorem applied_run_restarted :
    ∃ c w, plainCoordinator = .ok c ∧
      run (World.step countingPosition) { coordinator := c }
        (reattached ++ [eventAt "2" 2, .restart [] 8 8, .begin (text "3"), readyAt "3" 2]) = some w ∧
      w.first = some 1 ∧ w.marks = [.item 1, .item 2] ∧ Unbroken w.first w.marks := by
  obtain ⟨c, hc, hmeets, w, hw, hfirst, hmarks⟩ : ∃ c, plainCoordinator = .ok c ∧
      Meets (World.step countingPosition) (Resumable countingPosition) { coordinator := c }
        (reattached ++ [eventAt "2" 2, .restart [] 8 8, .begin (text "3"), readyAt "3" 2]) ∧
      ∃ w, run (World.step countingPosition) { coordinator := c }
          (reattached ++ [eventAt "2" 2, .restart [] 8 8, .begin (text "3"), readyAt "3" 2]) = some w ∧
        w.first = some 1 ∧ w.marks = [.item 1, .item 2] := by
    decide +kernel
  exact ⟨c, w, hc, hw, hfirst, hmarks, applied_run countingPosition hc hw hmeets⟩

/-- The attempt ends before the event that is owed; the next one resumes after it. -/
theorem applied_run_loses :
    ∃ c w, plainCoordinator = .ok c ∧
      run (World.step countingPosition) { coordinator := c }
        (reattached ++ [.disconnect (text "2"), .begin (text "3"), readyAt "3" 2, .publish, eventAt "3" 3]) =
          some w ∧
      w.first = some 1 ∧ w.marks = [.item 1, .item 3] ∧ ¬Unbroken w.first w.marks := by
  simp only [exists_and_left]
  decide +kernel

end PiDaemon.Android
