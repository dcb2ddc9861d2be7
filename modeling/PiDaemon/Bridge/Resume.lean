import PiDaemon.Bridge.Marks

/-!
# The bridge and the daemon that it attaches to

A daemon that follows the attach protocol, together with the bridge.  The daemon numbers its events
in the order in which they are published, and a cursor stands for a number of events that came
before.  On a connection it sends a gap where it cannot resume, then its boundary, and then the
events: those after the requested cursor, or after the boundary.  What it has sent when a connection
is lost may not have arrived.

* `Follows`: what has been written agrees with how far the daemon has come with the connection;
* `resumes_run`: the events that it writes, in every run in which no connection is lost after the
  boundary and before the first event that is owed;
* `resume_loses`: a run that loses one there.
-/

namespace PiDaemon.Bridge

open Lib Protocol List Option Bool

/-! ## The daemon -/

/-- How far the daemon has come with the current connection. -/
inductive Attachment where
  | lost
  /-- So many events had been published when the connection began. -/
  | attaching (requested : Option JsString) (since : Nat)
  | gapTold (since : Nat)
  | streaming (next : Nat)
  deriving DecidableEq

structure World where
  bridge : State
  published : Nat := 0
  attachment : Attachment
  /-- The boundary that was told before anything was written. -/
  first : Option Nat := none
  /-- An event or a gap has come that the bridge did not write. -/
  missed : Bool := false

inductive WorldEvent where
  | publish
  | bridge (e : Event)

/-- The kinds of the frames that are about the sequence of events. -/
def isReplayGap (frame : JsValue Rat) : Bool := stringOf (frame.member "kind") = some (text "replay_gap")

def isAttachReady (frame : JsValue Rat) : Bool := stringOf (frame.member "kind") = some (text "attach_ready")

def isEvent (frame : JsValue Rat) : Bool := stringOf (frame.member "kind") = some (text "event")

section
variable (position : JsString → Option Nat)

/-- The position of the boundary that a frame tells. -/
def boundaryOf (frame : JsValue Rat) : Option Nat :=
  (stringOf (frame.member "highWaterCursor")).bind position

/-- The attachment after the boundary, which is between the events that had been published when the
connection began and those that have been published. -/
def Attachment.readyAt (published boundary : Nat) : Attachment → Option Attachment
  | .attaching none since => if since ≤ boundary ∧ boundary ≤ published then some (.streaming boundary) else none
  | .attaching (some requested) since =>
    if since ≤ boundary ∧ boundary ≤ published then (position requested).map .streaming else none
  | .gapTold since => if since ≤ boundary ∧ boundary ≤ published then some (.streaming boundary) else none
  | _ => none

/-- The attachment after a frame; `none` for a frame that the daemon does not send then. -/
def Attachment.sends (published : Nat) (frame : JsValue Rat) (about : Option Nat) (a : Attachment) :
    Option Attachment :=
  if isReplayGap frame then
    match a with
    | .attaching (some _) since => some (.gapTold since)
    | _ => none
  else if isAttachReady frame then
    (boundaryOf position frame).bind fun boundary => a.readyAt position published boundary
  else if isEvent frame then
    match a, about with
    | .streaming next, some n =>
      if n = next ∧ n < published ∧ (stringOf (frame.member "cursor")).bind position = some (n + 1) then
        some (.streaming (n + 1))
      else none
    | _, _ => none
  else some a

/-- The attachment after what the daemon does for an event. -/
def World.sent (w : World) : Event → Option Attachment
  | .message (some frame) about => w.attachment.sends position w.published frame about
  | .message none _ => none
  | _ => some w.attachment

/-- The boundary of a first attachment. -/
def firstOf : Attachment → Attachment → Option Nat
  | .attaching none _, .streaming boundary => some boundary
  | _, _ => none

/-- A frame of a kind arrives. -/
def Event.carries (kind : JsValue Rat → Bool) : Event → Bool
  | .message (some frame) _ => kind frame
  | _ => false

/-- An event or a gap arrives, and is not written. -/
def misses (e : Event) (s left : State) : Bool :=
  (e.carries isReplayGap || e.carries isEvent) && decide (marksOf left.log = marksOf s.log)

/-- The world after an event of the bridge: a connection that began is to be attached. -/
def World.after (w : World) (attachment : Attachment) (e : Event) (left : State) : World :=
  { w with
    bridge := left
    attachment :=
      if left.socket.isNone then .lost
      else if left.connections = w.bridge.connections then attachment
      else .attaching left.lastCursor w.published
    first := if (marksOf w.bridge.log).isEmpty then w.first.or (firstOf w.attachment attachment) else w.first
    missed := w.missed || misses e w.bridge left }

def World.step (bridge : RpcStdioBridge) (w : World) : WorldEvent → Option World
  | .publish => some { w with published := w.published + 1 }
  | .bridge e =>
    (w.sent position e).bind fun attachment => (bridge.step w.bridge e).map (w.after attachment e)

def World.start (room statusRoom : Nat) (hasStatus : Bool) : World where
  bridge := RpcStdioBridge.start room statusRoom hasStatus
  attachment := .attaching none 0

/-- The bridge would not ask for the next event of the attachment. -/
def World.Owes (w : World) : Prop :=
  ∃ n ∈ (match w.attachment with | .streaming next => some next | _ => none),
    w.bridge.lastCursor.bind position ≠ some n

instance (w : World) : Decidable (w.Owes position) := inferInstanceAs (Decidable (∃ n ∈ _, _))

/-- A connection is not lost while events are owed, and no event comes after one that could not be
written. -/
def Resumable (w : World) : WorldEvent → Prop
  | .publish => True
  | .bridge e =>
    (e.loses = true → w.bridge.stopping = false → ¬w.Owes position) ∧
      (e.carries isEvent = true → w.missed = false)

instance (w : World) : (e : WorldEvent) → Decidable (Resumable position w e)
  | .publish => .isTrue trivial
  | .bridge _ => inferInstanceAs (Decidable (_ ∧ _))

end

/-! ## The invariant -/

section
variable (position : JsString → Option Nat)

/-- A cursor stands for what has been written; without one, nothing has been. -/
structure Held (first : Option Nat) (marks : List Mark) (bound : Nat) (cursor : Option JsString) : Prop where
  none : cursor = none → marks = [] ∧ first = none
  some : ∀ c, cursor = some c → ∃ p, position c = some p ∧ p ≤ bound ∧ Awaits first marks p

/-- What has been written agrees with how far the daemon has come with the connection. -/
def Follows (s : State) (published : Nat) (first : Option Nat) : Attachment → Prop
  | .lost => s.stopping = false → Held position first (marksOf s.log) published s.lastCursor
  | .attaching requested since =>
    since ≤ published ∧ Held position first (marksOf s.log) since requested ∧
      (s.stopping = false → s.lastCursor = requested)
  | .gapTold since =>
    since ≤ published ∧ (∀ m, since ≤ m → Awaits first (marksOf s.log) m) ∧
      (s.stopping = false → Held position first (marksOf s.log) since s.lastCursor)
  | .streaming next => next ≤ published ∧ Awaits first (marksOf s.log) next

structure Resumes (w : World) : Prop where
  unbroken : Unbroken w.first (marksOf w.bridge.log)
  follows : w.missed = false → Follows position w.bridge w.published w.first w.attachment
  idle : w.bridge.socket.isNone = true → w.attachment = .lost
  delaying : w.bridge.phase = .delaying → w.bridge.socket.isNone = true

variable {position} {bridge : RpcStdioBridge} {w after : World} {s left : State}

variable {first : Option Nat} {about : Option Nat} {b : Attachment} {cursor : Option JsString}

theorem Held.mono {marks : List Mark} {bound more : Nat} (h : Held position first marks bound cursor)
    (hmore : bound ≤ more) :
    Held position first marks more cursor where
  none := h.none
  some c hc := by
    obtain ⟨p, hp, hbound, hawaits⟩ := h.some c hc
    exact ⟨p, hp, Nat.le_trans hbound hmore, hawaits⟩

theorem Follows.publish {published : Nat} {a : Attachment} (h : Follows position s published first a) :
    Follows position s (published + 1) first a := by
  cases a with
  | lost => exact fun hruns => (h hruns).mono (Nat.le_succ _)
  | attaching | gapTold | streaming => exact ⟨Nat.le_succ_of_le h.1, h.2⟩

/-- A bridge that has not stopped after a step had not stopped before it. -/
theorem Says.runs {added : List Mark} (h : Says added s left) (hruns : left.stopping = false) :
    s.stopping = false :=
  eq_false_iff.mpr fun hstopping => by
    rw [h.stopping hstopping] at hruns
    cases hruns

theorem Follows.quiet {published : Nat} {a : Attachment} (h : Follows position s published first a)
    (hsaid : Says [] s left) : Follows position left published first a := by
  have hmarks : marksOf left.log = marksOf s.log := by rw [hsaid.marks, append_nil]
  cases a with
  | lost =>
    intro hruns
    rw [hmarks, hsaid.cursor]
    exact h (hsaid.runs hruns)
  | attaching =>
    refine ⟨h.1, ?_, fun hruns => ?_⟩
    · rw [hmarks]
      exact h.2.1
    · rw [hsaid.cursor]
      exact h.2.2 (hsaid.runs hruns)
  | gapTold =>
    refine ⟨h.1, ?_, fun hruns => ?_⟩
    · rw [hmarks]
      exact h.2.1
    · rw [hmarks, hsaid.cursor]
      exact h.2.2 (hsaid.runs hruns)
  | streaming =>
    refine ⟨h.1, ?_⟩
    rw [hmarks]
    exact h.2

/-- A connection that is lost where nothing is owed leaves a cursor for what has been written. -/
theorem Follows.lose (h : Follows position w.bridge w.published w.first w.attachment)
    (hlost : Lost w.bridge left) (howes : w.bridge.stopping = false → ¬w.Owes position) :
    Follows position left w.published w.first .lost := by
  intro hstopping
  have hruns : w.bridge.stopping = false := eq_false_iff.mpr fun hstops => by
    rw [hlost.stopping hstops] at hstopping
    cases hstopping
  rw [hlost.marks, hlost.cursor]
  have hnone := howes hruns
  unfold World.Owes at hnone
  cases ha : w.attachment with
  | lost =>
    rw [ha] at h
    exact h hruns
  | attaching =>
    rw [ha] at h
    rw [h.2.2 hruns]
    exact h.2.1.mono h.1
  | gapTold =>
    rw [ha] at h
    exact (h.2.2 hruns).mono h.1
  | streaming next =>
    rw [ha] at h hnone
    have hcursor : w.bridge.lastCursor.bind position = some next := by
      by_cases hcursor : w.bridge.lastCursor.bind position = some next
      · exact hcursor
      · exact absurd ⟨next, rfl, hcursor⟩ hnone
    obtain ⟨_, hc, hposition⟩ := bind_eq_some_iff.mp hcursor
    exact
      { none := fun hnot => by rw [hnot] at hc; cases hc
        some := fun c' hc' => by
          rw [hc] at hc'
          cases hc'
          exact ⟨next, hposition, h.1, h.2⟩ }

theorem Follows.connect {published : Nat} (h : Follows position s published first .lost) (hruns : s.stopping = false) :
    Follows position (RpcStdioBridge.connect s) published first
      (.attaching (RpcStdioBridge.connect s).lastCursor published) :=
  ⟨Nat.le_refl _, h hruns, fun _ => rfl⟩

theorem Follows.gap {published since : Nat} {requested : JsString}
    (h : Follows position s published first (.attaching (some requested) since)) (hsaid : Says [.gap] s left) :
    Follows position left published first (.gapTold since) := by
  obtain ⟨hsince, hheld, hcursor⟩ := h
  obtain ⟨p, hp, hbound, hawaits⟩ := hheld.some requested rfl
  refine ⟨hsince, fun m hm => ?_, fun hstopping => ?_⟩
  · rw [hsaid.marks]
    exact hawaits.gap (Nat.le_trans hbound hm)
  rw [hsaid.marks, hsaid.cursor, hcursor (hsaid.runs hstopping)]
  exact
    { none := fun hnot => by cases hnot
      some := fun c hc => by
        cases hc
        exact ⟨p, hp, hbound, hawaits.gap (Nat.le_refl p)⟩ }

/-- The daemon tells its boundary; events follow where the reader awaits them. -/
theorem Follows.ready {published boundary : Nat} {a b : Attachment} (h : Follows position s published first a)
    (hready : a.readyAt position published boundary = some b) (hsaid : Says [] { s with lastCursor := cursor } left) :
    Follows position left published
      (if (marksOf s.log).isEmpty then first.or (firstOf a b) else first) b := by
  have hmarks : marksOf left.log = marksOf s.log := by rw [hsaid.marks, append_nil]
  cases a with
  | lost | streaming => cases hready
  | attaching requested since =>
    obtain ⟨hsince, hheld, -⟩ := h
    cases requested with
    | none =>
      obtain ⟨hbetween, rfl⟩ := ite_some_none_eq_some.mp hready
      obtain ⟨hnone, hfirst⟩ := hheld.none rfl
      refine ⟨hbetween.2, ?_⟩
      rw [hmarks, hnone, hfirst]
      exact awaits_start boundary
    | some requested =>
      obtain ⟨hbetween, hready⟩ := ite_none_right_eq_some.mp hready
      obtain ⟨next, hnext, rfl⟩ := map_eq_some_iff.mp hready
      obtain ⟨_, hp, hbound, hawaits⟩ := hheld.some requested rfl
      cases hp.symm.trans hnext
      have hfirst : firstOf (.attaching (some requested) since) (.streaming next) = none := rfl
      refine ⟨Nat.le_trans hbound hsince, ?_⟩
      rw [hmarks, hfirst, or_none, ite_self]
      exact hawaits
  | gapTold since =>
    obtain ⟨hbetween, rfl⟩ := ite_some_none_eq_some.mp hready
    have hfirst : firstOf (.gapTold since) (.streaming boundary) = none := rfl
    refine ⟨hbetween.2, ?_⟩
    rw [hmarks, hfirst, or_none, ite_self]
    exact h.2.1 boundary hbetween.1

/-! ## Steps -/

theorem firstOf_self (a : Attachment) : firstOf a a = none := by
  cases a with
  | attaching requested => cases requested <;> rfl
  | _ => rfl

/-- A boundary that is told before anything was written does not break what was written. -/
theorem unbroken_first {first more : Option Nat} {marks : List Mark} (h : Unbroken first marks) :
    Unbroken (if marks.isEmpty then first.or more else first) marks := by
  split
  · rename_i hnone
    rw [List.isEmpty_iff.mp hnone]
    exact ⟨rfl, .nil⟩
  · exact h

theorem World.after_first {e : Event} (h : firstOf w.attachment b = none) : (w.after b e left).first = w.first := by
  unfold World.after
  rw [h, or_none, ite_self]

section
variable (h : Resumes position w)
include h

theorem Resumes.quiet {e : Event} (hsaid : Says [] w.bridge left) :
    Resumes position (w.after w.attachment e left) := by
  have hmarks : marksOf left.log = marksOf w.bridge.log := by rw [hsaid.marks, append_nil]
  have hattachment : (w.after w.attachment e left).attachment = w.attachment := by
    unfold World.after
    rw [hsaid.socket, hsaid.connections, if_pos rfl]
    split
    · rename_i hidle
      exact (h.idle hidle).symm
    · rfl
  have hfirst : (w.after w.attachment e left).first = w.first := World.after_first (firstOf_self _)
  exact
    { unbroken := by
        rw [hfirst]
        show Unbroken w.first (marksOf left.log)
        rw [hmarks]
        exact h.unbroken
      follows := fun hmissed => by
        rw [hattachment, hfirst]
        exact (h.follows (or_eq_false_iff.mp hmissed).1).quiet hsaid
      idle := fun hidle => by
        rw [hattachment]
        exact h.idle (hsaid.socket.symm.trans hidle)
      delaying := fun hphase => hsaid.socket.trans (h.delaying (hsaid.delaying hphase)) }

theorem Resumes.lose {e : Event} (hlost : Lost w.bridge left)
    (howes : w.bridge.stopping = false → ¬w.Owes position) :
    Resumes position (w.after w.attachment e left) := by
  have hattachment : (w.after w.attachment e left).attachment = .lost := by
    unfold World.after
    rw [hlost.socket]
    rfl
  have hfirst : (w.after w.attachment e left).first = w.first := World.after_first (firstOf_self _)
  exact
    { unbroken := by
        rw [hfirst]
        show Unbroken w.first (marksOf left.log)
        rw [hlost.marks]
        exact h.unbroken
      follows := fun hmissed => by
        rw [hattachment, hfirst]
        exact (h.follows (or_eq_false_iff.mp hmissed).1).lose hlost howes
      idle := fun _ => hattachment
      delaying := fun _ => by
        show left.socket.isNone = true
        rw [hlost.socket]
        rfl }

theorem Resumes.connect {e : Event} (hphase : w.bridge.phase = .delaying)
    (hruns : w.bridge.stopping = false) :
    Resumes position (w.after w.attachment e (RpcStdioBridge.connect w.bridge)) := by
  have hidle := h.idle (h.delaying hphase)
  have hfirst : (w.after w.attachment e (RpcStdioBridge.connect w.bridge)).first = w.first :=
    World.after_first (firstOf_self _)
  have hattachment : (w.after w.attachment e (RpcStdioBridge.connect w.bridge)).attachment =
      .attaching w.bridge.lastCursor w.published :=
    if_neg (Nat.succ_ne_self _)
  exact
    { unbroken := by
        rw [hfirst]
        exact h.unbroken
      follows := fun hmissed => by
        have hfollows := h.follows (or_eq_false_iff.mp hmissed).1
        rw [hidle] at hfollows
        rw [hattachment, hfirst]
        exact hfollows.connect hruns
      idle := fun hnot => by cases hnot
      delaying := fun hnot => by cases hnot }

theorem Resumes.frame {e : Event} {added : List Mark}
    (hsocket : w.bridge.socket.isNone = false) (hsaid : Says added { w.bridge with lastCursor := cursor } left)
    (hunbroken : Unbroken (w.after b e left).first (marksOf w.bridge.log ++ added))
    (hfollows : w.missed = false → misses e w.bridge left = false →
      Follows position left w.published (w.after b e left).first b) : Resumes position (w.after b e left) := by
  have hattachment : (w.after b e left).attachment = b := by
    unfold World.after
    rw [hsaid.socket, hsaid.connections, if_pos rfl]
    exact if_neg (by rw [hsocket]; exact Bool.false_ne_true)
  exact
    { unbroken := by
        show Unbroken _ (marksOf left.log)
        rw [hsaid.marks]
        exact hunbroken
      follows := fun hmissed => by
        obtain ⟨hnot, hwritten⟩ := or_eq_false_iff.mp hmissed
        rw [hattachment]
        exact hfollows hnot hwritten
      idle := fun hidle => by
        cases (hsaid.socket.symm.trans hidle).symm.trans hsocket
      delaying := fun hphase => hsaid.socket.trans (h.delaying (hsaid.delaying hphase)) }

theorem Resumes.replayGap {frame : JsValue Rat} (hsocket : w.bridge.socket.isNone = false)
    (hgap : isReplayGap frame = true) (hsent : w.attachment.sends position w.published frame about = some b) :
    Resumes position (w.after b (.message (some frame) about) (bridge.onGap frame w.bridge)) := by
  unfold Attachment.sends at hsent
  rw [if_pos hgap] at hsent
  split at hsent
  · rename_i requested since ha
    cases hsent
    have hfirst (left : State) :
        (w.after (.gapTold since) (.message (some frame) about) left).first = w.first :=
      World.after_first (by rw [ha]; rfl)
    have hwrites : Says [] w.bridge (bridge.onGap frame w.bridge) ∨ Says [.gap] w.bridge _ := says_onGap _ _
    rcases hwrites with hsaid | hsaid
    · refine h.frame hsocket hsaid ?_ fun _ hwritten => ?_
      · rw [hfirst, append_nil]
        exact h.unbroken
      · have hmarks := hsaid.marks
        simp [misses, Event.carries, hgap, hmarks] at hwritten
    · refine h.frame hsocket hsaid ?_ fun hmissed _ => ?_
      · rw [hfirst]
        exact h.unbroken.gap
      have hfollows := h.follows hmissed
      rw [ha] at hfollows
      rw [hfirst]
      exact hfollows.gap hsaid
  · cases hsent

theorem Resumes.attachReady {frame : JsValue Rat} (hsocket : w.bridge.socket.isNone = false)
    (hgap : isReplayGap frame = false) (hready : isAttachReady frame = true)
    (hsent : w.attachment.sends position w.published frame about = some b) :
    Resumes position (w.after b (.message (some frame) about) (bridge.onReady frame w.bridge)) := by
  unfold Attachment.sends at hsent
  rw [hgap, if_pos hready] at hsent
  obtain ⟨_, -, hsent⟩ := bind_eq_some_iff.mp hsent
  have hwrites : ∃ cursor, Says [] { w.bridge with lastCursor := cursor } (bridge.onReady frame w.bridge) :=
    says_onReady _ _
  obtain ⟨cursor, hsaid⟩ := hwrites
  refine h.frame hsocket hsaid ?_ fun hmissed _ => ?_
  · rw [append_nil]
    exact unbroken_first h.unbroken
  · exact (h.follows hmissed).ready hsent hsaid

theorem Resumes.event {frame : JsValue Rat} (hsocket : w.bridge.socket.isNone = false)
    (hgap : isReplayGap frame = false) (hready : isAttachReady frame = false) (hevent : isEvent frame = true)
    (hmissed : w.missed = false) (hsent : w.attachment.sends position w.published frame about = some b) :
    Resumes position (w.after b (.message (some frame) about) (bridge.onEvent frame about w.bridge)) := by
  unfold Attachment.sends at hsent
  rw [hgap, if_neg Bool.false_ne_true, hready, if_neg Bool.false_ne_true, if_pos hevent] at hsent
  split at hsent
  · rename_i next n ha
    split at hsent
    · rename_i hnext
      obtain ⟨rfl, hpublished, -⟩ := hnext
      cases hsent
      have hfirst (left : State) :
          (w.after (.streaming (n + 1)) (.message (some frame) (some n)) left).first = w.first :=
        World.after_first (by rw [ha]; rfl)
      have hfollows := h.follows hmissed
      rw [ha] at hfollows
      have hwrites : ∃ cursor,
          Says [] { w.bridge with lastCursor := cursor } (bridge.onEvent frame (some n) w.bridge) ∨
            Says [.item n] { w.bridge with lastCursor := cursor } (bridge.onEvent frame (some n) w.bridge) :=
        says_onEvent _ _ _
      obtain ⟨cursor, hsaid | hsaid⟩ := hwrites
      · refine h.frame hsocket hsaid ?_ fun _ hwritten => ?_
        · rw [hfirst, append_nil]
          exact h.unbroken
        · have hmarks := hsaid.marks
          simp [misses, Event.carries, hevent, hmarks] at hwritten
      · refine h.frame hsocket hsaid ?_ fun _ _ => ?_
        · rw [hfirst]
          exact hfollows.2.item.unbroken
        rw [hfirst]
        refine ⟨hpublished, ?_⟩
        rw [hsaid.marks]
        exact hfollows.2.item
    · cases hsent
  · cases hsent

theorem Resumes.message {frame : JsValue Rat} (hsocket : w.bridge.socket.isNone = false)
    (hsent : w.attachment.sends position w.published frame about = some b)
    (hmeets : isEvent frame = true → w.missed = false) :
    Resumes position
      (w.after b (.message (some frame) about) (bridge.onSocketMessage (some frame) about w.bridge)) := by
  unfold RpcStdioBridge.onSocketMessage
  dsimp only
  split
  · rename_i hkind
    exact h.attachReady hsocket (by rw [isReplayGap, hkind]; decide) (by rw [isAttachReady, hkind]; decide) hsent
  rename_i hready
  split
  · rename_i hkind
    exact h.replayGap hsocket (by rw [isReplayGap, hkind]; decide) hsent
  rename_i hgap
  split
  · rename_i hkind
    have hevent : isEvent frame = true := by rw [isEvent, hkind]; decide
    exact h.event hsocket (by rw [isReplayGap, hkind]; decide) (by rw [isAttachReady, hkind]; decide) hevent
      (hmeets hevent) hsent
  · rename_i hevent
    have hsame : b = w.attachment := by
      unfold Attachment.sends at hsent
      rw [if_neg (by simpa [isReplayGap] using hgap), if_neg (by simpa [isAttachReady] using hready),
        if_neg (by simpa [isEvent] using hevent)] at hsent
      exact (Option.some.inj hsent).symm
    rw [hsame]
    split
    · exact h.quiet (says_onResponse _ _ _)
    split
    · exact h.quiet (says_onControl _ _)
    · exact h.quiet (says_fail _ _)

theorem Resumes.step {e : WorldEvent} (hmeets : Resumable position w e)
    (hstep : w.step position bridge e = some after) : Resumes position after := by
  cases e with
  | publish =>
    cases hstep
    exact
      { unbroken := h.unbroken
        follows := fun hmissed => (h.follows hmissed).publish
        idle := h.idle
        delaying := h.delaying }
  | bridge e =>
    obtain ⟨_, hsent, hstep⟩ := bind_eq_some_iff.mp hstep
    obtain ⟨_, hleft, rfl⟩ := map_eq_some_iff.mp hstep
    cases e with
    | message frame =>
      obtain ⟨_, hsocket, hmessage⟩ := atSocket_some hleft
      obtain ⟨_, rfl⟩ := ite_some_none_eq_some.mp hmessage
      cases frame with
      | none => cases hsent
      | some => exact h.message (by rw [hsocket]; rfl) hsent hmeets.2
    | delayElapsed =>
      cases hsent
      obtain ⟨hphase, hsaid | ⟨hruns, rfl⟩⟩ := delayElapsed_cases hleft
      · exact h.quiet hsaid
      · exact h.connect hphase hruns
    | closed | rejected | connectionError | binary =>
      cases hsent
      exact h.lose (lost_of_loses rfl hleft) (hmeets.1 rfl)
    | _ =>
      cases hsent
      exact h.quiet (says_local rfl hleft)

end

theorem resumes_start (room statusRoom : Nat) (hasStatus : Bool) :
    Resumes position (World.start room statusRoom hasStatus) where
  unbroken := ⟨rfl, .nil⟩
  follows _ :=
    ⟨Nat.le_refl _,
      { none := fun _ => ⟨rfl, rfl⟩
        some := fun c hc => by cases hc },
      fun _ => rfl⟩
  idle h := by cases h
  delaying h := by cases h

/-- The events that the bridge writes are the ones from its first boundary on, in their order and
each once, except at the gaps that it writes: in every run in which no connection is lost while
events are owed, and no event comes after one that could not be written. -/
theorem resumes_run {room statusRoom : Nat} {hasStatus : Bool} {events : List WorldEvent}
    (hrun : run (World.step position bridge) (World.start room statusRoom hasStatus) events = some w)
    (hmeets : Meets (World.step position bridge) (Resumable position)
      (World.start room statusRoom hasStatus) events) :
    Unbroken w.first (marksOf w.bridge.log) := by
  have hkeep (w : World) (e : WorldEvent) (after : World) (h : Resumes position w)
      (hmeets : Resumable position w e) (hstep : w.step position bridge e = some after) :
      Resumes position after := h.step hmeets hstep
  exact (run_invariant_of_meets hkeep (resumes_start room statusRoom hasStatus) hmeets hrun).unbroken

/-! ## A connection that is lost after the boundary -/

/-- Cursors that are as long as the number of events before them. -/
def cursorAt (n : Nat) : JsString := List.replicate n 0x61

def countingPosition (cursor : JsString) : Option Nat := some cursor.length

def attachReadyAt (boundary : Nat) : WorldEvent :=
  .bridge <| .message
    (some <| .object <|
      .cons (text "kind") (.string (text "attach_ready")) <|
      .cons (text "connectionId") (.string (text "c")) <|
      .cons (text "sessionId") (.string (text "s")) <|
      .cons (text "generation") (.number 1) <|
      .cons (text "role") (.string (text "controller")) <|
      .cons (text "highWaterCursor") (.string (cursorAt boundary)) .nil) none

def eventAt (n : Nat) : WorldEvent :=
  .bridge <| .message
    (some <| .object <|
      .cons (text "kind") (.string (text "event")) <|
      .cons (text "cursor") (.string (cursorAt (n + 1))) <|
      .cons (text "event") (.object .nil) .nil) (some n)

def stdioBridge : RpcStdioBridge := { format := wholeNumbers }

/-- One event is written, the connection is lost, another event is published, and the daemon tells
its boundary on the next connection. -/
def reattached : List WorldEvent :=
  [.bridge .opened, attachReadyAt 0, .publish, eventAt 0, .bridge (.closed 1006), .publish,
    .bridge .delayElapsed, .bridge .opened, attachReadyAt 2]

theorem resumes_run_replayed :
    ∃ w, run (World.step countingPosition stdioBridge) (World.start 8 8 true)
        (reattached ++ [eventAt 1, .bridge (.closed 1006)]) = some w ∧
      w.first = some 0 ∧ marksOf w.bridge.log = [.item 0, .item 1] ∧
      Unbroken w.first (marksOf w.bridge.log) := by
  obtain ⟨w, hw, hfirst, hmarks⟩ :
      ∃ w, run (World.step countingPosition stdioBridge) (World.start 8 8 true)
          (reattached ++ [eventAt 1, .bridge (.closed 1006)]) = some w ∧
        w.first = some 0 ∧ marksOf w.bridge.log = [.item 0, .item 1] := by
    decide +kernel
  exact ⟨w, hw, hfirst, hmarks, resumes_run hw (by decide +kernel)⟩

/-- The connection is lost before the event that is owed; the next one resumes after it. -/
theorem resume_loses :
    ∃ w, run (World.step countingPosition stdioBridge) (World.start 8 8 true)
        (reattached ++ [.bridge (.closed 1006), .bridge .delayElapsed, .bridge .opened, attachReadyAt 2,
          .publish, eventAt 2]) = some w ∧
      w.first = some 0 ∧ w.missed = false ∧ marksOf w.bridge.log = [.item 0, .item 2] ∧
      ¬Unbroken w.first (marksOf w.bridge.log) := by
  decide +kernel

end

end PiDaemon.Bridge
