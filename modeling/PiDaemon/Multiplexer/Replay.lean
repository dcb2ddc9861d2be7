import PiDaemon.Durability.Recovering
import PiDaemon.Lib.Runs

/-!
# Replaying queued wakes

`Multiplexer.recover` groups the queued entries by their sessions.  The sessions are replayed at the
same time, and each of them one entry after another: a wake is submitted when the one before it has
settled.

* `get?_bySession`: the entries of a session keep their order;
* `TakenInOrder.run`: of each session, what was submitted is in the order of the queue.
-/

namespace PiDaemon.Multiplexer

open Lib Durability Durability.FileDurabilityStore List

def bySession (queued : List JournalEntry) : OrderedMap JsString (List JournalEntry) :=
  queued.foldl (fun m entry => m.set entry.sessionId ((m.get? entry.sessionId).getD [] ++ [entry])) .empty

/-- What the loop of a session waits for. -/
inductive Awaited where
  | wake (entry : JournalEntry)
  | markFailed (entry : JournalEntry)

def Awaited.entry : Awaited → JournalEntry
  | .wake entry => entry
  | .markFailed entry => entry

structure ReplayFailure where
  sessionId : JsString
  code : JsString
  message : JsString

/-- `replayQueued` while it runs. -/
structure Replay where
  waiting : JsString → List JournalEntry
  awaited : JsString → Option Awaited := fun _ => none
  /-- The calls of `wake`. -/
  submitted : List JournalEntry := []
  replayed : List JsString := []
  failures : List ReplayFailure := []
  pendingReplays : Nat

def Replay.start (queued : List JournalEntry) : Replay where
  waiting sessionId := ((bySession queued).get? sessionId).getD []
  pendingReplays := queued.length

inductive ReplayEvent where
  /-- The loop of a session takes its next entry; `reprovision` says whether its host tool adapter has
  to be provisioned again. -/
  | next (sessionId : JsString) (reprovision : Bool)
  /-- What the loop of a session waits for ends, in an error when there is one. -/
  | settled (sessionId : JsString) (error : Option (JsString × JsString))

def ReplayEvent.reprovisions : ReplayEvent → Bool
  | .next _ reprovision => reprovision
  | .settled _ _ => false

namespace Replay

/-- The `catch` and the `finally` of an entry. -/
def fail (s : Replay) (sessionId : JsString) (error : JsString × JsString) : Replay :=
  { s with
    failures := s.failures ++ [⟨sessionId, error.1, error.2⟩]
    pendingReplays := s.pendingReplays - 1 }

def await (s : Replay) (sessionId : JsString) (awaited : Option Awaited) : Replay :=
  { s with awaited := fun other => if other = sessionId then awaited else s.awaited other }

def take (s : Replay) (sessionId : JsString) (rest : List JournalEntry) : Replay :=
  { s with waiting := fun other => if other = sessionId then rest else s.waiting other }

/-- One step; `parse` says why the command of an entry is refused, if it is. -/
def step (parse : JournalEntry → Option (JsString × JsString)) (s : Replay) : ReplayEvent → Option Replay
  | .next sessionId reprovision =>
    match s.awaited sessionId, s.waiting sessionId with
    | none, entry :: rest =>
      if reprovision then some ((s.take sessionId rest).await sessionId (some (.markFailed entry)))
      else
        match parse entry with
        | some error => some ((s.take sessionId rest).fail sessionId error)
        | none =>
          some <|
            { s.take sessionId rest with submitted := s.submitted ++ [entry] }.await sessionId (some (.wake entry))
    | _, _ => none
  | .settled sessionId error =>
    match s.awaited sessionId, error with
    | some _, some error => some ((s.await sessionId none).fail sessionId error)
    | some (.wake entry), none =>
      some
        { s.await sessionId none with
          replayed := s.replayed ++ [entry.idempotencyKey]
          pendingReplays := s.pendingReplays - 1 }
    | some (.markFailed _), none => some { s.await sessionId none with pendingReplays := s.pendingReplays - 1 }
    | none, _ => none

end Replay

/-! ## The order of a session -/

theorem ofSession_concat (sessionId : JsString) (entries : List JournalEntry) (entry : JournalEntry) :
    ofSession sessionId (entries ++ [entry]) =
      ofSession sessionId entries ++ if entry.sessionId = sessionId then [entry] else [] := by
  rw [ofSession, ofSession, filter_append, filter_cons]
  simp

theorem get?_bySession (sessionId : JsString) (queued : List JournalEntry) :
    ((bySession queued).get? sessionId).getD [] = ofSession sessionId queued := by
  induction queued using List.reverseRecOn with
  | nil => rfl
  | append_singleton queued entry ih =>
    rw [ofSession_concat, ← ih, bySession, foldl_append, foldl_cons, foldl_nil,
      OrderedMap.get?_set]
    split
    · rename_i heq
      subst heq
      rfl
    · exact (append_nil _).symm

/-- What has been taken of the entries of a session, and what of it was submitted. -/
structure TakenInOrder (parse : JournalEntry → Option (JsString × JsString)) (queued : List JournalEntry)
    (sessionId : JsString) (clean : Prop) (s : Replay) : Prop where
  of_session : ∀ other, ∀ entry ∈ s.waiting other, entry.sessionId = other
  order : ∃ done, ofSession sessionId queued = done ++ s.waiting sessionId ∧
    (ofSession sessionId s.submitted).Sublist done ∧ (clean → ofSession sessionId s.submitted = done)

namespace TakenInOrder

variable {parse : JournalEntry → Option (JsString × JsString)} {queued : List JournalEntry} {sessionId : JsString}
  {clean : Prop} {s t : Replay}

theorem start : TakenInOrder parse queued sessionId clean (.start queued) where
  of_session := by
    intro other entry hentry
    change entry ∈ ((bySession queued).get? other).getD [] at hentry
    rw [get?_bySession, ofSession, mem_filter] at hentry
    exact of_decide_eq_true hentry.2
  order := ⟨[], (get?_bySession sessionId queued).symm, .slnil, fun _ => rfl⟩

section
variable (h : TakenInOrder parse queued sessionId clean s)
include h

theorem same (hwaiting : t.waiting = s.waiting)
    (hsubmitted : t.submitted = s.submitted) : TakenInOrder parse queued sessionId clean t where
  of_session := hwaiting ▸ h.of_session
  order := by
    rw [hwaiting, hsubmitted]
    exact h.order

theorem take {other : JsString} {entry : JournalEntry}
    {rest : List JournalEntry} (hwaiting : s.waiting other = entry :: rest)
    (htaken : t.waiting = (s.take other rest).waiting)
    (hsubmitted : t.submitted = s.submitted ++ [entry] ∨ t.submitted = s.submitted ∧ ¬ clean) :
    TakenInOrder parse queued sessionId clean t := by
  have hid : entry.sessionId = other := h.of_session other entry (hwaiting ▸ mem_cons_self ..)
  constructor
  · intro third e he
    rw [htaken] at he
    change e ∈ (if third = other then rest else s.waiting third) at he
    split at he
    · rename_i heq
      subst heq
      exact h.of_session third e (hwaiting ▸ mem_cons_of_mem _ he)
    · exact h.of_session third e he
  · obtain ⟨done, hdone, hsub, hclean⟩ := h.order
    rw [htaken]
    show ∃ done, ofSession sessionId queued = done ++ (if sessionId = other then rest else s.waiting sessionId) ∧ _
    by_cases heq : sessionId = other
    · rw [if_pos heq]
      rw [heq, hwaiting, ← heq] at hdone
      refine ⟨done ++ [entry], ?_, ?_⟩
      · rw [hdone, append_assoc, singleton_append]
      rcases hsubmitted with hs | ⟨hs, hdirty⟩
      · rw [hs, ofSession_concat, if_pos (hid.trans heq.symm)]
        exact ⟨hsub.append (.refl _), fun hc => by rw [hclean hc]⟩
      · rw [hs]
        exact ⟨hsub.trans (sublist_append_left _ _), fun hc => absurd hc hdirty⟩
    · rw [if_neg heq]
      refine ⟨done, hdone, ?_⟩
      rcases hsubmitted with hs | ⟨hs, -⟩
      · rw [hs, ofSession_concat, if_neg (by rw [hid]; exact Ne.symm heq), append_nil]
        exact ⟨hsub, hclean⟩
      · rw [hs]
        exact ⟨hsub, hclean⟩

theorem step {event : ReplayEvent}
    (hclean : clean → event.reprovisions = false ∧ ∀ entry, parse entry = none)
    (hstep : s.step parse event = some t) : TakenInOrder parse queued sessionId clean t := by
  cases event with
  | next =>
    simp only [Replay.step] at hstep
    split at hstep
    · rename_i entry rest _ hwaiting
      split at hstep
      · rename_i hreprovision
        cases hstep
        refine h.take hwaiting rfl (.inr ⟨rfl, fun hc => ?_⟩)
        have hfalse := (hclean hc).1
        rw [hreprovision] at hfalse
        cases hfalse
      · split at hstep
        · rename_i hparse
          cases hstep
          refine h.take hwaiting rfl (.inr ⟨rfl, fun hc => ?_⟩)
          rw [(hclean hc).2 entry] at hparse
          cases hparse
        · cases hstep
          exact h.take hwaiting rfl (.inl rfl)
    · cases hstep
  | settled =>
    simp only [Replay.step] at hstep
    split at hstep
    · cases hstep
      exact h.same rfl rfl
    · cases hstep
      exact h.same rfl rfl
    · cases hstep
      exact h.same rfl rfl
    · cases hstep

end

end TakenInOrder

/-- **The wakes of a session are submitted in the order of the queue**: all that have been taken, when
no adapter has to be provisioned again and every command is parsed. -/
theorem replay_order {parse : JournalEntry → Option (JsString × JsString)} {queued : List JournalEntry}
    {events : List ReplayEvent} {t : Replay} (hrun : run (Replay.step parse) (.start queued) events = some t)
    (sessionId : JsString) :
    ∃ done, ofSession sessionId queued = done ++ t.waiting sessionId ∧
      (ofSession sessionId t.submitted).Sublist done ∧
      ((∀ event ∈ events, event.reprovisions = false) → (∀ entry, parse entry = none) →
        ofSession sessionId t.submitted = done) := by
  have hordered (clean : Prop)
      (hclean : clean → (∀ event ∈ events, event.reprovisions = false) ∧ ∀ entry, parse entry = none) :
      TakenInOrder parse queued sessionId clean t := by
    have hstart : TakenInOrder parse queued sessionId clean (.start queued) := .start
    generalize Replay.start queued = s at hrun hstart
    induction events generalizing s with
    | nil =>
      cases hrun
      exact hstart
    | cons event rest ih =>
      obtain ⟨s', hstep, hrest⟩ := run_cons_eq_some.mp hrun
      refine ih (fun hc => ⟨fun e he => (hclean hc).1 e (mem_cons_of_mem _ he), (hclean hc).2⟩) s' hrest ?_
      exact hstart.step (fun hc => ⟨(hclean hc).1 event (mem_cons_self ..), (hclean hc).2⟩) hstep
  obtain ⟨done, hdone, hsub, hclean⟩ := (hordered
    ((∀ event ∈ events, event.reprovisions = false) ∧ ∀ entry, parse entry = none) id).order
  exact ⟨done, hdone, hsub, fun h h' => hclean ⟨h, h'⟩⟩

end PiDaemon.Multiplexer
