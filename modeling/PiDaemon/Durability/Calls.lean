import PiDaemon.Durability.Journal

/-!
# Calls of the store

How calls are composed, and what the functions of the store leave alone.

* `Called.bind_eq_ok`: a composed call returns when both of its parts do;
* `Called.Within`: what a call leaves, and which errors it throws;
* `directory_loadSessionJournal`: reading a journal changes no file.
-/

namespace PiDaemon.Durability

open Lib OrderedMap

/-- The session and the key of a request. -/
abbrev Pair := JsString × JsString

def JournalEntry.pair (entry : JournalEntry) : Pair := (entry.sessionId, entry.idempotencyKey)

namespace Called

variable {A B : Type}

@[simp] theorem ok_outcome (a : A) (j : Journal) : (Called.ok a j).outcome = .ok a := rfl

@[simp] theorem ok_journal (a : A) (j : Journal) : (Called.ok a j).journal = j := rfl

section
variable (code : DurabilityCode)

@[simp] theorem throw_outcome (j : Journal) : (Called.throw code j : Called A).outcome = .error code := rfl

@[simp] theorem throw_journal (j : Journal) : (Called.throw code j : Called A).journal = j := rfl

@[simp] theorem bind_ok (a : A) (j : Journal) (f : A → Journal → Called B) :
    (Called.ok a j).bind f = f a j := rfl

@[simp] theorem bind_throw (j : Journal) (f : A → Journal → Called B) :
    (Called.throw code j).bind f = .throw code j := rfl

end

theorem eq_ok_or_throw (x : Called A) : (∃ a, x = .ok a x.journal) ∨ ∃ code, x = .throw code x.journal := by
  obtain ⟨outcome, _⟩ := x
  cases outcome with
  | ok a => exact .inl ⟨a, rfl⟩
  | error code => exact .inr ⟨code, rfl⟩

theorem bind_eq_ok {x : Called A} {f : A → Journal → Called B} {b : B} {j' : Journal} :
    x.bind f = .ok b j' ↔ ∃ a j, x = .ok a j ∧ f a j = .ok b j' := by
  constructor
  · intro h
    obtain ⟨a, hx⟩ | ⟨_, hx⟩ := x.eq_ok_or_throw
    · rw [hx] at h
      exact ⟨a, x.journal, hx, h⟩
    · rw [hx] at h
      cases congrArg Called.outcome h
  · rintro ⟨a, j, rfl, h⟩
    exact h

theorem exists_eq_ok {x : Called A} (h : x.outcome.toOption.isSome = true) : ∃ a, x = .ok a x.journal := by
  obtain hok | ⟨code, hthrow⟩ := x.eq_ok_or_throw
  · exact hok
  · rw [hthrow] at h
    cases h

/-- The call leaves a journal with `P`, and throws no error but those of `codes`. -/
def Within (P : Journal → Prop) (codes : DurabilityCode → Prop) (x : Called A) : Prop :=
  P x.journal ∧ ∀ code, x.outcome = .error code → codes code

variable {P : Journal → Prop} {codes : DurabilityCode → Prop}

theorem Within.ok {a : A} {j : Journal} (h : P j) : (Called.ok a j).Within P codes :=
  ⟨h, fun code hcode => by cases hcode⟩

theorem Within.throw {code : DurabilityCode} {j : Journal} (h : P j) (hcode : codes code) :
    (Called.throw code j : Called A).Within P codes := by
  refine ⟨h, ?_⟩
  rintro _ ⟨⟩
  exact hcode

theorem Within.bind {x : Called A} {f : A → Journal → Called B} (hx : x.Within P codes)
    (hf : ∀ a j, x = .ok a j → P j → (f a j).Within P codes) : (x.bind f).Within P codes := by
  obtain ⟨a, hok⟩ | ⟨code, hthrow⟩ := x.eq_ok_or_throw
  · have := hf a x.journal hok hx.1
    rw [hok]
    exact this
  · have hcode := hx.2 code (by rw [hthrow]; rfl)
    rw [hthrow]
    exact .throw hx.1 hcode

end Called

namespace FileDurabilityStore

variable (store : FileDurabilityStore)

theorem mem_values_of_get? {m : SessionEntries} {k : JsString} {entry : JournalEntry} (h : m.get? k = some entry) :
    entry ∈ m.values :=
  List.mem_map.mpr ⟨(k, entry), mem_entries.mpr h, rfl⟩

theorem get?_of_mem_values {m : SessionEntries} {entry : JournalEntry} (h : entry ∈ m.values) :
    ∃ k, m.get? k = some entry := by
  obtain ⟨⟨k, _⟩, hmem, rfl⟩ := List.mem_map.mp h
  exact ⟨k, mem_entries.mp hmem⟩

theorem mem_values_set {m : SessionEntries} {k : JsString} {entry other : JournalEntry}
    (h : other ∈ (m.set k entry).values) : other = entry ∨ other ∈ m.values := by
  obtain ⟨_, hget⟩ := get?_of_mem_values h
  rw [get?_set] at hget
  split at hget
  · cases hget
    exact .inl rfl
  · exact .inr (mem_values_of_get? hget)

theorem entriesOf_set (j : Journal) (s t : JsString) (entries : SessionEntries) :
    ((j.entries.set s entries).get? t).getD .empty = if s = t then entries else entriesOf j t := by
  rw [get?_set]
  split
  · rfl
  · rfl

/-! ## Reading leaves the files alone -/

theorem directory_indexTicket (entry : JournalEntry) (j : Journal) :
    (store.indexTicket entry j).journal.directory = j.directory := by
  rw [indexTicket]
  split
  · rfl
  · rfl

theorem directory_bind {A B : Type} {x : Called A} {f : A → Journal → Called B}
    {directory : OrderedMap JsString JournalFile} (hx : x.journal.directory = directory)
    (hf : ∀ a j, j.directory = directory → (f a j).journal.directory = directory) :
    (x.bind f).journal.directory = directory := by
  obtain ⟨a, hok⟩ | ⟨_, hthrow⟩ := x.eq_ok_or_throw
  · rw [hok]
    exact hf a x.journal hx
  · rw [hthrow]
    exact hx

theorem directory_loadLines (name : JsString) (expected : Option JsString)
    (lines : List (Option JournalEntry)) (j : Journal) :
    (store.loadLines name expected lines j).journal.directory = j.directory := by
  induction lines generalizing j with
  | nil => rfl
  | cons line rest ih =>
    cases line with
    | none => rfl
    | some value =>
      rw [loadLines]
      split
      · rfl
      refine directory_bind (store.directory_indexTicket value _) fun _ j' hj' => ?_
      rw [ih]
      exact hj'

theorem directory_claimRecoveryBytes (bytes : Nat) (j : Journal) :
    (store.claimRecoveryBytes bytes j).journal.directory = j.directory := by
  rw [claimRecoveryBytes]
  split
  · rfl
  · rfl

theorem directory_loadJournalFile (name : JsString) (expected : Option JsString) (scan : Bool) (j : Journal) :
    (store.loadJournalFile name expected scan j).journal.directory = j.directory := by
  rw [loadJournalFile]
  split
  · rfl
  split
  · rfl
  refine directory_bind ?_ fun _ j' hj' => (store.directory_loadLines name expected _ j').trans hj'
  split
  · exact store.directory_claimRecoveryBytes _ j
  · rfl

theorem directory_loadSessionJournal (sessionId : JsString) (j : Journal) :
    (store.loadSessionJournal sessionId j).journal.directory = j.directory := by
  rw [loadSessionJournal]
  split
  · rfl
  · exact directory_bind (store.directory_loadJournalFile _ _ _ j) fun _ _ hj' => hj'

/-! ## Appending -/

/-- The record is within the limits of its file. -/
def Fits (entry : JournalEntry) (j : Journal) : Prop :=
  entry.recordBytes store.format ≤ store.maxJournalRecordBytes ∧
    fileBytes j (journalPath entry.sessionId) + entry.recordBytes store.format ≤ store.maxJournalFileBytes

instance (entry : JournalEntry) (j : Journal) : Decidable (store.Fits entry j) := inferInstanceAs (Decidable (_ ∧ _))

/-- The record is at the end of its file. -/
def appended (entry : JournalEntry) (j : Journal) : Journal :=
  { j with
    directory := j.directory.set (journalPath entry.sessionId)
      ⟨fileLines j (journalPath entry.sessionId) ++ [some entry],
        fileBytes j (journalPath entry.sessionId) + entry.recordBytes store.format⟩ }

theorem append_of_fits {entry : JournalEntry} {j : Journal} (h : store.Fits entry j) :
    store.append entry j = .ok () (store.appended entry j) := by
  rw [append]
  rw [if_neg (Nat.not_lt.mpr h.1), if_neg (Nat.not_lt.mpr h.2)]
  rfl

theorem append_cases (entry : JournalEntry) (j : Journal) :
    store.Fits entry j ∧ store.append entry j = .ok () (store.appended entry j) ∨
      ¬ store.Fits entry j ∧ ∃ code, code ≠ .ticketIdCollision ∧ store.append entry j = .throw code j := by
  by_cases h : store.Fits entry j
  · exact .inl ⟨h, store.append_of_fits h⟩
  refine .inr ⟨h, ?_⟩
  rw [append]
  split
  · exact ⟨_, (by decide), rfl⟩
  split
  · exact ⟨_, (by decide), rfl⟩
  · exact absurd ⟨Nat.not_lt.mp (by assumption), Nat.not_lt.mp (by assumption)⟩ h

/-- The entry of a request that is new. -/
def queuedEntry (command : DurableWakeCommand) (j : Journal) : JournalEntry :=
  { sessionId := command.sessionId
    generation := command.generation
    idempotencyKey := command.idempotencyKey
    requestId := command.requestId
    fingerprint := store.requestFingerprint command
    state := .queued
    command
    createdAt := store.timestamp j
    updatedAt := store.timestamp j }

/-- The store holds an entry of a session. -/
def held (sessionId : JsString) (entry : JournalEntry) (j : Journal) : Journal :=
  { j with entries := j.entries.set sessionId ((entriesOf j sessionId).set entry.idempotencyKey entry) }

/-- `beginRequest` of a key that its session does not hold. -/
def addRequest (command : DurableWakeCommand) (j : Journal) : Called JournalEntry :=
  (store.append (store.queuedEntry command j) (tick j)).bind fun _ j' =>
    (store.indexTicket (store.queuedEntry command j)
      (held command.sessionId (store.queuedEntry command j) j')).bind fun _ j'' =>
        .ok (store.queuedEntry command j) j''

variable {command : DurableWakeCommand}

theorem beginRequest_of_held {j loaded : Journal} {existing : JournalEntry}
    (hload : store.loadSessionJournal command.sessionId j = .ok () loaded)
    (hget : (entriesOf loaded command.sessionId).get? command.idempotencyKey = some existing) :
    store.beginRequest command j =
      if existing.fingerprint ≠ store.requestFingerprint command then .throw .idempotencyConflict loaded
      else .ok existing loaded := by
  rw [beginRequest, hload, Called.bind_ok]
  simp only [hget]

theorem beginRequest_of_new {j loaded : Journal}
    (hload : store.loadSessionJournal command.sessionId j = .ok () loaded)
    (hget : (entriesOf loaded command.sessionId).get? command.idempotencyKey = none) :
    store.beginRequest command j = store.addRequest command loaded := by
  rw [beginRequest, hload, Called.bind_ok]
  simp only [hget]
  rfl

theorem addRequest_of_fits {j : Journal} (h : store.Fits (store.queuedEntry command j) j) :
    store.addRequest command j =
      (store.indexTicket (store.queuedEntry command j)
        (held command.sessionId (store.queuedEntry command j)
          (store.appended (store.queuedEntry command j) (tick j)))).bind fun _ j' =>
            .ok (store.queuedEntry command j) j' := by
  rw [addRequest, store.append_of_fits (j := tick j) h]
  rfl

/-! ## A store over letters -/

/-- SHA-256 on the scopes of `a` with `k`, of `a` with `l` and of `b` with `k`. -/
def letterDigest (bytes : List UInt8) : Bytes 32 :=
  if bytes = utf8Encode (text "WAKE\na\nk") then
    ⟨[0xf9, 0x8c, 0x9d, 0x92, 0x88, 0x45, 0x62, 0x4a, 0x3d, 0x4d, 0xe3, 0x1c, 0x33, 0xc6, 0xfa, 0x3a,
      0x47, 0x35, 0xe8, 0xdf, 0xd3, 0x9d, 0xf2, 0xc6, 0x0a, 0x49, 0xad, 0x13, 0x7d, 0xd3, 0x33, 0x3e], rfl⟩
  else if bytes = utf8Encode (text "WAKE\na\nl") then
    ⟨[0x66, 0x38, 0x5b, 0x13, 0x08, 0x82, 0xc8, 0xd0, 0x44, 0xb2, 0x03, 0x07, 0x23, 0x74, 0x8e, 0xd7,
      0xfd, 0x33, 0xd0, 0x7e, 0x82, 0x50, 0xfb, 0xcd, 0x25, 0x76, 0x5f, 0xcc, 0x92, 0xbc, 0x8f, 0x94], rfl⟩
  else
    ⟨[0x14, 0x97, 0xa3, 0x71, 0x2b, 0xc2, 0xaf, 0x81, 0x49, 0xd1, 0xe5, 0x9f, 0x23, 0xd3, 0x72, 0x9e,
      0xe3, 0x32, 0x73, 0x35, 0x01, 0x94, 0x85, 0xf0, 0xd2, 0xb5, 0x43, 0xe7, 0x44, 0x01, 0x9f, 0x89], rfl⟩

/-- Strings by their units, and the first milliseconds. -/
def letterStore (now : Nat → Int) : FileDurabilityStore where
  now := now
  sha256 := letterDigest
  localeCompare a b := compare (a.map UInt16.toNat) (b.map UInt16.toNat)
  parseDate date := (([0, 1, 2, 3] : List Int).find? fun ms => toISOString ms = date)
  requestFingerprint command := command.idempotencyKey
  format := wholeNumbers

instance (now : Nat → Int) : Std.TransCmp (letterStore now).localeCompare :=
  inferInstanceAs (Std.TransCmp (compareOn fun a : JsString => a.map UInt16.toNat))

def letterCommand (sessionId idempotencyKey : String) : DurableWakeCommand where
  sessionId := text sessionId
  generation := 0
  idempotencyKey := text idempotencyKey
  requestId := text "r"
  json := .null

end FileDurabilityStore

end PiDaemon.Durability
