import PiDaemon.Lib.Base64Url
import PiDaemon.Lib.WellFormed

/-!
# The names of sessions and tickets

A session id is the name of a file and of a directory, and with an idempotency key the name of a
wake ticket.  Both go through UTF-8, which replaces lone surrogates; and a ticket joins its two
strings by a line feed, which both of them may hold.

* `encodedSessionId_injective`: two session ids have different files exactly when they differ once
  lone surrogates are replaced;
* `scopeText_eq_iff`: which pairs of an id and a key have the same scope;
* `wakeTicketId_eq_iff`: these have the same ticket, and no others as long as SHA-256 does not
  collide on them.
-/

namespace PiDaemon.Durability

open Lib

/-- Buffers of a fixed length. -/
abbrev Bytes (n : Nat) := { bytes : List UInt8 // bytes.length = n }

/-! ## Fields of a command -/

structure ProtocolValidationError where
  code : String
  field : String
  length : Nat
  min : Nat
  max : Nat
  deriving DecidableEq

/-- `stringField` of a string; `${field} length must be between ${min} and ${max}`. -/
def stringField (field : String) (max : Nat) (value : JsString) : Except ProtocolValidationError JsString :=
  if value.length < 1 ∨ max < value.length then
    .error { code := "invalid_field", field, length := value.length, min := 1, max }
  else .ok value

/-- The session id of `validateSessionIdentity`. -/
def sessionIdField (value : JsString) : Except ProtocolValidationError JsString := stringField "sessionId" 256 value

/-- The idempotency key of `validateSessionIdentity`. -/
def idempotencyKeyField (value : JsString) : Except ProtocolValidationError JsString :=
  stringField "idempotencyKey" 512 value

theorem stringField_ne_nil {field : String} {max : Nat} {value : JsString}
    (h : stringField field max value = .ok value) : value ≠ [] := by
  rintro rfl
  cases h

/-! ## Files -/

/-- `encodedSessionId`; `none` when it throws. -/
def encodedSessionId (sessionId : JsString) : Option JsString :=
  if sessionId = [] then none else some (text "s-" ++ base64Url (utf8Encode sessionId))

/-- `basename(#journalPath(sessionId))` -/
def journalFileName (sessionId : JsString) : Option JsString :=
  (encodedSessionId sessionId).map fun name => name ++ text ".jsonl"

/-- `basename(#sessionDir(sessionId))`, where the manifest is. -/
def sessionDirectoryName (sessionId : JsString) : Option JsString := encodedSessionId sessionId

/-- The file of the session in the catalog. -/
def catalogFileName (sessionId : JsString) : Option JsString :=
  (encodedSessionId sessionId).map fun name => name ++ text ".json"

theorem encodedSessionId_eq_iff {s t : JsString} (hs : s ≠ []) (ht : t ≠ []) :
    encodedSessionId s = encodedSessionId t ↔ toWellFormed s = toWellFormed t := by
  rw [encodedSessionId, if_neg hs, encodedSessionId, if_neg ht, Option.some_inj, ← utf8Encode_eq_iff]
  constructor
  · intro h
    exact base64Url_inj (List.append_cancel_left h)
  · intro h
    rw [h]

theorem map_append_eq_iff {x y : Option JsString} (suffix : JsString) :
    (x.map fun name => name ++ suffix) = (y.map fun name => name ++ suffix) ↔ x = y := by
  constructor
  · intro h
    exact Option.map_injective (fun _ _ hname => List.append_cancel_right hname) h
  · intro h
    rw [h]

/-- **Two session ids do not share their files** exactly when they differ once every lone surrogate
has been replaced. -/
theorem encodedSessionId_injective {s t : JsString} (hs : sessionIdField s = .ok s)
    (ht : sessionIdField t = .ok t) :
    (encodedSessionId s ≠ encodedSessionId t ∧ journalFileName s ≠ journalFileName t ∧
      sessionDirectoryName s ≠ sessionDirectoryName t ∧ catalogFileName s ≠ catalogFileName t) ↔
      toWellFormed s ≠ toWellFormed t := by
  have heq := encodedSessionId_eq_iff (stringField_ne_nil hs) (stringField_ne_nil ht)
  rw [journalFileName, journalFileName, catalogFileName, catalogFileName, sessionDirectoryName,
    sessionDirectoryName, ne_eq, ne_eq, ne_eq, map_append_eq_iff, map_append_eq_iff, heq]
  simp

theorem encodedSessionId_injective_letters :
    text "a" ≠ text "b" ∧
      (encodedSessionId (text "a") ≠ encodedSessionId (text "b") ∧
        journalFileName (text "a") ≠ journalFileName (text "b") ∧
        sessionDirectoryName (text "a") ≠ sessionDirectoryName (text "b") ∧
        catalogFileName (text "a") ≠ catalogFileName (text "b")) :=
  ⟨by decide, (encodedSessionId_injective (by decide) (by decide)).mpr (by decide)⟩

/-- Two lone surrogates have the same file. -/
theorem encodedSessionId_collides :
    sessionIdField [0xd800] = .ok [0xd800] ∧ sessionIdField [0xd801] = .ok [0xd801] ∧
      ([0xd800] : JsString) ≠ [0xd801] ∧ encodedSessionId [0xd800] = encodedSessionId [0xd801] ∧
      journalFileName [0xd800] = journalFileName [0xd801] := by
  decide

/-! ## Tickets -/

/-- `scope` of `wakeTicketId`. -/
def scopeText (sessionId idempotencyKey : JsString) : JsString :=
  text "WAKE\n" ++ sessionId ++ 0x0a :: idempotencyKey

/-- `wakeTicketId`, with its digest as a parameter. -/
def wakeTicketId (sha256 : List UInt8 → Bytes 32) (sessionId idempotencyKey : JsString) : JsString :=
  text "ticket-" ++ (base64Url (sha256 (utf8Encode (scopeText sessionId idempotencyKey))).1).take 43

/-- The pairs agree once lone surrogates are replaced, or the id of one goes on, after a line feed,
into the key of the other. -/
def SameScope (s k s' k' : JsString) : Prop :=
  (toWellFormed s = toWellFormed s' ∧ toWellFormed k = toWellFormed k') ∨
    (∃ w, toWellFormed s' = toWellFormed s ++ 0x0a :: w ∧ toWellFormed k = w ++ 0x0a :: toWellFormed k') ∨
    ∃ w, toWellFormed s = toWellFormed s' ++ 0x0a :: w ∧ toWellFormed k' = w ++ 0x0a :: toWellFormed k

theorem toWellFormed_scopeText (s k : JsString) :
    toWellFormed (scopeText s k) = text "WAKE\n" ++ (toWellFormed s ++ 0x0a :: toWellFormed k) := by
  have hfeed : toWellFormed (0x0a :: k) = 0x0a :: toWellFormed k :=
    toWellFormed_cons_of_not_high (by decide) k
  have hascii : Ascii (text "WAKE\n") := by decide
  have hlow : startsLow (0x0a :: k) = false := by rfl
  rw [scopeText, List.append_assoc, hascii.toWellFormed_append, toWellFormed_append s hlow, hfeed]

theorem scopeText_eq_iff {s k s' k' : JsString} :
    toWellFormed (scopeText s k) = toWellFormed (scopeText s' k') ↔ SameScope s k s' k' := by
  rw [toWellFormed_scopeText, toWellFormed_scopeText, List.append_cancel_left_eq]
  exact append_separator_eq_iff

instance (s k s' k' : JsString) : Decidable (SameScope s k s' k') :=
  decidable_of_iff _ scopeText_eq_iff

/-- SHA-256 has the same value for both scopes only when they are the same bytes. -/
def NoCollision (sha256 : List UInt8 → Bytes 32) (s k s' k' : JsString) : Prop :=
  sha256 (utf8Encode (scopeText s k)) = sha256 (utf8Encode (scopeText s' k')) →
    utf8Encode (scopeText s k) = utf8Encode (scopeText s' k')

theorem wakeTicketId_eq_iff {sha256 : List UInt8 → Bytes 32} {s k s' k' : JsString}
    (h : NoCollision sha256 s k s' k') :
    wakeTicketId sha256 s k = wakeTicketId sha256 s' k' ↔ SameScope s k s' k' := by
  have htake (bytes : Bytes 32) : (base64Url bytes.1).take 43 = base64Url bytes.1 :=
    List.take_of_length_le (by simp [length_base64Url, bytes.2])
  rw [← scopeText_eq_iff, ← utf8Encode_eq_iff, wakeTicketId, wakeTicketId, htake, htake]
  constructor
  · intro heq
    exact h (Subtype.ext (base64Url_inj (List.append_cancel_left heq)))
  · intro heq
    rw [heq]

end PiDaemon.Durability
