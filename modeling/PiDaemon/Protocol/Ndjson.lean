import Mathlib.Data.List.Basic

/-!
# The NDJSON decoder

Chunks are collected in a buffer, and the complete lines are taken off it.  The decoder of
UTF-8 and `JSON.parse` are parameters.  A push that meets a bad line throws, and what it has
read of the chunk before that line is lost with it.

* `splitLines_append`: the lines of a stream come one chunk after the other;
* `decodeFrom_eq`: what the pushes return, and what they throw;
* `decodeChunks_iff`: two ways to split a stream give the same values exactly when the same
  number of lines has been pushed before the chunk that shows the bad line.
-/

namespace PiDaemon.Protocol

open List

/-- The codes of the `ProtocolValidationError`s. -/
inductive NdjsonCode where
  | lineTooLarge
  | invalidUtf8
  | invalidJson
  deriving DecidableEq

/-- A `ProtocolValidationError` with its details. -/
inductive NdjsonError where
  | lineTooLarge (maxLineBytes actualBytes : Nat)
  | invalidUtf8
  | invalidJson
  deriving DecidableEq

def NdjsonError.code : NdjsonError → NdjsonCode
  | .lineTooLarge _ _ => .lineTooLarge
  | .invalidUtf8 => .invalidUtf8
  | .invalidJson => .invalidJson

/-- A decoder for the values of `JSON.parse` on texts. -/
structure LineParser (T V : Type) where
  /-- `TextDecoder.decode`, with `fatal`. -/
  decode : List UInt8 → Option T
  /-- `JSON.parse` -/
  parse : T → Option V

structure NdjsonDecoder where
  maxLineBytes : Nat
  buffer : List UInt8
  deriving DecidableEq

def newline : UInt8 := 0x0a

section
variable {T V : Type} (parser : LineParser T V)

def parseLine (line : List UInt8) : Except NdjsonError V :=
  match parser.decode line with
  | none => .error .invalidUtf8
  | some text =>
    match parser.parse text with
    | none => .error .invalidJson
    | some value => .ok value

/-- The line without a CR at its end. -/
def stripReturn (line : List UInt8) : List UInt8 :=
  if line.getLast? = some 0x0d then line.dropLast else line

namespace NdjsonDecoder

/-- The loop of `push`; the fuel is more than the length of the buffer. -/
def pushLoop : Nat → NdjsonDecoder → List V → NdjsonDecoder × Except NdjsonError (List V)
  | 0, s, values => (s, .ok values)
  | fuel + 1, s, values =>
    match s.buffer.dropWhile (· != newline) with
    | [] =>
      if s.buffer.length > s.maxLineBytes then
        (s, .error (.lineTooLarge s.maxLineBytes s.buffer.length))
      else (s, .ok values)
    | _ :: rest =>
      let line := s.buffer.takeWhile (· != newline)
      if line.length > s.maxLineBytes then
        (s, .error (.lineTooLarge s.maxLineBytes line.length))
      else
        let s := { s with buffer := rest }
        let line := stripReturn line
        if line = [] then pushLoop fuel s values
        else
          match parseLine parser line with
          | .error error => (s, .error error)
          | .ok value => pushLoop fuel s (values ++ [value])

def push (s : NdjsonDecoder) (chunk : List UInt8) : NdjsonDecoder × Except NdjsonError (List V) :=
  pushLoop parser ((s.buffer ++ chunk).length + 1) { s with buffer := s.buffer ++ chunk } []

def finish (s : NdjsonDecoder) : NdjsonDecoder × Except NdjsonError (List V) :=
  if s.buffer = [] then (s, .ok [])
  else
    ({ s with buffer := [] },
      match parseLine parser s.buffer with
      | .error error => .error error
      | .ok value => .ok [value])

/-- The pushes of the chunks, and `finish`: the values they return up to the first error, and
its code. -/
def decodeFrom (s : NdjsonDecoder) : List (List UInt8) → List V × Option NdjsonCode
  | [] =>
    match (s.finish parser).2 with
    | .error error => ([], some error.code)
    | .ok values => (values, none)
  | chunk :: rest =>
    match s.push parser chunk with
    | (_, .error error) => ([], some error.code)
    | (s, .ok values) =>
      let later := decodeFrom s rest
      (values ++ later.1, later.2)

def decodeChunks (maxLineBytes : Nat) (chunks : List (List UInt8)) : List V × Option NdjsonCode :=
  decodeFrom parser ⟨maxLineBytes, []⟩ chunks

end NdjsonDecoder

end

/-! ## Lines of a stream -/

/-- The complete lines of a stream, and the bytes after the last one. -/
def splitLines : List UInt8 → List (List UInt8) × List UInt8
  | [] => ([], [])
  | byte :: bytes =>
    let split := splitLines bytes
    if byte = newline then ([] :: split.1, split.2)
    else
      match split.1 with
      | [] => ([], byte :: split.2)
      | line :: lines => ((byte :: line) :: lines, split.2)

theorem splitLines_newline (bytes : List UInt8) :
    splitLines (newline :: bytes) = ([] :: (splitLines bytes).1, (splitLines bytes).2) := by
  simp [splitLines]

theorem splitLines_append (a b : List UInt8) :
    splitLines (a ++ b) = ((splitLines a).1 ++ (splitLines ((splitLines a).2 ++ b)).1,
      (splitLines ((splitLines a).2 ++ b)).2) := by
  induction a with
  | nil => rfl
  | cons byte a ih =>
    simp only [cons_append, splitLines, ih]
    by_cases hbyte : byte = newline
    · simp [hbyte]
    cases hlines : (splitLines a).1 with
    | nil => simp [hbyte, splitLines]
    | cons => simp [hbyte]

theorem splitLines_rest (a : List UInt8) : splitLines (splitLines a).2 = ([], (splitLines a).2) := by
  induction a with
  | nil => rfl
  | cons byte a ih =>
    simp only [splitLines]
    by_cases hbyte : byte = newline
    · simpa [hbyte] using ih
    cases hlines : (splitLines a).1 with
    | nil => simp [hbyte, splitLines, ih]
    | cons => simpa [hbyte] using ih

/-- A buffer without a newline, and one with a first line. -/
theorem splitLines_dropWhile (buffer : List UInt8) :
    (buffer.dropWhile (· != newline) = [] → splitLines buffer = ([], buffer)) ∧
      ∀ byte rest, buffer.dropWhile (· != newline) = byte :: rest →
        rest.length < buffer.length ∧
          splitLines buffer =
            (buffer.takeWhile (· != newline) :: (splitLines rest).1, (splitLines rest).2) := by
  induction buffer with
  | nil => simp [splitLines]
  | cons first buffer ih =>
    by_cases hfirst : first = newline
    · subst hfirst
      simp [splitLines]
    have hne : (first != newline) = true := bne_iff_ne.mpr hfirst
    simp only [hne, hfirst, dropWhile_cons_of_pos, takeWhile_cons_of_pos, splitLines,
      if_false, length_cons]
    refine ⟨fun hnone => ?_, fun byte rest hrest => ?_⟩
    · rw [ih.1 hnone]
    obtain ⟨_, hsplit⟩ := ih.2 byte rest hrest
    rw [hsplit]
    exact ⟨by omega, rfl⟩

section
variable {T V : Type} (parser : LineParser T V) (maxLineBytes : Nat)

/-- The value of a complete line; a blank line has none. -/
def lineValue (line : List UInt8) : Except NdjsonError (Option V) :=
  if line.length > maxLineBytes then .error (.lineTooLarge maxLineBytes line.length)
  else if stripReturn line = [] then .ok none
  else (parseLine parser (stripReturn line)).map some

/-- The values of complete lines up to the first bad one. -/
def readLines : List (List UInt8) → List V × Option NdjsonError
  | [] => ([], none)
  | line :: lines =>
    match lineValue parser maxLineBytes line with
    | .error error => ([], some error)
    | .ok value => (value.toList ++ (readLines lines).1, (readLines lines).2)

/-- What a decoder that has received the bytes has thrown. -/
def fault (bytes : List UInt8) : Option NdjsonError :=
  match (readLines parser maxLineBytes (splitLines bytes).1).2 with
  | some error => some error
  | none =>
    if (splitLines bytes).2.length > maxLineBytes then
      some (.lineTooLarge maxLineBytes (splitLines bytes).2.length)
    else none

variable {parser} {maxLineBytes}

theorem readLines_append {a : List (List UInt8)} (b : List (List UInt8))
    (h : (readLines parser maxLineBytes a).2 = none) :
    readLines parser maxLineBytes (a ++ b) =
      ((readLines parser maxLineBytes a).1 ++ (readLines parser maxLineBytes b).1,
        (readLines parser maxLineBytes b).2) := by
  induction a with
  | nil => rfl
  | cons line a ih =>
    simp only [cons_append, readLines] at h ⊢
    cases hvalue : lineValue parser maxLineBytes line with
    | error => simp [hvalue] at h
    | ok =>
      simp only [hvalue] at h
      simp [ih h]

theorem NdjsonDecoder.pushLoop_value {fuel : Nat} {buffer rest : List UInt8} {byte : UInt8}
    (hrest : buffer.dropWhile (· != newline) = byte :: rest) (values : List V) {value : Option V}
    (hvalue : lineValue parser maxLineBytes (buffer.takeWhile (· != newline)) = .ok value) :
    pushLoop parser (fuel + 1) ⟨maxLineBytes, buffer⟩ values =
      pushLoop parser fuel ⟨maxLineBytes, rest⟩ (values ++ value.toList) := by
  rw [pushLoop]
  simp only [hrest]
  revert hvalue
  generalize buffer.takeWhile (· != newline) = line
  unfold lineValue
  intro hvalue
  by_cases hlong : line.length > maxLineBytes
  · simp [hlong] at hvalue
  by_cases hblank : stripReturn line = []
  · simp [hlong, hblank] at hvalue
    simp [hlong, hblank, ← hvalue]
  cases hparse : parseLine parser (stripReturn line) with
  | error => simp [hlong, hblank, hparse, Except.map] at hvalue
  | ok =>
    simp [hlong, hblank, hparse, Except.map] at hvalue
    simp [hlong, hblank, ← hvalue]

theorem NdjsonDecoder.pushLoop_error {fuel : Nat} {buffer rest : List UInt8} {byte : UInt8}
    (hrest : buffer.dropWhile (· != newline) = byte :: rest) (values : List V) {error : NdjsonError}
    (hvalue : lineValue parser maxLineBytes (buffer.takeWhile (· != newline)) = .error error) :
    (pushLoop parser (fuel + 1) ⟨maxLineBytes, buffer⟩ values).2 = .error error := by
  rw [pushLoop]
  simp only [hrest]
  revert hvalue
  generalize buffer.takeWhile (· != newline) = line
  unfold lineValue
  intro hvalue
  by_cases hlong : line.length > maxLineBytes
  · simpa [hlong] using hvalue
  by_cases hblank : stripReturn line = []
  · simp [hlong, hblank] at hvalue
  cases hparse : parseLine parser (stripReturn line) with
  | error => simpa [hlong, hblank, hparse, Except.map] using hvalue
  | ok => simp [hlong, hblank, hparse, Except.map] at hvalue

theorem fault_line {buffer rest : List UInt8} {byte : UInt8}
    (hrest : buffer.dropWhile (· != newline) = byte :: rest) :
    (∀ error, lineValue parser maxLineBytes (buffer.takeWhile (· != newline)) = .error error →
        fault parser maxLineBytes buffer = some error) ∧
      ∀ value, lineValue parser maxLineBytes (buffer.takeWhile (· != newline)) = .ok value →
        fault parser maxLineBytes buffer = fault parser maxLineBytes rest := by
  rw [fault, fault, ((splitLines_dropWhile buffer).2 byte rest hrest).2]
  constructor
  · intro error hvalue
    simp [readLines, hvalue]
  · intro value hvalue
    simp [readLines, hvalue]

/-- The loop of `push` reads the lines of the buffer one after the other. -/
theorem NdjsonDecoder.pushLoop_eq {fuel : Nat} {buffer : List UInt8} (hfuel : buffer.length < fuel)
    (values : List V) :
    (∀ error, fault parser maxLineBytes buffer = some error →
        (pushLoop parser fuel ⟨maxLineBytes, buffer⟩ values).2 = .error error) ∧
      (fault parser maxLineBytes buffer = none →
        pushLoop parser fuel ⟨maxLineBytes, buffer⟩ values = (⟨maxLineBytes, (splitLines buffer).2⟩,
          .ok (values ++ (readLines parser maxLineBytes (splitLines buffer).1).1))) := by
  induction fuel generalizing buffer values with
  | zero => omega
  | succ fuel ih =>
    cases hdrop : buffer.dropWhile (· != newline) with
    | nil =>
      rw [pushLoop, fault, (splitLines_dropWhile buffer).1 hdrop]
      simp only [hdrop, readLines]
      split
      · simp
      · simp
    | cons byte rest =>
      obtain ⟨_, hsplit⟩ := (splitLines_dropWhile buffer).2 byte rest hdrop
      cases hvalue : lineValue parser maxLineBytes (buffer.takeWhile (· != newline)) with
      | error error =>
        rw [(fault_line hdrop).1 error hvalue]
        refine ⟨?_, by simp⟩
        rintro _ ⟨⟩
        exact pushLoop_error hdrop values hvalue
      | ok value =>
        have hrest : rest.length < fuel := by omega
        obtain ⟨hfault, hclean⟩ := ih hrest (values ++ value.toList)
        rw [(fault_line hdrop).2 value hvalue, pushLoop_value hdrop values hvalue]
        refine ⟨hfault, fun hnone => ?_⟩
        simp [hclean hnone, hsplit, readLines, hvalue]

/-! ## Chunks -/

namespace NdjsonDecoder

theorem push_fault {buffer chunk : List UInt8} {error : NdjsonError}
    (h : fault parser maxLineBytes (buffer ++ chunk) = some error) :
    (push parser ⟨maxLineBytes, buffer⟩ chunk).2 = .error error :=
  (pushLoop_eq (by simp) []).1 error h

theorem push_clean {buffer chunk : List UInt8}
    (h : fault parser maxLineBytes (buffer ++ chunk) = none) :
    push parser ⟨maxLineBytes, buffer⟩ chunk = (⟨maxLineBytes, (splitLines (buffer ++ chunk)).2⟩,
      .ok (readLines parser maxLineBytes (splitLines (buffer ++ chunk)).1).1) :=
  (pushLoop_eq (by simp) []).2 h

end NdjsonDecoder

/-- What has been thrown and read does not depend on the part of the buffer that a decoder has
taken off before. -/
theorem fault_append {received : List UInt8} (chunk : List UInt8)
    (h : fault parser maxLineBytes received = none) :
    fault parser maxLineBytes (received ++ chunk) =
        fault parser maxLineBytes ((splitLines received).2 ++ chunk) ∧
      (readLines parser maxLineBytes (splitLines (received ++ chunk)).1).1 =
        (readLines parser maxLineBytes (splitLines received).1).1 ++
          (readLines parser maxLineBytes (splitLines ((splitLines received).2 ++ chunk)).1).1 := by
  have hclean : (readLines parser maxLineBytes (splitLines received).1).2 = none := by
    unfold fault at h
    split at h
    · cases h
    · assumption
  constructor
  · rw [fault, fault, splitLines_append received chunk]
    simp only [readLines_append _ hclean]
  · rw [splitLines_append received chunk, readLines_append _ hclean]

variable (parser) (maxLineBytes)

/-- The bytes that have been received before the chunk that shows a bad line. -/
def cleanBytes (received : List UInt8) : List (List UInt8) → List UInt8
  | [] => received
  | chunk :: rest =>
    if (fault parser maxLineBytes (received ++ chunk)).isSome then received
    else cleanBytes (received ++ chunk) rest

/-- The lines with a value among the complete ones of a stream. -/
def lineCount (bytes : List UInt8) : Nat :=
  ((splitLines bytes).1.filter fun line => stripReturn line ≠ []).length

/-- The fault of a stream that ends, with the line after its last newline. -/
def streamFault (bytes : List UInt8) : Option NdjsonCode :=
  match fault parser maxLineBytes bytes with
  | some error => some error.code
  | none =>
    if (splitLines bytes).2 = [] then none
    else
      match parseLine parser (splitLines bytes).2 with
      | .error error => some error.code
      | .ok _ => none

/-- The value of the line after the last newline. -/
def lastValue (bytes : List UInt8) : List V :=
  if (fault parser maxLineBytes bytes).isSome ∨ (splitLines bytes).2 = [] then []
  else (parseLine parser (splitLines bytes).2).toOption.toList

variable {parser} {maxLineBytes}

theorem splitLines_flat (bytes : List UInt8) :
    ((splitLines bytes).1.flatMap fun line => line ++ [newline]) ++ (splitLines bytes).2 =
      bytes := by
  induction bytes with
  | nil => rfl
  | cons byte bytes ih =>
    simp only [splitLines]
    by_cases hbyte : byte = newline
    · simpa [hbyte] using ih
    · cases hlines : (splitLines bytes).1 with
      | nil | cons => simpa [hbyte, hlines] using ih

/-- The bytes after the last newline begin the next line. -/
theorem splitLines_prepend {begun : List UInt8} (h : splitLines begun = ([], begun))
    (more : List UInt8) :
    splitLines (begun ++ more) = ([], begun ++ more) ∨
      ∃ line lines rest, splitLines (begun ++ more) = ((begun ++ line) :: lines, rest) := by
  induction begun with
  | nil =>
    cases hlines : (splitLines more).1 with
    | nil =>
      left
      have hflat := splitLines_flat more
      rw [hlines] at hflat
      exact Prod.ext hlines hflat
    | cons line lines => exact Or.inr ⟨line, lines, (splitLines more).2, Prod.ext hlines rfl⟩
  | cons byte begun ih =>
    have hbyte : byte ≠ newline := by
      rintro rfl
      simp [splitLines_newline] at h
    have hbegun : splitLines begun = ([], begun) := by
      cases hlines : (splitLines begun).1 with
      | nil => simpa [splitLines, hbyte, hlines, Prod.ext_iff] using h
      | cons => simp [splitLines, hbyte, hlines] at h
    rcases ih hbegun with hnone | ⟨line, lines, rest, hsome⟩
    · left
      simp [splitLines, hbyte, hnone]
    · right
      exact ⟨line, lines, rest, by simp [splitLines, hbyte, hsome]⟩

/-- A bad line stays bad, whatever follows. -/
theorem fault_mono {bytes : List UInt8} {error : NdjsonError} (more : List UInt8)
    (h : fault parser maxLineBytes bytes = some error) :
    (fault parser maxLineBytes (bytes ++ more)).map NdjsonError.code = some error.code := by
  have hlines : ∀ a b : List (List UInt8), (readLines parser maxLineBytes a).2 = some error →
      (readLines parser maxLineBytes (a ++ b)).2 = some error := by
    intro a b ha
    induction a with
    | nil => cases ha
    | cons line a ih =>
      simp only [cons_append, readLines] at ha ⊢
      cases hvalue : lineValue parser maxLineBytes line with
      | error => simpa [hvalue] using ha
      | ok =>
        simp only [hvalue] at ha
        exact ih ha
  cases hread : (readLines parser maxLineBytes (splitLines bytes).1).2 with
  | some =>
    simp only [fault, hread, Option.some.injEq] at h
    subst h
    simp [fault, splitLines_append bytes more, hlines _ _ hread]
  | none =>
    -- The bytes after the last newline are too many already.
    simp only [fault, hread] at h
    obtain ⟨_, rfl⟩ := Option.ite_some_none_eq_some.mp h
    rw [fault, splitLines_append bytes more, readLines_append _ hread]
    rcases splitLines_prepend (splitLines_rest bytes) more with hnone | ⟨line, _, _, hsome⟩
    · have hlonger : ((splitLines bytes).2 ++ more).length > maxLineBytes := by
        rw [length_append]
        omega
      simp only [hnone, readLines, if_pos hlonger]
      rfl
    · have hlonger : ((splitLines bytes).2 ++ line).length > maxLineBytes := by
        rw [length_append]
        omega
      simp only [hsome, readLines, lineValue, if_pos hlonger]
      rfl

/-- **The pushes of a stream.** The values are those of the lines received before the chunk
that shows the bad line; the code is that of the stream. -/
theorem decodeFrom_eq {received : List UInt8} (chunks : List (List UInt8))
    (h : fault parser maxLineBytes received = none) :
    (readLines parser maxLineBytes (splitLines received).1).1 ++
          (NdjsonDecoder.decodeFrom parser ⟨maxLineBytes, (splitLines received).2⟩ chunks).1 =
        (readLines parser maxLineBytes
            (splitLines (cleanBytes parser maxLineBytes received chunks)).1).1 ++
          lastValue parser maxLineBytes (received ++ chunks.flatten) ∧
      (NdjsonDecoder.decodeFrom parser ⟨maxLineBytes, (splitLines received).2⟩ chunks).2 =
        streamFault parser maxLineBytes (received ++ chunks.flatten) := by
  induction chunks generalizing received with
  | nil =>
    simp only [NdjsonDecoder.decodeFrom, NdjsonDecoder.finish, cleanBytes, lastValue, streamFault,
      flatten_nil, append_nil, h]
    by_cases hrest : (splitLines received).2 = []
    · simp [hrest]
    · cases hparse : parseLine parser (splitLines received).2 with
      | error | ok => simp [hrest, Except.toOption]
  | cons chunk rest ih =>
    obtain ⟨hfault, hread⟩ := fault_append chunk h
    cases hchunk : fault parser maxLineBytes (received ++ chunk) with
    | some error =>
      have hmono := fault_mono rest.flatten hchunk
      rw [append_assoc] at hmono
      obtain ⟨_, hlast, hcode⟩ := Option.map_eq_some_iff.mp hmono
      cases hpush : NdjsonDecoder.push parser ⟨maxLineBytes, (splitLines received).2⟩ chunk with
      | mk after result =>
        have hthrown := NdjsonDecoder.push_fault (hfault.symm.trans hchunk)
        rw [hpush] at hthrown
        subst hthrown
        simp [NdjsonDecoder.decodeFrom, hpush, cleanBytes, hchunk, lastValue, streamFault, hlast,
          hcode]
    | none =>
      have hpush := NdjsonDecoder.push_clean (hfault.symm.trans hchunk)
      obtain ⟨hvalues, hcode⟩ := ih hchunk
      have hsplit : (splitLines (received ++ chunk)).2 =
          (splitLines ((splitLines received).2 ++ chunk)).2 := by
        rw [splitLines_append]
      rw [hread, hsplit, append_assoc] at hvalues
      rw [hsplit] at hcode
      have hclean : cleanBytes parser maxLineBytes received (chunk :: rest) =
          cleanBytes parser maxLineBytes (received ++ chunk) rest := by
        simp [cleanBytes, hchunk]
      simp only [NdjsonDecoder.decodeFrom, hpush, hclean, flatten_cons]
      rw [← append_assoc received]
      exact ⟨hvalues, hcode⟩

theorem cleanBytes_fault {received : List UInt8} (chunks : List (List UInt8))
    (h : fault parser maxLineBytes received = none) :
    fault parser maxLineBytes (cleanBytes parser maxLineBytes received chunks) = none := by
  induction chunks generalizing received with
  | nil => exact h
  | cons chunk rest ih =>
    cases hchunk : fault parser maxLineBytes (received ++ chunk) with
    | some => simpa [cleanBytes, hchunk] using h
    | none => simpa [cleanBytes, hchunk] using ih hchunk

theorem cleanBytes_prefix (received : List UInt8) (chunks : List (List UInt8)) :
    cleanBytes parser maxLineBytes received chunks <+: received ++ chunks.flatten := by
  induction chunks generalizing received with
  | nil => simp [cleanBytes]
  | cons chunk rest ih =>
    simp only [cleanBytes, flatten_cons]
    split
    · exact prefix_append _ _
    · simpa using ih (received ++ chunk)

theorem readLines_length {lines : List (List UInt8)}
    (h : (readLines parser maxLineBytes lines).2 = none) :
    (readLines parser maxLineBytes lines).1.length =
      (lines.filter fun line => stripReturn line ≠ []).length := by
  induction lines with
  | nil => rfl
  | cons line lines ih =>
    simp only [readLines] at h ⊢
    cases hvalue : lineValue parser maxLineBytes line with
    | error => simp [hvalue] at h
    | ok =>
      simp only [hvalue] at h
      unfold lineValue at hvalue
      split at hvalue
      · cases hvalue
      split at hvalue
      · rename_i hblank
        cases hvalue
        simp [hblank, ih h]
      · rename_i hblank
        cases hparse : parseLine parser (stripReturn line) with
        | error => simp [hparse, Except.map] at hvalue
        | ok =>
          simp only [hparse, Except.map, Except.ok.injEq] at hvalue
          simp [hblank, ih h, ← hvalue]

theorem readLines_fault {bytes : List UInt8} (h : fault parser maxLineBytes bytes = none) :
    (readLines parser maxLineBytes (splitLines bytes).1).2 = none := by
  unfold fault at h
  split at h
  · cases h
  · assumption

/-- The values of a stream begin with those of its beginning. -/
theorem readLines_begins {a b : List UInt8} (hbegins : a <+: b)
    (h : fault parser maxLineBytes a = none) :
    (readLines parser maxLineBytes (splitLines a).1).1 <+:
      (readLines parser maxLineBytes (splitLines b).1).1 := by
  obtain ⟨more, rfl⟩ := hbegins
  rw [(fault_append more h).2]
  exact prefix_append _ _

/-- The values of two beginnings of a stream are the same when there are as many. -/
theorem readLines_eq_iff {a b stream : List UInt8} (ha : a <+: stream) (hb : b <+: stream)
    (hfa : fault parser maxLineBytes a = none) (hfb : fault parser maxLineBytes b = none) :
    (readLines parser maxLineBytes (splitLines a).1).1 =
        (readLines parser maxLineBytes (splitLines b).1).1 ↔ lineCount a = lineCount b := by
  have hlength : lineCount a = lineCount b ↔
      (readLines parser maxLineBytes (splitLines a).1).1.length =
        (readLines parser maxLineBytes (splitLines b).1).1.length := by
    rw [readLines_length (readLines_fault hfa), readLines_length (readLines_fault hfb)]
    rfl
  rw [hlength]
  constructor
  · intro heq
    rw [heq]
  intro heq
  rcases prefix_or_prefix_of_prefix ha hb with hab | hba
  · exact (readLines_begins hab hfa).eq_of_length heq
  · exact ((readLines_begins hba hfb).eq_of_length heq.symm).symm

variable (parser) (maxLineBytes)

/-- The lines with a value that have been pushed before the chunk that shows the bad line. -/
def linesBeforeFault (chunks : List (List UInt8)) : Nat :=
  lineCount (cleanBytes parser maxLineBytes [] chunks)

variable {parser} {maxLineBytes}

/-- **Chunking.** However a stream is split, the same error comes first; the values before it
are the same exactly when as many lines have been pushed before the chunk that shows it. -/
theorem decodeChunks_iff {first second : List (List UInt8)} (h : first.flatten = second.flatten) :
    (NdjsonDecoder.decodeChunks parser maxLineBytes first).2 =
        (NdjsonDecoder.decodeChunks parser maxLineBytes second).2 ∧
      (NdjsonDecoder.decodeChunks parser maxLineBytes first =
          NdjsonDecoder.decodeChunks parser maxLineBytes second ↔
        linesBeforeFault parser maxLineBytes first = linesBeforeFault parser maxLineBytes second) := by
  have hstart : fault parser maxLineBytes [] = none := by simp [fault, splitLines, readLines]
  obtain ⟨hfirst, hfirstCode⟩ := decodeFrom_eq first hstart
  obtain ⟨hsecond, hsecondCode⟩ := decodeFrom_eq second hstart
  simp only [splitLines, readLines, nil_append] at hfirst hfirstCode hsecond hsecondCode
  rw [h] at hfirst hfirstCode
  have hcode : (NdjsonDecoder.decodeChunks parser maxLineBytes first).2 =
      (NdjsonDecoder.decodeChunks parser maxLineBytes second).2 :=
    hfirstCode.trans hsecondCode.symm
  refine ⟨hcode, ?_⟩
  have hbegins : ∀ chunks : List (List UInt8), chunks.flatten = second.flatten →
      cleanBytes parser maxLineBytes [] chunks <+: second.flatten := by
    intro chunks hchunks
    rw [← hchunks]
    exact cleanBytes_prefix [] chunks
  have hvalues := readLines_eq_iff (hbegins first h) (hbegins second rfl)
    (cleanBytes_fault first hstart) (cleanBytes_fault second hstart)
  rw [Prod.ext_iff, and_iff_left hcode, linesBeforeFault, linesBeforeFault, ← hvalues]
  unfold NdjsonDecoder.decodeChunks
  rw [hfirst, hsecond, append_cancel_right_eq]

end

/-! ## Streams -/

/-- The parser on ASCII texts of one character. -/
def digitParser : LineParser (List UInt8) Nat where
  decode bytes := if bytes.all (· < 0x80) then some bytes else none
  parse
    | [digit] => if 0x30 ≤ digit ∧ digit ≤ 0x39 then some (digit.toNat - 0x30) else none
    | _ => none

theorem decodeChunks_iff_digits :
    NdjsonDecoder.decodeChunks digitParser 8 [[0x31, 0x0a], [0x78, 0x0a]] =
      NdjsonDecoder.decodeChunks digitParser 8 [[0x31], [0x0a], [0x78], [0x0a]] :=
  (decodeChunks_iff rfl).2.mpr (by decide)

/-- A valid line is lost with the malformed one in its chunk. -/
theorem decodeChunks_lost :
    NdjsonDecoder.decodeChunks digitParser 8 [[0x31, 0x0a, 0x78, 0x0a]] =
        ([], some .invalidJson) ∧
      NdjsonDecoder.decodeChunks digitParser 8 [[0x31, 0x0a], [0x78, 0x0a]] =
        ([1], some .invalidJson) := by
  decide

end PiDaemon.Protocol
