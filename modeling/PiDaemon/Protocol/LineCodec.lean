import PiDaemon.Lib.Checks
import PiDaemon.Lib.JsonText
import PiDaemon.Protocol.BoundedLine
import PiDaemon.Protocol.Ndjson

/-!
# The line codec

What `encodeBoundedLine` writes, read by an `NdjsonDecoder` whose limit is one byte less: the
encoder counts the LF, and the decoder does not.

* `encoded_line`: a line is printable bytes that are read back as the value, and an LF;
* `decode_encoded`: however the lines are cut into chunks, the decoder returns their values and
  keeps nothing.
-/

namespace PiDaemon.Protocol

open Lib

section
variable {N : Type}

/-- `new NdjsonDecoder(maxLineBytes)`; `none` when it throws. -/
def NdjsonDecoder.create (maxLineBytes : Nat) : Option NdjsonDecoder :=
  if 1 ≤ maxLineBytes ∧ maxLineBytes ≤ MAX_SAFE_INTEGER then some ⟨maxLineBytes, []⟩ else none

/-- `new TextDecoder("utf-8", { fatal: true })` and `JSON.parse` -/
def jsonLines (numbers : NumberSyntax N) : LineParser JsString (JsValue N) := ⟨decodeUtf8, jsonParse numbers⟩

/-- The pushes of some chunks, up to the first that throws. -/
def NdjsonDecoder.pushAll {T V : Type} (parser : LineParser T V) (s : NdjsonDecoder) :
    List (List UInt8) → NdjsonDecoder × Except NdjsonError (List V)
  | [] => (s, .ok [])
  | chunk :: rest =>
    match s.push parser chunk with
    | (s, .error error) => (s, .error error)
    | (s, .ok values) =>
      match pushAll parser s rest with
      | (s, .error error) => (s, .error error)
      | (s, .ok later) => (s, .ok (values ++ later))

/-! ## Values that are encoded -/

variable {format : NumberFormat N}

mutual

/-- What is measured has no method `toJSON`. -/
theorem plain_of_prepare {budget : Nat} (value : JsValue N) {out : Nat × JsValue N}
    (h : prepareJsonValue format budget value = .ok out) : plain value = true := by
  cases value with
  | array slots =>
    rw [prepareJsonValue, bind_ok] at h
    obtain ⟨bytes, -, h⟩ := h
    rw [bind_ok] at h
    obtain ⟨prepared, hprepared, -⟩ := h
    exact plainSlots_of_prepare slots hprepared
  | object members =>
    rw [prepareJsonValue] at h
    split at h
    · cases h
    rename_i hcustom
    rw [bind_ok] at h
    obtain ⟨bytes, -, h⟩ := h
    rw [bind_ok] at h
    obtain ⟨prepared, hprepared, -⟩ := h
    rw [plain, plainMembers_of_prepare members hprepared, Bool.and_true, Bool.not_eq_true']
    exact Bool.eq_false_iff.mpr hcustom
  | undefined | function | symbol | null | boolean | number | nonFinite | string => rfl

theorem plainSlots_of_prepare {budget bytes : Nat} {first : Bool} (slots : JsSlots N) {out : Nat × JsSlots N}
    (h : prepareSlots format budget first bytes slots = .ok out) : plainSlots slots = true := by
  cases slots with
  | nil => rfl
  | hole rest =>
    simp only [prepareSlots, bind_ok] at h
    obtain ⟨_, -, _, -, normalized, hrest, -⟩ := h
    exact plainSlots_of_prepare rest hrest
  | cons value rest =>
    rw [prepareSlots, bind_ok] at h
    obtain ⟨_, -, h⟩ := h
    rw [plainSlots, Bool.and_eq_true]
    split at h
    · rename_i homitted
      simp only [bind_ok] at h
      obtain ⟨_, -, normalized, hrest, -⟩ := h
      refine ⟨?_, plainSlots_of_prepare rest hrest⟩
      cases value <;> first | rfl | cases homitted
    · simp only [bind_ok] at h
      obtain ⟨_, hvalue, _, -, normalized, hrest, -⟩ := h
      exact ⟨plain_of_prepare value hvalue, plainSlots_of_prepare rest hrest⟩

theorem plainMembers_of_prepare {budget bytes : Nat} {first : Bool} (members : JsMembers N)
    {out : Nat × JsMembers N} (h : prepareMembers format budget first bytes members = .ok out) :
    plainMembers members = true := by
  cases members with
  | nil => rfl
  | cons key value rest =>
    rw [prepareMembers] at h
    rw [plainMembers, Bool.and_eq_true]
    split at h
    · rename_i homitted
      refine ⟨?_, plainMembers_of_prepare rest h⟩
      cases value <;> first | rfl | cases homitted
    · simp only [bind_ok] at h
      obtain ⟨_, -, _, -, _, -, _, -, _, hvalue, _, -, _, hrest, -⟩ := h
      exact ⟨plain_of_prepare value hvalue, plainMembers_of_prepare rest hrest⟩

end

/-- What is encoded is plain, and its line fits. -/
theorem encoded_fits {value : JsValue N} {maxBytes : Nat} {line : List UInt8}
    (h : encodeBoundedLine format value maxBytes = .ok line) :
    maxBytes ≤ MAX_SAFE_INTEGER ∧ ∃ t, stringify format value = some t ∧ byteLength t + 1 ≤ maxBytes ∧
      line = utf8Encode (t ++ [0x0a]) := by
  have hmax : 1 ≤ maxBytes ∧ maxBytes ≤ MAX_SAFE_INTEGER := by
    by_contra hmax
    rw [encodeBoundedLine, if_pos hmax] at h
    cases h
  have hplain : plain value = true := by
    rw [encodeBoundedLine, if_neg (not_not.mpr hmax), bind_ok] at h
    obtain ⟨_, hprepared, -⟩ := h
    exact plain_of_prepare value hprepared
  exact ⟨hmax.2, ((encodeBoundedLine_exact format value maxBytes hplain hmax.2).1 line).mp h⟩

end

/-! ## Lines -/

section
variable {N : Type} {numbers : NumberSyntax N}

/-- The bytes of a line without its LF, with the value that they are read as. -/
structure IsLine (numbers : NumberSyntax N) (maxLineBytes : Nat) (line : List UInt8) (value : JsValue N) :
    Prop where
  printable : ∀ byte ∈ line, 0x20 ≤ byte.toNat
  ne_nil : line ≠ []
  length_le : line.length ≤ maxLineBytes
  parsed : parseLine (jsonLines numbers) line = .ok value

variable {maxLineBytes : Nat} {value : JsValue N} {line : List UInt8}

theorem encoded_line {maxBytes : Nat} (h : encodeBoundedLine numbers.toNumberFormat value maxBytes = .ok line) :
    ∃ bytes read, line = bytes ++ [newline] ∧ jsonValue numbers value = some read ∧
      IsLine numbers (maxBytes - 1) bytes read := by
  obtain ⟨-, t, ht, _, rfl⟩ := encoded_fits h
  obtain ⟨hclean, hbegins⟩ := clean_stringify ht
  obtain ⟨read, hread⟩ : ∃ read, jsonValue numbers value = some read := by
    obtain ⟨read, hread, -⟩ := reads_serialize (fun u hu => by cases hu) value (fun u hu => by cases hu) ht
    exact ⟨read, hread⟩
  refine ⟨utf8Encode t, read, ?_, hread, le_utf8Encode (by decide) hclean.printable, ?_, ?_, ?_⟩
  · rw [utf8Encode, codePoints_append t [0x0a] rfl, List.flatMap_append]
    rfl
  · intro hnil
    have hnone := utf8ToString_utf8Encode t
    rw [hnil, hclean.wellFormed] at hnone
    obtain ⟨u, _, rfl, -⟩ := hbegins
    cases hnone
  · exact (show byteLength t ≤ maxBytes - 1 by omega)
  · have hdecode : decodeUtf8 (utf8Encode t) = some t := by
      rw [decodeUtf8_utf8Encode (head?_serialize ht), hclean.wellFormed]
    simp only [parseLine, jsonLines, hdecode, jsonParse_stringify ht, hread]

theorem IsLine.no_newline (h : IsLine numbers maxLineBytes line value) : newline ∉ line := by
  intro hmem
  exact absurd (h.printable newline hmem) (by decide)

theorem IsLine.lineValue (h : IsLine numbers maxLineBytes line value) :
    lineValue (jsonLines numbers) maxLineBytes line = .ok (some value) := by
  have hstrip : stripReturn line = line := by
    rw [stripReturn, if_neg]
    intro hlast
    exact absurd (h.printable 0x0d (List.mem_of_getLast? hlast)) (by decide)
  rw [Protocol.lineValue, if_neg (by have := h.length_le; omega), hstrip, if_neg h.ne_nil, h.parsed]
  rfl

theorem splitLines_line (h : newline ∉ line) (rest : List UInt8) :
    splitLines (line ++ newline :: rest) = (line :: (splitLines rest).1, (splitLines rest).2) := by
  induction line with
  | nil => exact splitLines_newline rest
  | cons byte line ih =>
    rw [List.mem_cons, not_or] at h
    rw [List.cons_append, splitLines, ih h.2]
    simp [Ne.symm h.1]

theorem splitLines_stream {lines : List (List UInt8)} {values : List (JsValue N)}
    (h : List.Forall₂ (IsLine numbers maxLineBytes) lines values) :
    splitLines (lines.flatMap fun line => line ++ [newline]) = (lines, []) ∧
      readLines (jsonLines numbers) maxLineBytes lines = (values, none) := by
  induction h with
  | nil => exact ⟨rfl, rfl⟩
  | cons hline _ ih =>
    rw [List.flatMap_cons, List.append_assoc, List.singleton_append, splitLines_line hline.no_newline, ih.1, readLines,
      hline.lineValue, ih.2]
    exact ⟨rfl, rfl⟩

theorem pushAll_clean {T V : Type} {parser : LineParser T V} {received : List UInt8} (chunks : List (List UInt8))
    (h : fault parser maxLineBytes (received ++ chunks.flatten) = none) :
    ∃ values, NdjsonDecoder.pushAll parser ⟨maxLineBytes, (splitLines received).2⟩ chunks =
        (⟨maxLineBytes, (splitLines (received ++ chunks.flatten)).2⟩, .ok values) ∧
      (readLines parser maxLineBytes (splitLines (received ++ chunks.flatten)).1).1 =
        (readLines parser maxLineBytes (splitLines received).1).1 ++ values := by
  have hbegun (a b : List UInt8) (h : fault parser maxLineBytes (a ++ b) = none) :
      fault parser maxLineBytes a = none := by
    cases ha : fault parser maxLineBytes a with
    | none => rfl
    | some error =>
      have hmore := fault_mono b ha
      rw [h] at hmore
      cases hmore
  induction chunks generalizing received with
  | nil => exact ⟨[], by simp [NdjsonDecoder.pushAll], by simp⟩
  | cons chunk chunks ih =>
    rw [List.flatten_cons, ← List.append_assoc] at h ⊢
    obtain ⟨values, hrest, hvalues⟩ := ih h
    have hchunk := hbegun _ _ h
    obtain ⟨hfault, hread⟩ := fault_append chunk (hbegun _ _ hchunk)
    have hpush := NdjsonDecoder.push_clean (hfault.symm.trans hchunk)
    have hbuffer : (splitLines (received ++ chunk)).2 = (splitLines ((splitLines received).2 ++ chunk)).2 := by
      rw [splitLines_append]
    rw [hbuffer] at hrest
    refine ⟨(readLines parser maxLineBytes (splitLines ((splitLines received).2 ++ chunk)).1).1 ++ values, ?_, ?_⟩
    · rw [NdjsonDecoder.pushAll, hpush]
      simp only [hrest]
    · rw [hvalues, hread, List.append_assoc]

/-- A limit that is enough for a line is one that the decoder takes. -/
theorem create_of_encoded {maxBytes : Nat} (h : encodeBoundedLine numbers.toNumberFormat value maxBytes = .ok line) :
    NdjsonDecoder.create (maxBytes - 1) = some ⟨maxBytes - 1, []⟩ := by
  obtain ⟨bytes, _, -, -, hline⟩ := encoded_line h
  have hpos : 0 < bytes.length := List.length_pos_iff.mpr hline.ne_nil
  have hlength := hline.length_le
  have hmax := (encoded_fits h).1
  rw [NdjsonDecoder.create, if_pos ⟨by omega, by omega⟩]

theorem encoded_lines {values : List (JsValue N)} {maxBytes : Nat} {lines : List (List UInt8)}
    (h : values.mapM (fun value => encodeBoundedLine numbers.toNumberFormat value maxBytes) = .ok lines) :
    ∃ contents reads, lines = contents.map (fun line => line ++ [newline]) ∧
      values.map (jsonValue numbers) = reads.map some ∧
      List.Forall₂ (IsLine numbers (maxBytes - 1)) contents reads := by
  induction values generalizing lines with
  | nil =>
    cases h
    exact ⟨[], [], rfl, rfl, .nil⟩
  | cons value values ih =>
    rw [List.mapM_cons, bind_ok] at h
    obtain ⟨line, hline, h⟩ := h
    rw [bind_ok] at h
    obtain ⟨_, hrest, h⟩ := h
    cases h
    obtain ⟨contents, reads, rfl, hreads, hall⟩ := ih hrest
    obtain ⟨bytes, read, rfl, hread, hisLine⟩ := encoded_line hline
    exact ⟨bytes :: contents, read :: reads, rfl, by rw [List.map_cons, List.map_cons, hread, hreads],
      .cons hisLine hall⟩

/-- **The codec.** -/
theorem decode_encoded (numbers : NumberSyntax N) {values : List (JsValue N)} {maxBytes : Nat}
    {lines : List (List UInt8)}
    (hlines : values.mapM (fun value => encodeBoundedLine numbers.toNumberFormat value maxBytes) = .ok lines)
    {chunks : List (List UInt8)} (hchunks : chunks.flatten = lines.flatten) :
    (values ≠ [] → NdjsonDecoder.create (maxBytes - 1) = some ⟨maxBytes - 1, []⟩) ∧
      ∃ reads, values.map (jsonValue numbers) = reads.map some ∧
        NdjsonDecoder.pushAll (jsonLines numbers) ⟨maxBytes - 1, []⟩ chunks = (⟨maxBytes - 1, []⟩, .ok reads) := by
  constructor
  · intro hvalues
    obtain ⟨value, values, rfl⟩ := List.exists_cons_of_ne_nil hvalues
    rw [List.mapM_cons, bind_ok] at hlines
    obtain ⟨line, hline, -⟩ := hlines
    exact create_of_encoded hline
  · obtain ⟨contents, reads, hcontents, hreads, hall⟩ := encoded_lines hlines
    obtain ⟨hsplit, hread⟩ := splitLines_stream hall
    have hstream : chunks.flatten = contents.flatMap fun line => line ++ [newline] := by
      rw [hchunks, hcontents, List.flatMap_def]
    have hclean : fault (jsonLines numbers) (maxBytes - 1) ([] ++ chunks.flatten) = none := by
      rw [List.nil_append, hstream, fault, hsplit, hread]
      rfl
    obtain ⟨later, hpushed, hvalues⟩ := pushAll_clean chunks hclean
    rw [List.nil_append, hstream, hsplit] at hpushed hvalues
    rw [hread] at hvalues
    refine ⟨reads, hreads, ?_⟩
    rw [show reads = later from hvalues]
    exact hpushed

/-- The longest line that is accepted, cut in the middle, and a number. -/
theorem decode_encoded_null :
    ([JsValue.null, .number 7] ≠ [] → NdjsonDecoder.create 4 = some ⟨4, []⟩) ∧
      ∃ reads, [JsValue.null, .number 7].map (jsonValue naturals) = reads.map some ∧
        NdjsonDecoder.pushAll (jsonLines naturals) ⟨4, []⟩ [[0x6e, 0x75], [0x6c, 0x6c, 0x0a, 0x37], [0x0a]] =
          (⟨4, []⟩, .ok reads) := by
  have hlines : [JsValue.null, .number 7].mapM
      (fun value => encodeBoundedLine naturals.toNumberFormat value 5) =
        .ok [[0x6e, 0x75, 0x6c, 0x6c, 0x0a], [0x37, 0x0a]] := by rfl
  exact decode_encoded naturals hlines (by rfl)

end

end PiDaemon.Protocol
