import PiDaemon.Lib.Base64Url
import PiDaemon.Lib.Checks
import PiDaemon.Lib.JsonText

/-!
# Pages of a transcript

`pageFromProjection`: the records of a projection are given out in pages.  A cursor holds a position
between two records; a page has the records before it or those after it.

* `encodePageCursor_ok`: every position has a cursor, which is decoded to it;
* `paging_complete`: the older pages have every record once, and from any page on the newer ones
  have those after it, and the older ones those before it.
-/

namespace PiDaemon.Projector

open Lib

def PROJECTION_CACHE_FORMAT_VERSION : Nat := 1

inductive PageError where
  /-- A `TranscriptProjectionError`, with its code. -/
  | projection (code message : String)
  /-- A `RangeError`. -/
  | range (message : String)
  deriving DecidableEq

inductive PageDirection where
  | older
  | newer
  deriving DecidableEq

structure TranscriptQuery where
  cursor : Option JsString := none
  limit : Option Nat := none
  direction : Option PageDirection := none
  deriving DecidableEq

/-! ## Identities -/

def isAlphanumeric (u : UInt16) : Bool :=
  (0x30 ≤ u.toNat && u.toNat ≤ 0x39) || (0x41 ≤ u.toNat && u.toNat ≤ 0x5a) || (0x61 ≤ u.toNat && u.toNat ≤ 0x7a)

/-- `^[A-Za-z0-9][A-Za-z0-9._:-]{0,255}$` -/
def isInventoryId : JsString → Bool
  | [] => false
  | u :: rest =>
    isAlphanumeric u && rest.length ≤ 255 &&
      rest.all fun v => isAlphanumeric v || v = 0x2e || v = 0x5f || v = 0x3a || v = 0x2d

/-- What `validateInventoryId` accepts. -/
structure InventoryId where
  value : JsString
  valid : isInventoryId value = true

/-- What `formatSessionSourceFingerprint` returns. -/
structure SourceFingerprint where
  value : JsString
  formatted : ∃ digest : List UInt8, digest.length = 32 ∧ value = text "sha256:" ++ base64Url digest

/-- A projection; `R` are its records. -/
structure ProjectionCacheRecord (R : Type) where
  sourceFingerprint : SourceFingerprint
  /-- `new Date(sourceModifiedMs).toISOString()` -/
  sourceModifiedAt : JsString
  builtAt : JsString
  currentLeafId : Option JsString
  piSessionId : Option JsString
  records : List R
  truncated : Bool
  records_length : records.length < 2 ^ 32

structure TranscriptPage (R : Type) where
  inventoryId : JsString
  records : List R
  sourceFingerprint : JsString
  formatVersion : Nat
  cached : Bool
  truncated : Bool
  builtAt : JsString
  observedAt : JsString
  sourceModifiedAt : JsString
  piSessionId : Option JsString
  currentLeafId : Option JsString
  olderCursor : Option JsString
  newerCursor : Option JsString

/-! ## Cursors -/

def pageLimit (value maximum : Nat) : Except PageError Nat := do
  check (1 ≤ value && value ≤ maximum) (.projection "invalid_page_limit" "transcript page limit is invalid")
  return value

def asDashboardCursor (value : JsString) : Except PageError JsString := do
  check (1 ≤ value.length && value.length ≤ 1024) (.range "dashboard cursor length must be between 1 and 1024")
  return value

def asDashboardFingerprint (value : JsString) : Except PageError JsString := do
  check (1 ≤ value.length && value.length ≤ 512) (.range "dashboard fingerprint length must be between 1 and 512")
  return value

section
variable {N R : Type} (numbers : IndexSyntax N)

/-- `{ v: 1, inventoryId, fingerprint, index }` -/
def pageCursorValue (inventoryId fingerprint : JsString) (index : Nat) : JsValue N :=
  .object <|
    .cons (text "v") (.number (numbers.ofIndex 1)) <|
    .cons (text "inventoryId") (.string inventoryId) <|
    .cons (text "fingerprint") (.string fingerprint) <|
    .cons (text "index") (.number (numbers.ofIndex index)) .nil

def encodePageCursor (inventoryId fingerprint : JsString) (index : Nat) : Except PageError JsString :=
  let json := (stringify numbers.toNumberFormat (pageCursorValue numbers inventoryId fingerprint index)).getD []
  asDashboardCursor (text "tp1." ++ base64Url (utf8Encode json))

def invalidCursor : PageError := .projection "invalid_cursor" "transcript cursor is invalid"

def staleCursor : PageError := .projection "stale_cursor" "transcript cursor is stale"

/-- A safe integer that is not negative. -/
def indexOf : JsValue N → Option Nat
  | .number n => numbers.toIndex n
  | _ => none

def isString (expected : JsString) : JsValue N → Bool
  | .string s => s = expected
  | _ => false

def decodePageCursor (inventoryId fingerprint cursor : JsString) : Except PageError Nat := do
  check ((text "tp1.").isPrefixOf cursor) invalidCursor
  match jsonParse numbers.toNumberSyntax (utf8ToString (decodeBase64Url (cursor.drop 4))) with
  | none => .error invalidCursor
  | some value =>
    check (indexOf numbers (value.member "v") = some 1 && isString inventoryId (value.member "inventoryId") &&
      isString fingerprint (value.member "fingerprint")) staleCursor
    match indexOf numbers (value.member "index") with
    | none => .error staleCursor
    | some index => return index

/-! ## Pages -/

/-- Where a page begins and ends. -/
def pageBounds (cursor : Option Nat) (direction : PageDirection) (limit total : Nat) : Nat × Nat :=
  match cursor, direction with
  | none, _ => (total - limit, total)
  | some cursor, .older => (min cursor total - limit, min cursor total)
  | some cursor, .newer => (min cursor total, min total (min cursor total + limit))

/-- A cursor of a page, when there are records past it. -/
def cursorAt (inventoryId fingerprint : JsString) (more : Bool) (index : Nat) : Except PageError (Option JsString) :=
  if more then some <$> encodePageCursor numbers inventoryId fingerprint index else .ok none

def pageFromProjection (inventoryId : InventoryId) (projection : ProjectionCacheRecord R) (query : TranscriptQuery)
    (maxPageRecords : Nat) (cached : Bool) (observedAt : JsString) : Except PageError (TranscriptPage R) := do
  let fingerprint := projection.sourceFingerprint.value
  let limit ← pageLimit (query.limit.getD maxPageRecords) maxPageRecords
  let cursor ← query.cursor.mapM (decodePageCursor numbers inventoryId.value fingerprint)
  let total := projection.records.length
  let bounds := pageBounds cursor (query.direction.getD .older) limit total
  let sourceFingerprint ← asDashboardFingerprint fingerprint
  let olderCursor ← cursorAt numbers inventoryId.value fingerprint (0 < bounds.1) bounds.1
  let newerCursor ← cursorAt numbers inventoryId.value fingerprint (bounds.2 < total) bounds.2
  return {
    inventoryId := inventoryId.value
    records := (projection.records.take bounds.2).drop bounds.1
    sourceFingerprint
    formatVersion := PROJECTION_CACHE_FORMAT_VERSION
    cached
    truncated := projection.truncated
    builtAt := projection.builtAt
    observedAt
    sourceModifiedAt := projection.sourceModifiedAt
    piSessionId := projection.piSessionId
    currentLeafId := projection.currentLeafId
    olderCursor
    newerCursor }

/-- What a client follows. -/
def TranscriptPage.cursor (page : TranscriptPage R) : PageDirection → Option JsString
  | .older => page.olderCursor
  | .newer => page.newerCursor

variable (inventoryId : InventoryId) (projection : ProjectionCacheRecord R) (maxPageRecords : Nat)

/-- What a request has of its own. -/
structure PageTurn where
  limit : Nat
  cached : Bool
  observedAt : JsString

/-- The pages that a client gets that follows the cursors of one direction. -/
def followPages (direction : PageDirection) (turns : Nat → PageTurn) :
    Nat → Nat → Option JsString → Option (List (TranscriptPage R))
  | 0, _, _ => none
  | fuel + 1, count, cursor =>
    match pageFromProjection numbers inventoryId projection ⟨cursor, some (turns count).limit, some direction⟩
        maxPageRecords (turns count).cached (turns count).observedAt with
    | .error _ => none
    | .ok page =>
      match page.cursor direction with
      | none => some [page]
      | some next => (followPages direction turns fuel (count + 1) (some next)).map fun later => page :: later

/-! ## Positions -/

variable {inventoryId projection}

theorem isPlainUnit_alphanumeric {u : UInt16} (h : isAlphanumeric u = true) : isPlainUnit u = true := by
  simp only [isAlphanumeric, isPlainUnit, Bool.or_eq_true, Bool.and_eq_true, decide_eq_true_eq, ne_eq,
    ← UInt16.toNat_inj] at h ⊢
  have hquote : (0x22 : UInt16).toNat = 0x22 := rfl
  have hslash : (0x5c : UInt16).toNat = 0x5c := rfl
  omega

theorem isInventoryId_plain {value : JsString} (h : isInventoryId value = true) :
    value.length ≤ 256 ∧ ∀ u ∈ value, isPlainUnit u = true := by
  cases value with
  | nil => cases h
  | cons u rest =>
    simp only [isInventoryId, Bool.and_eq_true, decide_eq_true_eq, List.all_eq_true, Bool.or_eq_true] at h
    obtain ⟨⟨hu, _⟩, hrest⟩ := h
    refine ⟨by rw [List.length_cons]; omega, fun v hv => ?_⟩
    rw [List.mem_cons] at hv
    obtain rfl | hv := hv
    · exact isPlainUnit_alphanumeric hu
    obtain (((hv | rfl) | rfl) | rfl) | rfl := hrest v hv
    · exact isPlainUnit_alphanumeric hv
    all_goals decide

theorem isPlainUnit_base64Url {u : UInt16} (h : isBase64UrlUnit u = true) : isPlainUnit u = true := by
  simp only [isBase64UrlUnit, isPlainUnit, Bool.or_eq_true, Bool.and_eq_true, decide_eq_true_eq, ne_eq,
    ← UInt16.toNat_inj] at h ⊢
  have hquote : (0x22 : UInt16).toNat = 0x22 := rfl
  have hslash : (0x5c : UInt16).toNat = 0x5c := rfl
  have hline : (0x5f : UInt16).toNat = 0x5f := rfl
  have hdash : (0x2d : UInt16).toNat = 0x2d := rfl
  omega

theorem SourceFingerprint.plain (fingerprint : SourceFingerprint) :
    fingerprint.value.length = 50 ∧ ∀ u ∈ fingerprint.value, isPlainUnit u = true := by
  obtain ⟨digest, hdigest, hvalue⟩ := fingerprint.formatted
  rw [hvalue]
  constructor
  · rw [List.length_append, length_base64Url, hdigest]
    decide
  intro u hu
  rw [List.mem_append] at hu
  obtain hu | hu := hu
  · revert u
    decide
  · exact isPlainUnit_base64Url (isBase64Url_base64Url digest u hu)

theorem cursorText (inventoryId : InventoryId) (fingerprint : SourceFingerprint) {index : Nat} (h : index < 2 ^ 32) :
    ∃ t, stringify numbers.toNumberFormat (pageCursorValue numbers inventoryId.value fingerprint.value index) = some t ∧
      Ascii t ∧ t.length ≤ 400 := by
  have hone := numbers.format_ofIndex 1 (by decide)
  have hindex := numbers.format_ofIndex index (by omega)
  obtain ⟨_, hidPlain⟩ := isInventoryId_plain inventoryId.valid
  obtain ⟨_, hfingerprintPlain⟩ := fingerprint.plain
  have hdigits : (decimal.format index).length ≤ 10 := length_decimal (by decide) (by omega)
  have hascii {s : JsString} (hs : ∀ u ∈ s, isPlainUnit u = true) : Ascii s := by
    intro u hu
    have hplain := hs u hu
    simp only [isPlainUnit, Bool.and_eq_true, decide_eq_true_eq] at hplain
    exact hplain.1.1.2
  simp only [stringify, pageCursorValue, serialize, serializeMembers, bracket, joinWith, quote, List.isEmpty_cons,
    List.isEmpty_nil, if_true, Bool.false_eq_true, if_false, hone, hindex, quoteUnits_plain hidPlain,
    quoteUnits_plain hfingerprintPlain]
  refine ⟨_, rfl, ?_, ?_⟩
  · have hkeys : Ascii (quoteUnits (text "v")) ∧ Ascii (quoteUnits (text "inventoryId")) ∧
        Ascii (quoteUnits (text "fingerprint")) ∧ Ascii (quoteUnits (text "index")) := by decide +kernel
    have hdecimal (n : Nat) : Ascii (decimal.format n) := decimal.ascii n
    have hidAscii := hascii hidPlain
    have hfingerprintAscii := hascii hfingerprintPlain
    simp only [ascii_append, hkeys, hdecimal, hidAscii, hfingerprintAscii]
    decide
  · have hkeys : (quoteUnits (text "v")).length = 1 ∧ (quoteUnits (text "inventoryId")).length = 11 ∧
        (quoteUnits (text "fingerprint")).length = 11 ∧ (quoteUnits (text "index")).length = 5 ∧
        (decimal.format 1).length = 1 := by decide +kernel
    simp only [List.length_append, List.length_cons, List.length_nil, hkeys]
    omega

theorem jsonValue_pageCursor (inventoryId fingerprint : JsString) {index : Nat} (h : index < 2 ^ 53) :
    jsonValue numbers.toNumberSyntax (pageCursorValue numbers inventoryId fingerprint index) =
      some (pageCursorValue numbers inventoryId fingerprint index) := by
  have hnumber {n : Nat} (hn : n < 2 ^ 53) :
      readNumber numbers.toNumberSyntax (numbers.format (numbers.ofIndex n)) = .number (numbers.ofIndex n) := by
    rw [numbers.format_ofIndex n hn, numbers.readNumber_format n hn]
  have hkeys : text "v" ≠ text "inventoryId" ∧ text "v" ≠ text "fingerprint" ∧ text "v" ≠ text "index" ∧
      text "inventoryId" ≠ text "fingerprint" ∧ text "inventoryId" ≠ text "index" ∧
      text "fingerprint" ≠ text "index" := by decide
  simp [pageCursorValue, jsonValue, jsonMembers, JsMembers.set, hnumber h, hnumber (show 1 < 2 ^ 53 by decide), hkeys]

theorem encodePageCursor_ok (inventoryId : InventoryId) (fingerprint : SourceFingerprint) {index : Nat}
    (h : index < 2 ^ 32) :
    ∃ cursor, encodePageCursor numbers inventoryId.value fingerprint.value index = .ok cursor ∧
      decodePageCursor numbers inventoryId.value fingerprint.value cursor = .ok index := by
  obtain ⟨t, ht, hascii, _⟩ := cursorText numbers inventoryId fingerprint h
  have hindex : index < 2 ^ 53 := by omega
  have hbytes : (utf8Encode t).length = t.length := hascii.byteLength
  refine ⟨text "tp1." ++ base64Url (utf8Encode t), ?_, ?_⟩
  · have hfits : (1 ≤ (text "tp1." ++ base64Url (utf8Encode t)).length &&
        (text "tp1." ++ base64Url (utf8Encode t)).length ≤ 1024) = true := by
      rw [List.length_append, length_base64Url, Bool.and_eq_true, decide_eq_true_eq, decide_eq_true_eq,
        show (text "tp1.").length = 4 by decide]
      omega
    rw [encodePageCursor, ht, Option.getD_some, asDashboardCursor, hfits]
    rfl
  · have hbegins : (text "tp1.").isPrefixOf (text "tp1." ++ base64Url (utf8Encode t)) = true := by
      rw [List.isPrefixOf_iff_prefix]
      exact List.prefix_append _ _
    have hdrop : (text "tp1." ++ base64Url (utf8Encode t)).drop 4 = base64Url (utf8Encode t) :=
      List.drop_left' (by decide)
    have hone := numbers.toIndex_ofIndex 1 (by decide)
    have hvalue := numbers.toIndex_ofIndex index hindex
    have hmembers : (pageCursorValue numbers inventoryId.value fingerprint.value index).member "v" =
          .number (numbers.ofIndex 1) ∧
        (pageCursorValue numbers inventoryId.value fingerprint.value index).member "inventoryId" =
          .string inventoryId.value ∧
        (pageCursorValue numbers inventoryId.value fingerprint.value index).member "fingerprint" =
          .string fingerprint.value ∧
        (pageCursorValue numbers inventoryId.value fingerprint.value index).member "index" =
          .number (numbers.ofIndex index) := ⟨rfl, rfl, rfl, rfl⟩
    rw [decodePageCursor, hdrop, decodeBase64Url_base64Url, jsonParse_utf8ToString ht,
      jsonValue_pageCursor numbers _ _ hindex]
    simp only [hmembers, indexOf, isString, hone, hvalue, decide_true, Bool.and_self]
    rfl

/-- **Page cursors**: every position has a cursor, which is read as this position and no other. -/
theorem page_cursor_read (inventoryId : InventoryId) (fingerprint : SourceFingerprint) (index : Fin (2 ^ 32)) :
    ∃ cursor, encodePageCursor numbers inventoryId.value fingerprint.value index = .ok cursor ∧
      ∀ position, decodePageCursor numbers inventoryId.value fingerprint.value cursor = .ok position ↔
        position = index := by
  obtain ⟨cursor, hencode, hdecode⟩ := encodePageCursor_ok numbers inventoryId fingerprint index.isLt
  refine ⟨cursor, hencode, fun position => ?_⟩
  rw [hdecode, Except.ok.injEq, eq_comm]

theorem cursorAt_ok (inventoryId : InventoryId) (fingerprint : SourceFingerprint) (p : Prop) [Decidable p] {index : Nat}
    (h : index < 2 ^ 32) :
    ∃ cursor, cursorAt numbers inventoryId.value fingerprint.value p index = .ok cursor ∧
      ((¬p ∧ cursor = none) ∨ (p ∧ ∃ c, cursor = some c ∧
        decodePageCursor numbers inventoryId.value fingerprint.value c = .ok index)) := by
  rw [cursorAt]
  by_cases hp : p
  · obtain ⟨cursor, hencode, hdecode⟩ := encodePageCursor_ok numbers inventoryId fingerprint h
    exact ⟨some cursor, by rw [if_pos (decide_eq_true hp), hencode]; rfl, Or.inr ⟨hp, cursor, rfl, hdecode⟩⟩
  · exact ⟨none, if_neg (by rwa [decide_eq_true_eq]), Or.inl ⟨hp, rfl⟩⟩

/-! ## Pages -/

theorem pageBounds_le (cursor : Option Nat) (direction : PageDirection) (limit total : Nat) :
    (pageBounds cursor direction limit total).1 ≤ (pageBounds cursor direction limit total).2 ∧
      (pageBounds cursor direction limit total).2 ≤ total := by
  cases cursor <;> cases direction <;> simp only [pageBounds] <;> omega

/-- A page between two positions. -/
structure IsPage (numbers : IndexSyntax N) (inventoryId : InventoryId) (projection : ProjectionCacheRecord R)
    (page : TranscriptPage R) (start stop : Nat) : Prop where
  start_le : start ≤ stop
  stop_le : stop ≤ projection.records.length
  records : page.records = (projection.records.take stop).drop start
  olderCursor : (start = 0 ∧ page.olderCursor = none) ∨ (0 < start ∧ ∃ cursor, page.olderCursor = some cursor ∧
    decodePageCursor numbers inventoryId.value projection.sourceFingerprint.value cursor = .ok start)
  newerCursor : (stop = projection.records.length ∧ page.newerCursor = none) ∨
    (stop < projection.records.length ∧ ∃ cursor, page.newerCursor = some cursor ∧
      decodePageCursor numbers inventoryId.value projection.sourceFingerprint.value cursor = .ok stop)

/-- A cursor, and the position that it holds. -/
def Holds (numbers : IndexSyntax N) (inventoryId : InventoryId) (projection : ProjectionCacheRecord R)
    (cursor : Option JsString) (position : Option Nat) : Prop :=
  cursor.mapM (decodePageCursor numbers inventoryId.value projection.sourceFingerprint.value) = .ok position

theorem holds_of_decode {cursor : JsString} {position : Nat}
    (h : decodePageCursor numbers inventoryId.value projection.sourceFingerprint.value cursor = .ok position) :
    Holds numbers inventoryId projection (some cursor) (some position) := by
  rw [Holds, Option.mapM_some, h]
  rfl

theorem page_of_position (query : TranscriptQuery) {position : Option Nat}
    (hlimit : 1 ≤ query.limit.getD maxPageRecords ∧ query.limit.getD maxPageRecords ≤ maxPageRecords)
    (hcursor : Holds numbers inventoryId projection query.cursor position) (cached : Bool) (observedAt : JsString) :
    ∃ page, pageFromProjection numbers inventoryId projection query maxPageRecords cached observedAt = .ok page ∧
      IsPage numbers inventoryId projection page
        (pageBounds position (query.direction.getD .older) (query.limit.getD maxPageRecords)
          projection.records.length).1
        (pageBounds position (query.direction.getD .older) (query.limit.getD maxPageRecords)
          projection.records.length).2 := by
  obtain ⟨hle, htotal⟩ := pageBounds_le position (query.direction.getD .older) (query.limit.getD maxPageRecords)
    projection.records.length
  have hrecords := projection.records_length
  have hpageLimit : pageLimit (query.limit.getD maxPageRecords) maxPageRecords =
      .ok (query.limit.getD maxPageRecords) := by
    rw [pageLimit, decide_eq_true hlimit.1, decide_eq_true hlimit.2]
    rfl
  have hfingerprint : asDashboardFingerprint projection.sourceFingerprint.value =
      .ok projection.sourceFingerprint.value := by
    rw [asDashboardFingerprint, projection.sourceFingerprint.plain.1]
    rfl
  rw [Holds] at hcursor
  simp only [pageFromProjection, hpageLimit, hcursor, hfingerprint, bind, Except.bind]
  generalize pageBounds position (query.direction.getD .older) (query.limit.getD maxPageRecords)
    projection.records.length = bounds at hle htotal ⊢
  have hstart : bounds.1 < 2 ^ 32 := by omega
  have hstop : bounds.2 < 2 ^ 32 := by omega
  obtain ⟨_, holder, holderCursor⟩ := cursorAt_ok numbers inventoryId projection.sourceFingerprint (0 < bounds.1)
    hstart
  obtain ⟨_, hnewer, hnewerCursor⟩ := cursorAt_ok numbers inventoryId projection.sourceFingerprint
    (bounds.2 < projection.records.length) hstop
  simp only [holder, hnewer]
  refine ⟨_, rfl, hle, htotal, rfl, ?_, ?_⟩
  · exact holderCursor.imp_left fun h => ⟨by omega, h.2⟩
  · exact hnewerCursor.imp_left fun h => ⟨by omega, h.2⟩

/-- A page that is given out is one between two positions. -/
theorem page_of_ok {query : TranscriptQuery} {cached : Bool} {observedAt : JsString} {page : TranscriptPage R}
    (h : pageFromProjection numbers inventoryId projection query maxPageRecords cached observedAt = .ok page) :
    ∃ start stop, IsPage numbers inventoryId projection page start stop := by
  have hrequest := h
  rw [pageFromProjection] at h
  simp only [bind_ok] at h
  obtain ⟨_, hlimit, _, hposition, -⟩ := h
  simp only [pageLimit, then_ok, check_ok, Bool.and_eq_true, decide_eq_true_eq] at hlimit
  obtain ⟨_, hother, hpage⟩ := page_of_position numbers maxPageRecords query hlimit.1 hposition cached observedAt
  rw [hrequest] at hother
  cases hother
  exact ⟨_, _, hpage⟩

/-- What the pages of one direction have together, from a position on. -/
def remaining (records : List R) (position : Nat) : PageDirection → List R
  | .older => records.take position
  | .newer => records.drop position

/-- A page and what comes after it in its direction. -/
theorem remaining_cons {page : TranscriptPage R} {start stop : Nat}
    (h : IsPage numbers inventoryId projection page start stop) :
    remaining projection.records start .older ++ page.records = remaining projection.records stop .older ∧
      page.records ++ remaining projection.records stop .newer = remaining projection.records start .newer := by
  have hstart := h.start_le
  rw [h.records]
  constructor
  · have htake := List.take_append_drop start (projection.records.take stop)
    rwa [List.take_take, Nat.min_eq_left hstart] at htake
  have hdrop := List.take_append_drop (stop - start) (projection.records.drop start)
  rw [List.take_drop, List.drop_drop] at hdrop
  rwa [Nat.add_sub_cancel' hstart] at hdrop

variable {turns : Nat → PageTurn}
  (hlimits : ∀ count, 1 ≤ (turns count).limit ∧ (turns count).limit ≤ maxPageRecords)

include hlimits in
theorem followPages_older (count : Nat) {fuel stop : Nat} {cursor : Option JsString} {position : Option Nat}
    (hcursor : Holds numbers inventoryId projection cursor position)
    (hposition : position.getD projection.records.length = stop) (hstop : stop ≤ projection.records.length)
    (hfuel : stop < fuel) :
    ∃ pages, followPages numbers inventoryId projection maxPageRecords .older turns fuel count cursor = some pages ∧
      (pages.map TranscriptPage.records).reverse.flatten = projection.records.take stop := by
  induction fuel generalizing count stop cursor position with
  | zero => omega
  | succ fuel ih =>
    obtain ⟨page, hpage, his⟩ := page_of_position numbers maxPageRecords
      ⟨cursor, some (turns count).limit, some .older⟩ (hlimits count) hcursor (turns count).cached
      (turns count).observedAt
    have hbounds : pageBounds position .older (turns count).limit projection.records.length =
        (stop - (turns count).limit, stop) := by
      cases position with
      | none => rw [← hposition]; rfl
      | some position =>
        have hsame : position = stop := hposition
        simp only [pageBounds, hsame, Nat.min_eq_left hstop]
    simp only [Option.getD_some, hbounds] at his
    have hjoin := (remaining_cons numbers his).1
    rw [followPages, hpage]
    obtain ⟨hzero, hnone⟩ | ⟨_, _, hnext, hdecode⟩ := his.olderCursor
    · simp only [TranscriptPage.cursor, hnone]
      refine ⟨[page], rfl, ?_⟩
      rw [remaining, hzero, List.take_zero, List.nil_append] at hjoin
      simpa [remaining] using hjoin
    · have hlimit := (hlimits count).1
      have hposition : (some (stop - (turns count).limit)).getD projection.records.length =
          stop - (turns count).limit := rfl
      obtain ⟨later, hlater, hrecords⟩ := ih (count + 1) (holds_of_decode numbers hdecode) hposition (by omega)
        (by omega)
      simp only [TranscriptPage.cursor, hnext, hlater]
      refine ⟨page :: later, rfl, ?_⟩
      rw [List.map_cons, List.reverse_cons, List.flatten_append, hrecords]
      simpa [remaining] using hjoin

include hlimits in
theorem followPages_newer (count : Nat) {fuel start : Nat} {cursor : JsString}
    (hcursor : Holds numbers inventoryId projection (some cursor) (some start))
    (hstart : start ≤ projection.records.length) (hfuel : projection.records.length - start < fuel) :
    ∃ pages, followPages numbers inventoryId projection maxPageRecords .newer turns fuel count (some cursor) =
        some pages ∧ (pages.map TranscriptPage.records).flatten = projection.records.drop start := by
  induction fuel generalizing count start cursor with
  | zero => omega
  | succ fuel ih =>
    obtain ⟨page, hpage, his⟩ := page_of_position numbers maxPageRecords
      ⟨some cursor, some (turns count).limit, some .newer⟩ (hlimits count) hcursor (turns count).cached
      (turns count).observedAt
    have hbounds : pageBounds (some start) .newer (turns count).limit projection.records.length =
        (start, min projection.records.length (start + (turns count).limit)) := by
      simp only [pageBounds, Nat.min_eq_left hstart]
    simp only [Option.getD_some, hbounds] at his
    have hjoin := (remaining_cons numbers his).2
    rw [followPages, hpage]
    obtain ⟨hend, hnone⟩ | ⟨_, _, hnext, hdecode⟩ := his.newerCursor
    · simp only [TranscriptPage.cursor, hnone]
      refine ⟨[page], rfl, ?_⟩
      rw [remaining, hend, List.drop_length, List.append_nil] at hjoin
      simpa [remaining] using hjoin
    · have hlimit := (hlimits count).1
      obtain ⟨later, hlater, hrecords⟩ := ih (count + 1) (holds_of_decode numbers hdecode) (by omega) (by omega)
      simp only [TranscriptPage.cursor, hnext, hlater]
      refine ⟨page :: later, rfl, ?_⟩
      rw [List.map_cons, List.flatten_cons, hrecords]
      exact hjoin

include hlimits in
/-- **Paging.**  The older pages have every record once.  Every page that is given out lies between
two positions; the pages after it have what comes after it, and those before it what comes before. -/
theorem paging_complete :
    (∃ pages, followPages numbers inventoryId projection maxPageRecords .older turns
        (projection.records.length + 1) 0 none = some pages ∧
      (pages.map TranscriptPage.records).reverse.flatten = projection.records) ∧
    ∀ query cached observedAt page,
      pageFromProjection numbers inventoryId projection query maxPageRecords cached observedAt = .ok page →
      ∃ start stop, page.records = (projection.records.take stop).drop start ∧ start ≤ stop ∧
        (page.newerCursor = none → projection.records.length ≤ stop) ∧
        (∀ cursor, page.newerCursor = some cursor →
          ∃ later, followPages numbers inventoryId projection maxPageRecords .newer turns
              (projection.records.length + 1) 0 (some cursor) = some later ∧
            (later.map TranscriptPage.records).flatten = projection.records.drop stop) ∧
        (page.olderCursor = none → start = 0) ∧
        ∀ cursor, page.olderCursor = some cursor →
          ∃ earlier, followPages numbers inventoryId projection maxPageRecords .older turns
              (projection.records.length + 1) 0 (some cursor) = some earlier ∧
            (earlier.map TranscriptPage.records).reverse.flatten = projection.records.take start := by
  constructor
  · have hholds : Holds numbers inventoryId projection none none := rfl
    obtain ⟨pages, hpages, hrecords⟩ := followPages_older numbers maxPageRecords hlimits 0 hholds rfl (le_refl _)
      (Nat.lt_succ_self _)
    exact ⟨pages, hpages, hrecords.trans (List.take_length)⟩
  · intro query cached observedAt page hpage
    obtain ⟨start, stop, his⟩ := page_of_ok numbers maxPageRecords hpage
    have hstop := his.stop_le
    have hstart := his.start_le
    refine ⟨start, stop, his.records, hstart, fun hnone => ?_, fun cursor hcursor => ?_, fun hnone => ?_,
      fun cursor hcursor => ?_⟩
    · obtain ⟨_, -⟩ | ⟨-, next, hnext, -⟩ := his.newerCursor
      · omega
      · rw [hnone] at hnext
        cases hnext
    · obtain ⟨-, hnone⟩ | ⟨-, next, hnext, hdecode⟩ := his.newerCursor
      · rw [hnone] at hcursor
        cases hcursor
      rw [hcursor] at hnext
      cases hnext
      exact followPages_newer numbers maxPageRecords hlimits 0 (holds_of_decode numbers hdecode) hstop (by omega)
    · obtain ⟨hzero, -⟩ | ⟨-, next, hnext, -⟩ := his.olderCursor
      · exact hzero
      · rw [hnone] at hnext
        cases hnext
    · obtain ⟨-, hnone⟩ | ⟨-, next, hnext, hdecode⟩ := his.olderCursor
      · rw [hnone] at hcursor
        cases hcursor
      rw [hcursor] at hnext
      cases hnext
      have hposition : (some start).getD projection.records.length = start := rfl
      exact followPages_older numbers maxPageRecords hlimits 0 (holds_of_decode numbers hdecode) hposition (by omega)
        (by omega)

end

/-- Three records. -/
def threeRecords : ProjectionCacheRecord Nat where
  sourceFingerprint := ⟨text "sha256:" ++ base64Url (List.replicate 32 0), List.replicate 32 0, rfl, rfl⟩
  sourceModifiedAt := []
  builtAt := []
  currentLeafId := none
  piSessionId := none
  records := [1, 2, 3]
  truncated := false
  records_length := by decide

/-- One record and two, in turn. -/
def unevenTurns (count : Nat) : PageTurn := ⟨1 + count % 2, true, []⟩

theorem paging_complete_three :
    ∃ pages, followPages naturalIndexes ⟨text "a", rfl⟩ threeRecords 2 .older unevenTurns
        (threeRecords.records.length + 1) 0 none = some pages ∧
      (pages.map TranscriptPage.records).reverse.flatten = [1, 2, 3] := by
  have hlimits (count : Nat) : 1 ≤ (unevenTurns count).limit ∧ (unevenTurns count).limit ≤ 2 := by
    simp only [unevenTurns]
    omega
  exact (paging_complete naturalIndexes 2 hlimits).1

end PiDaemon.Projector
