import Mathlib.Data.List.Lex
import Mathlib.Data.Prod.Lex
import PiDaemon.Catalog.Checked
import PiDaemon.Lib.JsonText
import PiDaemon.Lib.Mirror
import PiDaemon.Lib.Paging
import PiDaemon.Lib.StableSort

/-!
# Listing the catalog

`FileSessionCatalog.list`, of a catalog that is recovered: the records in the order of
`localeCompare`, and a cursor that stands for the records whose ID is greater than the one it
holds, in the order of the code units.

* `listAll_pages`: the pages are those of the sorted records;
* `list_complete_iff`: there is a last page, and the pages have every record once exactly when, at
  the end of each, both orders have the same records after its last one;
* `list_loses`: a catalog of which a record is on no page.
-/

namespace PiDaemon.Catalog

open Lib Durability Option

def DEFAULT_CATALOG_PAGE_SIZE : Nat := 50

def MAX_CATALOG_PAGE_SIZE : Nat := 100

/-- `a.localeCompare(b) <= 0`, a total order. -/
structure Collation where
  le : JsString → JsString → Bool
  total : ∀ a b, (le a b || le b a) = true
  trans : ∀ a b c, le a b = true → le b c = true → le a c = true
  antisymm : ∀ a b, le a b = true → le b a = true → a = b

inductive ListingCode where
  | invalidLimit
  | invalidCursor
  deriving DecidableEq

structure ListingError where
  code : ListingCode
  message : String
  deriving DecidableEq

structure SessionCatalogPage (N : Type) where
  sessions : List (SessionCatalogRecord N)
  nextCursor : Option JsString

def pageLimit (limit : Nat) : Except ListingError Nat := do
  check (1 ≤ limit && limit ≤ MAX_CATALOG_PAGE_SIZE)
    ⟨.invalidLimit, s!"session page limit must be between 1 and {MAX_CATALOG_PAGE_SIZE}"⟩
  return limit

section
variable {N : Type} (numbers : NumberSyntax N)

/-- `{ after: sessionId }` -/
def cursorValue (sessionId : JsString) : JsValue N := .object (.cons (text "after") (.string sessionId) .nil)

def encodeCursor (sessionId : JsString) : JsString :=
  base64Url (utf8Encode ((stringify numbers.toNumberFormat (cursorValue sessionId)).getD []))

def invalidCursor : ListingError := ⟨.invalidCursor, "session cursor is invalid"⟩

def decodeCursor (cursor : JsString) : Except ListingError JsString :=
  match jsonParse numbers (utf8ToString (decodeBase64Url cursor)) with
  | none => .error invalidCursor
  | some value =>
    match value.member "after" with
    | .string after => if after.length = 0 then .error invalidCursor else .ok after
    | _ => .error invalidCursor

variable (collation : Collation)

/-- `a.sessionId < b.sessionId`, in the order of the code units. -/
def before (a b : SessionCatalogRecord N) : Bool := a.sessionId < b.sessionId

namespace FileSessionCatalog

def all (s : FileSessionCatalog N) : List (SessionCatalogRecord N) :=
  stableSort (fun a b => collation.le a.sessionId b.sessionId) s.records.values

def list (s : FileSessionCatalog N) (limit : Option Nat) (cursor : Option JsString) :
    Except ListingError (SessionCatalogPage N) := do
  let limit ← pageLimit (limit.getD DEFAULT_CATALOG_PAGE_SIZE)
  let after ← cursor.mapM (decodeCursor numbers)
  let records := (s.all collation).filter fun record => after.all fun after => after < record.sessionId
  let sessions := records.take limit
  let nextCursor :=
    if records.length > sessions.length then
      sessions.getLast?.map fun last => encodeCursor numbers last.sessionId
    else none
  return ⟨sessions, nextCursor⟩

/-- The pages from a cursor on, as a client that follows `nextCursor` gets them. -/
def listAll (s : FileSessionCatalog N) (limit : Nat) :
    Nat → Option JsString → Option (List (SessionCatalogPage N))
  | 0, _ => none
  | fuel + 1, cursor =>
    match s.list numbers collation (some limit) cursor with
    | .error _ => none
    | .ok page =>
      match page.nextCursor with
      | none => some [page]
      | some next => (listAll s limit fuel (some next)).map fun later => page :: later

end FileSessionCatalog

/-! ## Cursors -/

theorem decodeCursor_encodeCursor {sessionId : JsString} (h : sessionId ≠ []) :
    decodeCursor numbers (encodeCursor numbers sessionId) = .ok sessionId := by
  have htext : ∃ t, stringify numbers.toNumberFormat (cursorValue sessionId) = some t := by
    simp [stringify, cursorValue, serialize]
  obtain ⟨t, ht⟩ := htext
  have hlength : sessionId.length ≠ 0 := by simpa using h
  rw [decodeCursor, encodeCursor, ht, getD_some, decodeBase64Url_base64Url, jsonParse_utf8ToString ht]
  simp [cursorValue, jsonValue, jsonMembers, JsMembers.set, JsValue.member, JsMembers.get, hlength]

/-! ## Pages -/

theorem codeUnits_trans {a b c : JsString} (hab : a < b) (hbc : b < c) : a < c := List.lt_trans hab hbc

theorem before_irrefl (a : SessionCatalogRecord N) : before a a = false := by
  simpa [before] using codeUnits_irrefl a.sessionId

theorem before_trans (a b c : SessionCatalogRecord N) (hab : before a b = true) (hbc : before b c = true) :
    before a c = true := by
  simp only [before, decide_eq_true_eq] at hab hbc ⊢
  exact codeUnits_trans hab hbc

namespace FileSessionCatalog

/-- A cursor, and the records that it stands for. -/
def Stands (s : FileSessionCatalog N) (cursor : Option JsString) (rest : List (SessionCatalogRecord N)) : Prop :=
  (cursor = none ∧ rest = s.all collation) ∨
    ∃ last ∈ s.all collation, cursor = some (encodeCursor numbers last.sessionId) ∧
      rest = (s.all collation).filter (before last)

variable {numbers collation}

/-- Every record has an ID. -/
structure Listed (s : FileSessionCatalog N) : Prop where
  keyed : ∀ id record, s.records.get? id = some record → record.sessionId = id
  valid : ∀ id record, s.records.get? id = some record → validateCatalogSessionId id = .ok ()

variable {s : FileSessionCatalog N}

theorem run_listed {options : CatalogOptions} {host : CatalogHost N} {directory : OrderedMap JsString (RecordFile N)}
    {events : List (CatalogEvent N)}
    (hrun : run (catalogStep options host) (FileSessionCatalog.new directory) events = some s) : s.Listed := by
  have hkeyed := (run_nameIndex hrun).keyed
  refine ⟨hkeyed, fun id record hget => ?_⟩
  have hchecked := run_checked hrun id record hget
  simp only [validateCatalogRecord, then_ok, asCorrupt, mapError_ok] at hchecked
  rw [← hkeyed id record hget]
  exact hchecked.1

theorem Listed.ne_nil (h : s.Listed) {record : SessionCatalogRecord N} (hrecord : record ∈ s.records.values) :
    record.sessionId ≠ [] := by
  obtain ⟨id, hget⟩ := OrderedMap.mem_values.mp hrecord
  have hvalid := h.valid id record hget
  simp only [validateCatalogSessionId, then_ok, check_ok, Bool.and_eq_true, decide_eq_true_eq] at hvalid
  rw [h.keyed id record hget]
  intro hnil
  rw [hnil] at hvalid
  exact absurd hvalid.1.1 (by decide)

theorem mem_all {record : SessionCatalogRecord N} :
    record ∈ s.all collation ↔ record ∈ s.records.values := mem_stableSort

theorem list_eq_ok (h : s.Listed) {limit : Nat} (hlimit : 1 ≤ limit ∧ limit ≤ MAX_CATALOG_PAGE_SIZE)
    {cursor : Option JsString} {rest : List (SessionCatalogRecord N)}
    (hstands : s.Stands numbers collation cursor rest) :
    s.list numbers collation (some limit) cursor = .ok ⟨rest.take limit,
      if rest.length > (rest.take limit).length then
        (rest.take limit).getLast?.map fun last => encodeCursor numbers last.sessionId
      else none⟩ := by
  have hpage : pageLimit limit = .ok limit := by
    simp [pageLimit, check, hlimit, bind, Except.bind, pure, Except.pure]
  rcases hstands with ⟨rfl, rfl⟩ | ⟨last, hlast, rfl, rfl⟩
  · have hall : (s.all collation).filter (fun _ => true) = s.all collation := List.filter_true _
    simp [list, hpage, bind, Except.bind, pure, Except.pure, hall]
  have hdecode := decodeCursor_encodeCursor numbers (h.ne_nil (mem_all.mp hlast))
  have hbefore : (fun record => decide (last.sessionId < record.sessionId)) = before last := rfl
  simp [list, hpage, hdecode, bind, Except.bind, pure, Except.pure, Functor.map, Except.map, hbefore]

theorem listAll_pages (h : s.Listed) {limit : Nat} (hlimit : 1 ≤ limit ∧ limit ≤ MAX_CATALOG_PAGE_SIZE) {fuel : Nat}
    {cursor : Option JsString} {rest : List (SessionCatalogRecord N)}
    (hstands : s.Stands numbers collation cursor rest) :
    (s.listAll numbers collation limit fuel cursor).map (List.map SessionCatalogPage.sessions) =
      pages before limit (s.all collation) fuel rest := by
  induction fuel generalizing cursor rest with
  | zero => rfl
  | succ fuel ih =>
    have hsub : ∀ record ∈ rest, record ∈ s.all collation := by
      rcases hstands with ⟨-, rfl⟩ | ⟨_, -, -, rfl⟩
      · exact fun _ hrecord => hrecord
      · exact fun _ hrecord => (List.mem_filter.mp hrecord).1
    rw [listAll, list_eq_ok h hlimit hstands]
    by_cases hlong : limit < rest.length
    · have hmore : rest.length > (rest.take limit).length := by
        rw [List.length_take]
        omega
      have hlast := getLast?_take hlimit.1 hlong
      have hstands' : s.Stands numbers collation (some (encodeCursor numbers rest[limit - 1].sessionId))
          ((s.all collation).filter (before rest[limit - 1])) :=
        .inr ⟨_, hsub _ (List.getElem_mem _), rfl, rfl⟩
      simp only [if_pos hmore, hlast, map_some]
      rw [pages_more hlimit.1 hlong, ← ih hstands', map_map, map_map]
      rfl
    · have hnone : ¬ rest.length > (rest.take limit).length := by
        rw [List.length_take]
        omega
      simp only [if_neg hnone, map_some, List.map_cons, List.map_nil]
      rw [pages_last (by omega), List.take_of_length_le (by omega)]

/-- At the end of every page, the records after its last one are those with a greater ID, in the
order of the code units. -/
def PagesAligned (s : FileSessionCatalog N) (collation : Collation) (limit : Nat) : Prop :=
  ∀ k, 0 < k → ∀ last ∈ (s.all collation)[k * limit - 1]?, ∀ (j : Nat), ∀ record ∈ (s.all collation)[j]?,
    k * limit < (s.all collation).length → (last.sessionId < record.sessionId ↔ k * limit ≤ j)

theorem nodup_all (h : s.Listed) : (s.all collation).Nodup := by
  refine perm_stableSort.nodup_iff.mpr ?_
  exact (OrderedMap.nodup_map_values SessionCatalogRecord.sessionId h.keyed).of_map _

theorem pagesAligned_iff (h : s.Listed) {limit : Nat} :
    AlignedFrom before limit (s.all collation) 0 ↔ s.PagesAligned collation limit := by
  have hnodup : (s.all collation).Nodup := nodup_all h
  constructor
  · intro haligned k hk last hlast j record hrecord hbound
    have hfilter := haligned k hk (by omega) last (by rwa [Nat.zero_add])
    rw [Nat.zero_add] at hfilter
    have hiff := (filter_eq_drop_iff hnodup _).mp hfilter j record hrecord
    rwa [before, decide_eq_true_eq] at hiff
  · intro haligned k hk hbound last hlast
    rw [Nat.zero_add] at hbound hlast ⊢
    refine (filter_eq_drop_iff hnodup _).mpr fun j record hrecord => ?_
    rw [before, decide_eq_true_eq]
    exact haligned k hk last hlast j record hrecord hbound

end FileSessionCatalog

/-- **Listing a catalog** comes to an end, and has every record once exactly when the pages are
aligned. -/
theorem list_complete_iff (numbers : NumberSyntax N) (collation : Collation) {s : FileSessionCatalog N}
    (h : s.Listed) {limit : Nat} (hlimit : 1 ≤ limit ∧ limit ≤ MAX_CATALOG_PAGE_SIZE) :
    ∃ listed, (∃ fuel, s.listAll numbers collation limit fuel none = some listed) ∧
      ((listed.flatMap SessionCatalogPage.sessions).Perm s.records.values ↔ s.PagesAligned collation limit) := by
  have hstands : s.Stands numbers collation none (s.all collation) := .inl ⟨rfl, rfl⟩
  have hpages : (s.listAll numbers collation limit ((s.all collation).length + 1) none).map _ = _ :=
    FileSessionCatalog.listAll_pages h hlimit hstands
  have hup : Upward before (s.all collation) (s.all collation) := upward_all
  have hsome := pages_isSome before_irrefl before_trans hlimit.1 hup (Nat.lt_succ_self _)
  rw [← hpages, isSome_map] at hsome
  obtain ⟨listed, hlisted⟩ := isSome_iff_exists.mp hsome
  refine ⟨listed, ⟨_, hlisted⟩, ?_⟩
  rw [hlisted] at hpages
  rw [← FileSessionCatalog.pagesAligned_iff h, ← flatten_pages_perm_iff before_trans hlimit.1
    (FileSessionCatalog.nodup_all h) hpages.symm]
  exact ⟨fun hperm => hperm.trans perm_stableSort.symm, fun hperm => hperm.trans perm_stableSort⟩

end

/-! ## Catalogs of two sessions -/

/-- Lower case for the letters of ASCII. -/
def foldCase (u : UInt16) : Nat := if 0x41 ≤ u.toNat ∧ u.toNat ≤ 0x5a then u.toNat + 0x20 else u.toNat

def collationKey (s : JsString) : List Nat ×ₗ List Nat := toLex (s.map foldCase, s.map UInt16.toNat)

theorem collationKey_inj {a b : JsString} (h : collationKey a = collationKey b) : a = b := by
  have hunits : a.map UInt16.toNat = b.map UInt16.toNat := congrArg (fun key => (ofLex key).2) h
  exact List.map_injective_iff.mpr (fun _ _ => UInt16.toNat_inj.mp) hunits

/-- The letters first, whatever their case. -/
def caseless : Collation where
  le a b := decide (collationKey a ≤ collationKey b)
  total a b := by simpa using le_total (collationKey a) (collationKey b)
  trans a b c hab hbc := by
    rw [decide_eq_true_eq] at hab hbc ⊢
    exact hab.trans hbc
  antisymm a b hab hba := by
    rw [decide_eq_true_eq] at hab hba
    exact collationKey_inj (hab.antisymm hba)

/-- A catalog in which two sessions were created. -/
def createdCatalog (first second : String) : Option (FileSessionCatalog Nat) :=
  run (catalogStep ⟨2, 1000, 1000⟩ memoryHost) (FileSessionCatalog.new .empty)
    [.recover (fun _ => []) fun _ => .done, .create (memoryInput (text first) none) (text "t") .done,
      .create (memoryInput (text second) none) (text "t") .done]

theorem list_complete_iff_lower : ∃ s listed, createdCatalog "b" "a" = some s ∧
    (∃ fuel, s.listAll naturals caseless 1 fuel none = some listed) ∧
    (listed.flatMap SessionCatalogPage.sessions).Perm s.records.values := by
  have hids : (createdCatalog "b" "a").map (fun s => (s.all caseless).map SessionCatalogRecord.sessionId) =
      some [text "a", text "b"] := by decide +kernel
  obtain ⟨s, hs, hids⟩ := map_eq_some_iff.mp hids
  have hlisted : s.Listed := FileSessionCatalog.run_listed hs
  obtain ⟨listed, hfuel, hiff⟩ := list_complete_iff naturals caseless hlisted (by decide : 1 ≤ 1 ∧ 1 ≤ 100)
  refine ⟨s, listed, hs, hfuel, hiff.mpr fun k hk last hlast j record hrecord hbound => ?_⟩
  have hlength : (s.all caseless).length = 2 := by
    rw [← List.length_map (f := SessionCatalogRecord.sessionId), hids]
    rfl
  obtain rfl : k = 1 := by omega
  have hfirst : [text "a", text "b"][0]? = some last.sessionId := by
    rw [← hids, List.getElem?_map, mem_def.mp hlast]
    rfl
  have hother : [text "a", text "b"][j]? = some record.sessionId := by
    rw [← hids, List.getElem?_map, mem_def.mp hrecord]
    rfl
  have hfirst' : text "a" = last.sessionId := Option.some.inj hfirst
  rw [← hfirst']
  match j with
  | 0 =>
    have hsame : text "a" = record.sessionId := Option.some.inj hother
    rw [← hsame]
    decide
  | 1 =>
    have hsame : text "b" = record.sessionId := Option.some.inj hother
    rw [← hsame]
    decide
  | j + 2 => cases hother

/-- `B` comes after `a`, but not in the order of the code units. -/
theorem list_loses : (createdCatalog "B" "a").map (fun s =>
    (s.records.values.map SessionCatalogRecord.sessionId, (s.listAll naturals caseless 1 5 none).map fun listed =>
      (listed.flatMap SessionCatalogPage.sessions).map SessionCatalogRecord.sessionId)) =
    some ([text "B", text "a"], some [text "a"]) := by
  decide +kernel

end PiDaemon.Catalog
