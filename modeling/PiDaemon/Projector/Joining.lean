import PiDaemon.Lib.Mirror
import PiDaemon.Projector.Records

/-!
# Calls of tools and their results

A projection shows the longest chain of parents that ends at the last entry, and on it every call that
has an ID and a name in one record, and every result in one record: that of its call, or its own.

A result is left out for its call as soon as a call has its identity; a call without a name has no
record, and its result is lost.
-/

namespace PiDaemon.Projector

open Lib List Option

section
variable {N : Type} (platform : ProjectorPlatform N) (source : ProjectionSource)

/-! ## What is joined -/

def isCall (block : JsValue N) : Bool := memberIs block "type" "toolCall"

/-- The calls of an entry. -/
def toolCalls (entry : SessionEntry N) : List (JsValue N) :=
  match entry.body with
  | .message message =>
    if memberIs message "role" "assistant" then (arrayValues (message.member "content")).filter isCall else []
  | _ => []

def isIterable : JsValue N → Bool
  | .array _ => true
  | .string _ => true
  | _ => false

/-- An entry that can be read. -/
def Readable (entry : SessionEntry N) : Prop :=
  match entry.body with
  | .message message =>
    isNullish message = false ∧ (memberIs message "role" "assistant" = true →
      isIterable (message.member "content") = true ∧
        ∀ block ∈ arrayValues (message.member "content"), isNullish block = false)
  | _ => True

def callKeys (calls : List (JsValue N)) : List (JsValue N) := calls.map fun block => block.member "id"

def resultKeys (results : List (JsValue N)) : List (JsValue N) := results.map fun message => message.member "toolCallId"

/-- No two identities are the same. -/
def Distinct (keys : List (JsValue N)) : Prop := keys.Pairwise fun a b => sameKey platform a b = false

/-- A branch with calls and results that can be joined. -/
structure Joinable (branch : List (SessionEntry N)) : Prop where
  readable : ∀ entry ∈ branch, Readable entry
  calls : Distinct platform (callKeys (branch.flatMap toolCalls))
  results : Distinct platform (resultKeys (branch.filterMap resultMessage))

/-- The variables of the loop after a branch. -/
def joined (branch : List (SessionEntry N)) : ToolJoin N where
  toolResults := branch.filterMap fun entry =>
    (resultMessage entry).map fun message => (message.member "toolCallId", entry)
  mergedToolCallIds := callKeys (branch.flatMap toolCalls)

variable {platform}

variable (join : ToolJoin N) {block : JsValue N} {key : JsValue N} {entry : SessionEntry N}
  {id : JsString}

theorem sameKey_string {s : JsString} : sameKey platform key (.string s) = true ↔ key = .string s := by
  cases key <;> simp [sameKey]

theorem memberIs_ne {value : JsValue N} {key a b : String} (h : memberIs value key a = true) (hne : text a ≠ text b) :
    memberIs value key b = false := by
  simp only [memberIs, decide_eq_true_eq, decide_eq_false_iff_not] at h ⊢
  rw [h]
  exact fun heq => hne (Option.some.inj heq)

theorem asString_eq_some {value : JsValue N} {s : JsString} : asString value = some s ↔ value = .string s := by
  cases value <;> simp [asString]

theorem Distinct.append_singleton {keys : List (JsValue N)} :
    Distinct platform (keys ++ [key]) ↔ Distinct platform keys ∧ ∀ k ∈ keys, sameKey platform k key = false := by
  simp [Distinct, pairwise_append]

theorem Distinct.of_append {keys rest : List (JsValue N)} (h : Distinct platform (keys ++ rest)) :
    Distinct platform keys := (pairwise_append.mp h).1

theorem merges_eq_false {join : ToolJoin N} :
    join.merges platform key = false ↔ ∀ id ∈ join.mergedToolCallIds, sameKey platform id key = false := by
  simp [ToolJoin.merges]

theorem result_eq_none {join : ToolJoin N} :
    join.result platform key = none ↔ ∀ entry ∈ join.toolResults, sameKey platform entry.1 key = false := by
  simp [ToolJoin.result]

/-- The variables after the blocks of a message. -/
def ToolJoin.withBlocks (join : ToolJoin N) (blocks : List (JsValue N)) : ToolJoin N :=
  { join with mergedToolCallIds := join.mergedToolCallIds ++ callKeys (blocks.filter isCall) }

@[simp] theorem withBlocks_nil : join.withBlocks [] = join := by
  simp [ToolJoin.withBlocks, callKeys]

theorem withBlocks_append (l rest : List (JsValue N)) :
    join.withBlocks (l ++ rest) = (join.withBlocks l).withBlocks rest := by
  simp [ToolJoin.withBlocks, callKeys]

theorem addBlock_eq_ok {join join' : ToolJoin N} (h : Distinct platform join.mergedToolCallIds) :
    join.addBlock platform block = .ok join' ↔
      (isNullish block = false ∧ Distinct platform (join.withBlocks [block]).mergedToolCallIds) ∧
        join' = join.withBlocks [block] := by
  have hcall : memberIs block "type" "toolCall" = isCall block := rfl
  rw [ToolJoin.addBlock, hcall]
  cases hnull : isNullish block with
  | true => simp
  | false =>
    cases hc : isCall block with
    | false => simp [ToolJoin.withBlocks, hc, callKeys, h, @eq_comm _ join']
    | true =>
      simp only [ToolJoin.withBlocks, filter_cons_of_pos hc, filter_nil, callKeys, map_cons,
        map_nil, Distinct.append_singleton, h, ← merges_eq_false, true_and]
      cases join.merges platform (block.member "id") <;> simp [eq_comm]

theorem addBlocks_eq_ok {join join' : ToolJoin N} (h : Distinct platform join.mergedToolCallIds)
    (blocks : List (JsValue N)) :
    blocks.foldlM (fun join block => join.addBlock platform block) join = .ok join' ↔
      ((∀ block ∈ blocks, isNullish block = false) ∧
        Distinct platform (join.withBlocks blocks).mergedToolCallIds) ∧ join' = join.withBlocks blocks := by
  refine foldlM_ok (f := join.withBlocks) (p := fun blocks => (∀ block ∈ blocks, isNullish block = false) ∧
    Distinct platform (join.withBlocks blocks).mergedToolCallIds) (withBlocks_nil join) (by simpa using h) ?_ ?_ blocks
  · intro l block hl
    rw [withBlocks_append] at hl
    exact ⟨fun b hb => hl.1 b (mem_append_left _ hb), hl.2.of_append⟩
  · intro l block join' hl
    rw [addBlock_eq_ok hl.2, withBlocks_append, forall_mem_append, forall_mem_singleton]
    tauto

theorem iterate_eq_ok {value : JsValue N} {blocks : List (JsValue N)} :
    iterate value = .ok blocks ↔ isIterable value = true ∧ blocks = arrayValues value := by
  cases value <;> simp [iterate, isIterable, arrayValues, eq_comm]

/-- What an entry adds to the identities of calls and results. -/
theorem joined_append (branch : List (SessionEntry N)) (entry : SessionEntry N) :
    joined (branch ++ [entry]) =
      { toolResults := (joined branch).toolResults ++
          ((resultMessage entry).map fun message => (message.member "toolCallId", entry)).toList
        mergedToolCallIds := (joined branch).mergedToolCallIds ++ callKeys (toolCalls entry) } := by
  simp [joined, callKeys, filterMap_append, filterMap_cons]
  cases resultMessage entry <;> rfl

theorem resultKeys_joined (branch : List (SessionEntry N)) :
    (joined branch).toolResults.map Prod.fst = resultKeys (branch.filterMap resultMessage) := by
  simp [joined, resultKeys, map_filterMap, Function.comp_def]

theorem joinable_append {branch : List (SessionEntry N)} :
    Joinable platform (branch ++ [entry]) ↔
      Joinable platform branch ∧ Readable entry ∧
        Distinct platform ((joined branch).mergedToolCallIds ++ callKeys (toolCalls entry)) ∧
        ∀ message, resultMessage entry = some message →
          (joined branch).result platform (message.member "toolCallId") = none := by
  have hcalls : callKeys ((branch ++ [entry]).flatMap toolCalls) =
      (joined branch).mergedToolCallIds ++ callKeys (toolCalls entry) := by
    simp [joined, callKeys]
  have hresults : Distinct platform (resultKeys ((branch ++ [entry]).filterMap resultMessage)) ↔
      Distinct platform (resultKeys (branch.filterMap resultMessage)) ∧ ∀ message, resultMessage entry = some message →
        (joined branch).result platform (message.member "toolCallId") = none := by
    rw [filterMap_append]
    cases hmessage : resultMessage entry with
    | none => simp [hmessage]
    | some =>
      simp only [filterMap_cons, hmessage, filterMap_nil, resultKeys, map_append, map_cons,
        map_nil, Distinct.append_singleton, Option.some.injEq, forall_eq', result_eq_none]
      rw [show List.map _ _ = resultKeys (branch.filterMap resultMessage) from rfl, ← resultKeys_joined,
        List.forall_mem_map]
  constructor
  · rintro ⟨hreadable, hc, hr⟩
    rw [hcalls] at hc
    rw [hresults] at hr
    exact ⟨⟨fun e he => hreadable e (mem_append_left _ he), hc.of_append, hr.1⟩,
      hreadable entry (mem_append_right _ mem_cons_self), hc, hr.2⟩
  · rintro ⟨hbranch, hentry, hc, hr⟩
    refine ⟨fun e he => ?_, hcalls ▸ hc, hresults.mpr ⟨hbranch.results, hr⟩⟩
    rw [mem_append, mem_singleton] at he
    rcases he with he | rfl
    · exact hbranch.readable e he
    · exact hentry

theorem Joinable.distinct_calls {branch : List (SessionEntry N)} (h : Joinable platform branch) :
    Distinct platform (joined branch).mergedToolCallIds := h.calls

theorem addEntry_eq_ok {branch : List (SessionEntry N)} (h : Joinable platform branch) {join : ToolJoin N} :
    (joined branch).addEntry platform entry = .ok join ↔
      Joinable platform (branch ++ [entry]) ∧ join = joined (branch ++ [entry]) := by
  rw [joinable_append, joined_append, ToolJoin.addEntry]
  cases hbody : entry.body with
  | message message =>
    simp only [Readable, toolCalls, resultMessage, hbody]
    cases hnull : isNullish message with
    | true => simp
    | false =>
      cases hresult : memberIs message "role" "toolResult" with
      | true =>
        have hassistant := memberIs_ne (b := "assistant") hresult (by decide)
        cases hfound : (joined branch).result platform (message.member "toolCallId") <;>
          simp [hassistant, hfound, callKeys, h, h.distinct_calls, @eq_comm _ join]
      | false =>
        cases hassistant : memberIs message "role" "assistant" with
        | false => simp [callKeys, h, h.distinct_calls, @eq_comm _ join]
        | true =>
          simp only [Bool.false_eq_true, if_false, if_true, bind_ok, h, addBlocks_eq_ok h.distinct_calls]
          simp only [iterate_eq_ok, ToolJoin.withBlocks]
          constructor
          · rintro ⟨_, ⟨hiterable, rfl⟩, ⟨hnonnull, hdistinct⟩, rfl⟩
            simpa [hiterable, hdistinct] using hnonnull
          · rintro ⟨⟨-, ⟨-, hread⟩, hdistinct, -⟩, heq⟩
            exact ⟨_, ⟨(hread trivial).1, rfl⟩, ⟨(hread trivial).2, hdistinct⟩, by simpa using heq⟩
  | _ => simp [Readable, toolCalls, resultMessage, hbody, callKeys, h, h.distinct_calls, @eq_comm _ join]

theorem joinTools_eq_ok {branch : List (SessionEntry N)} {join : ToolJoin N} :
    joinTools platform branch = .ok join ↔ Joinable platform branch ∧ join = joined branch :=
  foldlM_ok (f := joined) rfl ⟨by simp, by simp [Distinct, callKeys], by simp [Distinct, resultKeys]⟩
    (fun h => (joinable_append.mp h).1) (fun h => addEntry_eq_ok h) branch

/-! ## The records of a branch -/

/-- The call of a record of a tool. -/
def TranscriptRecord.toolCallId (record : TranscriptRecord N) : Option JsString :=
  match record.body with
  | .tool toolCallId _ _ _ _ _ => some toolCallId
  | _ => none

/-- The identity of a call that has a record. -/
def callId (block : JsValue N) : Option JsString :=
  if isCall block && (asString (block.member "name")).isSome then asString (block.member "id") else none

def resultId (entry : SessionEntry N) : Option JsString :=
  (resultMessage entry).bind fun message => asString (message.member "toolCallId")

variable (platform)

/-- The records of an entry. -/
def recordsOf (join : ToolJoin N) (entry : SessionEntry N) : List (TranscriptRecord N) :=
  ((projectEntry platform source join entry).toOption).getD []

/-- The records of the calls and the result of an entry. -/
def toolRecords (join : ToolJoin N) (entry : SessionEntry N) : List (TranscriptRecord N) :=
  match entry.body with
  | .message message =>
    if memberIs message "role" "assistant" then
      (arrayValues (message.member "content")).filterMap (callRecord platform source join entry)
    else if memberIs message "role" "toolResult" then projectToolResult platform source join entry message
    else []
  | _ => []

def isKnown (entry : SessionEntry N) : Bool :=
  match entry.body with
  | .other => false
  | _ => true

/-- A branch that is not refused. -/
structure Accepted (branch : List (SessionEntry N)) : Prop extends Joinable platform branch where
  known : ∀ entry ∈ branch, isKnown entry = true

/-- The kinds of the records that are no tool's. -/
def entryKinds : List String := ["entry:", "summary:", "timeline:", "custom:"]

/-- A record of an entry that is no tool's. -/
def IsOwn (entry : SessionEntry N) (record : TranscriptRecord N) : Prop :=
  record.toolCallId = none ∧ ∃ kind ∈ entryKinds, record.recordId = text kind ++ entry.id

/-- A record of a tool. -/
def IsTool (record : TranscriptRecord N) : Prop :=
  ∃ id, record.toolCallId = some id ∧ record.recordId = text "tool:" ++ id

variable {platform}

section
variable (entry)

theorem recordsOf_eq :
    ∃ own : Option (TranscriptRecord N), (∀ record ∈ own, IsOwn entry record) ∧
      recordsOf platform source join entry = own.toList ++ toolRecords platform source join entry := by
  have hentry (role : MessageRole) (content : List (TranscriptContentBlock N)) (state : MessageState) :
      IsOwn entry (messageRecord entry role content state) := ⟨rfl, "entry:", by decide, rfl⟩
  have htimeline (event : TimelineEvent) (label : Option JsString) (data : JsMembers N) :
      IsOwn entry (timeline entry event label data) := ⟨rfl, "timeline:", by decide, rfl⟩
  unfold recordsOf toolRecords projectEntry
  cases hbody : entry.body with
  | message =>
    simp only [Except.toOption, Option.getD, projectMessageEntry]
    split
    · rw [projectAssistant]
      split
      · exact ⟨none, by simp, rfl⟩
      · exact ⟨some _, by simp [hentry], rfl⟩
    · split
      · exact ⟨none, by simp, rfl⟩
      split
      · exact ⟨some _, by simp [htimeline], rfl⟩
      · exact ⟨some _, by simp [hentry], rfl⟩
  | compaction summary | branchSummary summary =>
    exact ⟨some _, by simpa using ⟨rfl, "summary:", by decide, rfl⟩, rfl⟩
  | customMessage =>
    exact ⟨some _, by simpa using ⟨rfl, "custom:", by decide, rfl⟩, rfl⟩
  | custom => exact ⟨some _, by simpa using ⟨rfl, "custom:", by decide, rfl⟩, rfl⟩
  | other => exact ⟨none, by simp, rfl⟩
  | _ => exact ⟨some _, by simp [htimeline], rfl⟩

theorem isRecord_of_call (h : isCall block = true) : isRecord block = true := by
  cases block with
  | object => rfl
  | _ => simp [isCall, memberIs, JsValue.member, asString] at h

theorem callId_eq_some :
    callId block = some id ↔ isCall block = true ∧ block.member "id" = .string id ∧
      ∃ name, asString (block.member "name") = some name := by
  simp [callId, isSome_iff_exists, asString_eq_some, and_assoc, and_comm (a := ∃ name, _)]

theorem callRecord_eq (block : JsValue N) :
    (callRecord platform source join entry block = none ∧ callId block = none) ∨
      ∃ id name state content details,
        callId block = some id ∧ asString (block.member "name") = some name ∧
        callRecord platform source join entry block =
          some (toolRecord entry id name state (callArguments platform source block) content details) ∧
        ∀ result message, join.result platform (.string id) = some result → resultMessage result = some message →
          state = resultState message ∧ content = contentBlocks platform source (message.member "content") result.id ∧
          details = resultDetails platform source message := by
  rw [callRecord]
  split
  · rename_i hcall
    have hblock : isCall block = true := (Bool.and_eq_true_iff.mp hcall).2
    split
    · rename_i id name hid hname
      have hcallId : callId block = some id := callId_eq_some.mpr ⟨hblock, asString_eq_some.mp hid, name, hname⟩
      split
      · rename_i hnone
        refine .inr ⟨id, name, .pending, [], none, hcallId, hname, rfl, fun result message hresult hmessage => ?_⟩
        rw [hresult, bind_some, hmessage] at hnone
        cases hnone
      · rename_i found shown hsome
        obtain ⟨result, hresult, hmessage⟩ := bind_eq_some_iff.mp hsome
        obtain ⟨message, hmessage, heq⟩ := map_eq_some_iff.mp hmessage
        cases heq
        refine .inr ⟨id, name, _, _, _, hcallId, hname, rfl, fun other message hother hshown => ?_⟩
        rw [hresult] at hother
        cases hother
        rw [hmessage] at hshown
        cases hshown
        exact ⟨rfl, rfl, rfl⟩
    · rename_i hnone
      refine .inl ⟨rfl, eq_none_iff_forall_ne_some.mpr fun id hid => ?_⟩
      obtain ⟨-, hid, name, hname⟩ := callId_eq_some.mp hid
      exact hnone id name (asString_eq_some.mpr hid) hname
  · rename_i hcall
    refine .inl ⟨rfl, eq_none_iff_forall_ne_some.mpr fun id hid => ?_⟩
    exact hcall (Bool.and_eq_true_iff.mpr ⟨isRecord_of_call (callId_eq_some.mp hid).1, (callId_eq_some.mp hid).1⟩)

theorem toolCallId_callRecord (block : JsValue N) :
    (callRecord platform source join entry block).bind TranscriptRecord.toolCallId = callId block := by
  rcases callRecord_eq source join entry block with ⟨hrecord, hid⟩ | ⟨_, _, _, _, _, hid, -, hrecord, -⟩
  · rw [hrecord, hid]
    rfl
  · rw [hrecord, hid]
    rfl

end

theorem find?_of_distinct {B : Type} {l : List (JsValue N × B)} (hl : Distinct platform (l.map Prod.fst)) {b : B}
    (hb : (.string id, b) ∈ l) :
    l.find? (fun entry => sameKey platform entry.1 (.string id)) = some (.string id, b) := by
  induction l with
  | nil => cases hb
  | cons x l ih =>
    obtain ⟨hx, hl⟩ := pairwise_cons.mp hl
    rw [mem_cons] at hb
    rcases hb with rfl | hb
    · have hkey : sameKey platform (.string id) (.string id) = true := sameKey_string.mpr rfl
      simp [hkey]
    · have hne := hx (.string id) (List.mem_map_of_mem hb)
      rw [List.find?_cons_of_neg (by simp [hne]), ih hl hb]

theorem result_joined {branch : List (SessionEntry N)} (h : Joinable platform branch) (hentry : entry ∈ branch)
    (hid : resultId entry = some id) : (joined branch).result platform (.string id) = some entry := by
  obtain ⟨_, hmessage, hid⟩ := bind_eq_some_iff.mp hid
  have hmem : (JsValue.string id, entry) ∈ (joined branch).toolResults := by
    rw [joined, mem_filterMap]
    exact ⟨entry, hentry, by rw [hmessage, map_some, asString_eq_some.mp hid]⟩
  rw [ToolJoin.result, find?_of_distinct (by rw [resultKeys_joined]; exact h.results) hmem]
  rfl

theorem toolCallIds_toolRecords {branch : List (SessionEntry N)} (h : Joinable platform branch)
    (hentry : entry ∈ branch) :
    (toolRecords platform source (joined branch) entry).filterMap TranscriptRecord.toolCallId =
      (toolCalls entry).filterMap callId ++
        ((resultId entry).filter fun id => !(joined branch).merges platform (.string id)).toList := by
  unfold toolRecords toolCalls
  cases hbody : entry.body with
  | message message =>
    cases hassistant : memberIs message "role" "assistant" with
    | true =>
      have hresult : resultId entry = none := by
        simp [resultId, resultMessage, hbody, memberIs_ne (b := "toolResult") hassistant (by decide)]
      have hcalls : (fun block => (callRecord platform source (joined branch) entry block).bind
          TranscriptRecord.toolCallId) = callId := funext (toolCallId_callRecord source _ entry)
      have hfilter : (fun block => if isCall block = true then callId block else none) = (callId (N := N)) := by
        funext block
        cases hcall : isCall block <;> simp [callId, hcall]
      simp [hassistant, hresult, filterMap_filterMap, filterMap_filter, hcalls, hfilter]
    | false =>
      cases htool : memberIs message "role" "toolResult" with
      | false => simp [resultId, resultMessage, hbody, hassistant, htool]
      | true =>
        have hid : resultId entry = asString (message.member "toolCallId") := by
          simp [resultId, resultMessage, hbody, htool]
        simp only [hassistant, htool, Bool.false_eq_true, if_false, if_true, hid, projectToolResult]
        cases hcase : asString (message.member "toolCallId") with
        | none => simp
        | some id =>
          have hresult := result_joined h hentry (hid.trans hcase)
          cases hmerges : (joined branch).merges platform (.string id) <;>
            simp [hmerges, hresult, toolRecord, TranscriptRecord.toolCallId, Option.filter]
  | _ => simp [resultId, resultMessage, hbody]

theorem isTool_toolRecords (entry : SessionEntry N) :
    ∀ record ∈ toolRecords platform source join entry, IsTool record := by
  intro record hrecord
  unfold toolRecords at hrecord
  split at hrecord
  · split at hrecord
    · obtain ⟨block, -, hblock⟩ := mem_filterMap.mp hrecord
      rcases callRecord_eq source join entry block with ⟨hnone, -⟩ | ⟨id, _, _, _, _, -, -, hsome, -⟩
      · rw [hnone] at hblock
        cases hblock
      rw [hsome] at hblock
      cases hblock
      exact ⟨id, rfl, rfl⟩
    · split at hrecord
      · unfold projectToolResult at hrecord
        split at hrecord
        · cases hrecord
        split at hrecord
        · cases hrecord
        · rw [mem_singleton] at hrecord
          exact hrecord ▸ ⟨_, rfl, rfl⟩
      · cases hrecord
  · cases hrecord

variable {branch : List (SessionEntry N)}

variable (platform) in
/-- The records of a branch. -/
def records (branch : List (SessionEntry N)) : List (TranscriptRecord N) :=
  branch.flatMap (recordsOf platform source (joined branch))

theorem merges_callKeys :
    (joined branch).merges platform (.string id) = true ↔ .string id ∈ callKeys (branch.flatMap toolCalls) := by
  rw [ToolJoin.merges, List.any_eq_true]
  constructor
  · rintro ⟨_, hkey, hsame⟩
    exact sameKey_string.mp hsame ▸ hkey
  · exact fun hmem => ⟨_, hmem, sameKey_string.mpr rfl⟩

/-- No two records of a branch are of one call. -/
theorem nodup_toolCallIds (h : Joinable platform branch) :
    ((records platform source branch).filterMap TranscriptRecord.toolCallId).Nodup := by
  have hids : (records platform source branch).filterMap TranscriptRecord.toolCallId =
      branch.flatMap fun entry => (toolCalls entry).filterMap callId ++
        ((resultId entry).filter fun id => !(joined branch).merges platform (.string id)).toList := by
    rw [records, filterMap_flatMap]
    refine flatMap_congr fun entry hentry => ?_
    obtain ⟨_, hown, heq⟩ := recordsOf_eq source (joined branch) entry
    rw [heq, filterMap_append, toolCallIds_toolRecords source h hentry, filterMap_eq_nil_iff.mpr, nil_append]
    exact fun record hrecord => (hown record (mem_toList.mp hrecord)).1
  rw [hids, ← (flatMap_append_perm _ _ _).nodup_iff, nodup_append', ← filterMap_flatMap,
    ← filterMap_eq_flatMap_toList, ← filter_filterMap]
  refine ⟨?_, List.Nodup.filter _ ?_, ?_⟩
  · rw [List.Nodup, pairwise_filterMap]
    refine (pairwise_map.mp h.calls).imp fun {a b} hne id ha id' hb heq => ?_
    rw [(callId_eq_some.mp ha).2.1, (callId_eq_some.mp hb).2.1, heq, sameKey_string.mpr rfl] at hne
    cases hne
  · have hresults := pairwise_map.mp h.results
    rw [pairwise_filterMap] at hresults
    rw [List.Nodup, pairwise_filterMap]
    refine hresults.imp fun {a b} hne id ha id' hb heq => ?_
    obtain ⟨message, hmessage, hid⟩ := bind_eq_some_iff.mp ha
    obtain ⟨message', hmessage', hid'⟩ := bind_eq_some_iff.mp hb
    have hsame := hne message hmessage message' hmessage'
    rw [asString_eq_some.mp hid, asString_eq_some.mp hid', heq, sameKey_string.mpr rfl] at hsame
    cases hsame
  · intro id hcall hresult
    obtain ⟨block, hblock, hid⟩ := mem_filterMap.mp hcall
    have hmerges : (joined branch).merges platform (.string id) = true :=
      merges_callKeys.mpr (List.mem_map.mpr ⟨block, hblock, (callId_eq_some.mp hid).2.1⟩)
    rw [mem_filter, hmerges] at hresult
    cases hresult.2

theorem filter_toolCallId (h : Joinable platform branch) {record : TranscriptRecord N}
    (hrecord : record ∈ records platform source branch) (hid : record.toolCallId = some id) :
    (records platform source branch).filter (fun other => other.toolCallId = some id) = [record] :=
  filter_eq_singleton (nodup_toolCallIds source h) hrecord hid

/-! ## The identities of records -/

theorem kind_inj {kind kind' : String} (hkind : kind ∈ "tool:" :: entryKinds) (hkind' : kind' ∈ "tool:" :: entryKinds)
    {s t : JsString} (h : text kind ++ s = text kind' ++ t) : kind = kind' ∧ s = t := by
  have hsplit : ∀ kind ∈ "tool:" :: entryKinds,
      text kind = (text kind).dropLast ++ [0x3a] ∧ 0x3a ∉ (text kind).dropLast := by decide +kernel
  have hinj : ∀ kind ∈ "tool:" :: entryKinds, ∀ kind' ∈ "tool:" :: entryKinds,
      (text kind).dropLast = (text kind').dropLast → kind = kind' := by decide +kernel
  rw [(hsplit kind hkind).1, (hsplit kind' hkind').1, append_assoc, append_assoc] at h
  obtain ⟨hstem, heq⟩ := append_separator_inj (hsplit kind hkind).2 (hsplit kind' hkind').2 h
  exact ⟨hinj kind hkind kind' hkind' hstem, heq⟩

theorem recordId_ne {entry entry' : SessionEntry N} {record record' : TranscriptRecord N}
    (h : IsOwn entry record ∨ IsTool record) (h' : IsOwn entry' record' ∨ IsTool record')
    (htool : ∀ id, record.toolCallId = some id → record'.toolCallId ≠ some id)
    (hown : record.toolCallId = none → record'.toolCallId = none → entry.id ≠ entry'.id) :
    record.recordId ≠ record'.recordId := by
  intro heq
  rcases h with ⟨hnone, kind, hkind, hid⟩ | ⟨id, hsome, hid⟩ <;>
    rcases h' with ⟨hnone', kind', hkind', hid'⟩ | ⟨id', hsome', hid'⟩ <;> rw [hid, hid'] at heq
  · exact hown hnone hnone' (kind_inj (mem_cons_of_mem _ hkind) (mem_cons_of_mem _ hkind') heq).2
  · have hkinds := (kind_inj (mem_cons_of_mem _ hkind) mem_cons_self heq).1
    exact absurd (hkinds ▸ hkind) (by decide)
  · have hkinds := (kind_inj mem_cons_self (mem_cons_of_mem _ hkind') heq).1
    exact absurd (hkinds ▸ hkind') (by decide)
  · have hids := (kind_inj mem_cons_self mem_cons_self heq).2
    exact htool id hsome (hids ▸ hsome')

theorem nodup_recordIds (h : Joinable platform branch) (hids : (branch.map SessionEntry.id).Nodup) :
    ((records platform source branch).map TranscriptRecord.recordId).Nodup := by
  have hkinds (entry : SessionEntry N) : ∀ record ∈ recordsOf platform source (joined branch) entry,
      IsOwn entry record ∨ IsTool record := by
    obtain ⟨own, hown, heq⟩ := recordsOf_eq source (joined branch) entry
    rw [heq]
    intro record hrecord
    rw [mem_append, mem_toList] at hrecord
    exact hrecord.imp (hown record) (isTool_toolRecords source _ entry record)
  have htools := nodup_toolCallIds source h
  rw [records, List.Nodup, pairwise_filterMap, pairwise_flatMap] at htools
  rw [records, List.Nodup, pairwise_map, pairwise_flatMap]
  have htool {record record' : TranscriptRecord N} (hne : ∀ id, record.toolCallId = some id →
      ∀ id', record'.toolCallId = some id' → id ≠ id') : ∀ id, record.toolCallId = some id → record'.toolCallId ≠ some id :=
    fun id hid hid' => hne id hid id hid' rfl
  refine ⟨fun entry hentry => ?_, ?_⟩
  · have hentries := htools.1 entry hentry
    obtain ⟨own, hown, heq⟩ := recordsOf_eq source (joined branch) entry
    have hkind := hkinds entry
    have hcall {record : TranscriptRecord N} (hrecord : record ∈ toolRecords platform source (joined branch) entry)
        (hnone : record.toolCallId = none) : False := by
      obtain ⟨id, hsome, -⟩ := isTool_toolRecords source _ entry record hrecord
      rw [hnone] at hsome
      cases hsome
    rw [heq] at hkind hentries ⊢
    rw [pairwise_append] at hentries ⊢
    refine ⟨by cases own <;> simp, hentries.2.1.imp_of_mem fun {record record'} hrecord hrecord' hne => ?_,
      fun record hrecord record' hrecord' => ?_⟩
    · exact recordId_ne (hkind record (mem_append_right _ hrecord)) (hkind record' (mem_append_right _ hrecord'))
        (htool hne) fun hnone => (hcall hrecord hnone).elim
    · exact recordId_ne (hkind record (mem_append_left _ hrecord)) (hkind record' (mem_append_right _ hrecord'))
        (htool (hentries.2.2 record hrecord record' hrecord')) fun _ hnone => (hcall hrecord' hnone).elim
  · refine ((pairwise_map.mp hids).and htools.2).imp fun {entry entry'} hne record hrecord record' hrecord' => ?_
    exact recordId_ne (hkinds entry record hrecord) (hkinds entry' record' hrecord')
      (htool (hne.2 record hrecord record' hrecord')) fun _ _ => hne.1

/-! ## The branch -/

/-- The longest chain of parents that ends at the last entry. -/
structure IsBranch (entries branch : List (SessionEntry N)) (truncated : Bool) : Prop where
  linked : LinkedFrom (byId entries) SessionEntry.parentId (entries.getLast?.map SessionEntry.id) branch.reverse
  nodup : (branch.map SessionEntry.id).Nodup
  longest : ∀ chain : List (SessionEntry N),
    LinkedFrom (byId entries) SessionEntry.parentId (entries.getLast?.map SessionEntry.id) chain.reverse →
    (chain.map SessionEntry.id).Nodup → chain <:+ branch
  truncated_iff : truncated = true ↔
    ∃ parent, lastLink SessionEntry.parentId (entries.getLast?.map SessionEntry.id) branch.reverse = some parent ∧
      (parent ∉ entries.map SessionEntry.id ∨ parent ∈ branch.map SessionEntry.id)

theorem identities_byId (entries : List (SessionEntry N)) : Identities SessionEntry.id (byId entries) entries where
  id_of_find h := by
    simpa using List.find?_some h
  mem_of_find h := mem_reverse.mp (List.mem_of_find?_eq_some h)

theorem byId_eq_none {entries : List (SessionEntry N)} :
    byId entries id = none ↔ id ∉ entries.map SessionEntry.id := by
  simp [byId]

theorem isBranch_activeBranch (entries : List (SessionEntry N)) :
    IsBranch entries (activeBranch entries).1 (activeBranch entries).2 := by
  have hids := identities_byId entries
  constructor
  · rw [activeBranch, reverse_reverse]
    exact (walk_linked hids _ _ _).1
  · rw [activeBranch, map_reverse, nodup_reverse]
    exact (walk_linked hids _ [] _).2 nodup_nil
  · intro chain hchain hnodup
    rw [activeBranch, ← reverse_prefix, reverse_reverse]
    refine walk_longest hids hchain ?_ (fun i hi => by cases hi) (Nat.lt_succ_self _)
    rwa [reverse_nil, nil_append, map_reverse, nodup_reverse]
  · rw [activeBranch]
    refine (walk_cut hids _ nodup_nil (fun i hi => by cases hi) (Nat.lt_succ_self _)).trans ?_
    simp [byId_eq_none]

theorem projectBranch_eq_ok {entries : List (SessionEntry N)} {out : ProjectedBranch N} :
    projectBranch platform source entries = .ok out ↔
      Accepted platform (activeBranch entries).1 ∧
        out = ⟨(activeBranch entries).1, (activeBranch entries).2, records platform source (activeBranch entries).1⟩ := by
  have hknown (join : ToolJoin N) (entry : SessionEntry N) : isKnown entry = true ↔
      projectEntry platform source join entry = .ok (recordsOf platform source join entry) := by
    unfold isKnown recordsOf projectEntry
    cases entry.body <;> simp [Except.toOption]
  have hrecords (join : ToolJoin N) (branch : List (SessionEntry N)) {lists : List (List (TranscriptRecord N))} :
      branch.map (projectEntry platform source join) = lists.map .ok ↔
        (∀ entry ∈ branch, isKnown entry = true) ∧ lists = branch.map (recordsOf platform source join) := by
    constructor
    · intro heq
      have hlists : lists = branch.map (recordsOf platform source join) := by
        have hread := congrArg (List.map fun result => (Except.toOption result).getD []) heq
        rw [List.map_map, List.map_map] at hread
        exact (List.map_id' lists).symm.trans hread.symm
      subst hlists
      rw [List.map_map, map_inj_left] at heq
      exact ⟨fun entry hentry => (hknown join entry).mpr (heq entry hentry), rfl⟩
    · rintro ⟨hall, rfl⟩
      rw [List.map_map, map_inj_left]
      exact fun entry hentry => (hknown join entry).mp (hall entry hentry)
  simp only [projectBranch, bind_ok, joinTools_eq_ok, list_mapM_ok, hrecords]
  constructor
  · rintro ⟨_, ⟨hjoinable, rfl⟩, _, ⟨hall, rfl⟩, hout⟩
    cases hout
    exact ⟨⟨hjoinable, hall⟩, rfl⟩
  · rintro ⟨haccepted, rfl⟩
    exact ⟨_, ⟨haccepted.toJoinable, rfl⟩, _, ⟨haccepted.known, rfl⟩, rfl⟩

/-- What a projection shows of the calls and the results of its branch. -/
structure Complete (platform : ProjectorPlatform N) (source : ProjectionSource) (out : ProjectedBranch N) : Prop where
  calls : ∀ entry ∈ out.branch, ∀ block ∈ toolCalls entry, ∀ id name,
    block.member "id" = .string id → block.member "name" = .string name →
    ∃ record, out.records.filter (fun other => other.toolCallId = some id) = [record] ∧ record.entryId = entry.id ∧
      ∃ state content details,
        record.body = .tool id name state (callArguments platform source block) content details
  results : ∀ entry ∈ out.branch, ∀ message, resultMessage entry = some message → ∀ id,
    message.member "toolCallId" = .string id →
    (∀ other ∈ out.branch, ∀ block ∈ toolCalls other, block.member "id" = .string id →
      ∃ name, block.member "name" = .string name) →
    ∃ record, out.records.filter (fun other => other.toolCallId = some id) = [record] ∧
      ∃ name arguments, record.body = .tool id name (resultState message) arguments
        (contentBlocks platform source (message.member "content") entry.id) (resultDetails platform source message)
  recordIds : (out.records.map TranscriptRecord.recordId).Nodup

theorem mem_records (hentry : entry ∈ branch) {record : TranscriptRecord N}
    (hrecord : record ∈ toolRecords platform source (joined branch) entry) :
    record ∈ records platform source branch := by
  obtain ⟨_, -, heq⟩ := recordsOf_eq source (joined branch) entry
  exact mem_flatMap.mpr ⟨entry, hentry, heq ▸ mem_append_right _ hrecord⟩

theorem call_shown (hentry : entry ∈ branch) (hblock : block ∈ toolCalls entry) {id name : JsString}
    (hid : block.member "id" = .string id) (hname : block.member "name" = .string name) :
    ∃ state content details,
      toolRecord entry id name state (callArguments platform source block) content details ∈
        records platform source branch ∧
      ∀ result message, (joined branch).result platform (.string id) = some result → resultMessage result = some message →
        state = resultState message ∧ content = contentBlocks platform source (message.member "content") result.id ∧
          details = resultDetails platform source message := by
  unfold toolCalls at hblock
  cases hbody : entry.body with
  | message =>
    simp only [hbody] at hblock
    split at hblock
    · rename_i hassistant
      obtain ⟨hvalues, hcall⟩ := mem_filter.mp hblock
      have hcallId := callId_eq_some.mpr ⟨hcall, hid, name, asString_eq_some.mpr hname⟩
      rcases callRecord_eq source (joined branch) entry block with ⟨-, hnone⟩ |
        ⟨id', name', state, content, details, hid', hname', hrecord, hshows⟩
      · rw [hcallId] at hnone
        cases hnone
      rw [hcallId] at hid'
      rw [asString_eq_some.mpr hname] at hname'
      cases hid'
      cases hname'
      refine ⟨state, content, details, mem_records source hentry ?_, hshows⟩
      simp only [toolRecords, hbody, hassistant, if_true]
      exact mem_filterMap.mpr ⟨block, hvalues, hrecord⟩
    · cases hblock
  | _ => simp [hbody] at hblock

theorem result_shown (h : Joinable platform branch) (hentry : entry ∈ branch) {message : JsValue N}
    (hmessage : resultMessage entry = some message) (hid : message.member "toolCallId" = .string id)
    (hnamed : ∀ other ∈ branch, ∀ block ∈ toolCalls other, block.member "id" = .string id →
      ∃ name, block.member "name" = .string name) :
    ∃ shown name arguments, toolRecord shown id name (resultState message) arguments
      (contentBlocks platform source (message.member "content") entry.id) (resultDetails platform source message) ∈
        records platform source branch := by
  have hresultId : resultId entry = some id := by rw [resultId, hmessage, bind_some, asString_eq_some.mpr hid]
  have hresult := result_joined h hentry hresultId
  cases hmerges : (joined branch).merges platform (.string id) with
  | true =>
    obtain ⟨block, hblock, hkey⟩ := List.mem_map.mp (merges_callKeys.mp hmerges)
    obtain ⟨other, hother, hblock⟩ := mem_flatMap.mp hblock
    obtain ⟨name, hname⟩ := hnamed other hother block hblock hkey
    obtain ⟨_, content, _, hmem, hshows⟩ := call_shown source hother hblock hkey hname
    obtain ⟨rfl, rfl, rfl⟩ := hshows entry message hresult hmessage
    exact ⟨other, name, _, hmem⟩
  | false =>
    refine ⟨entry, (asString (message.member "toolName")).getD (text "unknown"), none, mem_records source hentry ?_⟩
    unfold resultMessage at hmessage
    cases hbody : entry.body with
    | message =>
      simp only [hbody] at hmessage
      obtain ⟨hrole, rfl⟩ := ite_some_none_eq_some.mp hmessage
      simp [toolRecords, hbody, memberIs_ne (b := "assistant") hrole (by decide), hrole, projectToolResult,
        asString_eq_some.mpr hid, hmerges]
    | _ => simp [hbody] at hmessage

theorem complete (h : Joinable platform branch) (hids : (branch.map SessionEntry.id).Nodup) (truncated : Bool) :
    Complete platform source ⟨branch, truncated, records platform source branch⟩ where
  calls entry hentry block hblock id name hid hname := by
    obtain ⟨state, content, details, hmem, -⟩ := call_shown source hentry hblock hid hname
    exact ⟨_, filter_toolCallId source h hmem rfl, rfl, state, content, details, rfl⟩
  results entry hentry message hmessage id hid hnamed := by
    obtain ⟨_, name, arguments, hmem⟩ := result_shown source h hentry hmessage hid hnamed
    exact ⟨_, filter_toolCallId source h hmem rfl, name, arguments, rfl⟩
  recordIds := nodup_recordIds source h hids

end

/-! ## A call without a name -/

def plainPlatform : ProjectorPlatform Nat where
  numbers := naturals
  sha256 _ := []
  isNonNegative _ := true
  sameNumber m n := m = n

/-- A message with a call that has no name. -/
def namelessCall : SessionEntry Nat where
  id := text "one"
  parentId := none
  timestamp := text "now"
  body := .message <| .object <|
    .cons (text "role") (.string (text "assistant")) <| .cons (text "content")
      (.array (.cons (.object (.cons (text "type") (.string (text "toolCall")) <|
        .cons (text "id") (.string (text "call")) .nil)) .nil)) .nil

end PiDaemon.Projector
