import PiDaemon.Lib.PosixPath
import PiDaemon.Lib.Utf8

/-!
# Paths of a tool adapter

A path is given from the root of the adapter.  It is taken when `normalize` keeps it and it has no
`..`; the names of a listing are segments of their own.

* `relative_path_canonical`: which paths are taken, and where they lead.
-/

namespace PiDaemon.ToolAdapter

open Lib

structure ToolAdapterValidationError where
  code : String
  message : String
  field : String
  deriving DecidableEq

def hasControlCharacters (value : JsString) : Bool := value.any fun u => u.toNat ≤ 0x1f || u.toNat = 0x7f

/-- `validateToolAdapterRelativePath` of a string. -/
def validateToolAdapterRelativePath (field : String) (value : JsString) :
    Except ToolAdapterValidationError JsString :=
  let refused := ⟨"invalid_tool_adapter_path",
    "tool-adapter path must be a bounded root-relative POSIX path", field⟩
  if value.length < 1 ∨ 4096 < byteLength value then .error refused
  else if 0 ∈ value ∨ 0x5c ∈ value ∨ hasControlCharacters value ∨ isAbsolute value ∨
      normalizePath value ≠ value ∨ dotdot ∈ segments value then .error refused
  else .ok value

/-- The name of the entry at `index` of a result of `fs.list`. -/
def validateEntryName (index : Nat) (name : JsString) : Except ToolAdapterValidationError JsString :=
  if name.length < 1 ∨ 255 < name.length then
    .error ⟨"invalid_tool_adapter_field", "name must be a bounded string", "name"⟩
  else if name = dot ∨ name = dotdot ∨ slash ∈ name ∨ hasControlCharacters name then
    .error ⟨"invalid_tool_adapter_result", "fs.list entry name must be one safe path segment",
      s!"message.data.entries[{index}].name"⟩
  else .ok name

variable {field : String} {value name : JsString}

theorem validateToolAdapterRelativePath_ok : validateToolAdapterRelativePath field value = .ok value ↔
    byteLength value ≤ 4096 ∧ hasControlCharacters value = false ∧ 0x5c ∉ value ∧ Canonical value := by
  have hzero : hasControlCharacters value = false → 0 ∉ value := by
    intro hcontrol hmem
    have hany : hasControlCharacters value = true := List.any_eq_true.mpr ⟨0, hmem, by decide⟩
    exact absurd (hany.symm.trans hcontrol) Bool.noConfusion
  rw [canonical_iff, validateToolAdapterRelativePath]
  constructor
  · intro h
    split at h
    · cases h
    split at h
    · cases h
    rename_i hlength hshape
    simp only [not_or, Bool.not_eq_true, ne_eq, not_not] at hlength hshape
    obtain ⟨-, hbackslash, hcontrol, hrelative, hnormal, hup⟩ := hshape
    exact ⟨Nat.le_of_not_lt hlength.2, hcontrol, hbackslash, hrelative, hnormal, hup⟩
  · rintro ⟨hbytes, hcontrol, hbackslash, hrelative, hnormal, hup⟩
    have hne : value ≠ [] := by
      rintro rfl
      exact absurd hnormal (by decide)
    rw [if_neg (not_or.mpr ⟨Nat.not_lt.mpr (List.length_pos_of_ne_nil hne), Nat.not_lt.mpr hbytes⟩), if_neg]
    simp only [hzero hcontrol, hbackslash, hcontrol, hrelative, hnormal, hup, Bool.false_eq_true,
      ne_eq, not_true_eq_false, or_self, not_false_eq_true]

theorem validateEntryName_ok {index : Nat} (h : validateEntryName index name = .ok name) :
    IsName name := by
  simp only [validateEntryName] at h
  split at h
  · cases h
  split at h
  · cases h
  rename_i hlength hshape
  simp only [not_or] at hlength hshape
  exact ⟨List.ne_nil_of_length_pos (Nat.lt_of_not_le fun h => hlength.1 (Nat.lt_succ_of_le h)),
    hshape.1, hshape.2.1, hshape.2.2.1⟩

theorem dotdot_not_mem_name (h : IsName name) : dotdot ∉ segments name := by
  rw [segments, List.splitOn_eq_singleton h.no_slash, List.mem_singleton]
  exact Ne.symm h.ne_dotdot

/-- **Accepted paths** are `.`, `./` and lists of names, and no segment of one, or of an accepted name
below it, leads out of the directory that it starts in. -/
theorem relative_path_canonical (field : String) (value : JsString) :
    (validateToolAdapterRelativePath field value = .ok value ↔
      byteLength value ≤ 4096 ∧ hasControlCharacters value = false ∧ 0x5c ∉ value ∧ Canonical value) ∧
    (validateToolAdapterRelativePath field value = .ok value → ∀ root : List JsString,
      (∀ n, root <+: ((segments value).take n).foldl enter root) ∧
        ∀ index name, validateEntryName index name = .ok name →
          root <+: resolvePath (resolvePath root value) name) := by
  refine ⟨validateToolAdapterRelativePath_ok, fun h root => ?_⟩
  obtain ⟨-, -, hup⟩ := canonical_iff.mp (validateToolAdapterRelativePath_ok.mp h).2.2.2
  refine ⟨under_resolve hup root, fun index name hname => ?_⟩
  have hname := dotdot_not_mem_name (validateEntryName_ok hname)
  rw [resolvePath, resolvePath, foldl_enter hname, foldl_enter hup]
  exact (List.prefix_append _ _).trans (List.prefix_append _ _)

/-- `normalize` keeps `./`. -/
theorem dot_slash_accepted :
    validateToolAdapterRelativePath "path" (text "./") = .ok (text "./") ∧ text "./" ≠ dot ∧
      ∀ l, l ≠ [] → (∀ segment ∈ l, IsName segment) →
        text "./" ≠ joinSegments l ∧ text "./" ≠ joinSegments l ++ [slash] := by
  refine ⟨by decide +kernel, by decide, fun l hne h => ⟨fun heq => ?_, fun heq => ?_⟩⟩
  · have hsegments := segments_joinSegments hne h
    rw [← heq] at hsegments
    exact (h dot (hsegments ▸ by decide)).ne_dot rfl
  · have hsegments := segments_joinSegments hne h
    rw [← List.append_cancel_right (show dot ++ [slash] = joinSegments l ++ [slash] from heq)] at hsegments
    exact (h dot (hsegments ▸ by decide)).ne_dot rfl

end PiDaemon.ToolAdapter
