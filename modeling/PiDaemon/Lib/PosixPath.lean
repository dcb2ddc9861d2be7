import PiDaemon.Lib.Splitting

/-!
# POSIX paths

`normalize` of a path, and the directory that a path leads to.

* `canonical_iff`: the relative paths that are their own normal form and do not go up;
* `under_resolve`: such a path leads nowhere but down.
-/

namespace PiDaemon.Lib

open List

/-- `/` -/
def slash : UInt16 := 0x2f

/-- `.` -/
def dot : JsString := [0x2e]

/-- `..` -/
def dotdot : JsString := [0x2e, 0x2e]

def segments (path : JsString) : List JsString := path.splitOn slash

def joinSegments (l : List JsString) : JsString := [slash].intercalate l

def isAbsolute (path : JsString) : Bool := path.head? = some slash

/-- One segment of a path: an empty one and `.` are dropped, and `..` takes the one before it away. -/
def normalizeSegment (absolute : Bool) (kept : List JsString) (segment : JsString) : List JsString :=
  if segment = [] ∨ segment = dot then kept
  else if segment = dotdot then
    match kept.getLast? with
    | none => if absolute then [] else [dotdot]
    | some last => if last = dotdot then kept ++ [dotdot] else kept.dropLast
  else kept ++ [segment]

def normalizePath (path : JsString) : JsString :=
  if path = [] then dot
  else
    let trailing := path.getLast? = some slash
    let body := joinSegments ((segments path).foldl (normalizeSegment (isAbsolute path)) [])
    if body = [] then
      if isAbsolute path then [slash] else if trailing then dot ++ [slash] else dot
    else (if isAbsolute path then [slash] else []) ++ body ++ if trailing then [slash] else []

/-- A directory is given by the names on the way to it. -/
def enter (directory : List JsString) (segment : JsString) : List JsString :=
  if segment = [] ∨ segment = dot then directory
  else if segment = dotdot then directory.dropLast
  else directory ++ [segment]

def resolvePath (directory : List JsString) (path : JsString) : List JsString :=
  (segments path).foldl enter directory

/-- The segments that are names. -/
def names (l : List JsString) : List JsString := l.filter fun segment => segment ≠ [] ∧ segment ≠ dot

structure IsName (segment : JsString) : Prop where
  ne_nil : segment ≠ []
  ne_dot : segment ≠ dot
  ne_dotdot : segment ≠ dotdot
  no_slash : slash ∉ segment

/-- `.`, `./`, or names with a slash between them and perhaps one behind them. -/
def Canonical (path : JsString) : Prop :=
  path = dot ∨ path = dot ++ [slash] ∨ ∃ l, l ≠ [] ∧ (∀ segment ∈ l, IsName segment) ∧
    (path = joinSegments l ∨ path = joinSegments l ++ [slash])

variable {path : JsString} {l : List JsString}

theorem no_slash_of_mem_segments {path segment : JsString} (h : segment ∈ segments path) :
    slash ∉ segment := by
  rcases splitOn_cases slash path with ⟨hno, hsplit⟩ | ⟨a, b, ha, hpath, hsplit⟩
  · rw [segments, hsplit] at h
    rwa [mem_singleton.mp h]
  rw [segments, hsplit] at h
  rcases mem_cons.mp h with rfl | h
  · exact ha
  · exact no_slash_of_mem_segments h
termination_by path.length
decreasing_by
  rw [hpath, length_append, length_cons]
  omega

theorem segments_concat_slash (path : JsString) : segments (path ++ [slash]) = segments path ++ [[]] :=
  splitOn_append_cons_self path []

theorem segments_slash_cons (path : JsString) : segments (slash :: path) = [] :: segments path :=
  splitOn_append_cons_self [] path

theorem segments_joinSegments (hne : l ≠ []) (h : ∀ segment ∈ l, IsName segment) :
    segments (joinSegments l) = l :=
  splitOn_intercalate slash (fun segment hmem => (h segment hmem).no_slash) hne

theorem names_eq_self (h : ∀ segment ∈ l, IsName segment) : names l = l :=
  filter_eq_self.mpr fun segment hmem => by simpa using ⟨(h segment hmem).ne_nil, (h segment hmem).ne_dot⟩

theorem foldl_normalizeSegment (absolute : Bool) (hup : dotdot ∉ l) (kept : List JsString) :
    l.foldl (normalizeSegment absolute) kept = kept ++ names l := by
  induction l generalizing kept with
  | nil => exact (append_nil _).symm
  | cons segment l ih =>
    rw [mem_cons, not_or] at hup
    rw [foldl_cons, ih hup.2, normalizeSegment, names, names, filter_cons]
    by_cases hskip : segment = [] ∨ segment = dot
    · rw [if_pos hskip, if_neg (by simpa [← not_or] using hskip)]
    · rw [if_neg hskip, if_neg (Ne.symm hup.1), if_pos (by simpa [← not_or] using hskip), append_assoc]
      rfl

/-- A path that does not go up leads to its names. -/
theorem foldl_enter (hup : dotdot ∉ l) (directory : List JsString) :
    l.foldl enter directory = directory ++ names l := by
  induction l generalizing directory with
  | nil => exact (append_nil _).symm
  | cons segment l ih =>
    rw [mem_cons, not_or] at hup
    rw [foldl_cons, ih hup.2, enter, names, names, filter_cons]
    by_cases hskip : segment = [] ∨ segment = dot
    · rw [if_pos hskip, if_neg (by simpa [← not_or] using hskip)]
    · rw [if_neg hskip, if_neg (Ne.symm hup.1), if_pos (by simpa [← not_or] using hskip), append_assoc]
      rfl

/-- **Paths that do not go up stay below**, at each of their segments. -/
theorem under_resolve (hup : dotdot ∉ l) (directory : List JsString) (n : Nat) :
    directory <+: (l.take n).foldl enter directory := by
  rw [foldl_enter fun h => hup (mem_of_mem_take h)]
  exact prefix_append _ _

theorem canonical_joinSegments (hne : l ≠ []) (h : ∀ segment ∈ l, IsName segment) (trailing : Bool) :
    let path := joinSegments l ++ if trailing then [slash] else []
    isAbsolute path = false ∧ normalizePath path = path ∧ dotdot ∉ segments path := by
  intro path
  have hnil : [] ∉ l := fun hmem => (h [] hmem).ne_nil rfl
  have hjoin : joinSegments l ≠ [] := by
    intro hjoin
    have hsegments := segments_joinSegments hne h
    rw [hjoin] at hsegments
    exact hnil (hsegments ▸ mem_singleton_self _)
  have hsegments : segments path = l ++ if trailing then [[]] else [] := by
    cases trailing with
    | false => simp [path, segments_joinSegments hne h]
    | true => simp [path, segments_concat_slash, segments_joinSegments hne h]
  have hup : dotdot ∉ segments path := by
    have hl : dotdot ∉ l := fun hmem => (h dotdot hmem).ne_dotdot rfl
    rw [hsegments, mem_append, not_or]
    exact ⟨hl, by cases trailing <;> decide⟩
  have hnames : names (segments path) = l := by
    rw [hsegments, names, filter_append, ← names, names_eq_self h]
    cases trailing <;> simp
  have hrelative : isAbsolute path = false := by
    rw [isAbsolute, decide_eq_false_iff_not]
    intro hhead
    obtain ⟨rest, hrest⟩ := head?_eq_some_iff.mp hhead
    rw [hrest, segments_slash_cons] at hsegments
    obtain ⟨first, l, rfl⟩ := exists_cons_of_ne_nil hne
    rw [cons_append, cons.injEq] at hsegments
    exact hnil (hsegments.1 ▸ mem_cons_self)
  have htrailing : path.getLast? = some slash ↔ trailing = true := by
    cases trailing with
    | true => simp [path]
    | false =>
      refine iff_of_false (fun hlast => ?_) Bool.false_ne_true
      obtain ⟨rest, hrest⟩ := getLast?_eq_some_iff.mp hlast
      rw [hrest, segments_concat_slash] at hsegments
      rw [if_neg Bool.false_ne_true, append_nil] at hsegments
      exact hnil (hsegments ▸ mem_append_right _ (mem_singleton_self _))
  refine ⟨hrelative, ?_, hup⟩
  rw [normalizePath, if_neg (append_ne_nil_of_left_ne_nil hjoin _)]
  simp only [foldl_normalizeSegment _ hup, nil_append, hnames, if_neg hjoin, hrelative, htrailing]
  rw [if_neg Bool.false_ne_true, nil_append]

/-- **Canonical paths** are the relative paths that `normalize` keeps, and that have no `..`. -/
theorem canonical_iff : Canonical path ↔
    isAbsolute path = false ∧ normalizePath path = path ∧ dotdot ∉ segments path := by
  constructor
  · rintro (rfl | rfl | ⟨l, hne, h, rfl | rfl⟩)
    · decide
    · decide
    · simpa using canonical_joinSegments hne h false
    · exact canonical_joinSegments hne h true
  · rintro ⟨hrelative, hnormal, hup⟩
    have hpath : path ≠ [] := by
      rintro rfl
      exact absurd hnormal (by decide)
    rw [normalizePath, if_neg hpath] at hnormal
    simp only [foldl_normalizeSegment _ hup, nil_append, hrelative, if_neg Bool.false_ne_true] at hnormal
    split at hnormal
    · split at hnormal
      · exact .inr (.inl hnormal.symm)
      · exact .inl hnormal.symm
    · rename_i hbody
      refine .inr (.inr ⟨names (segments path), ?_, fun segment hmem => ?_, ?_⟩)
      · rintro hnames
        exact hbody (hnames ▸ rfl)
      · obtain ⟨hmem, hname⟩ := mem_filter.mp hmem
        simp only [ne_eq, decide_eq_true_eq] at hname
        exact ⟨hname.1, hname.2, fun h => hup (h ▸ hmem), no_slash_of_mem_segments hmem⟩
      · split at hnormal
        · exact .inr hnormal.symm
        · exact .inl (by rw [append_nil] at hnormal; exact hnormal.symm)

end PiDaemon.Lib
