import PiDaemon.Lib.JsString

/-!
# Splitting

Lists that are cut at a separator.

* `splitOn_cases`: the first piece of a list;
* `Separated.pieces`, `separated_pieces`: the pieces that are not empty are those that
  runs of the separator keep apart.
-/

namespace PiDaemon.Lib

open List

section
variable {α : Type} [DecidableEq α]

theorem splitOn_cases (separator : α) (l : List α) :
    (separator ∉ l ∧ l.splitOn separator = [l]) ∨
      ∃ a b, separator ∉ a ∧ l = a ++ separator :: b ∧
        l.splitOn separator = a :: b.splitOn separator := by
  by_cases hmem : separator ∈ l
  · obtain ⟨a, b, rfl, ha⟩ := eq_append_cons_of_mem hmem
    exact .inr ⟨a, b, ha, rfl, splitOn_append_cons_self_of_not_mem ha b⟩
  · exact .inl ⟨hmem, splitOn_eq_singleton hmem⟩

/-- Pieces with runs of the separator between them. -/
inductive Separated (separator : α) : List α → List (List α) → Prop
  | single {piece : List α} : Separated separator piece [piece]
  | cons {piece rest : List α} {pieces : List (List α)} (gap : Nat) :
    Separated separator rest pieces →
      Separated separator (piece ++ (List.replicate (gap + 1) separator ++ rest)) (piece :: pieces)

/-- The pieces that are not empty. -/
def pieces (separator : α) (l : List α) : List (List α) := (l.splitOn separator).filter (· ≠ [])

variable {separator : α}

theorem pieces_run (gap : Nat) (rest : List α) :
    pieces separator (List.replicate gap separator ++ rest) = pieces separator rest := by
  induction gap with
  | zero => rfl
  | succ gap ih =>
    have hsplit := splitOn_append_cons_self_of_not_mem (not_mem_nil (a := separator))
      (List.replicate gap separator ++ rest)
    rw [nil_append] at hsplit
    rw [← ih, replicate_succ, cons_append, pieces, hsplit]
    rfl

theorem pieces_cons {piece : List α} (hne : piece ≠ []) (hpiece : separator ∉ piece) (gap : Nat)
    (rest : List α) :
    pieces separator (piece ++ (List.replicate (gap + 1) separator ++ rest)) =
      piece :: pieces separator rest := by
  rw [← pieces_run gap rest, replicate_succ, cons_append, pieces,
    splitOn_append_cons_self_of_not_mem hpiece, filter_cons_of_pos (by simpa using hne)]
  rfl

theorem pieces_single {piece : List α} (hne : piece ≠ []) (hpiece : separator ∉ piece) :
    pieces separator piece = [piece] := by
  rw [pieces, splitOn_eq_singleton hpiece, filter_cons_of_pos (by simpa using hne),
    filter_nil]

theorem Separated.pieces {l : List α} {texts : List (List α)} (h : Separated separator l texts)
    (hpieces : ∀ piece ∈ texts, piece ≠ [] ∧ separator ∉ piece) : Lib.pieces separator l = texts := by
  induction h with
  | single =>
    obtain ⟨hne, hno⟩ := hpieces _ mem_cons_self
    exact pieces_single hne hno
  | cons gap h ih =>
    obtain ⟨hne, hno⟩ := hpieces _ mem_cons_self
    rw [pieces_cons hne hno, ih fun piece hpiece => hpieces piece (mem_cons_of_mem _ hpiece)]

variable (separator) in
/-- The run of the separator that a list begins with. -/
theorem exists_run (l : List α) :
    ∃ gap rest, l = List.replicate gap separator ++ rest ∧ rest.head? ≠ some separator := by
  induction l with
  | nil => exact ⟨0, [], rfl, by simp⟩
  | cons u l ih =>
    by_cases hu : u = separator
    · obtain ⟨gap, rest, rfl, hrest⟩ := ih
      exact ⟨gap + 1, rest, by rw [hu, replicate_succ, cons_append], hrest⟩
    · exact ⟨0, u :: l, rfl, by simpa using hu⟩

theorem separated_pieces {l : List α} (hne : l ≠ []) (hhead : l.head? ≠ some separator)
    (hlast : l.getLast? ≠ some separator) : Separated separator l (Lib.pieces separator l) := by
  induction hlength : l.length using Nat.strongRecOn generalizing l with
  | ind length ih =>
    rcases splitOn_cases separator l with ⟨hno, -⟩ | ⟨piece, more, hno, rfl, -⟩
    · rw [pieces_single hne hno]
      exact .single
    have hpiece : piece ≠ [] := by
      rintro rfl
      exact hhead rfl
    obtain ⟨gap, rest, rfl, hrest⟩ := exists_run separator more
    have hrun : piece ++ separator :: (List.replicate gap separator ++ rest) =
        piece ++ (List.replicate (gap + 1) separator ++ rest) := by
      rw [replicate_succ, cons_append]
    rw [hrun] at hlast hlength ⊢
    -- what is left is not empty, for the list does not end with the separator
    have hmore : rest ≠ [] := by
      rintro rfl
      rw [append_nil, List.getLast?_append, List.getLast?_replicate] at hlast
      exact hlast rfl
    rw [List.getLast?_append, List.getLast?_append,
      Option.or_of_isSome (by simpa using hmore), Option.or_of_isSome (by simpa using hmore)] at hlast
    have hshort : rest.length < length := by
      simp only [length_append, length_replicate] at hlength
      omega
    rw [pieces_cons hpiece hno]
    exact .cons gap (ih _ hshort hmore hrest hlast rfl)

end

/-! ## Trimmed texts -/

theorem head?_dropWhile_isTrimmed (value : JsString) :
    ∀ u ∈ (value.dropWhile isTrimmed).head?, isTrimmed u = false := by
  intro u hu
  have hnot := List.head?_dropWhile_not isTrimmed value
  rw [Option.mem_def.mp hu] at hnot
  simpa using hnot

theorem head?_trim (value : JsString) : ∀ u ∈ (trim value).head?, isTrimmed u = false := by
  intro u hu
  have hlast := head?_dropWhile_isTrimmed value
  have hsuffix := (dropWhile_suffix isTrimmed (l := (value.dropWhile isTrimmed).reverse))
  obtain ⟨front, hfront⟩ := hsuffix
  have hwhole : trim value ++ front.reverse = value.dropWhile isTrimmed := by
    rw [trim, ← reverse_append, hfront, reverse_reverse]
  refine hlast u ?_
  rw [← hwhole, List.head?_append, Option.mem_def.mp hu]
  rfl

theorem getLast?_trim (value : JsString) : ∀ u ∈ (trim value).getLast?, isTrimmed u = false := by
  intro u hu
  rw [trim, List.getLast?_reverse] at hu
  exact head?_dropWhile_isTrimmed _ u hu

end PiDaemon.Lib
