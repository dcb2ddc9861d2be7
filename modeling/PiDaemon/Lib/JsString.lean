/-!
# JavaScript strings

A string is its sequence of UTF-16 code units, lone surrogates included.
-/

namespace PiDaemon.Lib

open List

abbrev JsString := List UInt16

instance lawfulBEqJsString : LawfulBEq JsString := inferInstance

/-- What is said of the units of a string is tested at these units. -/
instance (priority := high) decidableUnits (p : UInt16 → Prop) [DecidablePred p] (s : JsString) :
    Decidable (∀ u ∈ s, p u) := List.decidableBAll p s

/-- The string of an ASCII literal. -/
def text (s : String) : JsString := s.toList.map fun c => c.toNat.toUInt16

/-- Two texts that a separator joins, where the first ones do not hold it. -/
theorem append_separator_inj {a b k l : JsString} {separator : UInt16} (ha : separator ∉ a)
    (hb : separator ∉ b) (h : a ++ separator :: k = b ++ separator :: l) : a = b ∧ k = l := by
  induction a generalizing b with
  | nil =>
    cases b with
    | nil => exact ⟨rfl, (List.cons.inj h).2⟩
    | cons u b => exact absurd (mem_cons.mpr (.inl (List.cons.inj h).1)) hb
  | cons u a ih =>
    cases b with
    | nil => exact absurd (mem_cons.mpr (.inl (List.cons.inj h).1.symm)) ha
    | cons v b =>
      obtain ⟨rfl, htail⟩ := List.cons.inj h
      rw [mem_cons, not_or] at ha hb
      obtain ⟨rfl, rfl⟩ := ih ha.2 hb.2 htail
      exact ⟨rfl, rfl⟩

/-- Two texts that a separator joins, when it may be in all of them. -/
theorem append_separator_eq_iff {a b k l : JsString} {separator : UInt16} :
    a ++ separator :: k = b ++ separator :: l ↔
      (a = b ∧ k = l) ∨ (∃ w, b = a ++ separator :: w ∧ k = w ++ separator :: l) ∨
        ∃ w, a = b ++ separator :: w ∧ l = w ++ separator :: k := by
  constructor
  · intro h
    rcases append_eq_append_iff.mp h with ⟨w, hb, hk⟩ | ⟨w, ha, hl⟩
    · cases w with
      | nil =>
        rw [append_nil] at hb
        exact .inl ⟨hb.symm, (List.cons.inj hk).2⟩
      | cons u w =>
        obtain ⟨rfl, hkey⟩ := List.cons.inj hk
        exact .inr (.inl ⟨w, hb, hkey⟩)
    · cases w with
      | nil =>
        rw [append_nil] at ha
        exact .inl ⟨ha, (List.cons.inj hl).2.symm⟩
      | cons u w =>
        obtain ⟨rfl, hkey⟩ := List.cons.inj hl
        exact .inr (.inr ⟨w, ha, hkey⟩)
  · rintro (⟨rfl, rfl⟩ | ⟨w, rfl, rfl⟩ | ⟨w, rfl, rfl⟩)
    · rfl
    · rw [append_assoc]
      rfl
    · rw [append_assoc]
      rfl

/-! ## Trimming -/

/-- The white space of `trim`. -/
def isTrimmed (u : UInt16) : Bool :=
  (9 ≤ u.toNat && u.toNat ≤ 13) || u = 0x20 || u = 0xa0 || u = 0x1680 ||
    (0x2000 ≤ u.toNat && u.toNat ≤ 0x200a) || u = 0x2028 || u = 0x2029 || u = 0x202f ||
    u = 0x205f || u = 0x3000 || u = 0xfeff

/-- `value.trim()` -/
def trim (value : JsString) : JsString :=
  ((value.dropWhile isTrimmed).reverse.dropWhile isTrimmed).reverse

theorem length_trim_le (value : JsString) : (trim value).length ≤ value.length := by
  unfold trim
  have hfront := (dropWhile_sublist isTrimmed (l := value)).length_le
  have hback := (dropWhile_sublist isTrimmed (l := (value.dropWhile isTrimmed).reverse)).length_le
  rw [length_reverse] at hback ⊢
  omega

theorem dropWhile_of_head {value : JsString} (h : ∀ u ∈ value.head?, isTrimmed u = false) :
    value.dropWhile isTrimmed = value := by
  cases value with
  | nil => rfl
  | cons u rest => rw [dropWhile_cons_of_neg (by simp [h u rfl])]

theorem trim_of_ends {value : JsString} (hhead : ∀ u ∈ value.head?, isTrimmed u = false)
    (hlast : ∀ u ∈ value.getLast?, isTrimmed u = false) : trim value = value := by
  unfold trim
  rw [dropWhile_of_head hhead, dropWhile_of_head, reverse_reverse]
  rwa [List.head?_reverse]

end PiDaemon.Lib
