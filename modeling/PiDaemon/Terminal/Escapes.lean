import Mathlib.Data.List.TakeWhile
import PiDaemon.Lib.Incremental
import PiDaemon.Terminal.Sequences

/-!
# Reading in parts

A text is read item by item: an escape sequence with its action, a control character, or a
printable unit.  The reader is incremental, and where no sequence is too long and every printable
unit is a grapheme, it reads what `consume` reads.
-/

namespace PiDaemon.Terminal

open Lib List Option

/-! ## Ends of sequences -/

theorem splitAtUnit_some {accept : UInt16 → Bool} {x before rest : JsString} {u : UInt16}
    (h : splitAtUnit accept x = some (before, u, rest)) :
    x = before ++ u :: rest ∧ accept u = true ∧
      ∀ y, splitAtUnit accept (x ++ y) = some (before, u, rest ++ y) := by
  induction x generalizing before with
  | nil => cases h
  | cons v x ih =>
    rw [splitAtUnit] at h
    split at h
    · rename_i hv
      cases h
      exact ⟨rfl, hv, fun y => by rw [cons_append, splitAtUnit, if_pos hv]⟩
    · rename_i hv
      obtain ⟨⟨before, u, rest⟩, hfound, heq⟩ := map_eq_some_iff.mp h
      cases heq
      obtain ⟨hx, haccept, happend⟩ := ih hfound
      refine ⟨by rw [cons_append, ← hx], haccept, fun y => ?_⟩
      rw [cons_append, splitAtUnit, if_neg hv, happend y]
      rfl

theorem splitAtUnit_missing {accept : UInt16 → Bool} {x y before rest : JsString} {u : UInt16}
    (h : splitAtUnit accept x = none) (hmore : splitAtUnit accept (x ++ y) = some (before, u, rest)) :
    u :: rest <:+ y := by
  induction x generalizing before with
  | nil => exact ⟨before, (splitAtUnit_some hmore).1.symm⟩
  | cons v x ih =>
    rw [splitAtUnit] at h
    rw [cons_append, splitAtUnit] at hmore
    split at h
    · cases h
    rename_i hv
    rw [if_neg hv] at hmore
    obtain ⟨⟨before, u, rest⟩, hfound, heq⟩ := map_eq_some_iff.mp hmore
    cases heq
    exact ih (map_eq_none_iff.mp h) hfound

theorem splitAtTerminator_some {x before rest : JsString} (h : splitAtTerminator x = some (before, rest)) :
    x = before ++ ESC :: 0x5c :: rest ∧ ∀ y, splitAtTerminator (x ++ y) = some (before, rest ++ y) := by
  induction x using splitAtTerminator.induct generalizing before with
  | case1 => cases h
  | case2 => cases h
  | case3 u v x hend =>
    rw [splitAtTerminator, if_pos hend] at h
    cases h
    obtain ⟨rfl, rfl⟩ := hend
    exact ⟨rfl, fun y => rfl⟩
  | case4 u v x hend ih =>
    rw [splitAtTerminator, if_neg hend] at h
    obtain ⟨⟨before, rest⟩, hfound, heq⟩ := map_eq_some_iff.mp h
    cases heq
    obtain ⟨hx, happend⟩ := ih hfound
    refine ⟨by rw [cons_append, ← hx], fun y => ?_⟩
    have hy := happend y
    rw [cons_append] at hy
    rw [cons_append, cons_append, splitAtTerminator, if_neg hend, hy]
    rfl

theorem splitAtTerminator_missing {x y before rest : JsString} (h : splitAtTerminator x = none)
    (hmore : splitAtTerminator (x ++ y) = some (before, rest)) : rest <:+ y := by
  induction x using splitAtTerminator.induct generalizing before with
  | case1 => exact ⟨before ++ [ESC, 0x5c], by simpa using (splitAtTerminator_some hmore).1.symm⟩
  | case2 =>
    cases y with
    | nil => cases hmore
    | cons v =>
      rw [singleton_append, splitAtTerminator] at hmore
      split at hmore
      · cases hmore
        exact suffix_cons v rest
      obtain ⟨⟨before, rest⟩, hfound, heq⟩ := map_eq_some_iff.mp hmore
      cases heq
      exact ⟨before ++ [ESC, 0x5c], by simpa using (splitAtTerminator_some hfound).1.symm⟩
  | case3 u v x hend =>
    rw [splitAtTerminator, if_pos hend] at h
    cases h
  | case4 u v x hend ih =>
    rw [splitAtTerminator, if_neg hend] at h
    rw [cons_append, cons_append, splitAtTerminator, if_neg hend] at hmore
    obtain ⟨⟨before, rest⟩, hfound, heq⟩ := map_eq_some_iff.mp hmore
    cases heq
    exact ih (map_eq_none_iff.mp h) hfound

/-- The payload of an `OSC` sequence, what ends it, and the rest. -/
def splitOsc : JsString → Option (JsString × JsString × JsString)
  | [] => none
  | u :: rest =>
    if u = BEL then some ([], [BEL], rest)
    else if u = ESC ∧ rest.head? = some 0x5c then some ([], [ESC, 0x5c], rest.drop 1)
    else (splitOsc rest).map fun found => (u :: found.1, found.2)

theorem splitOsc_some {x payload ending rest : JsString} (h : splitOsc x = some (payload, ending, rest)) :
    x = payload ++ ending ++ rest ∧ ∀ y, splitOsc (x ++ y) = some (payload, ending, rest ++ y) := by
  induction x generalizing payload with
  | nil => cases h
  | cons u x ih =>
    rw [splitOsc] at h
    split at h
    · rename_i hbell
      cases h
      exact ⟨by rw [hbell]; rfl, fun y => by rw [cons_append, splitOsc, if_pos hbell]⟩
    · rename_i hbell
      split at h
      · rename_i hend
        cases h
        obtain ⟨hu, hhead⟩ := hend
        obtain ⟨v, x, rfl⟩ : ∃ v rest, x = v :: rest := by
          cases x with
          | nil => cases hhead
          | cons v x => exact ⟨v, x, rfl⟩
        cases hhead
        refine ⟨by rw [hu]; rfl, fun y => ?_⟩
        rw [cons_append, splitOsc, if_neg hbell, if_pos ⟨hu, rfl⟩]
        rfl
      · rename_i hend
        obtain ⟨⟨payload, ending, rest⟩, hfound, heq⟩ := map_eq_some_iff.mp h
        cases heq
        obtain ⟨hx, happend⟩ := ih hfound
        refine ⟨by rw [cons_append, cons_append, ← hx], fun y => ?_⟩
        have hend' : ¬(u = ESC ∧ (x ++ y).head? = some 0x5c) := by
          rintro ⟨hu, hhead⟩
          cases x with
          | nil => cases hfound
          | cons => exact hend ⟨hu, hhead⟩
        rw [cons_append, splitOsc, if_neg hbell, if_neg hend', happend y]
        rfl

theorem splitOsc_missing {x y payload ending rest : JsString} (h : splitOsc x = none)
    (hmore : splitOsc (x ++ y) = some (payload, ending, rest)) : rest <:+ y := by
  induction x generalizing payload with
  | nil => exact ⟨payload ++ ending, (splitOsc_some hmore).1.symm⟩
  | cons u x ih =>
    rw [splitOsc] at h
    rw [cons_append, splitOsc] at hmore
    split at h
    · cases h
    rename_i hbell
    split at h
    · cases h
    rename_i hend
    rw [if_neg hbell] at hmore
    split at hmore
    · rename_i hend'
      cases hmore
      -- The terminator is cut.
      cases x with
      | nil => exact drop_suffix 1 y
      | cons => exact absurd ⟨hend'.1, hend'.2⟩ hend
    · obtain ⟨⟨payload, ending, rest⟩, hfound, heq⟩ := map_eq_some_iff.mp hmore
      cases heq
      exact ih (map_eq_none_iff.mp h) hfound

theorem splitAtTerminator_cons {u : UInt16} {x : JsString} (h : ¬(u = ESC ∧ x.head? = some 0x5c)) :
    splitAtTerminator (u :: x) = (splitAtTerminator x).map fun found => (u :: found.1, found.2) := by
  cases x with
  | nil => rfl
  | cons => rw [splitAtTerminator, if_neg fun hend => h ⟨hend.1, by rw [hend.2]; rfl⟩]

/-- The first of the two ends that `consumeEscape` looks for. -/
theorem splitOsc_eq (x : JsString) :
    splitOsc x =
      match splitAtUnit (· = BEL) x, splitAtTerminator x with
      | none, none => none
      | some (payload, _, rest), none => some (payload, [BEL], rest)
      | none, some (payload, rest) => some (payload, [ESC, 0x5c], rest)
      | some (payload, _, rest), some (payload', rest') =>
        if payload.length < payload'.length then some (payload, [BEL], rest)
        else some (payload', [ESC, 0x5c], rest') := by
  induction x with
  | nil => rfl
  | cons u x ih =>
    rw [splitOsc, splitAtUnit]
    by_cases hbell : u = BEL
    · have hend : ¬(u = ESC ∧ x.head? = some 0x5c) := by
        rintro ⟨hu, -⟩
        exact absurd (hbell.symm.trans hu) (by decide)
      rw [if_pos hbell, if_pos (decide_eq_true hbell), splitAtTerminator_cons hend]
      cases splitAtTerminator x with
      | none => rfl
      | some => exact (if_pos (Nat.succ_pos _)).symm
    · have hbell' : ¬decide (u = BEL) = true := by rwa [decide_eq_true_eq]
      rw [if_neg hbell, if_neg hbell']
      by_cases hend : u = ESC ∧ x.head? = some 0x5c
      · obtain ⟨hu, hhead⟩ := hend
        obtain ⟨v, x, rfl⟩ : ∃ v rest, x = v :: rest := by
          cases x with
          | nil => cases hhead
          | cons v x => exact ⟨v, x, rfl⟩
        cases hhead
        rw [if_pos ⟨hu, rfl⟩, splitAtTerminator, if_pos ⟨hu, rfl⟩]
        cases splitAtUnit (fun w => decide (w = BEL)) (0x5c :: x) with
        | none => rfl
        | some => exact (if_neg (Nat.not_lt_zero _)).symm
      · rw [if_neg hend, splitAtTerminator_cons hend, ih]
        cases splitAtUnit (fun w => decide (w = BEL)) x with
        | none => cases splitAtTerminator x <;> rfl
        | some =>
          cases splitAtTerminator x with
          | none => rfl
          | some =>
            simp only [map_some, length_cons, Nat.add_lt_add_iff_right]
            split <;> rfl

/-! ## Escape sequences -/

/-- An escape sequence, with what it does. -/
structure TerminalItem where
  sequence : JsString
  action : TerminalAction

def csiTail (introducer : UInt16) (x : JsString) : Option (TerminalItem × JsString) :=
  (splitAtUnit (fun u => 0x40 ≤ u.toNat && u.toNat ≤ 0x7e) x).map fun found =>
    (⟨ESC :: introducer :: found.1 ++ [found.2.1], .csi found.1 found.2.1⟩, found.2.2)

def oscTail (introducer : UInt16) (x : JsString) : Option (TerminalItem × JsString) :=
  (splitOsc x).map fun found => (⟨ESC :: introducer :: found.1 ++ found.2.1, .osc found.1⟩, found.2.2)

def stringTail (introducer : UInt16) (x : JsString) : Option (TerminalItem × JsString) :=
  (splitAtTerminator x).map fun found =>
    (⟨ESC :: introducer :: found.1 ++ [ESC, 0x5c],
      if introducer = 0x5f ∧ found.1.head? = some 0x47 then .kittyGraphics else .deviceControl⟩, found.2)

/-- A unit that does not end the sequence is not part of it. -/
def intermediateTail (introducer : UInt16) (x : JsString) : Option (TerminalItem × JsString) :=
  (splitAtUnit (fun u => u.toNat < 0x20 || 0x2f < u.toNat) x).map fun found =>
    if 0x30 ≤ found.2.1.toNat ∧ found.2.1.toNat ≤ 0x7e then
      (⟨ESC :: introducer :: found.1 ++ [found.2.1], .deviceControl⟩, found.2.2)
    else (⟨ESC :: introducer :: found.1, .deviceControl⟩, found.2.1 :: found.2.2)

/-- What follows an introducer. -/
def escapeTail (introducer : UInt16) : JsString → Option (TerminalItem × JsString) :=
  if introducer = 0x5b then csiTail introducer
  else if introducer = 0x5d then oscTail introducer
  else if introducer = 0x50 ∨ introducer = 0x5f ∨ introducer = 0x5e ∨ introducer = 0x58 then
    stringTail introducer
  else if 0x20 ≤ introducer.toNat ∧ introducer.toNat ≤ 0x2f then intermediateTail introducer
  else fun x => some (⟨[ESC, introducer], .introducer introducer⟩, x)

/-- What is read after an introducer is a part of the text, and more text does not change it. -/
structure ReadsTail (introducer : UInt16) (read : JsString → Option (TerminalItem × JsString)) : Prop where
  sequence : ∀ {x item rest}, read x = some (item, rest) →
    ∃ taken, item.sequence = ESC :: introducer :: taken ∧ x = taken ++ rest
  action : ∀ {x item rest}, read x = some (item, rest) → ∀ segment, item.action ≠ .grapheme segment
  append : ∀ {x item rest}, read x = some (item, rest) → ∀ y, read (x ++ y) = some (item, rest ++ y)
  missing : ∀ {x y item rest}, read x = none → read (x ++ y) = some (item, rest) → rest <:+ y

section
variable (introducer : UInt16)

theorem readsTail_csi : ReadsTail introducer (csiTail introducer) where
  sequence := by
    intro x item rest h
    obtain ⟨⟨parameters, final, rest⟩, hfound, heq⟩ := map_eq_some_iff.mp h
    cases heq
    exact ⟨parameters ++ [final], rfl, by simp [(splitAtUnit_some hfound).1]⟩
  action := by
    intro x item rest h segment
    obtain ⟨_, -, heq⟩ := map_eq_some_iff.mp h
    cases heq
    exact TerminalAction.noConfusion
  append := by
    intro x item rest h y
    obtain ⟨⟨parameters, final, rest⟩, hfound, heq⟩ := map_eq_some_iff.mp h
    cases heq
    rw [csiTail, (splitAtUnit_some hfound).2.2 y]
    rfl
  missing := by
    intro x y item rest h hmore
    obtain ⟨⟨parameters, final, rest⟩, hfound, heq⟩ := map_eq_some_iff.mp hmore
    cases heq
    exact (suffix_cons final rest).trans (splitAtUnit_missing (map_eq_none_iff.mp h) hfound)

theorem readsTail_osc : ReadsTail introducer (oscTail introducer) where
  sequence := by
    intro x item rest h
    obtain ⟨⟨payload, ending, rest⟩, hfound, heq⟩ := map_eq_some_iff.mp h
    cases heq
    exact ⟨payload ++ ending, rfl, (splitOsc_some hfound).1⟩
  action := by
    intro x item rest h segment
    obtain ⟨_, -, heq⟩ := map_eq_some_iff.mp h
    cases heq
    exact TerminalAction.noConfusion
  append := by
    intro x item rest h y
    obtain ⟨⟨payload, ending, rest⟩, hfound, heq⟩ := map_eq_some_iff.mp h
    cases heq
    rw [oscTail, (splitOsc_some hfound).2 y]
    rfl
  missing := by
    intro x y item rest h hmore
    obtain ⟨⟨payload, ending, rest⟩, hfound, heq⟩ := map_eq_some_iff.mp hmore
    cases heq
    exact splitOsc_missing (map_eq_none_iff.mp h) hfound

theorem readsTail_string : ReadsTail introducer (stringTail introducer) where
  sequence := by
    intro x item rest h
    obtain ⟨⟨payload, rest⟩, hfound, heq⟩ := map_eq_some_iff.mp h
    cases heq
    exact ⟨payload ++ [ESC, 0x5c], rfl, by simp [(splitAtTerminator_some hfound).1]⟩
  action := by
    intro x item rest h segment
    obtain ⟨_, -, heq⟩ := map_eq_some_iff.mp h
    cases heq
    split <;> exact TerminalAction.noConfusion
  append := by
    intro x item rest h y
    obtain ⟨⟨payload, rest⟩, hfound, heq⟩ := map_eq_some_iff.mp h
    cases heq
    rw [stringTail, (splitAtTerminator_some hfound).2 y]
    rfl
  missing := by
    intro x y item rest h hmore
    obtain ⟨⟨payload, rest⟩, hfound, heq⟩ := map_eq_some_iff.mp hmore
    cases heq
    exact splitAtTerminator_missing (map_eq_none_iff.mp h) hfound

theorem readsTail_intermediate : ReadsTail introducer (intermediateTail introducer) where
  sequence := by
    intro x item rest h
    obtain ⟨⟨intermediates, final, rest⟩, hfound, heq⟩ := map_eq_some_iff.mp h
    have hx := (splitAtUnit_some hfound).1
    split at heq
    · cases heq
      exact ⟨intermediates ++ [final], rfl, by simp [hx]⟩
    · cases heq
      exact ⟨intermediates, rfl, hx⟩
  action := by
    intro x item rest h segment
    obtain ⟨_, -, heq⟩ := map_eq_some_iff.mp h
    split at heq <;> cases heq <;> exact TerminalAction.noConfusion
  append := by
    intro x item rest h y
    obtain ⟨⟨intermediates, final, rest⟩, hfound, heq⟩ := map_eq_some_iff.mp h
    rw [intermediateTail, (splitAtUnit_some hfound).2.2 y, map_some]
    split at heq <;> rename_i hfinal <;> cases heq
    · rw [if_pos hfinal]
    · rw [if_neg hfinal]
      rfl
  missing := by
    intro x y item rest h hmore
    obtain ⟨⟨intermediates, final, rest⟩, hfound, heq⟩ := map_eq_some_iff.mp hmore
    have hy := splitAtUnit_missing (map_eq_none_iff.mp h) hfound
    split at heq <;> cases heq
    · exact (suffix_cons final rest).trans hy
    · exact hy

theorem readsTail_escape : ReadsTail introducer (escapeTail introducer) := by
  rw [escapeTail]
  split
  · exact readsTail_csi introducer
  split
  · exact readsTail_osc introducer
  split
  · exact readsTail_string introducer
  split
  · exact readsTail_intermediate introducer
  constructor
  · intro x item rest h
    cases h
    exact ⟨[], rfl, rfl⟩
  · intro x item rest h segment
    cases h
    exact TerminalAction.noConfusion
  · intro x item rest h y
    cases h
    rfl
  · intro x y item rest h
    cases h

end

/-! ## Items -/

/-- `consumeEscape` without its bound. -/
def readEscape : JsString → Option (TerminalItem × JsString)
  | [] => none
  | introducer :: rest => escapeTail introducer rest

/-- An escape sequence, a control character, or a printable unit. -/
def readItem : JsString → Option (TerminalItem × JsString)
  | [] => none
  | u :: rest =>
    if u = ESC then readEscape rest
    else if isControl u then some (⟨[u], .control u⟩, rest)
    else some (⟨[u], .grapheme [u]⟩, rest)

theorem readItem_some {x rest : JsString} {item : TerminalItem} (h : readItem x = some (item, rest)) :
    x = item.sequence ++ rest ∧ item.sequence ≠ [] ∧ ∀ y, readItem (x ++ y) = some (item, rest ++ y) := by
  cases x with
  | nil => cases h
  | cons u x =>
    rw [readItem] at h
    split at h
    · rename_i hescape
      cases x with
      | nil => cases h
      | cons introducer =>
        have hreads := readsTail_escape introducer
        obtain ⟨_, hsequence, hx⟩ := hreads.sequence h
        rw [hsequence, hx, hescape]
        refine ⟨rfl, cons_ne_nil _ _, fun y => ?_⟩
        rw [← hx, cons_append, readItem]
        exact hreads.append h y
    · rename_i hescape
      split at h <;> rename_i hcontrol <;> cases h <;>
        refine ⟨rfl, cons_ne_nil _ _, fun y => ?_⟩ <;> rw [cons_append, readItem, if_neg hescape]
      · rw [if_pos hcontrol]
      · rw [if_neg hcontrol]

theorem readItem_missing {x y rest : JsString} {item : TerminalItem} (h : readItem x = none)
    (hmore : readItem (x ++ y) = some (item, rest)) : rest <:+ y := by
  cases x with
  | nil => exact ⟨item.sequence, (readItem_some hmore).1.symm⟩
  | cons u x =>
    rw [readItem] at h
    rw [cons_append, readItem] at hmore
    split at h
    · rename_i hescape
      rw [if_pos hescape] at hmore
      cases x with
      | nil =>
        cases y with
        | nil => cases hmore
        | cons introducer =>
          obtain ⟨taken, -, rfl⟩ := (readsTail_escape introducer).sequence hmore
          exact ⟨introducer :: taken, rfl⟩
      | cons introducer => exact (readsTail_escape introducer).missing h hmore
    · split at h <;> cases h

theorem incremental_readItem : Incremental readItem where
  shorter := by
    intro x item rest h
    obtain ⟨rfl, hne, -⟩ := readItem_some h
    have hpos := length_pos_iff.mpr hne
    rw [length_append]
    omega
  append := fun h y => (readItem_some h).2.2 y
  suffix := readItem_missing

/-- The items of a text, and the sequence that is not complete. -/
def readItems (x : JsString) : List TerminalItem × JsString := readAll readItem x

/-- The escape sequences of a text, with the one that is not complete. -/
def escapesOf (x : JsString) : List JsString :=
  ((readItems x).1.map TerminalItem.sequence).filter (fun sequence => sequence.head? = some ESC) ++ [(readItems x).2]

/-! ## What is consumed -/

/-- `consumeEscape` with its bound. -/
theorem consumeEscape_tail (limits : VirtualTerminalLimits) (introducer : UInt16) (x : JsString) :
    (escapeTail introducer x = none → consumeEscape limits (introducer :: x) = .incomplete) ∧
      ∀ item rest, escapeTail introducer x = some (item, rest) →
        consumeEscape limits (introducer :: x) = .action item.action rest ∨
          (limits.maxEscapeBytes < byteLength item.sequence ∧
            consumeEscape limits (introducer :: x) = .tooLong) := by
  have hbounded (sequence : JsString) (action : TerminalAction) (rest : JsString) :
      (some (TerminalItem.mk sequence action, rest) = none →
          boundedEscape limits sequence action rest = .incomplete) ∧
        ∀ item rest', some (TerminalItem.mk sequence action, rest) = some (item, rest') →
          boundedEscape limits sequence action rest = .action item.action rest' ∨
            (limits.maxEscapeBytes < byteLength item.sequence ∧
              boundedEscape limits sequence action rest = .tooLong) := by
    refine ⟨fun h => (by cases h), fun item rest' h => ?_⟩
    cases h
    rw [boundedEscape]
    split
    · rename_i hlong
      exact Or.inr ⟨hlong, rfl⟩
    · exact Or.inl rfl
  rw [escapeTail, consumeEscape]
  split
  · rw [csiTail]
    cases splitAtUnit (fun u => 0x40 ≤ u.toNat && u.toNat ≤ 0x7e) x with
    | none => exact ⟨fun _ => rfl, fun item rest h => by cases h⟩
    | some => exact hbounded _ _ _
  split
  · rw [oscTail, splitOsc_eq]
    cases splitAtUnit (fun u => decide (u = BEL)) x with
    | none =>
      cases splitAtTerminator x with
      | none => exact ⟨fun _ => rfl, fun item rest h => by cases h⟩
      | some => exact hbounded _ _ _
    | some =>
      cases splitAtTerminator x with
      | none => exact hbounded _ _ _
      | some =>
        dsimp only
        split
        · exact hbounded _ _ _
        · exact hbounded _ _ _
  split
  · rw [stringTail]
    cases splitAtTerminator x with
    | none => exact ⟨fun _ => rfl, fun item rest h => by cases h⟩
    | some => exact hbounded _ _ _
  split
  · rw [intermediateTail]
    cases splitAtUnit (fun u => u.toNat < 0x20 || 0x2f < u.toNat) x with
    | none => exact ⟨fun _ => rfl, fun item rest h => by cases h⟩
    | some =>
      rw [map_some]
      dsimp only
      split
      · exact hbounded _ _ _
      refine ⟨fun h => (by cases h), fun item rest h => ?_⟩
      cases h
      exact Or.inl rfl
  · refine ⟨fun h => (by cases h), fun item rest h => ?_⟩
    cases h
    exact Or.inl rfl

theorem consumeEscape_read (limits : VirtualTerminalLimits) (x : JsString) :
    (readItem (ESC :: x) = none → consumeEscape limits x = .incomplete) ∧
      ∀ item rest, readItem (ESC :: x) = some (item, rest) →
        consumeEscape limits x = .action item.action rest ∨
          (limits.maxEscapeBytes < byteLength item.sequence ∧ consumeEscape limits x = .tooLong) := by
  cases x with
  | nil => exact ⟨fun _ => rfl, fun item rest h => by cases h⟩
  | cons introducer x => exact consumeEscape_tail limits introducer x

/-- Every printable unit that is ASCII is a grapheme. -/
def TerminalPlatform.SegmentsAscii (platform : TerminalPlatform) : Prop :=
  ∀ run : JsString, (∀ u ∈ run, 0x20 ≤ u.toNat ∧ u.toNat < 0x7f) → platform.segment run = run.map fun u => [u]

section
variable {platform : TerminalPlatform} {limits : VirtualTerminalLimits}

/-- What has to hold of an item for `consume` to read it. -/
structure Read (limits : VirtualTerminalLimits) (item : TerminalItem) : Prop where
  bounded : item.sequence.head? = some ESC → byteLength item.sequence ≤ limits.maxEscapeBytes
  ascii : ∀ segment, item.action = .grapheme segment → Ascii segment

theorem readItems_printable {run : JsString} (rest : JsString) (h : ∀ u ∈ run, isControl u = false) :
    readItems (run ++ rest) =
      (run.map (fun u => ⟨[u], .grapheme [u]⟩) ++ (readItems rest).1, (readItems rest).2) := by
  induction run with
  | nil => rfl
  | cons u run ih =>
    have hu := h u mem_cons_self
    have hescape : u ≠ ESC := by
      rintro rfl
      exact absurd hu (by decide)
    have hread : readItem (u :: (run ++ rest)) = some (⟨[u], .grapheme [u]⟩, run ++ rest) := by
      rw [readItem, if_neg hescape, if_neg (by rw [hu]; exact Bool.false_ne_true)]
    have hrest := ih fun v hv => h v (mem_cons_of_mem u hv)
    rw [readItems] at hrest ⊢
    rw [cons_append, readAll_some incremental_readItem hread, hrest]
    rfl

theorem scanText_eq (hsegments : platform.SegmentsAscii) {fuel : Nat} {x : JsString} (hfuel : x.length ≤ fuel)
    (hitems : ∀ item ∈ (readItems x).1, Read limits item)
    (hleft : byteLength (readItems x).2 ≤ limits.maxEscapeBytes) :
    scanText platform limits fuel x = ⟨(readItems x).1.map TerminalItem.action, (readItems x).2, false⟩ := by
  induction fuel generalizing x with
  | zero =>
    obtain rfl : x = [] := length_eq_zero_iff.mp (Nat.le_zero.mp hfuel)
    rfl
  | succ fuel ih =>
    cases x with
    | nil => rfl
    | cons u x =>
      have hone {item : TerminalItem} {rest : JsString} (hread : readItem (u :: x) = some (item, rest)) :
          Read limits item ∧
            (scanText platform limits fuel rest).prepend [item.action] =
              ⟨(readItems (u :: x)).1.map TerminalItem.action, (readItems (u :: x)).2, false⟩ := by
        have hall : readItems (u :: x) = (item :: (readItems rest).1, (readItems rest).2) :=
          readAll_some incremental_readItem hread
        have hshorter := incremental_readItem.shorter hread
        rw [hall] at hitems hleft ⊢
        refine ⟨hitems item mem_cons_self, ?_⟩
        rw [ih (by omega)
          (fun other hother => hitems other (mem_cons_of_mem item hother)) hleft]
        rfl
      rw [scanText]
      split
      · rename_i hescape
        subst hescape
        obtain ⟨hnone, hsome⟩ := consumeEscape_read limits x
        cases hread : readItem (ESC :: x) with
        | none =>
          have hall : readItems (ESC :: x) = ([], ESC :: x) := readAll_none hread
          rw [hall] at hleft ⊢
          simp only [hnone hread]
          rw [if_neg (Nat.not_lt.mpr hleft)]
          rfl
        | some found =>
          obtain ⟨hitem, hscan⟩ := hone hread
          have hhead : found.1.sequence.head? = some ESC := by
            obtain ⟨hx, hne, -⟩ := readItem_some hread
            obtain ⟨v, _, htaken⟩ := exists_cons_of_ne_nil hne
            rw [htaken] at hx ⊢
            rw [(List.cons.inj hx).1]
            rfl
          obtain haction | ⟨hlong, -⟩ := hsome found.1 found.2 hread
          · simp only [haction]
            exact hscan
          · exact absurd (hitem.bounded hhead) (Nat.not_le.mpr hlong)
      · rename_i hescape
        split
        · rename_i hcontrol
          have hread : readItem (u :: x) = some (⟨[u], .control u⟩, x) := by
            rw [readItem, if_neg hescape, if_pos hcontrol]
          exact (hone hread).2
        · rename_i hcontrol
          -- The run of printable units is read at once.
          have hrun (v : UInt16) (hv : v ∈ (u :: x).takeWhile fun u => !isControl u) : isControl v = false := by
            have hprintable := mem_takeWhile_imp hv
            rwa [Bool.not_eq_true'] at hprintable
          have hall := readItems_printable ((u :: x).dropWhile fun u => !isControl u) hrun
          rw [takeWhile_append_dropWhile] at hall
          rw [hall] at hitems hleft ⊢
          have hascii (v : UInt16) (hv : v ∈ (u :: x).takeWhile fun u => !isControl u) :
              0x20 ≤ v.toNat ∧ v.toNat < 0x7f := by
            have hread := hitems ⟨[v], .grapheme [v]⟩
              (mem_append_left _ (List.mem_map_of_mem hv))
            have hlow : v.toNat < 0x80 := hread.ascii [v] rfl v mem_cons_self
            have hv' := hrun v hv
            simp only [isControl, Bool.or_eq_false_iff, decide_eq_false_iff_not, ← UInt16.toNat_inj] at hv'
            have hdelete : (0x7f : UInt16).toNat = 0x7f := rfl
            omega
          have hshorter : ((u :: x).dropWhile fun u => !isControl u).length ≤ fuel := by
            rw [dropWhile_cons_of_pos (by simp [hcontrol])]
            exact le_trans (dropWhile_suffix _).length_le (Nat.le_of_succ_le_succ hfuel)
          rw [ih hshorter (fun item hitem => hitems item (mem_append_right _ hitem)) hleft]
          dsimp only
          rw [hsegments _ hascii, map_append, List.map_map, List.map_map]
          rfl

/-! ## Parts -/

theorem head_of_missing {x : JsString} (h : readItem x = none) : x = [] ∨ x.head? = some ESC := by
  cases x with
  | nil => exact Or.inl rfl
  | cons =>
    rw [readItem] at h
    split at h
    · rename_i hescape
      exact Or.inr (congrArg some hescape)
    · split at h <;> cases h

/-- What a write leaves is not complete. -/
theorem scanText_pending (platform : TerminalPlatform) (limits : VirtualTerminalLimits) (fuel : Nat) (x : JsString) :
    readItem (scanText platform limits fuel x).pending = none := by
  induction fuel generalizing x with
  | zero => cases x <;> rfl
  | succ fuel ih =>
    cases x with
    | nil => rfl
    | cons u x =>
      rw [scanText]
      split
      · rename_i hescape
        subst hescape
        cases hconsume : consumeEscape limits x with
        | incomplete =>
          dsimp only
          split
          · rfl
          cases hread : readItem (ESC :: x) with
          | none => rfl
          | some found =>
            obtain haction | ⟨-, hlong⟩ := (consumeEscape_read limits x).2 found.1 found.2 hread
            · rw [hconsume] at haction
              cases haction
            · rw [hconsume] at hlong
              cases hlong
        | tooLong => rfl
        | action action rest => exact ih rest
      · split
        · exact ih x
        · exact ih _

theorem grapheme_of_read {u : UInt16} {x rest segment : JsString} {item : TerminalItem}
    (h : readItem (u :: x) = some (item, rest)) (haction : item.action = .grapheme segment) : u ≠ ESC ∧ segment = [u] := by
  rw [readItem] at h
  split at h
  · cases x with
    | nil => cases h
    | cons introducer => exact absurd haction ((readsTail_escape introducer).action h segment)
  · rename_i hescape
    split at h <;> cases h <;> cases haction
    exact ⟨hescape, rfl⟩

/-- The graphemes of a text that is ASCII, after a sequence that was not complete. -/
theorem ascii_items {p x : JsString} (hp : readItem p = none) (hx : Ascii x) :
    ∀ item ∈ (readItems (p ++ x)).1, ∀ segment, item.action = .grapheme segment → Ascii segment := by
  have hall (x : JsString) (hx : Ascii x) :
      ∀ item ∈ (readItems x).1, ∀ segment, item.action = .grapheme segment → Ascii segment := by
    induction hn : x.length using Nat.strongRecOn generalizing x with
    | ind n ih =>
      cases hread : readItem x with
      | none =>
        intro item hitem
        rw [readItems, readAll_none hread] at hitem
        cases hitem
      | some found =>
        intro item hitem segment haction
        have hshorter := incremental_readItem.shorter hread
        have hsequence := (readItem_some hread).1
        rw [readItems, readAll_some incremental_readItem hread, mem_cons] at hitem
        obtain rfl | hitem := hitem
        · cases x with
          | nil => cases hread
          | cons u =>
            rw [(grapheme_of_read hread haction).2]
            intro v hv
            rw [mem_singleton.mp hv]
            exact hx u mem_cons_self
        · have hrest : Ascii found.2 := fun u hu => hx u (hsequence ▸ mem_append_right _ hu)
          exact ih found.2.length (by omega) found.2 hrest rfl item hitem segment haction
  obtain rfl | hhead := head_of_missing hp
  · exact hall x hx
  cases p with
  | nil => cases hhead
  | cons u p =>
    cases hhead
    intro item hitem segment haction
    cases hread : readItem (ESC :: p ++ x) with
    | none =>
      rw [readItems, readAll_none hread] at hitem
      cases hitem
    | some found =>
      rw [readItems, readAll_some incremental_readItem hread, mem_cons] at hitem
      obtain rfl | hitem := hitem
      · exact absurd rfl (grapheme_of_read hread haction).1
      · have hsuffix := readItem_missing hp hread
        exact hall found.2 (fun u hu => hx u (hsuffix.subset hu)) item hitem segment haction

theorem left_fits {maximum : Nat} {q x : JsString} (hq : readItem q = none) (hx : Ascii x)
    (h : ∀ sequence ∈ escapesOf (q ++ x), byteLength sequence ≤ maximum) : byteLength q ≤ maximum := by
  obtain rfl | hhead := head_of_missing hq
  · exact Nat.zero_le _
  have hlonger (z : JsString) (hz : Ascii z) : byteLength q ≤ byteLength (q ++ z) := by
    rw [byteLength_append _ _ hz.startsLow]
    exact Nat.le_add_right _ _
  cases hread : readItem (q ++ x) with
  | none =>
    refine le_trans (hlonger x hx) (h _ ?_)
    rw [escapesOf, readItems, readAll_none hread]
    exact mem_cons_self
  | some found =>
    obtain ⟨z, rfl⟩ := readItem_missing hq hread
    have hsequence : found.1.sequence = q ++ z := by
      have hall := (readItem_some hread).1
      rw [← append_assoc] at hall
      exact (append_cancel_right hall).symm
    have hmem : found.1.sequence ∈ escapesOf (q ++ (z ++ found.2)) := by
      rw [escapesOf, readItems, readAll_some incremental_readItem hread, map_cons, filter_cons_of_pos]
      · exact mem_cons_self
      · rw [hsequence, List.head?_append, hhead]
        rfl
    have hbound := h _ hmem
    rw [hsequence] at hbound
    exact le_trans (hlonger z fun u hu => hx u (mem_append_left _ hu)) hbound

/-- The two reads of a text in two parts, and the one of the whole. -/
theorem scanText_parts (hsegments : platform.SegmentsAscii) {p a b : JsString} (hp : readItem p = none)
    (hascii : Ascii (a ++ b))
    (hescapes : ∀ sequence ∈ escapesOf (p ++ (a ++ b)), byteLength sequence ≤ limits.maxEscapeBytes) :
    ∃ first second q left,
      (∀ fuel, (p ++ a).length ≤ fuel → scanText platform limits fuel (p ++ a) = ⟨first, q, false⟩) ∧
      (∀ fuel, (q ++ b).length ≤ fuel → scanText platform limits fuel (q ++ b) = ⟨second, left, false⟩) ∧
      ∀ fuel, (p ++ (a ++ b)).length ≤ fuel →
        scanText platform limits fuel (p ++ (a ++ b)) = ⟨first ++ second, left, false⟩ := by
  have hb : Ascii b := fun u hu => hascii u (mem_append_right _ hu)
  have hparts : readItems (p ++ (a ++ b)) =
      ((readItems (p ++ a)).1 ++ (readItems ((readItems (p ++ a)).2 ++ b)).1,
        (readItems ((readItems (p ++ a)).2 ++ b)).2) := by
    rw [← append_assoc]
    exact readAll_append incremental_readItem (p ++ a) b
  have hread (item : TerminalItem) (hitem : item ∈ (readItems (p ++ (a ++ b))).1) : Read limits item := by
    refine ⟨fun hhead => hescapes _ (mem_append_left _ ?_), ascii_items hp hascii item hitem⟩
    exact mem_filter.mpr ⟨List.mem_map_of_mem hitem, decide_eq_true hhead⟩
  have hleft : byteLength (readItems (p ++ (a ++ b))).2 ≤ limits.maxEscapeBytes :=
    hescapes _ (mem_append_right _ mem_cons_self)
  have hq : readItem (readItems (p ++ a)).2 = none := read_left incremental_readItem (p ++ a)
  have hmiddle : byteLength (readItems (p ++ a)).2 ≤ limits.maxEscapeBytes := by
    refine left_fits hq hb fun sequence hsequence => hescapes sequence ?_
    rw [escapesOf, mem_append] at hsequence ⊢
    rw [hparts, map_append, filter_append]
    exact hsequence.imp_left (mem_append_right _)
  rw [hparts] at hread hleft
  refine ⟨(readItems (p ++ a)).1.map TerminalItem.action,
    (readItems ((readItems (p ++ a)).2 ++ b)).1.map TerminalItem.action, (readItems (p ++ a)).2,
    (readItems ((readItems (p ++ a)).2 ++ b)).2, fun fuel hfuel => ?_, fun fuel hfuel => ?_, fun fuel hfuel => ?_⟩
  · exact scanText_eq hsegments hfuel (fun item hitem => hread item (mem_append_left _ hitem)) hmiddle
  · exact scanText_eq hsegments hfuel (fun item hitem => hread item (mem_append_right _ hitem)) hleft
  · rw [scanText_eq hsegments hfuel (by rw [hparts]; exact hread) (by rw [hparts]; exact hleft), hparts,
      map_append]

end

end PiDaemon.Terminal
