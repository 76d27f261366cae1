import CtorLeak.Escape.Scan

/-!
# What a walk back visits

`scan` counts down as it goes.  Seen from outside, the instruction at a position is visited exactly
if fewer than the wanted number of values lie between it and the consumer:

    step ∈ scanBack code consumer values ↔ … valuesBetween code step.index consumer < values
                                                                          (mem_scanBack_iff)

and what is visited is visited from the nearest to the farthest (`pairwise_scanBack`).
-/

namespace CtorLeak

/-- Duplications and allocations are part of another value. -/
def Instruction.standsForValue : Instruction → Bool
  | stack .dup | new _ => false
  | _ => true

/-- How many instructions strictly between two positions stand for a value. -/
def valuesBetween (code : List Instruction) (first last : Nat) : Nat :=
  ((code.take last).drop (first + 1)).countP Instruction.standsForValue

theorem Instruction.not_isShuffle (i : Instruction) : (!i.isShuffle) = i.standsForValue := by
  cases i with
  | stack op => cases op <;> rfl
  | _ => rfl

/-! ## Walks over any list -/

/-- A walk reaches a place exactly if too few values come before it. -/
theorem mem_scan_iff (l : List (Instruction × Nat)) (values : Nat) (step : ScanStep) :
    step ∈ scan values l ↔
      ∃ k i, l[k]? = some (i, step.index) ∧ step.effect = i.effect ∧
        (l.take k).countP (fun p => !p.1.isShuffle) < values := by
  induction l generalizing values with
  | nil => cases values <;> simp [scan]
  | cons p before ih =>
    obtain ⟨i, index⟩ := p
    cases values with
    | zero => simp [scan]
    | succ values =>
      rw [scan, List.mem_cons, ih]
      constructor
      · rintro (rfl | ⟨k, j, hk, he, hc⟩)
        · exact ⟨0, i, rfl, rfl, by simp⟩
        · refine ⟨k + 1, j, hk, he, ?_⟩
          cases hi : i.isShuffle <;> simp [hi] at hc ⊢ <;> omega
      · rintro ⟨k, j, hk, he, hc⟩
        cases k with
        | zero =>
          simp only [List.getElem?_cons_zero, Option.some.injEq, Prod.mk.injEq] at hk
          obtain ⟨rfl, hindex⟩ := hk
          left
          cases step
          simp_all
        | succ k =>
          refine Or.inr ⟨k, j, hk, he, ?_⟩
          cases hi : i.isShuffle <;> simp [hi] at hc ⊢ <;> omega

/-- A walk visits places one after the other, without a gap. -/
theorem scan_prefix_map (l : List (Instruction × Nat)) (values : Nat) :
    scan values l <+: l.map fun p => ⟨p.2, p.1.effect⟩ := by
  induction l generalizing values with
  | nil => cases values <;> simp [scan]
  | cons p before ih =>
    obtain ⟨i, index⟩ := p
    cases values with
    | zero => exact List.nil_prefix
    | succ values =>
      rw [scan, List.map_cons, List.prefix_cons_inj]
      exact ih _

/-! ## Walks over code -/

/-- The positions of a list count up. -/
theorem pairwise_zipIdx {α : Type} (l : List α) :
    l.zipIdx.Pairwise fun p q => p.2 < q.2 := by
  have h : (l.zipIdx.map Prod.snd).Pairwise (· < ·) := by
    rw [List.zipIdx_map_snd]
    exact List.pairwise_lt_range'
  exact List.pairwise_map.1 h

/-- The `k`-th entry of the positions counted from the end. -/
theorem getElem?_reverse_zipIdx {α : Type} (l : List α) (k j : Nat) (a : α) :
    l.zipIdx.reverse[k]? = some (a, j) ↔ j + k + 1 = l.length ∧ l[j]? = some a := by
  by_cases hk : k < l.length
  · rw [List.getElem?_reverse (by simpa using hk), List.getElem?_zipIdx, List.length_zipIdx]
    simp only [Option.map_eq_some_iff, Prod.mk.injEq, Nat.zero_add]
    constructor
    · rintro ⟨b, hb, rfl, rfl⟩
      exact ⟨by omega, hb⟩
    · rintro ⟨hj, ha⟩
      have e : l.length - 1 - k = j := by omega
      exact ⟨a, by rw [e]; exact ha, rfl, e⟩
  · rw [List.getElem?_eq_none (by simp; omega)]
    constructor
    · intro h
      cases h
    · rintro ⟨hj, -⟩
      omega

/-- What the walk passes before it reaches position `j`. -/
theorem countP_take_reverse_zipIdx (l : List Instruction) (k j : Nat) (h : j + k + 1 = l.length) :
    (l.zipIdx.reverse.take k).countP (fun p => !p.1.isShuffle) =
      (l.drop (j + 1)).countP Instruction.standsForValue := by
  have hj : l.zipIdx.length - k = j + 1 := by
    rw [List.length_zipIdx]
    omega
  have hmap : (l.zipIdx.drop (j + 1)).map Prod.fst = l.drop (j + 1) := by
    rw [List.map_drop, List.zipIdx_map_fst]
  simp only [Instruction.not_isShuffle]
  rw [List.take_reverse, List.countP_reverse, hj, ← hmap, List.countP_map]
  rfl

theorem mem_scanBack_iff (code : List Instruction) (consumer values : Nat) (step : ScanStep) :
    step ∈ scanBack code consumer values ↔
      ∃ i, code[step.index]? = some i ∧ step.index < consumer ∧ step.effect = i.effect ∧
        valuesBetween code step.index consumer < values := by
  unfold scanBack valuesBetween
  rw [mem_scan_iff]
  constructor
  · rintro ⟨k, i, hk, he, hc⟩
    obtain ⟨hlen, hi⟩ := (getElem?_reverse_zipIdx _ _ _ _).1 hk
    rw [countP_take_reverse_zipIdx _ _ _ hlen] at hc
    have hlt : step.index < consumer := by
      rw [List.length_take] at hlen
      omega
    rw [List.getElem?_take_of_lt hlt] at hi
    exact ⟨i, hi, hlt, he, hc⟩
  · rintro ⟨i, hi, hlt, he, hc⟩
    have hcode : step.index < code.length := (List.getElem?_eq_some_iff.1 hi).1
    have hlen : step.index + ((code.take consumer).length - 1 - step.index) + 1 =
        (code.take consumer).length := by
      rw [List.length_take]
      omega
    refine ⟨_, i, (getElem?_reverse_zipIdx _ _ _ _).2 ⟨hlen, ?_⟩, he, ?_⟩
    · rw [List.getElem?_take_of_lt hlt]
      exact hi
    · rw [countP_take_reverse_zipIdx _ _ _ hlen]
      exact hc

/-- A walk goes from the nearest instruction to the farthest. -/
theorem pairwise_scanBack (code : List Instruction) (consumer values : Nat) :
    (scanBack code consumer values).Pairwise fun a b => b.index < a.index := by
  refine List.Pairwise.sublist (scan_prefix_map _ values).sublist ?_
  rw [List.pairwise_map, List.pairwise_reverse]
  exact pairwise_zipIdx _

end CtorLeak
