import Mathlib.Data.List.Sort
import CtorLeak.Proofs.Escape.Findings

/-!
# Findings do not depend on their context

Code is looked at in the middle of other code.  What comes after it does not matter, and what comes
before it matters only through loads of `this`: without any of these, the leaks of the middle are
those that it has on its own, at their new positions.

    l.Holds … (before ++ code ++ after) → ∃ l', l = l'.shift before.length  (exists_shift_of_holds)
    (l.shift before.length).Holds … (before ++ code ++ after) ↔ l.Holds … code    (holds_shift_iff)

The order of the leaks is the same in both places, so the lists are equal (`findings_in_context`).
-/

namespace CtorLeak

/-! ## Positions -/

namespace Leak

/-- The position of the call or of the store. -/
def site : Leak → Nat
  | argument call _ _ => call
  | store index _ => index

/-- The leak of code that is moved back by `n` positions. -/
def shift (n : Nat) : Leak → Leak
  | argument call load target => argument (n + call) (n + load) target
  | store index field => store (n + index) field

theorem site_shift (n : Nat) (l : Leak) : (l.shift n).site = n + l.site := by
  cases l <;> rfl

theorem precedes_shift_iff (n : Nat) (l m : Leak) :
    (l.shift n).Precedes (m.shift n) ↔ l.Precedes m := by
  cases l <;> cases m <;> simp [shift, Precedes]

theorem not_precedes_of_precedes {l m : Leak} (h : l.Precedes m) : ¬ m.Precedes l := by
  cases l with
  | argument call load target =>
    cases m with
    | argument call' load' target' =>
      simp only [Precedes] at h ⊢
      omega
    | store index field => exact not_false
  | store index field =>
    cases m with
    | argument call load target => exact absurd h not_false
    | store index' field' =>
      simp only [Precedes] at h ⊢
      omega

instance : Std.Irrefl Precedes := ⟨not_precedes_self⟩

instance : Std.Antisymm Precedes := ⟨fun _ _ h h' => absurd h' (not_precedes_of_precedes h)⟩

end Leak

def Finding.shift (n : Nat) (f : Finding) : Finding := { f with leak := f.leak.shift n }

/-! ## The middle of some code -/

section Middle

variable {before code after : List Instruction}

theorem getElem?_middle {k : Nat} (hk : k < code.length) :
    (before ++ code ++ after)[before.length + k]? = code[k]? := by
  rw [List.append_assoc, List.getElem?_append_right (Nat.le_add_right _ _),
    Nat.add_sub_cancel_left, List.getElem?_append_left hk]

theorem loadsThisAt_middle_iff {k : Nat} (hk : k < code.length) :
    LoadsThisAt (before ++ code ++ after) (before.length + k) ↔ LoadsThisAt code k := by
  unfold LoadsThisAt
  rw [getElem?_middle hk]

theorem valuesBetween_middle {first last : Nat} (h : last ≤ code.length) :
    valuesBetween (before ++ code ++ after) (before.length + first) (before.length + last) =
      valuesBetween code first last := by
  unfold valuesBetween
  rw [List.append_assoc, List.take_length_add_append, List.take_append_of_le_length h,
    Nat.add_assoc, List.drop_length_add_append]

/-- Without loads of `this` in front, a load of `this` is further back. -/
theorem le_of_loadsThisAt (h : ∀ i ∈ before, ∀ type, i ≠ .load type 0) {rest : List Instruction}
    {k : Nat} (hk : LoadsThisAt (before ++ rest) k) : before.length ≤ k := by
  obtain ⟨type, htype⟩ := hk
  by_contra hlt
  rw [List.getElem?_append_left (by omega)] at htype
  exact h _ (List.mem_of_getElem? htype) type rfl

end Middle

/-! ## Leaks of the middle -/

namespace Leak

variable {includeDynamic : Bool} {before code after : List Instruction} {l : Leak}

theorem site_lt_of_holds (h : l.Holds includeDynamic code) : l.site < code.length := by
  cases l with
  | argument call load target =>
    obtain ⟨i, _, hi, _⟩ := h
    exact (List.getElem?_eq_some_iff.1 hi).1
  | store index field =>
    obtain ⟨i, _, hi, _⟩ := h
    exact (List.getElem?_eq_some_iff.1 hi).1

/-- Every leak is behind the code that does not load `this`, with all of its positions. -/
theorem exists_shift_of_holds (h : ∀ i ∈ before, ∀ type, i ≠ .load type 0)
    (hl : l.Holds includeDynamic (before ++ code)) :
    ∃ l' : Leak, l = l'.shift before.length := by
  cases l with
  | argument call load target =>
    obtain ⟨_, _, _, _, hlt, hload, _⟩ := hl
    have hle := le_of_loadsThisAt h hload
    refine ⟨argument (call - before.length) (load - before.length) target, ?_⟩
    rw [shift, Nat.add_sub_cancel' hle, Nat.add_sub_cancel' (by omega)]
  | store index field =>
    obtain ⟨_, _, _, _, hpos, hload, _⟩ := hl
    have hle := le_of_loadsThisAt h hload
    refine ⟨store (index - before.length) field, ?_⟩
    rw [shift, Nat.add_sub_cancel' (by omega)]

/-- In the middle the same leaks hold as on its own. -/
theorem holds_shift_iff (h : ∀ i ∈ before, ∀ type, i ≠ .load type 0) (hl : l.site < code.length) :
    (l.shift before.length).Holds includeDynamic (before ++ code ++ after) ↔
      l.Holds includeDynamic code := by
  cases l with
  | argument call load target =>
    change call < code.length at hl
    simp only [shift, Holds, getElem?_middle hl, Nat.add_lt_add_iff_left,
      valuesBetween_middle (Nat.le_of_lt hl)]
    constructor
    · rintro ⟨i, descriptor, hi, hcall, hlt, hload, hrest⟩
      exact ⟨i, descriptor, hi, hcall, hlt, (loadsThisAt_middle_iff (by omega)).1 hload, hrest⟩
    · rintro ⟨i, descriptor, hi, hcall, hlt, hload, hrest⟩
      exact ⟨i, descriptor, hi, hcall, hlt, (loadsThisAt_middle_iff (by omega)).2 hload, hrest⟩
  | store index field =>
    change index < code.length at hl
    simp only [shift, Holds, getElem?_middle hl]
    cases index with
    | zero =>
      -- the instruction before the middle is not a load of `this`, if there is one at all
      constructor
      · rintro ⟨_, _, _, _, hpos, hload, _⟩
        rw [List.append_assoc] at hload
        have := le_of_loadsThisAt h hload
        omega
      · rintro ⟨_, _, _, _, hpos, _⟩
        omega
    | succ previous =>
      have hiff : LoadsThisAt (before ++ code ++ after) (before.length + (previous + 1) - 1) ↔
          LoadsThisAt code (previous + 1 - 1) :=
        loadsThisAt_middle_iff (by omega)
      have hpos : 0 < before.length + (previous + 1) ↔ 0 < previous + 1 := by omega
      simp only [hiff, hpos]

end Leak

theorem leaks_in_context (includeDynamic : Bool) (before code after : List Instruction)
    (h : ∀ i ∈ before, ∀ type, i ≠ .load type 0) :
    (leaks includeDynamic (before ++ code ++ after)).filter
        (fun l => before.length ≤ l.site ∧ l.site < before.length + code.length) =
      (leaks includeDynamic code).map (Leak.shift before.length) := by
  refine List.Pairwise.eq_of_mem_iff (r := Leak.Precedes) ?_ ?_ ?_
  · exact (pairwise_leaks includeDynamic _).filter _
  · rw [List.pairwise_map]
    refine (pairwise_leaks includeDynamic code).imp ?_
    intro l m hlm
    exact (Leak.precedes_shift_iff _ _ _).2 hlm
  · intro l
    rw [List.mem_filter, List.mem_map, mem_leaks_iff, decide_eq_true_iff]
    constructor
    · rintro ⟨hl, -, hlt⟩
      obtain ⟨l', rfl⟩ := Leak.exists_shift_of_holds h (List.append_assoc _ _ _ ▸ hl)
      rw [Leak.site_shift] at hlt
      exact ⟨l', (mem_leaks_iff _ _ _).2 ((Leak.holds_shift_iff h (by omega)).1 hl), rfl⟩
    · rintro ⟨l', hl', rfl⟩
      rw [mem_leaks_iff] at hl'
      have hlt := Leak.site_lt_of_holds hl'
      rw [Leak.site_shift]
      exact ⟨(Leak.holds_shift_iff h hlt).2 hl', by omega, by omega⟩

/-! ## Top theorem -/

/-- Behind code that does not load `this`, and whatever comes after it, some code has the findings
that it has on its own, in the same order and at positions that are moved back.  The code in front
has none. -/
theorem findings_in_context (owner : BinaryName) (includeDynamic : Bool)
    (before code after : List Instruction) (h : ∀ i ∈ before, ∀ type, i ≠ .load type 0) :
    (∀ f ∈ findings owner includeDynamic (before ++ code ++ after), before.length ≤ f.leak.site) ∧
      (findings owner includeDynamic (before ++ code ++ after)).filter
          (fun f => before.length ≤ f.leak.site ∧ f.leak.site < before.length + code.length) =
        (findings owner includeDynamic code).map (Finding.shift before.length) := by
  constructor
  · intro f hf
    obtain ⟨l, hl, rfl⟩ := List.mem_map.1 hf
    rw [mem_leaks_iff, List.append_assoc] at hl
    obtain ⟨l', rfl⟩ := Leak.exists_shift_of_holds h hl
    show before.length ≤ (l'.shift before.length).site
    rw [Leak.site_shift]
    exact Nat.le_add_right _ _
  · have hleaks := congrArg (List.map (Finding.mk owner))
      (leaks_in_context includeDynamic before code after h)
    unfold findings
    rw [List.filter_map, List.map_map]
    rw [List.map_map] at hleaks
    exact hleaks

/-- A static field that holds an object, and a method that takes two. -/
def sharedField : FieldRef :=
  ⟨⟨"a/Board", by decide⟩, ⟨"last", by decide⟩, "Ljava/lang/Object;"⟩

def pairMethod : MethodRef :=
  ⟨⟨"a/Registry", by decide⟩, ⟨"pair", by decide⟩, "(Ljava/lang/Object;Ljava/lang/Object;)V", false⟩

/-- A store, a call for which one value comes from elsewhere, and a store of `this`. -/
def sharingCode : List Instruction :=
  [.putStatic sharedField, .load .ref 0, .invoke .static pairMethod, .load .ref 0,
    .putStatic sharedField]

theorem findings_in_context_sharingCode :
    (∀ i ∈ [Instruction.load .ref 1, .stack .dup], ∀ type, i ≠ .load type 0) ∧
      (findings .object true ([.load .ref 1, .stack .dup] ++ sharingCode ++
          [.load .ref 0, .invoke .static pairMethod])).filter
          (fun f => 2 ≤ f.leak.site ∧ f.leak.site < 2 + sharingCode.length) =
        [⟨.object, .argument 4 3 "a/Registry.pair(Ljava/lang/Object;Ljava/lang/Object;)V"⟩,
          ⟨.object, .store 6 "a/Board.last"⟩] := by
  have hbefore : ∀ i ∈ [Instruction.load .ref 1, .stack .dup], ∀ type, i ≠ .load type 0 := by
    simp
  have halone : findings .object true sharingCode =
      [⟨.object, .argument 2 1 "a/Registry.pair(Ljava/lang/Object;Ljava/lang/Object;)V"⟩,
        ⟨.object, .store 4 "a/Board.last"⟩] := by
    decide +kernel
  have hmiddle := (findings_in_context .object true _ sharingCode
    [.load .ref 0, .invoke .static pairMethod] hbefore).2
  rw [halone] at hmiddle
  exact ⟨hbefore, hmiddle⟩

end CtorLeak
