import CtorLeak.Proofs.Escape.Scan

/-!
# The walk back, step by step

A walk can be told by two counters: the position behind the next instruction to visit, which goes
down by one with every step, and the values still to be found, which go down with every step that is
no shuffle.  Asking such a cursor for its next step could lead outside the code; it never does, and
the steps that it makes until it is finished are those of `scanBack` (`walks_iff`).

How far a walk goes follows from counting the values that it passes (`valuesFrom_length_scanBack`).
If there are enough of them it ends with the one that completes the count, and otherwise with the
first instruction.
-/

namespace CtorLeak

/-! ## Cursors -/

/-- A walk between two steps. -/
structure ScanCursor where
  /-- The position behind the next instruction to visit; at 0 there is none. -/
  position : Nat
  /-- The values still to be found. -/
  remaining : Nat
deriving DecidableEq, Repr

namespace ScanCursor

/-- What comes of asking for the next step. -/
inductive Outcome where
  | finished
  | visited (step : ScanStep) (next : ScanCursor)
  /-- There is no instruction at the position to visit. -/
  | outOfRange
deriving DecidableEq, Repr

/-- Before the first step.  A consumer past the end counts as one at the end. -/
def start (code : List Instruction) (consumer values : Nat) : ScanCursor :=
  ⟨min consumer code.length, values⟩

def next (code : List Instruction) : ScanCursor → Outcome
  | ⟨_, 0⟩ | ⟨0, _⟩ => .finished
  | ⟨index + 1, values + 1⟩ =>
    match code[index]? with
    | none => .outOfRange
    | some i => .visited ⟨index, i.effect⟩ ⟨index, if i.isShuffle then values + 1 else values⟩

/-- The cursor makes the steps and is finished then, without ever being out of range. -/
inductive Walks (code : List Instruction) : ScanCursor → List ScanStep → Prop where
  | finished {c : ScanCursor} (h : c.next code = .finished) : Walks code c []
  | visited {c c' : ScanCursor} {step : ScanStep} {steps : List ScanStep}
      (h : c.next code = .visited step c') (hsteps : Walks code c' steps) :
      Walks code c (step :: steps)

end ScanCursor

/-! ## Positions -/

/-- How many instructions from one position on and before another stand for a value. -/
def valuesFrom (code : List Instruction) (first last : Nat) : Nat :=
  ((code.take last).drop first).countP Instruction.standsForValue

/-- The steps of a walk for a number of values over the instructions before position `c`. -/
structure IsWalk (code : List Instruction) (c values : Nat) (steps : List ScanStep) : Prop where
  length_le : steps.length ≤ c
  /-- The positions are visited one after the other, down from the last. -/
  visits : ∀ k < steps.length, ∃ i, code[c - 1 - k]? = some i ∧
    steps[k]? = some ⟨c - 1 - k, i.effect⟩
  count : valuesFrom code (c - steps.length) c = min values (valuesFrom code 0 c)
  /-- If there are enough values, the walk ends with the one that completes their number. -/
  last : 0 < values → values ≤ valuesFrom code 0 c →
    ∃ step i, steps.getLast? = some step ∧ code[step.index]? = some i ∧
      i.standsForValue ∧ valuesBetween code step.index c + 1 = values
  all : valuesFrom code 0 c < values → steps.length = c
  none : values = 0 → steps = []

/-! ## Steps of `scanBack` -/

section Equations

variable {code : List Instruction}

theorem scanBack_position_zero (values : Nat) : scanBack code 0 values = [] := by
  cases values <;> rfl

theorem scanBack_values_zero (consumer : Nat) : scanBack code consumer 0 = [] := by
  rw [scanBack, scan]

theorem scanBack_succ {index : Nat} {i : Instruction} (hi : code[index]? = some i) (values : Nat) :
    scanBack code (index + 1) (values + 1) =
      ⟨index, i.effect⟩ :: scanBack code index (if i.isShuffle then values + 1 else values) := by
  obtain ⟨hlt, -⟩ := List.getElem?_eq_some_iff.1 hi
  have hlength : (code.take index).length = index := List.length_take_of_le (Nat.le_of_lt hlt)
  have hzip : (code.take (index + 1)).zipIdx.reverse =
      (i, index) :: (code.take index).zipIdx.reverse := by
    rw [List.take_add_one, hi, Option.toList_some, List.zipIdx_append, List.reverse_append, hlength]
    simp
  rw [scanBack, hzip, scan, scanBack]

/-- A consumer past the end sees all instructions. -/
theorem scanBack_min (consumer values : Nat) :
    scanBack code (min consumer code.length) values = scanBack code consumer values := by
  unfold scanBack
  rw [← List.take_eq_take_min]

end Equations

/-! ## Cursors make the steps of `scanBack` -/

namespace ScanCursor

variable {code : List Instruction}

theorem next_position_zero (values : Nat) : next code ⟨0, values⟩ = .finished := by
  cases values <;> rfl

theorem next_values_zero (position : Nat) : next code ⟨position, 0⟩ = .finished := by
  rw [next]

/-- In range there is an instruction to visit. -/
theorem next_succ {index : Nat} {i : Instruction} (hi : code[index]? = some i) (values : Nat) :
    next code ⟨index + 1, values + 1⟩ =
      .visited ⟨index, i.effect⟩ ⟨index, if i.isShuffle then values + 1 else values⟩ := by
  simp only [next, hi]

theorem walks_scanBack {position : Nat} (h : position ≤ code.length) (values : Nat) :
    Walks code ⟨position, values⟩ (scanBack code position values) := by
  induction position generalizing values with
  | zero =>
    rw [scanBack_position_zero]
    exact .finished (next_position_zero values)
  | succ index ih =>
    cases values with
    | zero =>
      rw [scanBack_values_zero]
      exact .finished (next_values_zero _)
    | succ values =>
      have hi : code[index]? = some code[index] := List.getElem?_eq_getElem h
      rw [scanBack_succ hi]
      exact .visited (next_succ hi values) (ih (Nat.le_of_succ_le h) _)

/-- Each step is given by the one before it. -/
theorem Walks.eq_of_walks {c : ScanCursor} {steps steps' : List ScanStep} (h : Walks code c steps)
    (h' : Walks code c steps') : steps = steps' := by
  induction h generalizing steps' with
  | finished hnext =>
    cases h' with
    | finished => rfl
    | visited hnext' =>
      rw [hnext] at hnext'
      cases hnext'
  | visited hnext hsteps ih =>
    cases h' with
    | finished hnext' =>
      rw [hnext] at hnext'
      cases hnext'
    | visited hnext' hsteps' =>
      rw [hnext] at hnext'
      cases hnext'
      rw [ih hsteps']

theorem walks_iff (consumer values : Nat) (steps : List ScanStep) :
    Walks code (start code consumer values) steps ↔ steps = scanBack code consumer values := by
  have hwalks : Walks code (start code consumer values) (scanBack code consumer values) := by
    rw [← scanBack_min]
    exact walks_scanBack (Nat.min_le_right _ _) values
  constructor
  · intro h
    exact h.eq_of_walks hwalks
  · rintro rfl
    exact hwalks

end ScanCursor

/-! ## How far a walk goes -/

section Length

variable {code : List Instruction} {c : Nat}

theorem valuesFrom_succ {index first : Nat} {i : Instruction} (hi : code[index]? = some i)
    (hfirst : first ≤ index) :
    valuesFrom code first (index + 1) =
      valuesFrom code first index + if i.standsForValue then 1 else 0 := by
  obtain ⟨hlt, -⟩ := List.getElem?_eq_some_iff.1 hi
  have hlength : first ≤ (code.take index).length := by
    rw [List.length_take]
    omega
  unfold valuesFrom
  rw [List.take_add_one, hi, Option.toList_some, List.drop_append_of_le_length hlength,
    List.countP_append, List.countP_singleton]

theorem length_scanBack_le (hc : c ≤ code.length) (values : Nat) :
    (scanBack code c values).length ≤ c := by
  have h := (scan_prefix_map (code.take c).zipIdx.reverse values).length_le
  rwa [List.length_map, List.length_reverse, List.length_zipIdx, List.length_take_of_le hc] at h

theorem getElem?_scanBack (hc : c ≤ code.length) {values k : Nat}
    (hk : k < (scanBack code c values).length) :
    ∃ i, code[c - 1 - k]? = some i ∧
      (scanBack code c values)[k]? = some ⟨c - 1 - k, i.effect⟩ := by
  have hle := length_scanBack_le hc values
  have hi : code[c - 1 - k]? = some code[c - 1 - k] := List.getElem?_eq_getElem (by omega)
  have hentry : (code.take c).zipIdx.reverse[k]? = some (code[c - 1 - k], c - 1 - k) := by
    rw [getElem?_reverse_zipIdx, List.length_take_of_le hc, List.getElem?_take_of_lt (by omega)]
    exact ⟨by omega, hi⟩
  obtain ⟨rest, hrest⟩ := scan_prefix_map (code.take c).zipIdx.reverse values
  have hsame : (scanBack code c values ++ rest)[k]? = (scanBack code c values)[k]? :=
    List.getElem?_append_left hk
  refine ⟨_, hi, ?_⟩
  rw [← hsame, scanBack, hrest, List.getElem?_map, hentry, Option.map_some]

/-- A walk passes as many values as it was sent for, or all that there are. -/
theorem valuesFrom_length_scanBack (hc : c ≤ code.length) (values : Nat) :
    valuesFrom code (c - (scanBack code c values).length) c = min values (valuesFrom code 0 c) := by
  induction c generalizing values with
  | zero => simp [scanBack_position_zero, valuesFrom]
  | succ index ih =>
    cases values with
    | zero =>
      have hnone : (code.take (index + 1)).drop (index + 1) = [] :=
        List.drop_eq_nil_of_le (List.length_take_le _ _)
      simp [scanBack_values_zero, valuesFrom, hnone]
    | succ values =>
      have hi : code[index]? = some code[index] := List.getElem?_eq_getElem hc
      have hstep := ih (Nat.le_of_succ_le hc) (if code[index].isShuffle then values + 1 else values)
      rw [scanBack_succ hi, List.length_cons, Nat.add_sub_add_right, valuesFrom_succ hi (by omega),
        valuesFrom_succ hi (Nat.zero_le _), hstep, ← Instruction.not_isShuffle]
      cases code[index].isShuffle with
      | false =>
        simp only [Bool.not_false, Bool.false_eq_true, if_true, if_false]
        omega
      | true => simp only [Bool.not_true, Bool.false_eq_true, if_true, if_false, Nat.add_zero]

theorem valuesFrom_eq_add_valuesBetween {index : Nat} {i : Instruction}
    (hi : code[index]? = some i) (hc : index < c) :
    valuesFrom code index c =
      (if i.standsForValue then 1 else 0) + valuesBetween code index c := by
  have hget : (code.take c)[index]? = some i := by
    rw [List.getElem?_take_of_lt hc, hi]
  obtain ⟨hlt, heq⟩ := List.getElem?_eq_some_iff.1 hget
  rw [valuesFrom, List.drop_eq_getElem_cons hlt, heq, List.countP_cons, Nat.add_comm, valuesBetween]

/-- The last step is the farthest from the consumer. -/
theorem getLast?_scanBack (hc : c ≤ code.length) {values : Nat}
    (hpos : 0 < (scanBack code c values).length) :
    ∃ i, code[c - (scanBack code c values).length]? = some i ∧
      (scanBack code c values).getLast? =
        some ⟨c - (scanBack code c values).length, i.effect⟩ := by
  have hle := length_scanBack_le hc values
  obtain ⟨i, hi, hstep⟩ := getElem?_scanBack hc (Nat.sub_lt hpos Nat.one_pos)
  have hindex : c - 1 - ((scanBack code c values).length - 1) =
      c - (scanBack code c values).length := by
    omega
  rw [hindex] at hi hstep
  exact ⟨i, hi, by rw [List.getLast?_eq_getElem?, hstep]⟩

/-- A walk that finds its values ends with the one that completes their number: none of the
instructions behind it is visited, shuffles or not. -/
theorem last_scanBack (hc : c ≤ code.length) {values : Nat} (hpos : 0 < values)
    (henough : values ≤ valuesFrom code 0 c) :
    ∃ step i, (scanBack code c values).getLast? = some step ∧ code[step.index]? = some i ∧
      i.standsForValue ∧ valuesBetween code step.index c + 1 = values := by
  have hcount := valuesFrom_length_scanBack hc values
  rw [Nat.min_eq_left henough] at hcount
  have hlength : 0 < (scanBack code c values).length := by
    apply Nat.pos_of_ne_zero
    intro hzero
    rw [hzero, Nat.sub_zero, valuesFrom, List.drop_eq_nil_of_le (List.length_take_le _ _),
      List.countP_nil] at hcount
    omega
  have hle := length_scanBack_le hc values
  obtain ⟨i, hi, hlast⟩ := getLast?_scanBack hc hlength
  -- fewer than `values` values are between the last step and the consumer
  obtain ⟨-, -, -, -, hbetween⟩ := (mem_scanBack_iff _ _ _ _).1 (List.mem_of_getLast? hlast)
  rw [valuesFrom_eq_add_valuesBetween hi (by omega)] at hcount
  have hvalue : i.standsForValue := by
    cases hvalue : i.standsForValue with
    | true => rfl
    | false =>
      rw [hvalue, if_neg Bool.false_ne_true, Nat.zero_add] at hcount
      exact absurd hcount (Nat.ne_of_lt hbetween)
  rw [if_pos hvalue, Nat.add_comm] at hcount
  exact ⟨_, i, hlast, hi, hvalue, hcount⟩

/-- A walk that does not find its values goes on to the first instruction. -/
theorem length_scanBack_of_few (hc : c ≤ code.length) {values : Nat}
    (hfew : valuesFrom code 0 c < values) : (scanBack code c values).length = c := by
  have hle := length_scanBack_le hc values
  rcases Nat.eq_zero_or_pos c with rfl | hpos
  · omega
  have hfirst : code[0]? = some code[0] := List.getElem?_eq_getElem (by omega)
  have hbetween : valuesBetween code 0 c < values := by
    rw [valuesFrom_eq_add_valuesBetween hfirst hpos] at hfew
    omega
  have hmem : ⟨0, code[0].effect⟩ ∈ scanBack code c values :=
    (mem_scanBack_iff _ _ _ _).2 ⟨_, hfirst, hpos, rfl, hbetween⟩
  obtain ⟨k, hk⟩ := List.mem_iff_getElem?.1 hmem
  obtain ⟨hlt, -⟩ := List.getElem?_eq_some_iff.1 hk
  obtain ⟨i, -, hstep⟩ := getElem?_scanBack hc hlt
  rw [hk, Option.some.injEq, ScanStep.mk.injEq] at hstep
  omega

theorem isWalk_scanBack (hc : c ≤ code.length) (values : Nat) :
    IsWalk code c values (scanBack code c values) where
  length_le := length_scanBack_le hc values
  visits _ hk := getElem?_scanBack hc hk
  count := valuesFrom_length_scanBack hc values
  last hpos henough := last_scanBack hc hpos henough
  all hfew := length_scanBack_of_few hc hfew
  none hzero := by rw [hzero, scanBack_values_zero]

end Length

/-! ## Walks compared -/

/-- A walk for more values makes the same steps first. -/
theorem scan_prefix_scan {values more : Nat} (h : values ≤ more) (l : List (Instruction × Nat)) :
    scan values l <+: scan more l := by
  induction l generalizing values more with
  | nil => cases values <;> exact List.nil_prefix
  | cons p before ih =>
    obtain ⟨i, index⟩ := p
    cases values with
    | zero => exact List.nil_prefix
    | succ values =>
      cases more with
      | zero => omega
      | succ more =>
        rw [scan, scan, List.prefix_cons_inj]
        apply ih
        split <;> omega

/-- Only the instructions before the consumer matter. -/
theorem scanBack_congr {code code' : List Instruction} {consumer : Nat}
    (h : ∀ k < consumer, code'[k]? = code[k]?) (values : Nat) :
    scanBack code' consumer values = scanBack code consumer values := by
  have htake : code'.take consumer = code.take consumer := by
    apply List.ext_getElem?
    intro k
    by_cases hk : k < consumer
    · rw [List.getElem?_take_of_lt hk, List.getElem?_take_of_lt hk, h k hk]
    · rw [List.getElem?_take_eq_none (by omega), List.getElem?_take_eq_none (by omega)]
  rw [scanBack, htake, scanBack]

/-! ## Top theorem -/

/-- A cursor comes to an end without leaving the code, and makes the steps of a walk over the
instructions before the consumer.  More values only add steps at the end, and the instructions from
the consumer on do not matter. -/
theorem scanBack_closed_form (code : List Instruction) (consumer values : Nat) :
    (∀ steps, (ScanCursor.start code consumer values).Walks code steps ↔
      steps = scanBack code consumer values) ∧
    IsWalk code (min consumer code.length) values (scanBack code consumer values) ∧
    (∀ more, values ≤ more → scanBack code consumer values <+: scanBack code consumer more) ∧
    ∀ code', (∀ k < consumer, code'[k]? = code[k]?) →
      scanBack code' consumer values = scanBack code consumer values := by
  refine ⟨ScanCursor.walks_iff consumer values, ?_, fun more h => scan_prefix_scan h _,
    fun code' h => scanBack_congr h values⟩
  rw [← scanBack_min]
  exact isWalk_scanBack (Nat.min_le_right _ _) values

/-- A load that is duplicated twice. -/
def duplicatedLoad : List Instruction := [.nop, .load .ref 0, .stack .dup, .stack .dup, .returnVoid]

/-- The walk goes over the duplications and ends with the load that they duplicate, though there is
an instruction before it. -/
theorem scanBack_closed_form_duplicatedLoad :
    (∃ step i, (scanBack duplicatedLoad 4 1).getLast? = some step ∧
      duplicatedLoad[step.index]? = some i ∧ i.standsForValue ∧
      valuesBetween duplicatedLoad step.index 4 + 1 = 1) ∧
    scanBack duplicatedLoad 4 1 <+: scanBack duplicatedLoad 4 9 ∧
    scanBack (duplicatedLoad ++ duplicatedLoad) 4 1 = scanBack duplicatedLoad 4 1 := by
  obtain ⟨-, hwalk, hmore, hbefore⟩ := scanBack_closed_form duplicatedLoad 4 1
  exact ⟨hwalk.last (by decide) (by decide), hmore 9 (by decide), hbefore _ (by decide)⟩

end CtorLeak
