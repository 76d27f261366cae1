import CtorLeak.Proofs.Instruction.Decoding
import CtorLeak.Proofs.Instruction.Parts

/-!
# Code that is cut short

An instruction is a frame in its code: if its last bytes are missing, the decoder says that the
instruction is truncated, and nothing else (`framed_read`).  The table of a switch is the one part
where this is not plain, since its room is checked before it is read.

Hence a code array that decodes can be cut between two instructions, which leaves the instructions
before the cut; any other cut is noticed, at the instruction that it goes through (`decode_take`).
-/

namespace CtorLeak.Instruction

open Reader

variable {pool : ConstantPool} {start : Nat}

/-! ## Instructions are frames -/

theorem framed_operand {α : Type} {r : Reader ReadError α} (hr : Framed (fun _ => True) r) :
    Framed (· = .truncated start) (operand start r) :=
  hr.adaptExcept _ fun _ _ => rfl

theorem framed_resolved {α : Type} {E : CodeError → Prop} (answer : Except ResolveError α) :
    Framed E (resolved answer) := by
  cases answer with
  | ok a => exact .pure a
  | error e => exact .throw _

/-- A table that is cut short fails the check, or else it fails where it is cut. -/
theorem framed_table {α : Type} {r : Reader ReadError α} {write : α → List UInt8} (size : UInt64)
    (hr : Accepts r fun a w => w = write a) (hsize : ∀ a, (write a).length = size.toNat)
    (hframed : Framed (fun _ => True) r) (count : Int64) (f : List α → Instruction) :
    Framed (· = .truncated start) (do
      let n ← entryCount start count size
      let l ← operand start (times n r)
      return f l) := by
  have haccepts := accepts_entries start size hr hsize count f
  have htable (n : Nat) : Framed (· = .truncated start)
      (operand start (times n r) >>= fun l => Pure.pure (f l)) :=
    (framed_operand (hframed.times n)).bind fun l => .pure (f l)
  intro s i s' h
  obtain ⟨w, hw, hrest⟩ := haccepts.sound s i s' h
  refine ⟨w, ⟨haccepts.reads i w hw, ?_⟩, hrest⟩
  obtain ⟨l, hcount, rfl, rfl⟩ := hw
  have hreads : Reads (operand start (times l.length r) >>= fun l => Pure.pure (f l)) (f l)
      (l.flatMap write) :=
    (accepts_operand (hr.times l.length)).bind_pure f |>.reads _ _
      ⟨l, ⟨rfl, (row_flatMap_iff _ _ _).2 rfl⟩, rfl⟩
  intro offset u v heq hv
  obtain ⟨n, hn, -, hok⟩ | ⟨-, herror⟩ := entryCount_cases start count size ⟨offset, u⟩
  · rw [hcount, Int.ofNat_inj] at hn
    subst hn
    obtain ⟨e, t, hfail, he⟩ := ((htable _).needs hreads).short offset u v heq hv
    exact ⟨e, t, by rw [bind_of_eq_ok _ hok, hfail], he⟩
  · exact ⟨_, _, bind_of_eq_error _ herror, rfl⟩

theorem framed_parts :
    PartRelation pool pool start start fun _ r _ => Framed (· = .truncated start) r where
  pure := .pure
  bind := .bind
  plain := framed_operand
  pad := framed_operand (.run _)
  table := framed_table
  field _ := framed_resolved _
  method _ := framed_resolved _
  callSite _ := framed_resolved _
  className _ := framed_resolved _
  unknownOpcode _ := .throw _
  badWideOpcode _ := .throw _
  badArrayType _ := .throw _

/-- An instruction that lacks some of its bytes is truncated. -/
theorem framed_read : Framed (· = .truncated start) (read pool start) := framed_parts.read

/-- Some of an instruction, and nothing behind it. -/
theorem decodeFrom_of_cut {i : Instruction} {u v : List UInt8} (h : Encodes pool start i (u ++ v))
    (hu : u ≠ []) (hv : v ≠ []) : decodeFrom pool ⟨start, u⟩ = .error (.truncated start) := by
  have hneeds := framed_read.needs (accepts_read.reads i (u ++ v) h)
  obtain ⟨e, s, hfail, rfl⟩ := hneeds.short start u v rfl hv
  exact decodeFrom_of_read_error hu hfail

/-! ## Where instructions stand -/

/-- The instruction number `k` of a code array takes the bytes from `start` up to `stop`, and those
before it take the bytes before it. -/
structure Spans (pool : ConstantPool) (is : List Instruction) (code : List UInt8)
    (k start stop : Nat) : Prop where
  stop_le : stop ≤ code.length
  before : EncodesAll pool 0 (is.take k) (code.take start)
  encodes : ∃ i, is[k]? = some i ∧ Encodes pool start i ((code.take stop).drop start)

/-- Every byte of a code array belongs to an instruction. -/
theorem exists_encodes_of_lt {offset m : Nat} {is : List Instruction} {code : List UInt8}
    (h : EncodesAll pool offset is code) (hm : m < code.length) :
    ∃ before i after u w v, is = before ++ i :: after ∧ code = u ++ (w ++ v) ∧
      EncodesAll pool offset before u ∧ Encodes pool (offset + u.length) i w ∧
      u.length ≤ m ∧ m < u.length + w.length := by
  induction h generalizing m with
  | nil offset => cases hm
  | @cons offset i is w rest hi his ih =>
    by_cases hw : m < w.length
    · exact ⟨[], i, is, [], w, rest, rfl, rfl, .nil offset, hi, Nat.zero_le m, by simpa using hw⟩
    · rw [List.length_append] at hm
      obtain ⟨before, j, after, u, x, v, rfl, rfl, hbefore, hj, hle, hlt⟩ :=
        ih (m := m - w.length) (by omega)
      refine ⟨i :: before, j, after, w ++ u, x, v, rfl, by simp, .cons hi hbefore, ?_, ?_, ?_⟩
      · rwa [List.length_append, ← Nat.add_assoc]
      · rw [List.length_append]
        omega
      · rw [List.length_append]
        omega

theorem exists_spans {is : List Instruction} {code : List UInt8} {m : Nat}
    (h : EncodesAll pool 0 is code) (hm : m < code.length) :
    ∃ k start stop, Spans pool is code k start stop ∧ start ≤ m ∧ m < stop := by
  obtain ⟨before, i, after, u, w, v, rfl, rfl, hbefore, hi, hle, hlt⟩ := exists_encodes_of_lt h hm
  refine ⟨before.length, u.length, u.length + w.length, ⟨?_, ?_, i, ?_, ?_⟩, hle, hlt⟩
  · simp
  · simpa using hbefore
  · simp
  · rw [List.drop_take, List.drop_left, Nat.add_sub_cancel_left, List.take_left]
    rwa [Nat.zero_add] at hi

theorem take_eq_take_append {code : List UInt8} {a b : Nat} (h : a ≤ b) :
    code.take b = code.take a ++ (code.take b).drop a := by
  have htake : (code.take b).take a = code.take a := by
    rw [List.take_take, Nat.min_eq_left h]
  rw [← htake, List.take_append_drop]

theorem decode_of_spans_lt {is : List Instruction} {code : List UInt8} {k start stop m : Nat}
    (h : Spans pool is code k start stop) (hlt : start < m) (hm : m < stop) :
    decode pool (code.take m) = .error (.truncated start) := by
  have hstop := h.stop_le
  obtain ⟨i, -, hi⟩ := h.encodes
  -- the instruction is what is left of it, and what the cut takes away
  have hw : (code.take stop).drop start =
      (code.take m).drop start ++ (code.take stop).drop m := by
    rw [← List.drop_append_of_le_length, ← take_eq_take_append (Nat.le_of_lt hm)]
    rw [List.length_take]
    omega
  have hleft : (code.take m).drop start ≠ [] := by
    rw [Ne, List.drop_eq_nil_iff, List.length_take]
    omega
  have hgone : (code.take stop).drop m ≠ [] := by
    rw [Ne, List.drop_eq_nil_iff, List.length_take]
    omega
  have hlength : (code.take start).length = start := List.length_take_of_le (by omega)
  rw [hw] at hi
  have hcut := decodeFrom_of_cut hi hleft hgone
  unfold decode ByteStream.ofBytes
  rw [take_eq_take_append (Nat.le_of_lt hlt), decodeFrom_append h.before, hlength, Nat.zero_add,
    hcut]
  rfl

/-- Every position of a code array that decodes lies in an instruction.  Cut at the start of one,
the code decodes to the instructions before it; cut inside of one, this instruction is truncated. -/
theorem decode_take (pool : ConstantPool) (code : List UInt8) (is : List Instruction)
    (h : decode pool code = .ok is) (m : Nat) (hm : m < code.length) :
    (∃ k start stop, Spans pool is code k start stop ∧ start ≤ m ∧ m < stop) ∧
      (∀ k stop, Spans pool is code k m stop → decode pool (code.take m) = .ok (is.take k)) ∧
      ∀ k start stop, Spans pool is code k start stop → start < m → m < stop →
        decode pool (code.take m) = .error (.truncated start) := by
  refine ⟨exists_spans (encodesAll_of_decodeFrom h) hm, ?_, ?_⟩
  · intro k stop hspans
    exact decodeFrom_of_encodesAll hspans.before
  · intro k start stop hspans
    exact decode_of_spans_lt hspans

/-- A load, a switch that starts at offset 1 and a return. -/
def switchCode : List UInt8 :=
  [0x1a, 0xaa, 0, 0, 0, 0, 0, 32, 0, 0, 0, 1, 0, 0, 0, 2, 0, 0, 0, 24, 0, 0, 0, 28, 0xb1]

theorem decode_take_switchCode :
    decode .empty switchCode = .ok [.load .int 0, .tableSwitch 32 1 [24, 28], .returnVoid] ∧
      switchCode.length = 25 ∧
      decode .empty (switchCode.take 7) = .error (.truncated 1) ∧
      decode .empty (switchCode.take 24) = .ok [.load .int 0, .tableSwitch 32 1 [24, 28]] := by
  have hload : Encodes .empty 0 (.load .int 0) [0x1a] := .loadShort .int 0 (by decide)
  have hswitch : Encodes .empty 1 (.tableSwitch 32 1 [24, 28]) ((switchCode.take 24).drop 1) :=
    .tableSwitch [0, 0] 32 1 2 [24, 28] ⟨by decide, by decide⟩ (by decide)
  have hreturn : Encodes .empty 24 .returnVoid [0xb1] := .simple rfl
  have hdecode : decode .empty switchCode =
      .ok [.load .int 0, .tableSwitch 32 1 [24, 28], .returnVoid] :=
    decodeFrom_of_encodesAll (.cons hload (.cons hswitch (.cons hreturn (.nil _))))
  have hinside : Spans .empty [.load .int 0, .tableSwitch 32 1 [24, 28], .returnVoid] switchCode
      1 1 24 :=
    ⟨by decide, .cons hload (.nil _), _, rfl, hswitch⟩
  have hbetween : Spans .empty [.load .int 0, .tableSwitch 32 1 [24, 28], .returnVoid] switchCode
      2 24 25 :=
    ⟨by decide, .cons hload (.cons hswitch (.nil _)), _, rfl, hreturn⟩
  refine ⟨hdecode, rfl, ?_, ?_⟩
  · exact (decode_take _ _ _ hdecode 7 (by decide)).2.2 1 1 24 hinside (by decide) (by decide)
  · exact (decode_take _ _ _ hdecode 24 (by decide)).2.1 2 25 hbetween

end CtorLeak.Instruction
