import CtorLeak.Proofs.Instruction.Decoding
import CtorLeak.Proofs.Instruction.Parts

/-!
# Code that is moved

The offset at which code stands matters in two places only: it is part of errors, and the padding of
a switch goes up to a multiple of four.  So code that is moved by a multiple of four decodes as
before, with the offsets of errors moved along (`decodeFrom_add`).

Decoding therefore goes on behind code that decodes in a way that depends on nothing but the length
of this code modulo four (`decode_append_congr`).
-/

namespace CtorLeak

open Reader

namespace CodeError

/-- The error of an instruction that stands `d` bytes further on. -/
def shift (d : Nat) : CodeError → CodeError
  | unknownOpcode opcode offset => unknownOpcode opcode (offset + d)
  | badWideOpcode opcode offset => badWideOpcode opcode (offset + d)
  | badArrayType code offset => badArrayType code (offset + d)
  | truncated offset => truncated (offset + d)
  | resolve e => resolve e

theorem shift_shift (e : CodeError) (a b : Nat) : (e.shift a).shift b = e.shift (a + b) := by
  cases e <;> simp [shift, Nat.add_assoc]

end CodeError

namespace Instruction

variable {α β : Type} {pool : ConstantPool} {start d : Nat}

/-! ## One instruction -/

/-- Two results that differ by where the bytes stood. -/
inductive Moved (d : Nat) : EStateM.Result CodeError ByteStream α →
    EStateM.Result CodeError ByteStream α → Prop where
  | ok (a : α) (s : ByteStream) : Moved d (.ok a s) (.ok a ⟨s.offset + d, s.rest⟩)
  | error (e : CodeError) (s s' : ByteStream) : Moved d (.error e s) (.error (e.shift d) s')

theorem Moved.eq_of_ok {x : EStateM.Result CodeError ByteStream α} {a : α} {s : ByteStream}
    (h : Moved d (.ok a s) x) : x = .ok a ⟨s.offset + d, s.rest⟩ := by
  cases h
  rfl

theorem Moved.eq_of_error {x : EStateM.Result CodeError ByteStream α} {e : CodeError}
    {s : ByteStream} (h : Moved d (.error e s) x) : ∃ t, x = .error (e.shift d) t := by
  cases h
  exact ⟨_, rfl⟩

/-- On the same bytes `d` further on, `r'` does what `r` does. -/
def Follows (d : Nat) (r r' : Reader CodeError α) : Prop :=
  ∀ s : ByteStream, Moved d (r s) (r' ⟨s.offset + d, s.rest⟩)

namespace Follows

theorem pure (a : α) : Follows d (Pure.pure a) (Pure.pure a) := by
  intro s
  exact .ok a s

theorem bind {r r' : Reader CodeError α} {f f' : α → Reader CodeError β} (hr : Follows d r r')
    (hf : ∀ a, Follows d (f a) (f' a)) : Follows d (r >>= f) (r' >>= f') := by
  intro s
  have h := hr s
  simp only [Bind.bind, EStateM.bind]
  revert h
  generalize r s = x, r' ⟨s.offset + d, s.rest⟩ = x'
  intro h
  cases h with
  | ok a t => exact hf a t
  | error e t t' => exact .error e t t'

theorem resolved (answer : Except ResolveError α) :
    Follows d (Instruction.resolved answer) (Instruction.resolved answer) := by
  cases answer with
  | ok a => exact pure a
  | error e =>
    intro s
    exact .error (.resolve e) _ _

/-- A plain read takes no notice of where it is; only its failure is reported with the place. -/
theorem operand {r : Reader ReadError α} (hr : Framed (fun _ => True) r) :
    Follows d (Instruction.operand start r) (Instruction.operand (start + d) r) := by
  intro s
  simp only [Instruction.operand, EStateM.adaptExcept]
  cases hread : r s with
  | ok a t =>
    obtain ⟨w, hw, hrest, hoffset⟩ := hr _ _ _ hread
    rw [hrest, hw.reads (s.offset + d) t.rest, Nat.add_right_comm, ← hoffset]
    exact .ok a t
  | error e t =>
    cases hread' : r ⟨s.offset + d, s.rest⟩ with
    | ok a t' =>
      -- what can be read there could have been read here
      obtain ⟨w, hw, hrest, -⟩ := hr _ _ _ hread'
      have hread'' := hw.reads s.offset t'.rest
      rw [← hrest, hread] at hread''
      cases hread''
    | error e' t' => exact .error (.truncated start) t t'

theorem entryCount (count : Int64) (size : UInt64) :
    Follows d (Instruction.entryCount start count size)
      (Instruction.entryCount (start + d) count size) := by
  intro s
  simp only [Instruction.entryCount]
  split
  · exact .error (.truncated start) _ _
  · split
    · exact .error (.truncated start) _ _
    · exact .ok _ s

end Follows

theorem padding_add (start : Nat) (hd : 4 ∣ d) : padding (start + d) = padding start := by
  unfold padding
  omega

theorem follows_parts (hd : 4 ∣ d) :
    PartRelation pool pool start (start + d) fun _ r r' => Follows d r r' where
  pure := .pure
  bind := .bind
  plain hr := .operand hr
  pad := by
    rw [padding_add start hd]
    exact .operand (.run _)
  table size _ _ hframed count f :=
    (Follows.entryCount count size).bind fun n => (Follows.operand (hframed.times n)).bind fun l =>
      .pure (f l)
  field _ := .resolved _
  method _ := .resolved _
  callSite _ := .resolved _
  className _ := .resolved _
  unknownOpcode opcode _ := .error (.unknownOpcode opcode start) _ _
  badWideOpcode opcode _ := .error (.badWideOpcode opcode start) _ _
  badArrayType code _ := .error (.badArrayType code start) _ _

theorem read_add_of_ok (hd : 4 ∣ d) {s s' : ByteStream} {i : Instruction}
    (h : read pool start s = .ok i s') :
    read pool (start + d) ⟨s.offset + d, s.rest⟩ = .ok i ⟨s'.offset + d, s'.rest⟩ := by
  have hmoved : Moved d (read pool start s) _ := (follows_parts hd).read s
  rw [h] at hmoved
  exact hmoved.eq_of_ok

theorem read_add_of_error (hd : 4 ∣ d) {s s' : ByteStream} {e : CodeError}
    (h : read pool start s = .error e s') :
    ∃ t, read pool (start + d) ⟨s.offset + d, s.rest⟩ = .error (e.shift d) t := by
  have hmoved : Moved d (read pool start s) _ := (follows_parts hd).read s
  rw [h] at hmoved
  exact hmoved.eq_of_error

/-! ## Code arrays -/

/-- Code that stands a multiple of four further on. -/
theorem decodeFrom_add (hd : 4 ∣ d) (s : ByteStream) :
    decodeFrom pool ⟨s.offset + d, s.rest⟩ = (decodeFrom pool s).mapError (.shift d) := by
  fun_induction decodeFrom pool s with
  | case1 s hempty =>
    rw [List.isEmpty_iff.1 hempty, decodeFrom_nil]
    rfl
  | case2 s hne e s' hread =>
    obtain ⟨t, hread'⟩ := read_add_of_error hd hread
    exact decodeFrom_of_read_error (by simpa using hne) hread'
  | case3 s hne i s' hread hlt e hrest ih =>
    rw [decodeFrom_of_read (read_add_of_ok hd hread), ih, hrest]
    rfl
  | case4 s hne i s' hread hlt is hrest ih =>
    rw [decodeFrom_of_read (read_add_of_ok hd hread), ih, hrest]
    rfl

/-- Only the place of code within four bytes matters. -/
theorem decodeFrom_mod_four (offset : Nat) (v : List UInt8) :
    decodeFrom pool ⟨offset, v⟩ =
      (decodeFrom pool ⟨offset % 4, v⟩).mapError (.shift (4 * (offset / 4))) := by
  have h : decodeFrom pool ⟨offset % 4 + 4 * (offset / 4), v⟩ = _ :=
    decodeFrom_add (Nat.dvd_mul_right 4 (offset / 4)) ⟨offset % 4, v⟩
  rwa [Nat.mod_add_div] at h

theorem decode_append {u : List UInt8} {is : List Instruction} (h : decode pool u = .ok is)
    (v : List UInt8) :
    decode pool (u ++ v) = (decodeFrom pool ⟨u.length, v⟩).map (is ++ ·) := by
  have hu : EncodesAll pool 0 is u := encodesAll_of_decodeFrom h
  have happend := decodeFrom_append hu v
  rwa [Nat.zero_add] at happend

/-- Behind two pieces of code that end at the same place within four bytes, the same bytes decode to
the same instructions, or fail alike, with offsets that differ by the lengths of the two.  Behind
code whose length is a multiple of four, bytes decode as they do on their own. -/
theorem decode_append_congr (pool : ConstantPool) (u u' : List UInt8) (is is' : List Instruction)
    (hu : decode pool u = .ok is) (hu' : decode pool u' = .ok is')
    (hmod : u.length % 4 = u'.length % 4) (v : List UInt8) :
    ((∃ js, decode pool (u ++ v) = .ok (is ++ js) ∧ decode pool (u' ++ v) = .ok (is' ++ js)) ∨
      ∃ e e', decode pool (u ++ v) = .error e ∧ decode pool (u' ++ v) = .error e' ∧
        e.shift u'.length = e'.shift u.length) ∧
    (u.length % 4 = 0 →
      decode pool (u ++ v) = ((decode pool v).mapError (.shift u.length)).map (is ++ ·)) := by
  rw [decode_append hu, decode_append hu', decodeFrom_mod_four u.length,
    decodeFrom_mod_four u'.length, ← hmod]
  constructor
  · cases decodeFrom pool ⟨u.length % 4, v⟩ with
    | ok js => exact .inl ⟨js, rfl, rfl⟩
    | error e =>
      refine .inr ⟨_, _, rfl, rfl, ?_⟩
      rw [CodeError.shift_shift, CodeError.shift_shift]
      congr 1
      omega
  · intro hzero
    rw [hzero, show 4 * (u.length / 4) = u.length by omega]
    rfl

/-- A return and a byte that is no opcode, on their own and behind a wide load, once and twice. -/
theorem decode_append_congr_wideLoad :
    decode .empty [0xc4, 0x15, 0, 1] = .ok [.load .int 1] ∧
      decode .empty [0xc4, 0x15, 0, 1, 0xc4, 0x15, 0, 1] = .ok [.load .int 1, .load .int 1] ∧
      decode .empty [0xb1, 0xcb] = .error (.unknownOpcode 0xcb 1) ∧
      decode .empty [0xc4, 0x15, 0, 1, 0xb1, 0xcb] = .error (.unknownOpcode 0xcb 5) ∧
      ∃ e, decode .empty [0xc4, 0x15, 0, 1, 0xc4, 0x15, 0, 1, 0xb1, 0xcb] = .error e ∧
        CodeError.shift 8 (.unknownOpcode 0xcb 5) = e.shift 4 := by
  have hload : ∀ start, Encodes .empty start (.load .int 1) [0xc4, 0x15, 0, 1] :=
    fun start => .loadWide .int 1
  have honce : decode .empty [0xc4, 0x15, 0, 1] = .ok [.load .int 1] :=
    decodeFrom_of_encodesAll (.cons (hload 0) (.nil _))
  have htwice : decode .empty [0xc4, 0x15, 0, 1, 0xc4, 0x15, 0, 1] =
      .ok [.load .int 1, .load .int 1] :=
    decodeFrom_of_encodesAll (.cons (hload 0) (.cons (hload 4) (.nil _)))
  have hbad : decode .empty [0xb1, 0xcb] = .error (.unknownOpcode 0xcb 1) := by
    have hreturn : decode .empty [0xb1] = .ok [.returnVoid] :=
      decodeFrom_of_encodesAll (.cons (.simple rfl) (.nil _))
    have hopcode : decodeFrom .empty ⟨1, [0xcb]⟩ = .error (.unknownOpcode 0xcb 1) :=
      decodeFrom_of_read_error (List.cons_ne_nil _ _) rfl
    exact (decode_append hreturn [0xcb]).trans (congrArg (Except.map _) hopcode)
  obtain ⟨hboth, hself⟩ := decode_append_congr _ _ _ _ _ honce htwice (by decide) [0xb1, 0xcb]
  have honce' : decode .empty [0xc4, 0x15, 0, 1, 0xb1, 0xcb] = .error (.unknownOpcode 0xcb 5) := by
    have := hself (by decide)
    rwa [hbad] at this
  refine ⟨honce, htwice, hbad, honce', ?_⟩
  rcases hboth with ⟨js, hok, -⟩ | ⟨e, e', he, he', hshift⟩
  · cases honce'.symm.trans hok
  · cases honce'.symm.trans he
    exact ⟨e', he', hshift⟩

end Instruction

end CtorLeak
