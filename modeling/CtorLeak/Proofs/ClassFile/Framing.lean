import CtorLeak.Proofs.Bytes.Framing
import CtorLeak.Proofs.ClassFile.RoundTrip

/-!
# A class file ends where it ends

A class file is a frame in the bytes that it is read from: what comes after it does not matter, and
every beginning of it is reported as too short, never as another fault and never as a smaller class
file.

    ofBytes b = .ok c → ∃ n ≤ b.length, … ofBytes (b.take n ++ x) = .ok c …
                          ∀ m < n, … ofBytes (b.take m) = .error (.io cause)      (ofBytes_frame)
-/

namespace CtorLeak

open Reader

/-- The error of a read that runs past the end. -/
def FormatError.IsShort (e : FormatError) : Prop := ∃ cause, e = .io (.read cause)

theorem Reader.Framed.lift {α : Type} {r : Reader ReadError α} (h : Framed (fun _ => True) r) :
    Framed FormatError.IsShort (liftM r : Reader FormatError α) :=
  h.adaptExcept _ fun cause _ => ⟨cause, rfl⟩

/-! ## Constants -/

theorem Constant.framed_read (index : UInt16) :
    Framed FormatError.IsShort (Constant.read index) := by
  have one : ∀ {α : Type} {r : Reader ReadError α} (f : α → Constant), Framed (fun _ => True) r →
      Framed FormatError.IsShort (do return f (← r) : Reader FormatError Constant) :=
    fun f hr => hr.lift.bind fun a => .pure (f a)
  have two : ∀ {α β : Type} {r : Reader ReadError α} {q : Reader ReadError β}
      (f : α → β → Constant), Framed (fun _ => True) r → Framed (fun _ => True) q →
      Framed FormatError.IsShort (do return f (← r) (← q) : Reader FormatError Constant) :=
    fun f hr hq => hr.lift.bind fun a => hq.lift.bind fun b => .pure (f a b)
  refine Framed.u8.lift.bind fun tag => ?_
  split
  · refine Framed.u16.lift.bind fun length => (Framed.run length.toNat).lift.bind fun bytes => ?_
    split
    · exact .pure _
    · exact .throw _
  · exact one integer .i32
  · exact one float .u32
  · exact one long .i64
  · exact one double .u64
  · exact one classInfo .u16
  · exact one string .u16
  · exact two fieldRef .u16 .u16
  · exact two (methodRef · · false) .u16 .u16
  · exact two (methodRef · · true) .u16 .u16
  · exact two nameAndType .u16 .u16
  · exact two methodHandle .u8 .u16
  · exact one methodType .u16
  · exact two dynamic .u16 .u16
  · exact two invokeDynamic .u16 .u16
  · exact one moduleInfo .u16
  · exact one packageInfo .u16
  · exact .throw _

namespace ConstantPool

theorem framed_readConstants (count index : Nat) :
    Framed FormatError.IsShort (readConstants count index) := by
  fun_induction readConstants count index with
  | case1 index hlt ih =>
    exact (Constant.framed_read _).bind fun c => (ih c).bind fun cs => .pure (c :: cs)
  | case2 index hlt => exact .pure []

theorem framed_read : Framed FormatError.IsShort ConstantPool.read :=
  Framed.u16.lift.bind fun count => (framed_readConstants count.toNat 1).bind fun constants =>
    .pure (ofConstants constants)

end ConstantPool

/-! ## The class -/

theorem Attribute.framed_read : Framed (fun _ => True) Attribute.read :=
  Framed.u16.bind fun _ => Framed.u32.bind fun length =>
    (Framed.run length.toNat).bind fun _ => .pure _

theorem Member.framed_read (owner : FlagOwner) : Framed (fun _ => True) (Member.read owner) :=
  Framed.u16.bind fun _ => Framed.u16.bind fun _ => Framed.u16.bind fun _ =>
    Attribute.framed_read.vector.bind fun _ => .pure _

namespace ClassFile

theorem framed_read : Framed FormatError.IsShort ClassFile.read := by
  refine Framed.u32.lift.bind fun found => ?_
  split
  · exact Framed.throw (FormatError.badMagic found)
  · exact Framed.u16.lift.bind fun _ => Framed.u16.lift.bind fun _ =>
      ConstantPool.framed_read.bind fun _ => Framed.u16.lift.bind fun _ =>
        Framed.u16.lift.bind fun _ => Framed.u16.lift.bind fun _ =>
          Framed.u16.vector.lift.bind fun _ =>
            (Member.framed_read .ofField).vector.lift.bind fun _ =>
              (Member.framed_read .ofMethod).vector.lift.bind fun _ =>
                Attribute.framed_read.vector.lift.bind fun _ => .pure _

theorem ofBytes_eq_ok_iff {b : List UInt8} {c : ClassFile} :
    ofBytes b = .ok c ↔ ∃ s, ClassFile.read (.ofBytes b) = .ok c s := by
  unfold ofBytes
  split <;> simp_all

/-- A class file that is read from the front of some bytes takes `n` of them.  Any bytes may follow
these, and if the last of them are missing, what is reported is that they are missing. -/
theorem ofBytes_frame (b : List UInt8) (c : ClassFile) (h : ofBytes b = .ok c) :
    ∃ n ≤ b.length, ClassFile.read (.ofBytes b) = .ok c ⟨n, b.drop n⟩ ∧
      (∀ x, ofBytes (b.take n ++ x) = .ok c) ∧
      ∀ m < n, ∃ cause, ofBytes (b.take m) = .error (.io cause) ∧
        cause.kind = "UnexpectedEof" := by
  obtain ⟨s, hs⟩ := ofBytes_eq_ok_iff.1 h
  obtain ⟨w, hw, hrest, hoffset⟩ := framed_read _ _ _ hs
  change b = w ++ s.rest at hrest
  have htake : ∀ m, m ≤ w.length → b.take m = w.take m := by
    intro m hm
    rw [hrest, List.take_append_of_le_length hm]
  refine ⟨w.length, ?_, ?_, ?_, ?_⟩
  · rw [hrest, List.length_append]
    omega
  · have hs' : s = ⟨w.length, b.drop w.length⟩ := by
      rw [hrest, List.drop_left, ← Nat.zero_add w.length]
      exact congrArg (ByteStream.mk · s.rest) hoffset
    rwa [← hs']
  · intro x
    rw [htake _ (Nat.le_refl _), List.take_length]
    exact ofBytes_eq_ok_iff.2 ⟨_, hw.reads 0 x⟩
  · intro m hm
    have hdrop : w.drop m ≠ [] := by
      rw [Ne, List.drop_eq_nil_iff]
      omega
    obtain ⟨e, t, hfail, cause, rfl⟩ :=
      hw.short 0 _ _ (List.take_append_drop m w).symm hdrop
    refine ⟨.read cause, ?_, rfl⟩
    unfold ofBytes ByteStream.ofBytes
    rw [htake m (Nat.le_of_lt hm), hfail]

/-- A class with something in each of its tables, and two bytes behind it. -/
def mixedBytes : List UInt8 := mixedClass.write ++ [0xCA, 0xFE]

theorem ofBytes_frame_mixedBytes :
    ofBytes mixedBytes = .ok mixedClass ∧
      ∃ n ≤ mixedBytes.length,
        ClassFile.read (.ofBytes mixedBytes) = .ok mixedClass ⟨n, mixedBytes.drop n⟩ ∧
        (∀ x, ofBytes (mixedBytes.take n ++ x) = .ok mixedClass) ∧
        ∀ m < n, ∃ cause, ofBytes (mixedBytes.take m) = .error (.io cause) ∧
          cause.kind = "UnexpectedEof" := by
  have hfits : mixedClass.Fits mixedConstants :=
    ⟨rfl, by decide, by decide, by decide, by decide, by decide, by decide⟩
  have hread : ofBytes mixedBytes = .ok mixedClass :=
    ofBytes_eq_ok_iff.2 ⟨_, reads_read hfits 0 [0xCA, 0xFE]⟩
  exact ⟨hread, ofBytes_frame _ _ hread⟩

end ClassFile

end CtorLeak
