import CtorLeak.Proofs.ClassFile.RoundTrip

/-!
# Reading loses nothing

`Shape` lists the kinds of data that a class file is made of, numbers and records and vectors of
any of them, each with its values, its reader and its writer.  A reader answers with a value exactly
if the bytes begin with what is written of it:

    s.read ⟨offset, b⟩ = .ok v ⟨offset', rest⟩ ↔ s.Fits v ∧ b = s.write v ++ rest ∧ …

Words of flags are the exception.  A member is read with any bits that have no meaning and written
without them, so that its bytes are fixed only up to these (`Shape.Writes`).
-/

namespace CtorLeak

open Reader

/-! ## Code -/

/-- The code can be written. -/
structure Code.Fits (c : Code) : Prop where
  bytes : c.bytes.length < 4294967296
  handlers : c.handlers.length ≤ 65535
  attributes : VectorFits Attribute.Fits c.attributes

theorem ExceptionHandler.accepts_read :
    Accepts ExceptionHandler.read fun h w => w = h.write := by
  refine (accepts_u16.bind fun startPc => accepts_u16.bind fun endPc =>
    accepts_u16.bind fun handlerPc =>
      accepts_u16.bind_pure (ExceptionHandler.mk startPc endPc handlerPc)).congr fun h w => ?_
  constructor
  · rintro ⟨startPc, _, _, rfl, ⟨endPc, _, _, rfl, ⟨handlerPc, _, _, rfl,
      ⟨catchType, rfl, rfl⟩, rfl⟩, rfl⟩, rfl⟩
    simp only [write, List.append_assoc]
  · rintro rfl
    refine ⟨h.startPc, _, _, rfl, ⟨h.endPc, _, _, rfl, ⟨h.handlerPc, _, _, rfl,
      ⟨h.catchType, rfl, rfl⟩, rfl⟩, rfl⟩, ?_⟩
    simp only [write, List.append_assoc]

theorem Code.accepts_read : Accepts Code.read fun c w => c.Fits ∧ w = c.write := by
  have hhandlers : Accepts (vector ExceptionHandler.read) fun l w =>
      VectorFits (fun _ => True) l ∧ w = Writer.vector ExceptionHandler.write l :=
    accepts_vector_of_fits (ExceptionHandler.accepts_read.congr fun h w => by simp)
  have hattributes := accepts_vector_of_fits Attribute.accepts_read
  refine (accepts_u16.bind fun maxStack => accepts_u16.bind fun maxLocals =>
    accepts_longRun fun bytes => hhandlers.bind fun handlers =>
      hattributes.bind_pure (Code.mk maxStack maxLocals bytes handlers)).congr fun c w => ?_
  constructor
  · rintro ⟨maxStack, _, _, rfl, ⟨maxLocals, _, _, rfl, ⟨bytes, _, hbytes, ⟨handlers, _, _,
      ⟨hhandlers, rfl⟩, ⟨attributes, ⟨hattributes, rfl⟩, rfl⟩, rfl⟩, rfl⟩, rfl⟩, rfl⟩
    exact ⟨⟨hbytes, hhandlers.1, hattributes⟩, by simp only [write, List.append_assoc]⟩
  · rintro ⟨hfits, rfl⟩
    refine ⟨c.maxStack, _, _, rfl, ⟨c.maxLocals, _, _, rfl, ⟨c.bytes, _, hfits.bytes,
      ⟨c.handlers, _, _, ⟨⟨hfits.handlers, fun _ _ => trivial⟩, rfl⟩,
        ⟨c.attributes, ⟨hfits.attributes, rfl⟩, rfl⟩, rfl⟩, rfl⟩, rfl⟩, ?_⟩
    simp only [write, List.append_assoc]

/-! ## Shapes -/

/-- The kinds of data that readers take from a stream. -/
inductive Shape where
  | u8 | u16 | u32
  | i8 | i16 | i32 | i64
  /-- Floating-point numbers are kept as their bits. -/
  | f32 | f64
  | handler | attributeInfo | code
  | member (owner : FlagOwner)
  | vector (element : Shape)
deriving DecidableEq, Repr

namespace Shape

def Value : Shape → Type
  | u8 => UInt8
  | u16 => UInt16
  | u32 => UInt32
  | i8 => Int8
  | i16 => Int16
  | i32 => Int32
  | i64 => Int64
  | f32 => UInt32
  | f64 => UInt64
  | handler => ExceptionHandler
  | attributeInfo => Attribute
  | code => Code
  | member owner => Member owner
  | vector element => List element.Value

def read : (s : Shape) → Reader ReadError s.Value
  | u8 => Reader.u8
  | u16 => Reader.u16
  | u32 => Reader.u32
  | i8 => Reader.i8
  | i16 => Reader.i16
  | i32 => Reader.i32
  | i64 => Reader.i64
  | f32 => Reader.u32
  | f64 => Reader.u64
  | handler => ExceptionHandler.read
  | attributeInfo => Attribute.read
  | code => Code.read
  | member owner => Member.read owner
  | vector element => Reader.vector element.read

def write : (s : Shape) → s.Value → List UInt8
  | u8 => Writer.u8
  | u16 => Writer.u16
  | u32 => Writer.u32
  | i8 => Writer.i8
  | i16 => Writer.i16
  | i32 => Writer.i32
  | i64 => Writer.i64
  | f32 => Writer.u32
  | f64 => Writer.u64
  | handler => ExceptionHandler.write
  | attributeInfo => Attribute.write
  | code => Code.write
  | member _ => Member.write
  | vector element => Writer.vector element.write

/-- Every length in a value can be written in the place that there is for it. -/
def Fits : (s : Shape) → s.Value → Prop
  | attributeInfo => Attribute.Fits
  | code => Code.Fits
  | member _ => Member.Fits
  | vector element => VectorFits element.Fits
  | _ => fun _ => True

/-- Whether words of flags are part of the data. -/
def hasFlags : Shape → Bool
  | member _ => true
  | vector element => element.hasFlags
  | _ => false

/-- The bytes of a value, in which bits of flags that have no meaning are free. -/
def Writes : (s : Shape) → s.Value → List UInt8 → Prop
  | member owner => fun (m : Member owner) w =>
    m.Fits ∧ ∃ word, AccessFlags.ofBits owner word = m.access ∧ w = m.writeBehind word
  | vector element => fun (l : List element.Value) w =>
    l.length ≤ 65535 ∧ ∃ v, Row element.Writes l v ∧ w = Writer.u16 (UInt16.ofNat l.length) ++ v
  | s => fun v w => s.Fits v ∧ w = s.write v

/-! ## Reading a shape -/

theorem accepts_read (s : Shape) : Accepts s.read s.Writes := by
  -- a number and a handler have bytes whatever they are
  have always : ∀ {α : Type} {r : Reader ReadError α} {write : α → List UInt8},
      Accepts r (fun v w => w = write v) → Accepts r fun v w => True ∧ w = write v :=
    fun hr => hr.congr fun v w => by simp
  induction s with
  | u8 => exact always accepts_u8
  | u16 => exact always accepts_u16
  | u32 => exact always accepts_u32
  | i8 => exact always accepts_i8
  | i16 => exact always accepts_i16
  | i32 => exact always accepts_i32
  | i64 => exact always accepts_i64
  | f32 => exact always accepts_u32
  | f64 => exact always accepts_u64
  | handler => exact always ExceptionHandler.accepts_read
  | attributeInfo => exact Attribute.accepts_read
  | code => exact Code.accepts_read
  | member owner => exact Member.accepts_read owner
  | vector element ih => exact ih.vector

/-- Without flags a value is written in one way. -/
theorem writes_iff {s : Shape} (h : s.hasFlags = false) (v : s.Value) (w : List UInt8) :
    s.Writes v w ↔ s.Fits v ∧ w = s.write v := by
  induction s generalizing w with
  | member owner => cases h
  | vector element ih =>
    have hformat : element.Writes = fun a u => element.Fits a ∧ u = element.write a := by
      funext a u
      exact propext (ih h a u)
    have hvector := vectorFits_iff element.Fits element.write v w
    rwa [← hformat] at hvector
  | _ => exact Iff.rfl

theorem length_row {element : Shape}
    (helement : ∀ v w, element.Writes v w → w.length = (element.write v).length)
    {l : List element.Value} {w : List UInt8} (h : Row element.Writes l w) :
    w.length = (l.flatMap element.write).length := by
  induction h with
  | nil => rfl
  | cons ha hl ih =>
    rw [List.flatMap_cons, List.length_append, List.length_append, ih, helement _ _ ha]

/-- Bits of flags do not make the bytes longer or shorter. -/
theorem length_of_writes {s : Shape} {v : s.Value} {w : List UInt8} (h : s.Writes v w) :
    w.length = (s.write v).length := by
  induction s generalizing w with
  | member owner =>
    obtain ⟨-, word, -, rfl⟩ := h
    simp [write, Member.write, Member.writeBehind, Writer.u16]
  | vector element ih =>
    obtain ⟨-, u, hrow, rfl⟩ := h
    simp only [write, Writer.vector, List.length_append]
    rw [length_row (fun v w => ih) hrow]
  | _ =>
    obtain ⟨-, rfl⟩ := h
    rfl

end Shape

theorem AccessFlags.ofBits_eq_iff {owner : FlagOwner} (word : UInt16) (flags : AccessFlags owner) :
    AccessFlags.ofBits owner word = flags ↔ word &&& owner.mask = flags.bits :=
  AccessFlags.ext_iff

/-! ## Top theorem -/

/-- A value is read from the bytes that are written of it, and from no others: the bytes in front of
what is left are its own.  A field or a method is read from these and from those that differ from
them in bits of its flags that have no meaning. -/
theorem read_lossless :
    (∀ s : Shape, s.hasFlags = false → ∀ (v : s.Value) (offset offset' : Nat) (b rest : List UInt8),
      s.read ⟨offset, b⟩ = .ok v ⟨offset', rest⟩ ↔
        s.Fits v ∧ b = s.write v ++ rest ∧ offset' = offset + (s.write v).length) ∧
    ∀ (owner : FlagOwner) (m : Member owner) (offset offset' : Nat) (b rest : List UInt8),
      Member.read owner ⟨offset, b⟩ = .ok m ⟨offset', rest⟩ ↔
        m.Fits ∧ ∃ word, word &&& owner.mask = m.access.bits ∧
          b = m.writeBehind word ++ rest ∧ offset' = offset + (m.writeBehind word).length := by
  constructor
  · intro s hflags v offset offset' b rest
    rw [s.accepts_read.eq_ok_iff]
    constructor
    · rintro ⟨w, hw, hb, hoffset⟩
      obtain ⟨hfits, rfl⟩ := (Shape.writes_iff hflags v w).1 hw
      exact ⟨hfits, hb, hoffset⟩
    · rintro ⟨hfits, hb, hoffset⟩
      exact ⟨s.write v, (Shape.writes_iff hflags v _).2 ⟨hfits, rfl⟩, hb, hoffset⟩
  · intro owner m offset offset' b rest
    rw [(Member.accepts_read owner).eq_ok_iff]
    constructor
    · rintro ⟨_, ⟨hfits, word, hword, rfl⟩, hb, hoffset⟩
      exact ⟨hfits, word, (AccessFlags.ofBits_eq_iff _ _).1 hword, hb, hoffset⟩
    · rintro ⟨hfits, word, hword, hb, hoffset⟩
      exact ⟨_, ⟨hfits, word, (AccessFlags.ofBits_eq_iff _ _).2 hword, rfl⟩, hb, hoffset⟩

/-- A body with a handler and an attribute. -/
def handledCode : Code := ⟨2, 1, [0xb1], [⟨0, 1, 0, 0⟩], [⟨9, [1, 2]⟩]⟩

/-- A vector of vectors, a body, and a field with all its flags and all other bits set. -/
theorem read_lossless_handledCode :
    (Shape.vector (.vector .u8)).read ⟨0, [0, 2, 0, 1, 7, 0, 0, 9]⟩ =
        .ok ([[7], []] : List (List UInt8)) ⟨7, [9]⟩ ∧
      handledCode.Fits ∧
      Shape.code.read ⟨3, handledCode.write ++ [0xFE]⟩ = .ok handledCode ⟨32, [0xFE]⟩ ∧
      Member.read .ofField ⟨0, [0xFF, 0xFF, 0, 1, 0, 2, 0, 0]⟩ =
        .ok ⟨.ofBits .ofField 0xFFFF, 1, 2, []⟩ ⟨8, []⟩ := by
  obtain ⟨hshape, hmember⟩ := read_lossless
  have hbytes : (Shape.vector (.vector .u8)).Fits ([[7], []] : List (List UInt8)) := by
    have hshort : ∀ l ∈ ([[7], []] : List (List UInt8)), l.length ≤ 65535 := by decide
    exact ⟨by decide, fun l hl => ⟨hshort l hl, fun _ _ => trivial⟩⟩
  have hcode : handledCode.Fits := ⟨by decide, by decide, by decide⟩
  have hlength : 32 = 3 + handledCode.write.length := by decide
  refine ⟨?_, hcode, ?_, ?_⟩
  · exact (hshape (.vector (.vector .u8)) rfl _ _ _ _ _).2 ⟨hbytes, by decide, by decide⟩
  · exact (hshape .code rfl _ _ _ _ _).2 ⟨hcode, rfl, hlength⟩
  · exact (hmember .ofField _ _ _ _ _).2 ⟨by decide, 0xFFFF, by decide, by decide, by decide⟩

end CtorLeak
