import CtorLeak.Proofs.Constant.Pool

/-!
# Class files are read back

`ClassFile.Fits` says when a class file has bytes at all: its constants are laid out in the pool,
and every length can be written in the place that there is for it.  Reading these bytes then gives
the class file back, whatever follows them:

    c.Fits constants → ClassFile.ofBytes (c.write ++ rest) = .ok c          (ofBytes_write)
-/

namespace CtorLeak

open Reader

/-! ## What can be written -/

section Fits

variable {α : Type} (P : α → Prop) (l : List α)

/-- The elements of a vector can be written, and so can their number. -/
def VectorFits : Prop := l.length ≤ 65535 ∧ ∀ a ∈ l, P a

instance [DecidablePred P] : Decidable (VectorFits P l) :=
  inferInstanceAs (Decidable (l.length ≤ 65535 ∧ ∀ a ∈ l, P a))

end Fits

def Attribute.Fits (a : Attribute) : Prop := a.info.length < 4294967296

instance : DecidablePred Attribute.Fits := fun a => Nat.decLt a.info.length 4294967296

def Member.Fits {owner : FlagOwner} (m : Member owner) : Prop :=
  VectorFits Attribute.Fits m.attributes

instance {owner : FlagOwner} : DecidablePred (@Member.Fits owner) := fun m =>
  inferInstanceAs (Decidable (VectorFits Attribute.Fits m.attributes))

/-- The class file has bytes, and its pool holds the given constants. -/
structure ClassFile.Fits (constants : List Constant) (c : ClassFile) : Prop where
  pool : c.pool = .ofConstants constants
  width : ConstantPool.totalWidth constants ≤ 65534
  constant : ∀ k ∈ constants, k.Fits
  interfaces : c.interfaces.length ≤ 65535
  fields : VectorFits Member.Fits c.fields
  methods : VectorFits Member.Fits c.methods
  attributes : VectorFits Attribute.Fits c.attributes

/-! ## Reading -/

theorem reads_vector_of_fits {α : Type} {P : α → Prop} {r : Reader ReadError α}
    {write : α → List UInt8} (h : ∀ a, P a → Reads r a (write a)) {l : List α}
    (hl : VectorFits P l) : Reads (vector r) l (Writer.vector write l) :=
  .vector write hl.1 fun a ha => h a (hl.2 a ha)

/-- The number of the elements and their row are what is written of a vector. -/
theorem vectorFits_iff {α : Type} (P : α → Prop) (write : α → List UInt8) (l : List α)
    (w : List UInt8) :
    (l.length ≤ 65535 ∧ ∃ v, Row (fun a u => P a ∧ u = write a) l v ∧
      w = Writer.u16 (UInt16.ofNat l.length) ++ v) ↔
    VectorFits P l ∧ w = Writer.vector write l := by
  constructor
  · rintro ⟨hlength, v, hrow, rfl⟩
    obtain ⟨hall, rfl⟩ := (row_write_iff P write l v).1 hrow
    exact ⟨⟨hlength, hall⟩, rfl⟩
  · rintro ⟨⟨hlength, hall⟩, rfl⟩
    exact ⟨hlength, _, (row_write_iff P write l _).2 ⟨hall, rfl⟩, rfl⟩

theorem accepts_vector_of_fits {α : Type} {P : α → Prop} {r : Reader ReadError α}
    {write : α → List UInt8} (hr : Accepts r fun a w => P a ∧ w = write a) :
    Accepts (vector r) fun l w => VectorFits P l ∧ w = Writer.vector write l :=
  hr.vector.congr (vectorFits_iff P write)

theorem Attribute.accepts_read : Accepts Attribute.read fun a w => a.Fits ∧ w = a.write := by
  refine (accepts_u16.bind fun nameIndex => accepts_longRun fun info =>
    .pure (Attribute.mk nameIndex info)).congr fun a w => ?_
  constructor
  · rintro ⟨nameIndex, _, _, rfl, ⟨info, _, hinfo, ⟨rfl, rfl⟩, rfl⟩, rfl⟩
    exact ⟨hinfo, by simp only [Attribute.write, List.append_nil]⟩
  · rintro ⟨hfits, rfl⟩
    exact ⟨a.nameIndex, _, _, rfl, ⟨a.info, [], hfits, ⟨rfl, rfl⟩, rfl⟩,
      by simp only [Attribute.write, List.append_nil]⟩

theorem Attribute.reads_read (a : Attribute) (h : a.Fits) : Reads Attribute.read a a.write :=
  accepts_read.reads a _ ⟨h, rfl⟩

/-- Flags whose bits all mean something are kept as they are. -/
theorem AccessFlags.ofBits_bits {owner : FlagOwner} (flags : AccessFlags owner) :
    AccessFlags.ofBits owner flags.bits = flags :=
  AccessFlags.ext flags.assigned

/-- The bytes of a member behind any word of flags. -/
def Member.writeBehind {owner : FlagOwner} (word : UInt16) (m : Member owner) : List UInt8 :=
  Writer.u16 word ++ Writer.u16 m.nameIndex ++ Writer.u16 m.descriptorIndex ++
    Writer.vector Attribute.write m.attributes

/-- Bits without a meaning may be set where a member is read from. -/
theorem Member.accepts_read (owner : FlagOwner) :
    Accepts (Member.read owner) fun m w =>
      m.Fits ∧ ∃ word, AccessFlags.ofBits owner word = m.access ∧ w = m.writeBehind word := by
  refine (accepts_u16.bind fun word => accepts_u16.bind fun nameIndex =>
    accepts_u16.bind fun descriptorIndex =>
      (accepts_vector_of_fits Attribute.accepts_read).bind_pure (Member.mk
        (AccessFlags.ofBits owner word) nameIndex descriptorIndex)).congr fun m w => ?_
  constructor
  · rintro ⟨word, _, _, rfl, ⟨nameIndex, _, _, rfl, ⟨descriptorIndex, _, _, rfl,
      ⟨attributes, ⟨hfits, rfl⟩, rfl⟩, rfl⟩, rfl⟩, rfl⟩
    exact ⟨hfits, word, rfl, by simp only [writeBehind, List.append_assoc]⟩
  · rintro ⟨hfits, word, haccess, rfl⟩
    refine ⟨word, _, _, rfl, ⟨m.nameIndex, _, _, rfl, ⟨m.descriptorIndex, _, _, rfl,
      ⟨m.attributes, ⟨hfits, rfl⟩, ?_⟩, rfl⟩, rfl⟩, ?_⟩
    · rw [haccess]
    · simp only [writeBehind, List.append_assoc]

theorem Member.reads_read {owner : FlagOwner} (m : Member owner) (h : m.Fits) :
    Reads (Member.read owner) m m.write :=
  (accepts_read owner).reads m _ ⟨h, m.access.bits, m.access.ofBits_bits, rfl⟩

namespace ClassFile

/-- The bytes of a class file are read as the class file. -/
theorem reads_read {constants : List Constant} {c : ClassFile} (h : c.Fits constants) :
    Reads ClassFile.read c c.write := by
  have hindex : ∀ n, Reads (liftM u16 : Reader FormatError UInt16) n (Writer.u16 n) :=
    fun n => (accepts_u16.reads_write n).lift
  have hpool : Reads ConstantPool.read c.pool c.pool.write := by
    rw [h.pool]
    exact ConstantPool.reads_pool constants h.constant h.width
  have hinterfaces : Reads (vector u16) c.interfaces _ :=
    .vector Writer.u16 h.interfaces fun n _ => accepts_u16.reads_write n
  have hfields := reads_vector_of_fits Member.reads_read h.fields
  have hmethods := reads_vector_of_fits Member.reads_read h.methods
  have hattributes := reads_vector_of_fits Attribute.reads_read h.attributes
  -- flags are stripped of bits without meaning as they are read, which changes nothing here
  have hread : Reads ClassFile.read ⟨c.version, c.pool, AccessFlags.ofBits .ofClass c.access.bits,
      c.thisClass, c.superClass, c.interfaces, c.fields, c.methods, c.attributes⟩ c.write := by
    simp only [ClassFile.write, List.append_assoc]
    refine (accepts_u32.reads_write magic).lift.bind ?_
    exact (hindex c.version.minor).bind ((hindex c.version.major).bind (hpool.bind
      ((hindex c.access.bits).bind ((hindex c.thisClass).bind ((hindex c.superClass).bind
        (hinterfaces.lift.bind (hfields.lift.bind (hmethods.lift.bind
          (hattributes.lift.bind_pure _)))))))))
  rwa [AccessFlags.ofBits_bits] at hread

/-- A class file is read back from its bytes and whatever follows them.  Its pool holds the
constants in their order, each in the first slot behind those of the constants before it. -/
theorem ofBytes_write (constants : List Constant) (c : ClassFile) (h : c.Fits constants)
    (rest : List UInt8) :
    ofBytes (c.write ++ rest) = .ok c ∧
      ∀ index x, c.pool.get? index = some x ↔ ∃ before after,
        constants = before ++ x :: after ∧
          index.toNat = 1 + ConstantPool.totalWidth before := by
  constructor
  · unfold ofBytes ByteStream.ofBytes
    rw [reads_read h 0 rest]
  · intro index x
    rw [h.pool]
    exact ConstantPool.get?_ofConstants_iff constants index x

/-- Constants of one and of two slots, with a text on one, two, three and six bytes a character. -/
def mixedConstants : List Constant :=
  [.utf8 "Aé€𝄞", .long (-1), .classInfo 1, .double 0x7ff8000000000001,
    .methodRef 4 8 true, .nameAndType 1 1]

/-- A class over these constants, with something in each of its tables. -/
def mixedClass : ClassFile where
  version := .java8
  pool := .ofConstants mixedConstants
  access := .ofBits .ofClass 0x1021
  thisClass := 4
  superClass := 0
  interfaces := [4, 4]
  fields := [⟨.ofBits .ofField 0x0042, 1, 1, []⟩]
  methods := [⟨.ofBits .ofMethod 0x0001, 1, 1, [⟨1, [0, 1, 255]⟩]⟩]
  attributes := [⟨1, []⟩, ⟨1, [7]⟩]

theorem ofBytes_write_mixedClass :
    mixedClass.Fits mixedConstants ∧
      ofBytes (mixedClass.write ++ [0xCA, 0xFE]) = .ok mixedClass ∧
      mixedClass.pool.get? 2 = some (.long (-1)) ∧ mixedClass.pool.get? 3 = none := by
  have hfits : mixedClass.Fits mixedConstants :=
    ⟨rfl, by decide, by decide, by decide, by decide, by decide, by decide⟩
  exact ⟨hfits, (ofBytes_write _ _ hfits _).1, by decide, by decide⟩

end ClassFile

end CtorLeak
