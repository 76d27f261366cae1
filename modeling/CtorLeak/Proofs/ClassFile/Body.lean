import CtorLeak.Proofs.Check
import CtorLeak.Proofs.ClassFile.Shape
import CtorLeak.Proofs.Constant.Resolution

/-!
# Which bytes are the body of a method

The body of a method is looked for among its attributes, one name after the other.  The search ends
at the first attribute that is named `Code`, or at the first whose name is no text of the pool;
nothing behind that attribute is looked at.  Within the attribute, the body ends where its last
vector ends, and nothing behind it is looked at either.

`BodyOutcome` lists how the search can end, and `Code.Begins` says what the bytes of an attribute
have to be.  Neither mentions the search.
-/

namespace CtorLeak

/-- The bytes begin with a complete body. -/
def Code.Begins (c : Code) (info : List UInt8) : Prop :=
  c.Fits ∧ ∃ behind, info = c.write ++ behind

/-- What the attributes of a method have for its body. -/
inductive BodyOutcome (pool : ConstantPool) :
    List Attribute → Except FormatError (Option Code) → Prop where
  /-- No attribute is named `Code`. -/
  | missing {attributes : List Attribute} (h : NoneNamed pool "Code" attributes) :
      BodyOutcome pool attributes (.ok none)
  /-- The name of an attribute is no text, and no attribute before it is named `Code`. -/
  | unnamed {before : List Attribute} {a : Attribute} (after : List Attribute)
      (hbefore : NoneNamed pool "Code" before) (ha : pool.Misses a.nameIndex .utf8) :
      BodyOutcome pool (before ++ a :: after) (.error (.resolve (.badIndex a.nameIndex .utf8)))
  /-- The first attribute that is named `Code` is read. -/
  | body {before : List Attribute} {a : Attribute} (after : List Attribute) {c : Code}
      {s : ByteStream} (hbefore : NoneNamed pool "Code" before)
      (ha : pool.Holds a.nameIndex (.utf8 "Code")) (hread : Code.read (.ofBytes a.info) = .ok c s) :
      BodyOutcome pool (before ++ a :: after) (.ok (some c))
  /-- The first attribute that is named `Code` cannot be read. -/
  | broken {before : List Attribute} {a : Attribute} (after : List Attribute) {e : ReadError}
      {s : ByteStream} (hbefore : NoneNamed pool "Code" before)
      (ha : pool.Holds a.nameIndex (.utf8 "Code"))
      (hread : Code.read (.ofBytes a.info) = .error e s) :
      BodyOutcome pool (before ++ a :: after) (.error (.io (.read e)))

/-! ## The bytes of a body -/

/-- A body is read from what it is written as, whatever is behind it. -/
theorem Code.read_eq_ok_iff_begins {c : Code} {info : List UInt8} :
    (∃ s, Code.read (.ofBytes info) = .ok c s) ↔ c.Begins info := by
  constructor
  · rintro ⟨⟨offset, behind⟩, h⟩
    obtain ⟨w, ⟨hfits, rfl⟩, hinfo, -⟩ := Code.accepts_read.eq_ok_iff.1 h
    exact ⟨hfits, behind, hinfo⟩
  · rintro ⟨hfits, behind, rfl⟩
    exact ⟨_, Code.accepts_read.reads c _ ⟨hfits, rfl⟩ 0 behind⟩

/-! ## The search -/

namespace Method

variable {pool : ConstantPool}

theorem code?_of_bodyOutcome {m : Method} {result : Except FormatError (Option Code)}
    (h : BodyOutcome pool m.attributes result) : m.code? pool = result := by
  unfold code?
  generalize m.attributes = attributes at h
  cases h with
  | missing h => rw [Attribute.find?_of_noneNamed h]
  | @unnamed before a after hbefore ha =>
    have hname : pool.utf8 a.nameIndex = .error (.badIndex a.nameIndex .utf8) :=
      ConstantPool.utf8_eq_error_iff.2 ⟨ha, rfl⟩
    rw [Attribute.find?_of_nameFails ⟨before, a, after, rfl, hbefore, hname⟩]
  | @body before a after c s hbefore ha hread =>
    rw [Attribute.find?_of_firstNamed
      ⟨before, after, rfl, hbefore, ConstantPool.utf8_eq_ok_iff.2 ha⟩]
    simp only [hread]
  | @broken before a after e s hbefore ha hread =>
    rw [Attribute.find?_of_firstNamed
      ⟨before, after, rfl, hbefore, ConstantPool.utf8_eq_ok_iff.2 ha⟩]
    simp only [hread]

theorem exists_bodyOutcome (pool : ConstantPool) (attributes : List Attribute) :
    ∃ result, BodyOutcome pool attributes result := by
  rcases Attribute.named_cases pool "Code" attributes with
    h | ⟨a, before, after, rfl, hbefore, ha⟩ | ⟨e, before, a, after, rfl, hbefore, ha⟩
  · exact ⟨_, .missing h⟩
  · rw [ConstantPool.utf8_eq_ok_iff] at ha
    cases hread : Code.read (.ofBytes a.info) with
    | ok c s => exact ⟨_, .body after hbefore ha hread⟩
    | error e s => exact ⟨_, .broken after hbefore ha hread⟩
  · obtain ⟨hmisses, -⟩ := ConstantPool.utf8_eq_error_iff.1 ha
    exact ⟨_, .unnamed after hbefore hmisses⟩

/-! ## Top theorem -/

/-- The first attribute that is named `Code` alone decides what the body is: its bytes are read as
far as the body goes, and neither what follows in them nor the attributes behind it matter.  A name
before it that is no text takes its place, and so does the end of the attributes. -/
theorem code?_eq_iff_bodyOutcome (pool : ConstantPool) (m : Method) :
    (∀ result, m.code? pool = result ↔ BodyOutcome pool m.attributes result) ∧
    ∀ c info, (∃ s, Code.read (.ofBytes info) = .ok c s) ↔ c.Begins info := by
  refine ⟨?_, fun c info => Code.read_eq_ok_iff_begins⟩
  intro result
  constructor
  · intro h
    obtain ⟨result', h'⟩ := exists_bodyOutcome pool m.attributes
    rwa [← h, code?_of_bodyOutcome h']
  · exact code?_of_bodyOutcome

end Method

end CtorLeak
