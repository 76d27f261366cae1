import CtorLeak.ClassFile.Member
import CtorLeak.Proofs.Constant.Layout
import CtorLeak.Proofs.Constant.Links
import CtorLeak.Proofs.Instruction.Decoding
import CtorLeak.Proofs.Instruction.Parts

/-!
# Pools that grow

Constants can be added to a pool without touching those that are there (`GrowsTo`).  What was asked
of the pool before may then have another answer, but only if the answer was that an index is bad.
Any other answer, be it a value or an error, is settled.

`Keeps` says this of two computations, and `KeepsRead` of two readers.  One link has it, and
sequencing keeps it, so that everything that is built from links has it: names and references, the
search of attributes, and code (`growth_keeps_settled`).
-/

namespace CtorLeak

/-- Every constant of the pool is at the same slot of the other. -/
def ConstantPool.GrowsTo (pool pool' : ConstantPool) : Prop :=
  ∀ (slot : Nat) (c : Constant),
    pool.slots[slot]? = some (some c) → pool'.slots[slot]? = some (some c)

/-- The answer is a value, or an error other than a bad index. -/
def Settled {ε α : Type} (label : ε → String) (answer : Except ε α) : Prop :=
  ∀ e, answer = .error e → label e ≠ "BadConstantIndex"

theorem settled_ok {ε α : Type} {label : ε → String} (a : α) :
    Settled label (.ok a : Except ε α) := by
  intro e he
  cases he

/-- The second answer is the first, if this is settled. -/
def Keeps {ε α : Type} (label : ε → String) (answer answer' : Except ε α) : Prop :=
  Settled label answer → answer' = answer

namespace Keeps

variable {ε α β : Type} {label : ε → String}

theorem refl (answer : Except ε α) : Keeps label answer answer := fun _ => rfl

theorem bind {x x' : Except ε α} {f f' : α → Except ε β} (hx : Keeps label x x')
    (hf : ∀ a, Keeps label (f a) (f' a)) : Keeps label (x >>= f) (x' >>= f') := by
  intro h
  have hsettled : Settled label x := by
    rintro e rfl
    exact h e rfl
  rw [hx hsettled]
  cases x with
  | error e => rfl
  | ok a => exact hf a h

end Keeps

/-! ## Resolving -/

namespace ConstantPool

variable {pool pool' : ConstantPool}

theorem keeps_link {β : Type} (h : pool.GrowsTo pool') (kind : ConstantKind β) (index : UInt16) :
    Keeps ResolveError.label (pool.link kind index) (pool'.link kind index) := by
  intro hsettled
  cases hlink : pool.link kind index with
  | ok content => exact link_eq_ok_iff.2 (h _ _ (link_eq_ok_iff.1 hlink))
  | error e =>
    obtain ⟨-, rfl⟩ := link_eq_error_iff.1 hlink
    exact absurd rfl (hsettled _ hlink)

theorem keeps_utf8 (h : pool.GrowsTo pool') (index : UInt16) :
    Keeps ResolveError.label (pool.utf8 index) (pool'.utf8 index) := by
  rw [utf8_eq_link, utf8_eq_link]
  exact keeps_link h .utf8 index

theorem keeps_className (h : pool.GrowsTo pool') (index : UInt16) :
    Keeps ResolveError.label (pool.className index) (pool'.className index) := by
  rw [className_eq_link, className_eq_link]
  exact (keeps_link h .classInfo index).bind fun text => (keeps_utf8 h text).bind fun _ => .refl _

theorem keeps_nameAndType (h : pool.GrowsTo pool') (index : UInt16) :
    Keeps ResolveError.label (pool.nameAndType index) (pool'.nameAndType index) := by
  rw [nameAndType_eq_link, nameAndType_eq_link]
  refine (keeps_link h .nameAndType index).bind fun parts => ?_
  refine (keeps_utf8 h parts.1).bind fun text => ?_
  exact (Keeps.refl _).bind fun name => (keeps_utf8 h parts.2).bind fun _ => .refl _

theorem keeps_fieldRef (h : pool.GrowsTo pool') (index : UInt16) :
    Keeps ResolveError.label (pool.fieldRef index) (pool'.fieldRef index) := by
  rw [fieldRef_eq_link, fieldRef_eq_link]
  refine (keeps_link h .fieldRef index).bind fun parts => ?_
  refine (keeps_nameAndType h parts.2).bind fun member => ?_
  exact (keeps_className h parts.1).bind fun _ => .refl _

theorem keeps_methodRef (h : pool.GrowsTo pool') (index : UInt16) :
    Keeps ResolveError.label (pool.methodRef index) (pool'.methodRef index) := by
  rw [methodRef_eq_link, methodRef_eq_link]
  refine (keeps_link h .methodRef index).bind fun parts => ?_
  refine (keeps_nameAndType h parts.2.1).bind fun member => ?_
  exact (keeps_className h parts.1).bind fun _ => .refl _

theorem keeps_dynamicCallSite (h : pool.GrowsTo pool') (index : UInt16) :
    Keeps ResolveError.label (pool.dynamicCallSite index) (pool'.dynamicCallSite index) := by
  rw [dynamicCallSite_eq_link, dynamicCallSite_eq_link]
  refine (keeps_link h .invokeDynamic index).bind fun parts => ?_
  exact (keeps_nameAndType h parts.2).bind fun _ => .refl _

end ConstantPool

/-! ## Attributes -/

section Attributes

variable {pool pool' : ConstantPool}

/-- The search stops at the first attribute of the name, and looks at the names before it only. -/
theorem Attribute.keeps_find? (h : pool.GrowsTo pool') (name : String)
    (attributes : List Attribute) :
    Keeps ResolveError.label (find? pool name attributes) (find? pool' name attributes) := by
  induction attributes with
  | nil => exact .refl _
  | cons a rest ih =>
    rw [find?, find?]
    refine (ConstantPool.keeps_utf8 h a.nameIndex).bind fun text => ?_
    by_cases htext : text = name
    · rw [if_pos htext, if_pos htext]
      exact .refl _
    · rw [if_neg htext, if_neg htext]
      exact ih

theorem Method.keeps_code? (h : pool.GrowsTo pool') (m : Method) :
    Keeps FormatError.label (code? m pool) (code? m pool') := by
  intro hsettled
  have hfind : Settled ResolveError.label (Attribute.find? pool "Code" m.attributes) := by
    intro e he
    exact hsettled (.resolve e) (by rw [code?, he])
  rw [code?, code?, Attribute.keeps_find? h "Code" m.attributes hfind]

end Attributes

/-! ## Code -/

namespace Instruction

open Reader

variable {α β : Type} {pool pool' : ConstantPool} {start : Nat}

/-- On every stream the second reader does what the first does, if this is settled. -/
def KeepsRead (r r' : Reader CodeError α) : Prop :=
  ∀ s, (∀ e t, r s = .error e t → e.label ≠ "BadConstantIndex") → r' s = r s

namespace KeepsRead

theorem eq_ok {r r' : Reader CodeError α} {s t : ByteStream} {a : α} (h : KeepsRead r r')
    (hr : r s = .ok a t) : r' s = .ok a t := by
  refine (h s fun e _ he => ?_).trans hr
  rw [hr] at he
  cases he

theorem eq_error {r r' : Reader CodeError α} {s t : ByteStream} {e : CodeError}
    (h : KeepsRead r r') (hr : r s = .error e t) (hlabel : e.label ≠ "BadConstantIndex") :
    r' s = .error e t := by
  refine (h s fun _ _ he => ?_).trans hr
  rw [hr] at he
  cases he
  exact hlabel

theorem refl (r : Reader CodeError α) : KeepsRead r r := fun _ _ => rfl

theorem bind {r r' : Reader CodeError α} {f f' : α → Reader CodeError β} (hr : KeepsRead r r')
    (hf : ∀ a, KeepsRead (f a) (f' a)) : KeepsRead (r >>= f) (r' >>= f') := by
  intro s h
  have hr' : r' s = r s := hr s fun e t he => h e t (bind_of_eq_error f he)
  cases hrs : r s with
  | error e t => rw [bind_of_eq_error f hrs, bind_of_eq_error f' (hr'.trans hrs)]
  | ok a t =>
    rw [bind_of_eq_ok f hrs] at h ⊢
    rw [bind_of_eq_ok f' (hr'.trans hrs)]
    exact hf a t h

theorem resolved {answer answer' : Except ResolveError α}
    (h : Keeps ResolveError.label answer answer') :
    KeepsRead (Instruction.resolved answer) (Instruction.resolved answer') := by
  intro s hsettled
  have hanswer : Settled ResolveError.label answer := by
    rintro e rfl
    exact hsettled (.resolve e) s rfl
  rw [h hanswer]

end KeepsRead

/-- A pool matters to an instruction only where an index is resolved. -/
theorem keepsRead_parts (h : pool.GrowsTo pool') :
    PartRelation pool pool' start start fun _ r r' => KeepsRead r r' where
  pure _ := .refl _
  bind := .bind
  plain _ := .refl _
  pad := .refl _
  table _ _ _ _ _ _ := .refl _
  field index := .resolved (ConstantPool.keeps_fieldRef h index)
  method index := .resolved (ConstantPool.keeps_methodRef h index)
  callSite index := .resolved (ConstantPool.keeps_dynamicCallSite h index)
  className index := .resolved (ConstantPool.keeps_className h index)
  unknownOpcode _ := .refl _
  badWideOpcode _ := .refl _
  badArrayType _ := .refl _

theorem keepsRead_read (h : pool.GrowsTo pool') :
    KeepsRead (read pool start) (read pool' start) :=
  (keepsRead_parts h).read

/-- Each instruction is read as before, up to the first that is not. -/
theorem keeps_decodeFrom (h : pool.GrowsTo pool') (s : ByteStream) :
    Keeps CodeError.label (decodeFrom pool s) (decodeFrom pool' s) := by
  fun_induction decodeFrom pool s with
  | case1 s hempty =>
    intro _
    rw [decodeFrom, if_pos hempty]
  | case2 s hempty e s' hread =>
    intro hsettled
    have hread' := (keepsRead_read h).eq_error hread (hsettled e rfl)
    exact decodeFrom_of_read_error (by simpa using hempty) hread'
  | case3 s hempty i s' hread hlt e hrest ih =>
    intro hsettled
    have hrest' : decodeFrom pool' s' = .error e := by
      rw [hrest] at ih
      exact ih hsettled
    rw [decodeFrom_of_read ((keepsRead_read h).eq_ok hread), hrest']
    rfl
  | case4 s hempty i s' hread hlt is hrest ih =>
    intro _
    have hrest' : decodeFrom pool' s' = .ok is := by
      rw [hrest] at ih
      exact ih (settled_ok is)
    rw [decodeFrom_of_read ((keepsRead_read h).eq_ok hread), hrest']
    rfl

end Instruction

/-! ## Top theorem -/

/-- No settled answer depends on a constant that is missing. -/
theorem growth_keeps_settled (pool pool' : ConstantPool) (h : pool.GrowsTo pool') :
    (∀ index, Keeps ResolveError.label (pool.className index) (pool'.className index)) ∧
    (∀ index, Keeps ResolveError.label (pool.nameAndType index) (pool'.nameAndType index)) ∧
    (∀ index, Keeps ResolveError.label (pool.fieldRef index) (pool'.fieldRef index)) ∧
    (∀ index, Keeps ResolveError.label (pool.methodRef index) (pool'.methodRef index)) ∧
    (∀ index,
      Keeps ResolveError.label (pool.dynamicCallSite index) (pool'.dynamicCallSite index)) ∧
    (∀ name attributes, Keeps ResolveError.label (Attribute.find? pool name attributes)
      (Attribute.find? pool' name attributes)) ∧
    (∀ m : Method, Keeps FormatError.label (m.code? pool) (m.code? pool')) ∧
    ∀ code, Keeps CodeError.label (Instruction.decode pool code) (Instruction.decode pool' code) :=
  ⟨ConstantPool.keeps_className h, ConstantPool.keeps_nameAndType h, ConstantPool.keeps_fieldRef h,
    ConstantPool.keeps_methodRef h, ConstantPool.keeps_dynamicCallSite h, Attribute.keeps_find? h,
    Method.keeps_code? h, fun code => Instruction.keeps_decodeFrom h (.ofBytes code)⟩

/-- A pool grows by constants that are put behind its own. -/
theorem growsTo_ofConstants_append (cs ds : List Constant) :
    (ConstantPool.ofConstants cs).GrowsTo (.ofConstants (cs ++ ds)) := by
  intro slot c h
  rw [ConstantPool.getElem?_slots_ofConstants_iff] at h ⊢
  obtain ⟨before, after, rfl, hslot⟩ := h
  exact ⟨before, after ++ ds, by rw [List.append_assoc, List.cons_append], hslot⟩

/-- A class, and one whose name has an empty part. -/
def twoClasses : List Constant :=
  [.classInfo 3, .classInfo 4, .utf8 "b/Grown", .utf8 "b//Grown"]

/-- With a long and a text behind them, the first is still made, and the second still has no
name. -/
theorem growth_keeps_settled_twoClasses :
    (ConstantPool.ofConstants twoClasses).GrowsTo
        (.ofConstants (twoClasses ++ [.long 5, .utf8 "b"])) ∧
      Instruction.decode (.ofConstants twoClasses) [0xbb, 0, 1] =
        .ok [.new ⟨"b/Grown", by decide⟩] ∧
      Instruction.decode (.ofConstants (twoClasses ++ [.long 5, .utf8 "b"])) [0xbb, 0, 1] =
        .ok [.new ⟨"b/Grown", by decide⟩] ∧
      ConstantPool.className (.ofConstants twoClasses) 2 =
        .error (.malformedName .emptyUnqualified) ∧
      ConstantPool.className (.ofConstants (twoClasses ++ [.long 5, .utf8 "b"])) 2 =
        .error (.malformedName .emptyUnqualified) := by
  have hgrows := growsTo_ofConstants_append twoClasses [.long 5, .utf8 "b"]
  have hdecode : Instruction.decode (.ofConstants twoClasses) [0xbb, 0, 1] =
      .ok [.new ⟨"b/Grown", by decide⟩] :=
    Instruction.decodeFrom_of_encodesAll (.cons (.new _ 1 rfl) (.nil _))
  have hname : ConstantPool.className (.ofConstants twoClasses) 2 =
      .error (.malformedName .emptyUnqualified) := rfl
  obtain ⟨hclass, -, -, -, -, -, -, hcode⟩ := growth_keeps_settled _ _ hgrows
  refine ⟨hgrows, hdecode, ?_, hname, ?_⟩
  · rw [hcode [0xbb, 0, 1] (by rw [hdecode]; exact settled_ok _), hdecode]
  · rw [hclass 2 (by rw [hname]; rintro _ ⟨⟩; decide), hname]

end CtorLeak
