import CtorLeak.Proofs.Constant.Links
import CtorLeak.Proofs.Name
import CtorLeak.Proofs.Instruction.Faults

/-!
# What references resolve to

A reference resolves exactly if none of its links is broken.  Otherwise the first that is broken
gives the error.  `MemberFault`, `ClassFault` and `PartFault` say which one it is, in the order in
which the links are followed:

    slot → name and type → its text → valid name → descriptor → class → its text → valid name

Every link asks for a constant of a certain kind.  So no error of a reference, and none of code that
uses references, asks for just any constant.  All this is `resolution_follows_links`.
-/

namespace CtorLeak

/-! ## Answers and errors -/

section Answers

variable {ε ε' α β : Type}

theorem exceptBind_eq_ok_iff {x : Except ε α} {f : α → Except ε β} {b : β} :
    (x >>= f) = .ok b ↔ ∃ a, x = .ok a ∧ f a = .ok b := by
  cases x <;> simp [bind, Except.bind]

theorem exceptBind_eq_error_iff {x : Except ε α} {f : α → Except ε β} {e : ε} :
    (x >>= f) = .error e ↔ x = .error e ∨ ∃ a, x = .ok a ∧ f a = .error e := by
  cases x <;> simp [bind, Except.bind]

theorem exceptPure_eq_ok_iff {a b : α} : (pure a : Except ε α) = .ok b ↔ a = b := by
  simp [pure, Except.pure]

theorem not_exceptPure_eq_error {a : α} {e : ε} : ¬ (pure a : Except ε α) = .error e := by
  simp [pure, Except.pure]

theorem map_eq_error_iff {x : Except ε α} {f : α → β} {e : ε} :
    x.map f = .error e ↔ x = .error e := by
  cases x <;> simp [Except.map]

theorem mapError_eq_ok_iff {x : Except ε α} {f : ε → ε'} {a : α} :
    x.mapError f = .ok a ↔ x = .ok a := by
  cases x with
  | error cause =>
    change Except.error (f cause) = _ ↔ _
    simp
  | ok b =>
    change Except.ok b = _ ↔ _
    simp

theorem mapError_eq_error_iff {x : Except ε α} {f : ε → ε'} {e : ε'} :
    x.mapError f = .error e ↔ ∃ cause, x = .error cause ∧ e = f cause := by
  cases x with
  | error cause =>
    change Except.error (f cause) = _ ↔ _
    simp [eq_comm]
  | ok a =>
    change Except.ok a = _ ↔ _
    simp

end Answers

namespace ConstantPool

variable {pool : ConstantPool} {index : UInt16}

/-! ## Texts, classes, names and types -/

theorem utf8_eq_ok_iff {text : String} :
    pool.utf8 index = .ok text ↔ pool.Holds index (.utf8 text) := by
  rw [utf8_eq_link]
  exact link_eq_ok_iff

theorem utf8_eq_error_iff {e : ResolveError} :
    pool.utf8 index = .error e ↔ pool.Misses index .utf8 ∧ e = .badIndex index .utf8 := by
  rw [utf8_eq_link]
  exact link_eq_error_iff

/-- The index is that of a class with the name. -/
def HasClassName (pool : ConstantPool) (index : UInt16) (name : BinaryName) : Prop :=
  ∃ text, pool.Holds index (.classInfo text) ∧ pool.Holds text (.utf8 name.text)

/-- The index is that of a name and type, and both its texts are there.  That the first of them is a
name is part of what an unqualified name is. -/
def HasNameAndType (pool : ConstantPool) (index : UInt16) (member : NameAndType) : Prop :=
  ∃ name descriptor, pool.Holds index (.nameAndType name descriptor) ∧
    pool.Holds name (.utf8 member.name.text) ∧ pool.Holds descriptor (.utf8 member.descriptor)

/-- The first broken link from the index of a class on. -/
inductive ClassFault (pool : ConstantPool) (index : UInt16) : ResolveError → Prop where
  | slot (h : pool.Misses index .classInfo) : ClassFault pool index (.badIndex index .classInfo)
  | text {text : UInt16} (hslot : pool.Holds index (.classInfo text))
      (h : pool.Misses text .utf8) : ClassFault pool index (.badIndex text .utf8)
  | name {text : UInt16} {name : String} {fault : NameError}
      (hslot : pool.Holds index (.classInfo text)) (htext : pool.Holds text (.utf8 name))
      (h : BinaryName.fault? name.toList = some fault) :
      ClassFault pool index (.malformedName fault)

/-- The first broken link from the index of a name and type on. -/
inductive MemberFault (pool : ConstantPool) (index : UInt16) : ResolveError → Prop where
  | slot (h : pool.Misses index .nameAndType) :
      MemberFault pool index (.badIndex index .nameAndType)
  | text {text descriptor : UInt16} (hslot : pool.Holds index (.nameAndType text descriptor))
      (h : pool.Misses text .utf8) : MemberFault pool index (.badIndex text .utf8)
  | name {text descriptor : UInt16} {name : String} {fault : NameError}
      (hslot : pool.Holds index (.nameAndType text descriptor))
      (htext : pool.Holds text (.utf8 name))
      (h : UnqualifiedName.fault? name.toList = some fault) :
      MemberFault pool index (.malformedName fault)
  | descriptor {text descriptor : UInt16} {name : UnqualifiedName}
      (hslot : pool.Holds index (.nameAndType text descriptor))
      (htext : pool.Holds text (.utf8 name.text)) (h : pool.Misses descriptor .utf8) :
      MemberFault pool index (.badIndex descriptor .utf8)

theorem className_eq_ok_iff {name : BinaryName} :
    pool.className index = .ok name ↔ pool.HasClassName index name := by
  simp only [className_eq_link, exceptBind_eq_ok_iff, link_eq_ok_iff, utf8_eq_ok_iff,
    mapError_eq_ok_iff, BinaryName.ofString_eq_ok_iff, HasClassName]
  constructor
  · rintro ⟨text, hslot, _, htext, rfl⟩
    exact ⟨text, hslot, htext⟩
  · rintro ⟨text, hslot, htext⟩
    exact ⟨text, hslot, _, htext, rfl⟩

theorem className_eq_error_iff {e : ResolveError} :
    pool.className index = .error e ↔ ClassFault pool index e := by
  simp only [className_eq_link, exceptBind_eq_error_iff, link_eq_error_iff, link_eq_ok_iff,
    utf8_eq_error_iff, utf8_eq_ok_iff, mapError_eq_error_iff, BinaryName.ofString_eq_error_iff]
  constructor
  · rintro (⟨h, rfl⟩ | ⟨text, hslot, ⟨h, rfl⟩ | ⟨name, htext, fault, h, rfl⟩⟩)
    · exact .slot h
    · exact .text hslot h
    · exact .name hslot htext h
  · intro h
    cases h with
    | slot h => exact .inl ⟨h, rfl⟩
    | text hslot h => exact .inr ⟨_, hslot, .inl ⟨h, rfl⟩⟩
    | name hslot htext h => exact .inr ⟨_, hslot, .inr ⟨_, htext, _, h, rfl⟩⟩

theorem nameAndType_eq_ok_iff {member : NameAndType} :
    pool.nameAndType index = .ok member ↔ pool.HasNameAndType index member := by
  simp only [nameAndType_eq_link, exceptBind_eq_ok_iff, link_eq_ok_iff, utf8_eq_ok_iff,
    mapError_eq_ok_iff, UnqualifiedName.ofString_eq_ok_iff, exceptPure_eq_ok_iff, HasNameAndType]
  constructor
  · rintro ⟨⟨text, descriptor⟩, hslot, _, htext, name, rfl, _, hdescriptor, rfl⟩
    exact ⟨text, descriptor, hslot, htext, hdescriptor⟩
  · rintro ⟨text, descriptor, hslot, htext, hdescriptor⟩
    exact ⟨(text, descriptor), hslot, _, htext, _, rfl, _, hdescriptor, rfl⟩

theorem nameAndType_eq_error_iff {e : ResolveError} :
    pool.nameAndType index = .error e ↔ MemberFault pool index e := by
  simp only [nameAndType_eq_link, exceptBind_eq_error_iff, link_eq_error_iff, link_eq_ok_iff,
    utf8_eq_error_iff, utf8_eq_ok_iff, mapError_eq_error_iff, mapError_eq_ok_iff,
    UnqualifiedName.ofString_eq_error_iff, UnqualifiedName.ofString_eq_ok_iff,
    not_exceptPure_eq_error, and_false, exists_false, or_false]
  constructor
  · rintro (⟨h, rfl⟩ | ⟨⟨text, descriptor⟩, hslot, ⟨h, rfl⟩ |
      ⟨name, htext, ⟨fault, h, rfl⟩ | ⟨name, rfl, h, rfl⟩⟩⟩)
    · exact .slot h
    · exact .text hslot h
    · exact .name hslot htext h
    · exact .descriptor hslot htext h
  · intro h
    cases h with
    | slot h => exact .inl ⟨h, rfl⟩
    | @text text descriptor hslot h => exact .inr ⟨(text, descriptor), hslot, .inl ⟨h, rfl⟩⟩
    | @name text descriptor name fault hslot htext h =>
      exact .inr ⟨(text, descriptor), hslot, .inr ⟨_, htext, .inl ⟨_, h, rfl⟩⟩⟩
    | @descriptor text descriptor name hslot htext h =>
      exact .inr ⟨(text, descriptor), hslot, .inr ⟨_, htext, .inr ⟨_, rfl, h, rfl⟩⟩⟩

/-! ## References -/

/-- The first broken link of a reference behind its own slot.  The name and type is followed to its
end before the owner is looked at. -/
inductive PartFault (pool : ConstantPool) (owner member : UInt16) : ResolveError → Prop where
  | member {e : ResolveError} (h : MemberFault pool member e) : PartFault pool owner member e
  | owner {found : NameAndType} {e : ResolveError} (hmember : pool.HasNameAndType member found)
      (h : ClassFault pool owner e) : PartFault pool owner member e

theorem parts_eq_error_iff {ρ : Type} {owner member : UInt16} (f : NameAndType → BinaryName → ρ)
    {e : ResolveError} :
    (do
      let found ← pool.nameAndType member
      let name ← pool.className owner
      return f found name) = .error e ↔ PartFault pool owner member e := by
  simp only [exceptBind_eq_error_iff, nameAndType_eq_error_iff, nameAndType_eq_ok_iff,
    className_eq_error_iff, not_exceptPure_eq_error, and_false, exists_false, or_false]
  constructor
  · rintro (h | ⟨found, hmember, h⟩)
    · exact .member h
    · exact .owner hmember h
  · intro h
    cases h with
    | member h => exact .inl h
    | owner hmember h => exact .inr ⟨_, hmember, h⟩

theorem fieldRef_eq_ok_iff {field : FieldRef} :
    pool.fieldRef index = .ok field ↔
      ∃ owner member, pool.Holds index (.fieldRef owner member) ∧
        pool.HasNameAndType member ⟨field.name, field.descriptor⟩ ∧
        pool.HasClassName owner field.owner := by
  simp only [fieldRef_eq_link, exceptBind_eq_ok_iff, link_eq_ok_iff, nameAndType_eq_ok_iff,
    className_eq_ok_iff, exceptPure_eq_ok_iff]
  constructor
  · rintro ⟨⟨owner, member⟩, hslot, found, hmember, name, howner, rfl⟩
    exact ⟨owner, member, hslot, hmember, howner⟩
  · rintro ⟨owner, member, hslot, hmember, howner⟩
    exact ⟨(owner, member), hslot, _, hmember, _, howner, rfl⟩

theorem fieldRef_eq_error_iff {e : ResolveError} :
    pool.fieldRef index = .error e ↔
      pool.Misses index .fieldRef ∧ e = .badIndex index .fieldRef ∨
      ∃ owner member, pool.Holds index (.fieldRef owner member) ∧
        PartFault pool owner member e := by
  rw [fieldRef_eq_link, exceptBind_eq_error_iff, link_eq_error_iff]
  refine or_congr_right ?_
  simp only [link_eq_ok_iff, parts_eq_error_iff]
  exact Prod.exists

theorem methodRef_eq_ok_iff {method : MethodRef} :
    pool.methodRef index = .ok method ↔
      ∃ owner member, pool.Holds index (.methodRef owner member method.isInterface) ∧
        pool.HasNameAndType member ⟨method.name, method.descriptor⟩ ∧
        pool.HasClassName owner method.owner := by
  simp only [methodRef_eq_link, exceptBind_eq_ok_iff, link_eq_ok_iff, nameAndType_eq_ok_iff,
    className_eq_ok_iff, exceptPure_eq_ok_iff]
  constructor
  · rintro ⟨⟨owner, member, isInterface⟩, hslot, found, hmember, name, howner, rfl⟩
    exact ⟨owner, member, hslot, hmember, howner⟩
  · rintro ⟨owner, member, hslot, hmember, howner⟩
    exact ⟨(owner, member, _), hslot, _, hmember, _, howner, rfl⟩

theorem methodRef_eq_error_iff {e : ResolveError} :
    pool.methodRef index = .error e ↔
      pool.Misses index .methodRef ∧ e = .badIndex index .methodRef ∨
      ∃ owner member isInterface, pool.Holds index (.methodRef owner member isInterface) ∧
        PartFault pool owner member e := by
  rw [methodRef_eq_link, exceptBind_eq_error_iff, link_eq_error_iff]
  refine or_congr_right ?_
  simp only [link_eq_ok_iff, parts_eq_error_iff, Prod.exists]
  rfl

theorem dynamicCallSite_eq_ok_iff {site : DynamicCallSite} :
    pool.dynamicCallSite index = .ok site ↔
      ∃ member, pool.Holds index (.invokeDynamic site.bootstrap member) ∧
        pool.HasNameAndType member ⟨site.name, site.descriptor⟩ := by
  simp only [dynamicCallSite_eq_link, exceptBind_eq_ok_iff, link_eq_ok_iff, nameAndType_eq_ok_iff,
    exceptPure_eq_ok_iff]
  constructor
  · rintro ⟨⟨bootstrap, member⟩, hslot, found, hmember, rfl⟩
    exact ⟨member, hslot, hmember⟩
  · rintro ⟨member, hslot, hmember⟩
    exact ⟨(_, member), hslot, _, hmember, rfl⟩

theorem dynamicCallSite_eq_error_iff {e : ResolveError} :
    pool.dynamicCallSite index = .error e ↔
      pool.Misses index .invokeDynamic ∧ e = .badIndex index .invokeDynamic ∨
      ∃ bootstrap member, pool.Holds index (.invokeDynamic bootstrap member) ∧
        MemberFault pool member e := by
  rw [dynamicCallSite_eq_link, exceptBind_eq_error_iff, link_eq_error_iff]
  refine or_congr_right ?_
  simp only [link_eq_ok_iff, exceptBind_eq_error_iff, nameAndType_eq_error_iff,
    not_exceptPure_eq_error, and_false, exists_false, or_false, Prod.exists]
  rfl

end ConstantPool

/-! ## Every link asks for something -/

/-- The error asks for a constant without saying of which kind. -/
def ResolveError.AsksForAny (e : ResolveError) : Prop :=
  ∃ index role, e = .badIndex index role ∧ role.label = "constant"

theorem ConstantKind.not_asksForAny {β : Type} (kind : ConstantKind β) (index : UInt16) :
    ¬ (ResolveError.badIndex index kind.role).AsksForAny := by
  rintro ⟨_, _, heq, hlabel⟩
  cases heq
  exact kind.specific hlabel

theorem not_asksForAny_malformedName (fault : NameError) :
    ¬ (ResolveError.malformedName fault).AsksForAny := by
  rintro ⟨_, _, heq, -⟩
  cases heq

namespace ConstantPool

variable {pool : ConstantPool} {index owner member : UInt16} {e : ResolveError}

theorem ClassFault.not_asksForAny (h : ClassFault pool index e) : ¬ e.AsksForAny := by
  cases h with
  | slot h => exact ConstantKind.classInfo.not_asksForAny index
  | text hslot h => exact ConstantKind.utf8.not_asksForAny _
  | name hslot htext h => exact not_asksForAny_malformedName _

theorem MemberFault.not_asksForAny (h : MemberFault pool index e) : ¬ e.AsksForAny := by
  cases h with
  | slot h => exact ConstantKind.nameAndType.not_asksForAny index
  | text hslot h => exact ConstantKind.utf8.not_asksForAny _
  | name hslot htext h => exact not_asksForAny_malformedName _
  | descriptor hslot htext h => exact ConstantKind.utf8.not_asksForAny _

theorem PartFault.not_asksForAny (h : PartFault pool owner member e) : ¬ e.AsksForAny := by
  cases h with
  | member h => exact h.not_asksForAny
  | owner hmember h => exact h.not_asksForAny

theorem not_asksForAny_of_fieldRef (h : pool.fieldRef index = .error e) : ¬ e.AsksForAny := by
  rcases fieldRef_eq_error_iff.1 h with ⟨-, rfl⟩ | ⟨_, _, -, h⟩
  · exact ConstantKind.fieldRef.not_asksForAny index
  · exact h.not_asksForAny

theorem not_asksForAny_of_methodRef (h : pool.methodRef index = .error e) : ¬ e.AsksForAny := by
  rcases methodRef_eq_error_iff.1 h with ⟨-, rfl⟩ | ⟨_, _, _, -, h⟩
  · exact ConstantKind.methodRef.not_asksForAny index
  · exact h.not_asksForAny

theorem not_asksForAny_of_dynamicCallSite (h : pool.dynamicCallSite index = .error e) :
    ¬ e.AsksForAny := by
  rcases dynamicCallSite_eq_error_iff.1 h with ⟨-, rfl⟩ | ⟨_, _, -, h⟩
  · exact ConstantKind.invokeDynamic.not_asksForAny index
  · exact h.not_asksForAny

theorem not_asksForAny_of_follow {referent : Referent} (h : pool.follow referent index = .error e) :
    ¬ e.AsksForAny := by
  cases referent with
  | field => exact not_asksForAny_of_fieldRef (map_eq_error_iff.1 h)
  | method => exact not_asksForAny_of_methodRef (map_eq_error_iff.1 h)
  | dynamicCall => exact not_asksForAny_of_dynamicCallSite (map_eq_error_iff.1 h)
  | className => exact (className_eq_error_iff.1 (map_eq_error_iff.1 h)).not_asksForAny

/-- Code asks for what its instructions need. -/
theorem not_asksForAny_of_decode {code : List UInt8}
    (h : Instruction.decode pool code = .error (.resolve e)) : ¬ e.AsksForAny := by
  obtain ⟨_, _, _, -, -, -, hfault⟩ := Instruction.exists_fault_of_decodeFrom h
  cases hfault with
  | operands _ hfault =>
    cases hfault with
    | badIndex h _ => exact not_asksForAny_of_follow h

/-! ## Top theorem -/

/-- References resolve to what the constants at the end of their links say, and fail at the first
link that is broken. -/
theorem resolution_follows_links (pool : ConstantPool) (index : UInt16) :
    (∀ field, pool.fieldRef index = .ok field ↔
      ∃ owner member, pool.Holds index (.fieldRef owner member) ∧
        pool.HasNameAndType member ⟨field.name, field.descriptor⟩ ∧
        pool.HasClassName owner field.owner) ∧
    (∀ e, pool.fieldRef index = .error e ↔
      pool.Misses index .fieldRef ∧ e = .badIndex index .fieldRef ∨
      ∃ owner member, pool.Holds index (.fieldRef owner member) ∧
        PartFault pool owner member e) ∧
    (∀ method, pool.methodRef index = .ok method ↔
      ∃ owner member, pool.Holds index (.methodRef owner member method.isInterface) ∧
        pool.HasNameAndType member ⟨method.name, method.descriptor⟩ ∧
        pool.HasClassName owner method.owner) ∧
    (∀ e, pool.methodRef index = .error e ↔
      pool.Misses index .methodRef ∧ e = .badIndex index .methodRef ∨
      ∃ owner member isInterface, pool.Holds index (.methodRef owner member isInterface) ∧
        PartFault pool owner member e) ∧
    (∀ site, pool.dynamicCallSite index = .ok site ↔
      ∃ member, pool.Holds index (.invokeDynamic site.bootstrap member) ∧
        pool.HasNameAndType member ⟨site.name, site.descriptor⟩) ∧
    (∀ e, pool.dynamicCallSite index = .error e ↔
      pool.Misses index .invokeDynamic ∧ e = .badIndex index .invokeDynamic ∨
      ∃ bootstrap member, pool.Holds index (.invokeDynamic bootstrap member) ∧
        MemberFault pool member e) ∧
    ∀ e, ResolveError.AsksForAny e →
      pool.utf8 index ≠ .error e ∧ pool.className index ≠ .error e ∧
      pool.nameAndType index ≠ .error e ∧ pool.fieldRef index ≠ .error e ∧
      pool.methodRef index ≠ .error e ∧ pool.dynamicCallSite index ≠ .error e ∧
      ∀ code, Instruction.decode pool code ≠ .error (.resolve e) := by
  refine ⟨fun _ => fieldRef_eq_ok_iff, fun _ => fieldRef_eq_error_iff, fun _ => methodRef_eq_ok_iff,
    fun _ => methodRef_eq_error_iff, fun _ => dynamicCallSite_eq_ok_iff,
    fun _ => dynamicCallSite_eq_error_iff, ?_⟩
  intro e hany
  refine ⟨fun h => ?_, fun h => ?_, fun h => ?_, fun h => not_asksForAny_of_fieldRef h hany,
    fun h => not_asksForAny_of_methodRef h hany, fun h => not_asksForAny_of_dynamicCallSite h hany,
    fun code h => not_asksForAny_of_decode h hany⟩
  · obtain ⟨-, rfl⟩ := utf8_eq_error_iff.1 h
    exact ConstantKind.utf8.not_asksForAny index hany
  · exact (className_eq_error_iff.1 h).not_asksForAny hany
  · exact (nameAndType_eq_error_iff.1 h).not_asksForAny hany

-- A reference that is its own name and type is broken at the second link.
example : (ofConstants [.fieldRef 1 1]).fieldRef 1 = .error (.badIndex 1 .nameAndType) := rfl

end ConstantPool

end CtorLeak
