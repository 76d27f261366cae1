import CtorLeak.Constant.Resolve

/-!
# Links between constants

A constant that is used refers to others by index, and these to others again.  Each index is a link:
the slot has to hold a constant of the kind that its user needs (`Holds`).  Where it does not
(`Misses`), the link is broken, and the error names the index and the role.

`link` follows one index.  Everything that a pool resolves is a sequence of links, with a check of a
name in between here and there (`utf8_eq_link` to `dynamicCallSite_eq_link`).
-/

namespace CtorLeak

/-! ## Kinds of constants -/

/-- A kind of constants that are needed in some role, with what is in a constant of the kind. -/
structure ConstantKind (β : Type) where
  role : ConstantRole
  constant : β → Constant
  content? : Constant → Option β
  content?_eq_some_iff : ∀ c content, content? c = some content ↔ c = constant content
  /-- The role says which constants are needed, and not just that one is. -/
  specific : role.label ≠ "constant"

namespace ConstantKind

def utf8 : ConstantKind String where
  role := .utf8
  constant := .utf8
  content?
    | .utf8 text => some text
    | _ => none
  content?_eq_some_iff c text := by cases c <;> simp
  specific := by decide

def classInfo : ConstantKind UInt16 where
  role := .classInfo
  constant := .classInfo
  content?
    | .classInfo name => some name
    | _ => none
  content?_eq_some_iff c name := by cases c <;> simp
  specific := by decide

def nameAndType : ConstantKind (UInt16 × UInt16) where
  role := .nameAndType
  constant parts := .nameAndType parts.1 parts.2
  content?
    | .nameAndType name descriptor => some (name, descriptor)
    | _ => none
  content?_eq_some_iff c parts := by cases c <;> simp [Prod.ext_iff]
  specific := by decide

def fieldRef : ConstantKind (UInt16 × UInt16) where
  role := .fieldRef
  constant parts := .fieldRef parts.1 parts.2
  content?
    | .fieldRef owner member => some (owner, member)
    | _ => none
  content?_eq_some_iff c parts := by cases c <;> simp [Prod.ext_iff]
  specific := by decide

def methodRef : ConstantKind (UInt16 × UInt16 × Bool) where
  role := .methodRef
  constant parts := .methodRef parts.1 parts.2.1 parts.2.2
  content?
    | .methodRef owner member isInterface => some (owner, member, isInterface)
    | _ => none
  content?_eq_some_iff c parts := by cases c <;> simp [Prod.ext_iff]
  specific := by decide

def invokeDynamic : ConstantKind (UInt16 × UInt16) where
  role := .invokeDynamic
  constant parts := .invokeDynamic parts.1 parts.2
  content?
    | .invokeDynamic bootstrap member => some (bootstrap, member)
    | _ => none
  content?_eq_some_iff c parts := by cases c <;> simp [Prod.ext_iff]
  specific := by decide

end ConstantKind

/-! ## Slots -/

namespace ConstantPool

variable {β : Type} {pool : ConstantPool} {index : UInt16} {kind : ConstantKind β}

/-- The slot of the index exists and is used for the constant. -/
def Holds (pool : ConstantPool) (index : UInt16) (c : Constant) : Prop :=
  pool.slots[index.toNat]? = some (some c)

/-- There is no constant of the kind at the index: the slot does not exist, is not used, or holds a
constant of another kind. -/
def Misses (pool : ConstantPool) (index : UInt16) (kind : ConstantKind β) : Prop :=
  ∀ content, ¬ pool.Holds index (kind.constant content)

/-- Follows an index to a constant of a kind. -/
def link (pool : ConstantPool) (kind : ConstantKind β) (index : UInt16) : Except ResolveError β :=
  match (pool.get? index).bind kind.content? with
  | some content => .ok content
  | none => .error (.badIndex index kind.role)

theorem holds_iff {c : Constant} : pool.Holds index c ↔ pool.get? index = some c := by
  rw [Holds, get?, Option.join_eq_some_iff]

theorem bind_content?_eq_some_iff {content : β} :
    (pool.get? index).bind kind.content? = some content ↔
      pool.Holds index (kind.constant content) := by
  simp only [Option.bind_eq_some_iff, kind.content?_eq_some_iff, holds_iff, exists_eq_right]

theorem link_eq_ok_iff {content : β} :
    pool.link kind index = .ok content ↔ pool.Holds index (kind.constant content) := by
  rw [← bind_content?_eq_some_iff, link]
  cases (pool.get? index).bind kind.content? <;> simp

theorem link_eq_error_iff {e : ResolveError} :
    pool.link kind index = .error e ↔ pool.Misses index kind ∧ e = .badIndex index kind.role := by
  unfold link Misses
  simp only [← bind_content?_eq_some_iff]
  cases (pool.get? index).bind kind.content? with
  | none => simp [eq_comm]
  | some content =>
    constructor
    · intro h
      cases h
    · rintro ⟨hmisses, -⟩
      exact absurd rfl (hmisses content)

/-! ## Resolving is following links -/

theorem utf8_eq_link (pool : ConstantPool) (index : UInt16) :
    pool.utf8 index = pool.link .utf8 index := by
  unfold utf8 link
  cases pool.get? index with
  | none => rfl
  | some c => cases c <;> rfl

theorem className_eq_link (pool : ConstantPool) (index : UInt16) :
    pool.className index = (do
      let text ← pool.utf8 (← pool.link .classInfo index)
      (BinaryName.ofString text).mapError .malformedName) := by
  unfold className link
  cases pool.get? index with
  | none => rfl
  | some c => cases c <;> rfl

theorem nameAndType_eq_link (pool : ConstantPool) (index : UInt16) :
    pool.nameAndType index = (do
      let parts ← pool.link .nameAndType index
      let text ← pool.utf8 parts.1
      let name ← (UnqualifiedName.ofString text).mapError .malformedName
      let descriptor ← pool.utf8 parts.2
      return ⟨name, descriptor⟩) := by
  unfold nameAndType link
  cases pool.get? index with
  | none => rfl
  | some c => cases c <;> rfl

theorem fieldRef_eq_link (pool : ConstantPool) (index : UInt16) :
    pool.fieldRef index = (do
      let parts ← pool.link .fieldRef index
      let member ← pool.nameAndType parts.2
      let owner ← pool.className parts.1
      return ⟨owner, member.name, member.descriptor⟩) := by
  unfold fieldRef link
  cases pool.get? index with
  | none => rfl
  | some c => cases c <;> rfl

theorem methodRef_eq_link (pool : ConstantPool) (index : UInt16) :
    pool.methodRef index = (do
      let parts ← pool.link .methodRef index
      let member ← pool.nameAndType parts.2.1
      let owner ← pool.className parts.1
      return ⟨owner, member.name, member.descriptor, parts.2.2⟩) := by
  unfold methodRef link
  cases pool.get? index with
  | none => rfl
  | some c => cases c <;> rfl

theorem dynamicCallSite_eq_link (pool : ConstantPool) (index : UInt16) :
    pool.dynamicCallSite index = (do
      let parts ← pool.link .invokeDynamic index
      let member ← pool.nameAndType parts.2
      return ⟨parts.1, member.name, member.descriptor⟩) := by
  unfold dynamicCallSite link
  cases pool.get? index with
  | none => rfl
  | some c => cases c <;> rfl

end ConstantPool

end CtorLeak
